import TeamLegality.Rule.Target

/-!
# Rule keys — the entries of a rule table

A rule table says of each key where it comes from.  A key is a rule or sub-format in effect, a ban,
an unban that shields from inherited bans, or the suppression of another key.  In texts the four
are told apart by the first character.
-/

namespace TeamLegality

/-- A key of a rule table. -/
inductive RuleKey where
  | rule (id : String)
  | ban (target : Target)
  | unban (target : Target)
  | suppression (key : RuleKey)
deriving DecidableEq, Repr

namespace RuleKey

/-- The text of a key. -/
def text : RuleKey → String
  | rule id => id
  | ban target => "-" ++ target.text
  | unban target => "+" ++ target.text
  | suppression key => "!" ++ key.text

/-- The key that characters stand for. -/
def ofChars : List Char → RuleKey
  | '-' :: rest => ban (Target.ofText (String.ofList rest))
  | '+' :: rest => unban (Target.ofText (String.ofList rest))
  | '!' :: rest => suppression (ofChars rest)
  | cs => rule (String.ofList cs)

/-- The key that a text stands for. -/
def ofText (s : String) : RuleKey := ofChars s.toList

theorem text_ofChars (cs : List Char) : (ofChars cs).text = String.ofList cs := by
  induction cs using ofChars.induct with
  | case1 rest =>
    rw [← String.toList_inj]
    simp [ofChars, text, Target.text_ofText, String.toList_append]
  | case2 rest =>
    rw [← String.toList_inj]
    simp [ofChars, text, Target.text_ofText, String.toList_append]
  | case3 rest ih =>
    rw [← String.toList_inj]
    simp [ofChars, text, ih, String.toList_append]
  | case4 cs h1 h2 h3 => simp [ofChars, text]

/-- Reading a text loses nothing. -/
theorem text_ofText (s : String) : (ofText s).text = s := by
  simp [ofText, text_ofChars]

end RuleKey

end TeamLegality
