import TeamLegality.Dex.Loading
import TeamLegality.Json.Display
import TeamLegality.RuleTable.Basic
import TeamLegality.Text.Blank

/-!
# Formats — records of a format list and the formats they describe

A record is what a format list says; a format is what the rest of the library works with.  A format
with custom rules is derived from one without, and its key names the rules, so that it is never
taken for its base.  What names a format that does not exist need not be a text: such a format is
shown like any other, but has no text.
-/

namespace TeamLegality

/-- What kind of thing a format is. -/
inductive EffectType where
  | format | ruleset | rule | validatorRule
deriving DecidableEq, Repr

namespace EffectType

/-- Every kind. -/
def all : List EffectType := [format, ruleset, rule, validatorRule]

/-- The word of a kind. -/
def word : EffectType → String
  | format => "Format"
  | ruleset => "Ruleset"
  | rule => "Rule"
  | validatorRule => "ValidatorRule"

end EffectType

/-- An entry of a format list. -/
structure FormatRecord where
  name : String := ""
  heading : String := ""
  mod : Option String := none
  effectType : EffectType := .format
  desc : String := ""
  ruleset : List String := []
  banlist : List String := []
  unbanlist : List String := []
  team : Option String := none
  gameType : String := "singles"
  maxLevel : Int := 100
  defaultLevel : Option Int := none
  learnsetCheck : Option String := none
deriving DecidableEq, Repr

namespace FormatRecord

/-- Whether a record is only the heading of a part of the list. -/
def isHeading (r : FormatRecord) : Bool := r.name = "" && r.heading ≠ ""

/-- The mod of a record, an empty one counting as none. -/
def modOr (r : FormatRecord) (default : String) : String :=
  match r.mod with
  | some mod => if mod = "" then default else mod
  | none => default

end FormatRecord

/-- A format, or the description of one that does not exist. -/
structure Format where
  name : String
  id : String
  mod : String := "gen7"
  gen : Int := 7
  tier : String := ""
  effectType : EffectType := .format
  desc : String := ""
  ruleset : List String := []
  banlist : List String := []
  unbanlist : List String := []
  customRules : List String := []
  team : Option String := none
  maxLevel : Int := 100
  defaultLevel : Int := 100
  learnsetCheck : Option String := none
  isKnown : Bool := true
  isNamedByText : Bool := true
deriving DecidableEq, Repr

namespace Format

/-- The text between the name of a format and its custom rules. -/
def customRulesMark : String := "@@@"

/-- The part of a name after a bracketed generation, without outer blanks: it has to be a single
line, though a line break may follow it. -/
def tierAfterGen? (name : String) : Option String :=
  let cs := name.toList
  let head := "[Gen ".toList
  if head.isPrefixOf cs then
    let rest := cs.drop head.length
    match rest.takeWhile Text.isDecimal, rest.dropWhile Text.isDecimal with
    | _ :: _, ']' :: after =>
      let body := if after.getLast? = some '\n' then after.dropLast else after
      let line := (body.reverse.takeWhile (· ≠ '\n')).reverse
      let above := body.take (body.length - line.length)
      if line ≠ [] ∧ above.all Text.isBlank then some (String.ofList (Text.trim line)) else none
    | _, _ => none
  else none

/-- The tier that a record stands for. -/
def tierOf (r : FormatRecord) : String :=
  match tierAfterGen? r.name with
  | some tier => tier
  | none => if r.effectType = .format then r.name else ""

/-- The format that a record describes. -/
def ofRecord (r : FormatRecord) (defaultMod : String) : Except ModError Format := do
  let mod := r.modOr defaultMod
  let gen ← generationOf (some mod)
  pure
    { name := r.name, id := Text.toId r.name, mod, gen, tier := tierOf r,
      effectType := r.effectType, desc := r.desc, ruleset := r.ruleset, banlist := r.banlist,
      unbanlist := r.unbanlist, team := r.team, maxLevel := r.maxLevel,
      defaultLevel := r.defaultLevel.getD r.maxLevel, learnsetCheck := r.learnsetCheck }

/-- The description of a format that does not exist. -/
def missing (name : Json) : Format :=
  { name := name.display, id := name.toId, isKnown := false, isNamedByText := name.str?.isSome }

/-- The text of a format: its name, if that is a text. -/
def text? (f : Format) : Option String := if f.isNamedByText then some f.name else none

/-- What a format is remembered by: its identifier, followed by its custom rules if it has any. -/
def key (f : Format) : String :=
  if f.customRules.isEmpty then f.id
  else f.id ++ customRulesMark ++ String.intercalate "," f.customRules

/-- The same format with other custom rules. -/
def withCustomRules (f : Format) (rules : List String) : Format := { f with customRules := rules }

/-- Whether teams are generated, so that there is nothing to ban. -/
def generatesTeams (f : Format) : Bool := f.team.any (· ≠ "")

/-- The legality check that a format declares. -/
def declaredHook? (f : Format) : Option LegalityHook :=
  match f.learnsetCheck with
  | some hook => if hook = "" then none else some ⟨hook, f.name⟩
  | none => none

/-- The rules of a format in the order in which they take effect: suppressions among the custom
rules come first, the last of them foremost. -/
def workingRules (f : Format) : List String :=
  let isSuppression (rule : String) : Bool := rule.toList.head? == some '!'
  (f.customRules.filter isSuppression).reverse
    ++ f.ruleset
    ++ f.banlist.map ("-" ++ ·)
    ++ f.unbanlist.map ("+" ++ ·)
    ++ f.customRules.filter (!isSuppression ·)

end Format

end TeamLegality
