import TeamLegality.RuleTable.Resolution

/-!
# Custom rules — formats changed by whoever asks for them

A name may add custom rules to a format after `@@@`, separated by commas.  Those already in effect
are dropped; if nothing is left, there is no point in the request.  The others make a derived
format, which has to resolve.
-/

namespace TeamLegality

namespace FormatRegistry

/-- Whether a character of a custom rule is dropped. -/
def isNoise (c : Char) : Bool := c = '\r' || c = '\n' || c = '|'

/-- The custom rules of a text, cleaned, without the empty ones. -/
def customRulesOf (text : List Char) : List String :=
  let rules := (Text.splitAt ',' text).map fun rule => Text.trim (rule.filter (!isNoise ·))
  (rules.filter (!·.isEmpty)).map String.ofList

/-- The base name and the custom rules of a name; none if the mark is missing. -/
def splitRequest (name : String) : String × Option (List String) :=
  match Text.cutFirst? Format.customRulesMark.toList name.toList with
  | none => (name, none)
  | some (base, after) => (String.ofList base, some (customRulesOf after))

/-- Whether a custom rule is in effect in a table: combinations never count as such. -/
def isInEffect (r : FormatRegistry) (format : Format) (t : RuleTable) (rule : String) :
    Except Failure Bool :=
  (RuleSpec.parse r (some format) rule).map fun spec => spec.key?.any t.has

/-- Custom rules sorted into those kept and those dropped, up to the first one that cannot be
parsed. -/
def sortRules (r : FormatRegistry) (format : Format) (t : RuleTable) :
    List String → (List String × List String) × Option Failure
  | [] => (([], []), none)
  | rule :: rest =>
    match r.isInEffect format t rule with
    | .error failure => (([], []), some failure)
    | .ok inEffect =>
      let ((kept, dropped), failure) := sortRules r format t rest
      if inEffect then ((kept, rule :: dropped), failure)
      else ((rule :: kept, dropped), failure)

/-- The key of the format that a name asks for, checked: an existing format, and custom rules that
change it and resolve. -/
def validateFormat (r : FormatRegistry) (name : String) : SessionM String := do
  let (base, rules) := splitRequest name
  let format := r.getFormat base
  if !format.isKnown then throw (.of (.unknownFormat base))
  match rules with
  | none => return format.id
  | some rules =>
    let t ← r.resolve format
    let ((kept, dropped), failure) := r.sortRules format t rules
    modify (·.note (dropped.map fun rule => .alreadyInEffect rule format.id))
    if let some failure := failure then throw failure
    if kept.isEmpty then throw (.of .duplicateCustomRules)
    let derived := format.withCustomRules kept
    let _ ← r.resolve derived
    return derived.key

/-- The format that a name asks for, its custom rules having been checked. -/
def requestFormat (r : FormatRegistry) (name : String) : SessionM Format := do
  let marked := (Text.cutFirst? Format.customRulesMark.toList name.toList).isSome
  if marked && r.contains name then return r.getFormat (← r.validateFormat name)
  else return r.getFormat name

end FormatRegistry

end TeamLegality
