import TeamLegality.Decoding.Issue
import TeamLegality.Rule.Target

/-!
# Configuration errors — why formats and rules cannot be used

Broken formats and rules are fatal to whatever asked for them.  Each cause carries what its wording
needs; the wording and the code are each given in one place.  A failure also names the format that
was being resolved when it arose, the innermost one if several were.
-/

namespace TeamLegality

/-- Why a format list, a format or a rule is broken. -/
inductive ConfigurationCause where
  | noDefaultDex (mod : String)
  | malformedRecord (number : Nat) (issues : List Issue)
  | namelessFormat (number : Nat) (name : String)
  | duplicateFormat (number : Nat) (id : String)
  | unknownMod (format mod : String)
  | unknownFormat (name : String)
  | confusingRule (rule : String)
  | unknownRule (rule : String)
  | ambiguousTarget (target : String) (found : List Target)
  | noTarget (target : String)
  | generatedTeam (format : String)
  | excessiveDepth (format rule : String) (ruleset : List String)
  | cyclicReference (chain : List String)
  | conflictingHooks (format current inherited : String)
  | unknownHook (hook : String)
  | duplicateCustomRules
deriving DecidableEq, Repr

namespace ConfigurationCause

/-- The wording of a cause. -/
def message : ConfigurationCause → String
  | noDefaultDex mod => s!"No dex loaded for the default mod '{mod}'"
  | malformedRecord number _ => s!"Format #{number} is malformed"
  | namelessFormat number name =>
    s!"Format #{number} must have a name with alphanumeric characters, not '{name}'"
  | duplicateFormat number id => s!"Format #{number} has a duplicate ID: '{id}'"
  | unknownMod format mod => s!"Format \"{format}\" requires nonexistent mod: '{mod}'"
  | unknownFormat name => s!"Unrecognized format \"{name}\""
  | confusingRule rule => s!"Confusing rule {rule}"
  | unknownRule rule => s!"Unrecognized rule \"{rule}\""
  | ambiguousTarget target _ =>
    s!"More than one thing matches \"{target}\"; please use something like "
      ++ "\"-item:metronome\" to disambiguate"
  | noTarget target => s!"Nothing matches \"{target}\""
  | generatedTeam format => s!"We don't currently support bans in generated teams ({format})"
  | excessiveDepth format rule ruleset =>
    s!"Excessive ruleTable recursion in {format}: {rule} of " ++ Text.quoteList ruleset
  | cyclicReference chain => "Cyclic format reference: " ++ String.intercalate " -> " chain
  | conflictingHooks format current inherited =>
    s!"\"{format}\" has conflicting move validation rules from \"{current}\" and "
      ++ s!"\"{inherited}\""
  | unknownHook hook => s!"Legality check '{hook}' is not registered"
  | duplicateCustomRules => "The format already has your custom rules"

/-- The code of a cause. -/
def code : ConfigurationCause → String
  | noDefaultDex _ | malformedRecord _ _ | namelessFormat _ _ | duplicateFormat _ _
  | unknownMod _ _ => "ERR_FORMAT_CONFIG"
  | unknownFormat _ => "ERR_UNKNOWN_FORMAT"
  | confusingRule _ => "ERR_RULE_SYNTAX"
  | unknownRule _ => "ERR_UNKNOWN_RULE"
  | ambiguousTarget _ _ => "ERR_AMBIGUOUS_BAN"
  | noTarget _ => "ERR_NO_BAN_MATCH"
  | generatedTeam _ => "ERR_GENERATED_TEAM_BAN"
  | excessiveDepth _ _ _ => "ERR_EXCESSIVE_RECURSION"
  | cyclicReference _ => "ERR_CYCLIC_FORMAT"
  | conflictingHooks _ _ _ => "ERR_CONFLICTING_HOOK"
  | unknownHook _ => "ERR_UNKNOWN_HOOK"
  | duplicateCustomRules => "ERR_DUPLICATE_CUSTOM_RULES"

/-- Whether the cause lies in the wording of a rule. -/
def isRuleSyntax : ConfigurationCause → Bool
  | confusingRule _ | unknownRule _ | ambiguousTarget _ _ | noTarget _ | generatedTeam _ => true
  | _ => false

end ConfigurationCause

/-- Why a gender ratio gives no threshold. -/
inductive RatioError where
  | notANumber
  | infinite
deriving DecidableEq, Repr

/-- What ends resolution or validation without an answer. -/
inductive Failure where
  | configuration (cause : ConfigurationCause) (format : Option String)
  | unreadableNumber
  | ratio (cause : RatioError)
deriving DecidableEq, Repr

namespace Failure

/-- A configuration failure that names no format yet. -/
def of (cause : ConfigurationCause) : Failure := .configuration cause none

/-- The failure as it leaves the resolution of a format: a name that is already known stays. -/
def inFormat (name : String) : Failure → Failure
  | configuration cause none => configuration cause (some name)
  | failure => failure

end Failure

end TeamLegality
