import TeamLegality.Assoc
import TeamLegality.Rule.Combination
import TeamLegality.Rule.Key

/-!
# Rule tables — the rules of a format, flattened

A rule table maps rule keys to the format they were inherited from; the empty source marks what the
format declares itself.  Beside the keys it holds the combination bans, for single sets and for
whole teams, and the legality hook.
-/

namespace TeamLegality

/-- A named legality check and the format that declared it. -/
structure LegalityHook where
  name : String
  source : String
deriving DecidableEq, Repr

/-- The rules in effect for a format. -/
structure RuleTable where
  rules : Assoc RuleKey String := .empty
  complexBans : List Combination := []
  teamBans : List Combination := []
  hook : Option LegalityHook := none
deriving DecidableEq

namespace RuleTable

/-- The table without rules. -/
def empty : RuleTable := {}

instance : Inhabited RuleTable := ⟨empty⟩

/-- Whether a key is in the table. -/
def has (t : RuleTable) (key : RuleKey) : Bool := t.rules.contains key

/-- The source of a key. -/
def get? (t : RuleTable) (key : RuleKey) : Option String := t.rules.get? key

/-- Removes a key. -/
def erase (t : RuleTable) (key : RuleKey) : RuleTable := { t with rules := t.rules.erase key }

/-- Records a key; a suppression first removes the key that it suppresses. -/
def set (t : RuleTable) (key : RuleKey) (source : String) : RuleTable :=
  match key with
  | .suppression k => { t with rules := (t.rules.erase k).insert key source }
  | _ => { t with rules := t.rules.insert key source }

/-- Why a key bans: `banned`, with the source when it is inherited; empty when it is absent. -/
def reason (t : RuleTable) (key : RuleKey) : String :=
  match t.get? key with
  | none => ""
  | some source => if source = "" then "banned" else "banned by " ++ source

/-- Why a target is banned, empty when it is not. -/
def banReason (t : RuleTable) (target : Target) : String := t.reason (.ban target)

/-- Adds a combination ban for single sets. -/
def addComplexBan (t : RuleTable) (c : Combination) : RuleTable :=
  { t with complexBans := c.merge t.complexBans }

/-- Adds a combination ban for whole teams. -/
def addTeamBan (t : RuleTable) (c : Combination) : RuleTable :=
  { t with teamBans := c.merge t.teamBans }

/-- The number of keys. -/
def size (t : RuleTable) : Nat := t.rules.size

end RuleTable

end TeamLegality
