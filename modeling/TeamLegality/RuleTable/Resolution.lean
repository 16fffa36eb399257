import TeamLegality.Rule.Spec
import TeamLegality.Session

/-!
# Resolution — the rule table of a format with all it includes

The working rules of a format are worked off in order.  A ban, unban or suppression is recorded; a
reference to another format resolves that format first and then inherits from its table, unless the
reference is suppressed.  Tables are remembered by format key, also when the resolution that needed
them fails.

A reference is followed at most `maxRuleDepth` levels below the format asked for.  The recursion is
on the levels that are left, so that it ends on every registry, cyclic or not.
-/

namespace TeamLegality

namespace RuleTable

/-! ### Inheriting -/

/-- Whether an inherited key stays out of a table: the table suppresses it, has it already, or
declares the very rule that the key would suppress. -/
def refuses (t : RuleTable) (key : RuleKey) : Bool :=
  t.has (.suppression key) || t.has key
    || match key with
      | .suppression k => t.get? k == some ""
      | _ => false

/-- Inherits one key from a format of that name. -/
def inheritKey (origin : String) (t : RuleTable) (entry : RuleKey × String) : RuleTable :=
  if t.refuses entry.1 then t
  else t.set entry.1 (if entry.2 = "" then origin else entry.2)

/-- Inherits the keys of a table, in order. -/
def inheritKeys (t sub : RuleTable) (origin : String) : RuleTable :=
  sub.rules.entries.foldl (inheritKey origin) t

/-- Inherits the combinations of a table, in order. -/
def inheritCombinations (t sub : RuleTable) (origin : String) : RuleTable :=
  let t := sub.complexBans.foldl (fun t c => t.addComplexBan (c.inheritedFrom origin)) t
  sub.teamBans.foldl (fun t c => t.addTeamBan (c.inheritedFrom origin)) t

/-- Inherits the legality hook of a table, which must not conflict with one that is there. -/
def inheritHook (t sub : RuleTable) (format : String) : Except ConfigurationCause RuleTable :=
  match t.hook, sub.hook with
  | _, none => .ok t
  | none, some h => .ok { t with hook := some h }
  | some current, some h =>
    if current.name = h.name then .ok t
    else .error (.conflictingHooks format current.source h.source)

/-- What the table of `format` becomes by including the table of `origin`. -/
def inheritFrom (t sub : RuleTable) (origin format : String) :
    Except ConfigurationCause RuleTable :=
  ((t.inheritKeys sub origin).inheritCombinations sub origin).inheritHook sub format

end RuleTable

namespace FormatRegistry

/-! ### Resolving -/

/-- How a reference is followed: from the declaring format, by a rule text, to a sub-format, given
the keys of the formats that are being resolved. -/
abbrev Follow := Format → String → Format → List String → SessionM RuleTable

/-- The table with what a rule text of `format` says about a sub-format. -/
def applyReference (r : FormatRegistry) (follow : Follow) (format : Format) (stack : List String)
    (rule id : String) (t : RuleTable) : SessionM RuleTable := do
  let sub := r.getFormat id
  let suppression := RuleKey.suppression (.rule sub.id)
  if t.get? suppression = some "" then return t
  let t := (t.erase suppression).set (.rule sub.id) ""
  if !sub.isKnown then return t
  if stack.contains sub.key then throw (.of (.cyclicReference (stack ++ [sub.key])))
  let table ← follow format rule sub stack
  match t.inheritFrom table sub.name format.name with
  | .ok t => return t
  | .error cause => throw (.of cause)

/-- The table with one more working rule of `format`. -/
def applyRule (r : FormatRegistry) (follow : Follow) (format : Format) (stack : List String)
    (t : RuleTable) (rule : String) : SessionM RuleTable := do
  match RuleSpec.parse r (some format) rule with
  | .error failure => throw failure
  | .ok (.teamBan c) => return t.addTeamBan c
  | .ok (.complexBan c) => return t.addComplexBan c
  | .ok (.ban target) => return t.set (.ban target) ""
  | .ok (.unban target) => return (t.erase (.ban target)).set (.unban target) ""
  | .ok (.suppress id) => return t.set (.suppression (.rule id)) ""
  | .ok (.rule id) => r.applyReference follow format stack rule id t

/-- The table of a format, from its working rules. -/
def buildTable (r : FormatRegistry) (follow : Follow) (format : Format) (stack : List String) :
    SessionM RuleTable :=
  format.workingRules.foldlM (r.applyRule follow format stack)
    { RuleTable.empty with hook := format.declaredHook? }

/-- Runs a computation whose failures name `format` unless they name one already. -/
def naming (format : Format) (x : SessionM RuleTable) : SessionM RuleTable :=
  tryCatchThe Failure x fun failure => throw (failure.inFormat format.name)

/-- The remembered table of a format, or else its table built and remembered. -/
def resolveBy (r : FormatRegistry) (follow : Follow) (format : Format) (stack : List String) :
    SessionM RuleTable := do
  match (← get).cache.get? format.key with
  | some t => return t
  | none =>
    let t ← naming format (r.buildTable follow format (stack ++ [format.key]))
    modify (·.remember format.key t)
    return t

/-- No reference is followed any more. -/
def refuse : Follow := fun format rule _ _ =>
  throw (.of (.excessiveDepth format.name rule format.ruleset))

/-- The table of a format, following references through at most `levels` levels. -/
def resolveWithin (r : FormatRegistry) : (levels : Nat) → Format → List String → SessionM RuleTable
  | 0 => r.resolveBy refuse
  | levels + 1 => r.resolveBy fun _ _ sub stack => resolveWithin r levels sub stack

/-- The levels that are left at a depth. -/
def levelsAt (r : FormatRegistry) (depth : Int) : Nat := (r.config.maxRuleDepth + 1 - depth).toNat

/-- The rule table of a format, as if it had been reached at `depth`. -/
def resolveAt (r : FormatRegistry) (depth : Int) (format : Format) : SessionM RuleTable :=
  r.resolveWithin (r.levelsAt depth) format []

/-- The rule table of a format. -/
def resolve (r : FormatRegistry) (format : Format) : SessionM RuleTable := r.resolveAt 0 format

end FormatRegistry

end TeamLegality
