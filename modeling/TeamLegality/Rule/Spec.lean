import TeamLegality.Format.Registry
import TeamLegality.Rule.Combination
import TeamLegality.Rule.Key

/-!
# Rule texts — what the lines of a rule set say

A rule text names another format or rule, possibly after a `!` that suppresses it, or it bans (`-`)
or unbans (`+`) targets.  A ban of several targets joins them by `+` when they count on one set and
by `++` when they count across the team, and may end in a limit after `>`.
-/

namespace TeamLegality

/-- What a rule text says. -/
inductive RuleSpec where
  | rule (id : String)
  | suppress (id : String)
  | ban (target : Target)
  | unban (target : Target)
  | complexBan (c : Combination)
  | teamBan (c : Combination)
deriving DecidableEq, Repr

namespace RuleSpec

/-- The key that a rule text sets in a rule table, unless it is a combination. -/
def key? : RuleSpec → Option RuleKey
  | rule id => some (.rule id)
  | suppress id => some (.suppression (.rule id))
  | ban target => some (.ban target)
  | unban target => some (.unban target)
  | complexBan _ | teamBan _ => none

end RuleSpec

namespace BanTarget

/-- Words that are targets of their own. -/
def plainWords : List String := ["unreleased", "illegal"]

/-- The tags that can be banned. -/
def tags : List String :=
  ["uber", "ou", "uubl", "uu", "rubl", "ru", "nubl", "nu", "publ", "pu", "zu", "nfe", "lcuber",
   "lc", "cap", "caplc", "capnfe", "duber", "dou", "dbl", "duu", "mega"]

/-- The categories that a ban can ask for, in the order in which they are searched. -/
def categories : List Category := [.pokemon, .move, .ability, .item, .tag]

/-- The category that a text asks for by the word in front of its first colon. -/
def askedCategory? (s : String) : Option Category :=
  let folded := (Text.foldCase (Text.strip s)).toList
  categories.find? fun c => (c.word.toList ++ [':']).isPrefixOf folded

/-- The ending that singles out the base forme of a species. -/
def baseEnding : List Char := "base".toList

/-- The species key of an identifier: all formes together when there are other formes. -/
def species? (dex : Dex) (id : String) : Option Target :=
  match dex.species.get? id with
  | some s => some (.entry (if s.otherFormes.isEmpty then .pokemon else .baseSpecies) id)
  | none =>
    let cs := id.toList
    if baseEnding.isSuffixOf cs then
      let base := String.ofList (cs.take (cs.length - baseEnding.length))
      if dex.species.contains base then some (.entry .pokemon base) else none
    else none

/-- What an identifier names in a category; tags are not subject to aliases. -/
def inCategory? (dex : Dex) (id : String) (category : Category) : Option Target :=
  let resolved := dex.resolveAlias id
  match category with
  | .pokemon => species? dex resolved
  | .baseSpecies => none
  | .move => if dex.moves.contains resolved then some (.entry .move resolved) else none
  | .ability => if dex.abilities.contains resolved then some (.entry .ability resolved) else none
  | .item => if dex.items.contains resolved then some (.entry .item resolved) else none
  | .tag => if tags.contains id then some (.entry .tag id) else none

/-- The target that a text names: exactly one thing has to match. -/
def resolve (dex : Dex) (s : String) : Except ConfigurationCause Target :=
  let id := Text.toId s
  if plainWords.contains id then .ok (.plain id)
  else
    let found := match askedCategory? s with
      | some c =>
        (inCategory? dex (String.ofList (id.toList.drop c.word.length)) c).toList
      | none => categories.filterMap (inCategory? dex id)
    match found with
    | [] => .error (.noTarget s)
    | [target] => .ok target
    | several => .error (.ambiguousTarget s several)

end BanTarget

namespace RuleSpec

/-- Whether a rule bans or unbans. -/
inductive Sign where
  | ban | unban
deriving DecidableEq, Repr

/-- The text in front of a limit and the limit: a limit is a run of digits after the last `>`. -/
def splitLimit (sign : Sign) (body : List Char) : Except Failure (List Char × BanLimit) :=
  let unlimited : BanLimit := match sign with
    | .ban => .forbidden 0
    | .unban => .allowed
  match Text.cutLast? ['>'] body with
  | none => .ok (body, unlimited)
  | some (before, after) =>
    let digits := Text.trim after
    if digits ≠ [] ∧ digits.all Text.isDigit then
      match sign with
      | .unban => .ok (before, .allowed)
      | .ban =>
        match Text.integer? digits with
        | some n => .ok (before, .forbidden n)
        | none => .error .unreadableNumber
    else .ok (body, unlimited)

/-- Whether a limit keeps a combination apart from a plain ban of one target. -/
def isBounded : BanLimit → Bool
  | .allowed => true
  | .forbidden n => 0 < n

/-- A combination, from the text after its sign. -/
def parseCombination (dex : Dex) (rule : String) (sign : Sign) (body : List Char) :
    Except Failure RuleSpec := do
  let (body, limit) ← splitLimit sign body
  let double := (Text.cutFirst? ['+', '+'] body).isSome
  let parts := if double then Text.splitAtTwo '+' body else Text.splitAt '+' body
  let names := parts.map fun part => String.ofList (Text.trim part)
  let acrossTeam := double || (names.length == 1 && isBounded limit)
  let text := String.intercalate (if acrossTeam then " ++ " else " + ") names
  let targets ← names.mapM fun name => (BanTarget.resolve dex name).mapError .of
  let c : Combination := { rule := text, source := "", limit, targets }
  if acrossTeam then pure (.teamBan c)
  else if 1 < targets.length ∨ isBounded limit then pure (.complexBan c)
  else .error (.of (.confusingRule rule))

/-- A ban or an unban. -/
def parseBan (dex : Dex) (declaring : Option Format) (rule : String) (sign : Sign)
    (body : List Char) : Except Failure RuleSpec :=
  match declaring.filter Format.generatesTeams with
  | some f => .error (.configuration (.generatedTeam f.name) (some f.name))
  | none =>
    if '>' ∈ body ∨ '+' ∈ body then parseCombination dex rule sign body
    else
      match BanTarget.resolve dex (String.ofList body), sign with
      | .ok target, .ban => .ok (.ban target)
      | .ok target, .unban => .ok (.unban target)
      | .error cause, _ => .error (.of cause)

/-- The name of a rule or format, which has to be registered under its identifier. -/
def parseReference (registry : FormatRegistry) (rule : String) : Except Failure RuleSpec :=
  let id := Text.toId rule
  if registry.hasFormat id then
    .ok (if rule.toList.head? = some '!' then .suppress id else .rule id)
  else .error (.of (.unknownRule rule))

/-- The dex in which a format's targets are looked up. -/
def dexOf (registry : FormatRegistry) (declaring : Option Format) : Dex :=
  match declaring.filter Format.isKnown with
  | some f => registry.dexFor f
  | none => registry.defaultDex

/-- What a rule text says when that format declares it. -/
def parse (registry : FormatRegistry) (declaring : Option Format) (text : String) :
    Except Failure RuleSpec :=
  let rule := Text.strip text
  let dex := dexOf registry declaring
  match rule.toList with
  | '-' :: body => parseBan dex declaring rule .ban body
  | '+' :: body => parseBan dex declaring rule .unban body
  | _ => parseReference registry rule

end RuleSpec

end TeamLegality
