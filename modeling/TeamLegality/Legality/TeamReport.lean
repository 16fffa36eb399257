import TeamLegality.Legality.SetReport

/-!
# Team reports — a team checked against a format

Every set of a team is checked on its own.  On top of that come the limits on the team: its size,
nicknames and species that must differ, formes and moves of which there may be one, abilities that
must not meet, and the combinations counted across the team.
-/

namespace TeamLegality

/-- A set and the report on it. -/
structure CheckedSet where
  set : PokemonSet
  report : SetReport

namespace CheckedSet

/-- The nickname of a set whose species was found: a name other than that of the base species. -/
def nickname? (s : CheckedSet) : Option String :=
  s.report.species.bind fun species =>
    if s.set.name ≠ "" ∧ s.set.name ≠ species.baseSpecies then some s.set.name else none

/-- The number of the species, if it was found. -/
def number? (s : CheckedSet) : Option Int := s.report.species.map (·.num)

/-- The group of formes that the species is in, if it was found. -/
def formeGroup? (s : CheckedSet) : Option String :=
  s.report.species.bind fun species => Clause.formeGroup? species.name

/-- The ability that a set names, if its species was found. -/
def abilityId? (s : CheckedSet) : Option String :=
  s.report.species.map fun _ => Text.toId s.set.ability

/-- Whether a set has a feature. -/
def has (s : CheckedSet) (feature : Target) : Bool := s.report.features.contains feature

section

variable {s : CheckedSet}

theorem nickname?_eq_some_iff {name : String} : s.nickname? = some name ↔
    ∃ species, s.report.species = some species ∧ s.set.name ≠ ""
      ∧ s.set.name ≠ species.baseSpecies ∧ s.set.name = name := by
  simp [nickname?, Option.bind_eq_some_iff, and_assoc]

theorem number?_eq_some_iff {num : Int} : s.number? = some num ↔
    ∃ species, s.report.species = some species ∧ species.num = num := by
  simp [number?]

theorem formeGroup?_eq_some_iff {group : String} : s.formeGroup? = some group ↔
    ∃ species, s.report.species = some species ∧ Clause.formeGroup? species.name = some group := by
  simp [formeGroup?, Option.bind_eq_some_iff]

theorem abilityId?_eq_some_iff {id : String} : s.abilityId? = some id ↔
    s.report.species ≠ none ∧ Text.toId s.set.ability = id := by
  unfold abilityId?
  cases s.report.species <;> simp

end

end CheckedSet

namespace TeamCheck

/-- The limit on the size of a team in words. -/
def countWord (n : Int) : String :=
  match n with
  | 1 => "one"
  | 2 => "two"
  | 3 => "three"
  | 4 => "four"
  | 5 => "five"
  | 6 => "six"
  | n => toString n

/-- Problems of the size of a team. -/
def sizeProblems (config : Config) (size : Nat) : List String :=
  problemIf (size == 0) "Your team has no Pokémon."
    ++ problemIf (config.maxTeamSize < size)
      s!"Your team has more than {countWord config.maxTeamSize} Pokémon."

/-- Problems of the nickname of a set after those before it. -/
def nicknameProblems (t : RuleTable) (before : List CheckedSet) (s : CheckedSet) : List String :=
  match s.nickname? with
  | some nickname =>
    problemIf (t.has Clause.nickname && (before.filterMap (·.nickname?)).contains nickname)
      s!"Your Pokémon must have different nicknames (you have more than one {nickname})."
  | none => []

/-- Problems of the species of a set after those before it. -/
def speciesProblems (t : RuleTable) (before : List CheckedSet) (s : CheckedSet) : List String :=
  match s.report.species with
  | some species =>
    problemIf (t.has Clause.species && (before.filterMap (·.number?)).contains species.num)
      ("You are limited to one of each Pokémon by Species Clause "
        ++ s!"(you have more than one {species.baseSpecies}).")
  | none => []

/-- Problems of the sets one by one, each with those before it. -/
def eachSetProblems (t : RuleTable) :
    (before : List CheckedSet) → List CheckedSet → List String
  | _, [] => []
  | before, s :: rest =>
    s.report.problems ++ nicknameProblems t before s ++ speciesProblems t before s
      ++ eachSetProblems t (before ++ [s]) rest

/-- Problems of formes of which there may be one. -/
def formeProblems (sets : List CheckedSet) : List String :=
  Clause.formeGroups.flatMap fun group =>
    problemIf (1 < (sets.filterMap (·.formeGroup?)).count group)
      s!"You cannot have more than one {group}."

/-- Problems of several sets with Baton Pass. -/
def batonPassProblems (t : RuleTable) (sets : List CheckedSet) : List String :=
  let passers := (sets.filter (·.has (.entry .move "batonpass"))).length
  problemIf (t.has Clause.batonPass && decide (1 < passers))
    s!"Team has {passers} Pokémon with Baton Pass despite Baton Pass Clause's limit of 1."

/-- Problems of weather abilities that meet those that profit from them. -/
def weatherProblems (format : Format) (sets : List CheckedSet) : List String :=
  let abilities := sets.filterMap (·.abilityId?)
  if format.id = Clause.weatherFormat then
    Clause.weatherPairs.flatMap fun (weather, user) =>
      problemIf (abilities.contains (Text.toId weather) && abilities.contains (Text.toId user))
        s!"{weather} and {user} may not be used on the same team."
  else []

/-- How many sets have a feature. -/
def holders (sets : List CheckedSet) (feature : Target) : Nat :=
  (sets.filter (·.has feature)).length

/-- How many sets have each of some features, taken together. -/
def totalHolders (sets : List CheckedSet) : List Target → Nat
  | [] => 0
  | feature :: rest => holders sets feature + totalHolders sets rest

/-- Problems with a combination across the team. -/
def combinationProblems (sets : List CheckedSet) (c : Combination) : List String :=
  let keys := (Ban.ofTargets c.targets).keys
  let origin := SetContext.byClause c.source
  match c.limit with
  | .allowed => []
  | .forbidden limit =>
    if limit = 0 then
      problemIf (keys.all fun key => holders sets key ≠ 0)
        s!"Your team has the combination of {c.rule}, which is banned{origin}."
    else
      problemIf (limit < totalHolders sets keys)
        s!"You are limited to {limit} of {c.rule}{origin}."

/-- All problems of a team whose sets have been checked. -/
def problems (config : Config) (format : Format) (t : RuleTable) (sets : List CheckedSet) :
    List String :=
  sizeProblems config sets.length ++ eachSetProblems t [] sets ++ formeProblems sets
    ++ batonPassProblems t sets ++ weatherProblems format sets
    ++ t.teamBans.flatMap (combinationProblems sets)

end TeamCheck

namespace Validator

/-- Checks sets in turn. -/
def checkSets (v : Validator) (format : Format) : List PokemonSet → SessionM (List CheckedSet)
  | [] => return []
  | set :: rest => do
    let report ← v.checkSet format set
    let more ← checkSets v format rest
    return { set, report } :: more

/-- The problems of a team of these sets in a format. -/
def checkTeam (v : Validator) (format : Format) (sets : List PokemonSet) :
    SessionM (List String) := do
  if !format.isKnown then return [unknownFormatProblem format]
  let table ← v.registry.resolve format
  let checked ← v.checkSets format sets
  let problems := TeamCheck.problems v.config format table checked
  modify (·.note [.teamChecked sets.length format.key problems.length])
  return problems

/-- The problems of sets in the format that a name asks for. -/
def checkSetsNamed (v : Validator) (name : String) (sets : List PokemonSet) :
    SessionM (List String) := do
  v.checkTeam (← v.registry.requestFormat name) sets

/-- The problems of a team in its own format. -/
def checkOwn (v : Validator) (team : Team) : SessionM (List String) :=
  v.checkSetsNamed (team.format.getD "") team.sets

/-- The problems of named teams, each in its own format. -/
def checkAll (v : Validator) : List (String × Team) → SessionM (List (String × List String))
  | [] => return []
  | (name, team) :: rest => do
    let problems ← v.checkOwn team
    let more ← checkAll v rest
    return (name, problems) :: more

end Validator

end TeamLegality
