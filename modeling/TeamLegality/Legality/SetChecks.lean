import TeamLegality.HiddenPower
import TeamLegality.Legality.BatonPass
import TeamLegality.Legality.SetContext
import TeamLegality.Nature

/-!
# The checks of a single set

Each check gives the problems that it finds, in order.  A check looks at one part of the set; those
that look at a part which was not found leave it alone, the missing part being a problem of its
own.

The texts of the problems hold integers of any size in full: a limit of 4,300 digits on writing
them, like the one on reading them (`Text.maxDigits`), is left out of the model.
-/

namespace TeamLegality

/-- A legality check declared by a format: asked about each move of a set, it may find a problem. -/
abbrev MoveCheck := Move → PokemonSet → Format → Dex → Option String

/-- A problem, if a condition holds. -/
def problemIf (condition : Bool) (text : String) : List String := if condition then [text] else []

namespace SetContext

/-! ### Species, item and ability -/

/-- Problems of the species. -/
def speciesProblems (c : SetContext) : List String :=
  let s := c.species
  let reason := c.table.speciesReason s
  problemIf (reason ≠ "") s!"{s.name} is {reason}."
    ++ (if s.tier = "Illegal" ∧ c.table.has Clause.illegal then
          [s!"{c.name} does not exist outside of generation {s.gen}."]
        else if s.tier = "Unreleased" ∧ c.table.has Clause.unreleased then
          [s!"{c.name} is unreleased in generation {c.genText}."]
        else [])
    ++ problemIf (s.isNonstandard && !c.admitsNonstandard) s!"{s.name} does not exist."

/-- The number of the species that the Griseous Orb is made for. -/
def giratinaNumber : Int := 487

/-- Problems of an item that was found. -/
def foundItemProblems (c : SetContext) (item : Item) : List String :=
  let reason := c.table.banReason (.entry .item item.id)
  problemIf (reason ≠ "") s!"{c.name}'s item {item.name} is {reason}."
    ++ problemIf (item.isNonstandard && !c.admitsNonstandard) s!"{item.name} does not exist."
    ++ problemIf (c.gen == 4 && item.id == "griseousorb" && c.species.num != giratinaNumber)
        "Griseous Orb can only be held by Giratina in generation 4."

/-- Problems of the item. -/
def itemProblems (c : SetContext) : List String :=
  let raw := c.set.item
  if raw = "" then []
  else if c.gen < 2 then
    [s!"Held items do not exist in generation {c.genText} ({c.name} has item {raw})."]
  else
    match c.item? with
    | none => [s!"{raw} is not a valid item for generation {c.genText}."]
    | some item => c.foundItemProblems item

/-- Problems of a hidden ability. -/
def hiddenAbilityProblems (c : SetContext) (ability : Ability) : List String :=
  let s := c.species
  let namedFor (ending : String) : Bool := ending.toList.isSuffixOf s.name.toList
  (if s.unreleasedHidden ∧ c.table.has Clause.unreleased then
      [s!"{c.name}'s hidden ability is unreleased."]
    else if c.gen = 6 ∧ ability.id = "symbiosis" ∧ (namedFor "Orange" ∨ namedFor "White") then
      [s!"{c.name}'s hidden ability is unreleased for the Orange and White forms."]
    else if c.gen = 5 ∧ c.level < 10 ∧ (s.maleOnlyHidden ∨ s.gender = some .genderless) then
      [s!"{c.name} must be at least level 10 with its hidden ability."]
    else [])
  ++ problemIf (s.maleOnlyHidden && c.set.gender.any (· ≠ .male))
      s!"{c.name} must be male to have its hidden ability."

/-- Problems of an ability with the lists of the clauses. -/
def abilityClauseProblems (c : SetContext) (ability : Ability) : List String :=
  Clause.abilityClauses.flatMap fun clause =>
    problemIf (c.table.has clause.rule && clause.ban.bansAbility ability.id)
      s!"{ability.name} is banned by {clause.label}."

/-- Problems of an ability that was found. -/
def foundAbilityProblems (c : SetContext) (ability : Ability) : List String :=
  let s := c.species
  let reason := c.table.banReason (.entry .ability ability.id)
  (if reason ≠ "" then [s!"{c.name}'s ability {ability.name} is {reason}."]
    else c.abilityClauseProblems ability)
  ++ problemIf (ability.isNonstandard && !c.admitsNonstandard) s!"{ability.name} does not exist."
  ++ problemIf (!s.abilityIds.contains ability.id) s!"{c.name} can't have {ability.name}."
  ++ problemIf (ability.id == "battlebond" && s.id == "greninja" && c.set.gender != some .male)
      s!"{c.name} must be male to have Battle Bond."
  ++ (if s.hiddenAbility ≠ "" ∧ ability.id = Text.toId s.hiddenAbility then
        c.hiddenAbilityProblems ability
      else [])

/-- Problems of the ability. -/
def abilityProblems (c : SetContext) : List String :=
  let raw := c.set.ability
  if c.gen < 3 then
    problemIf (raw ≠ "")
      s!"Abilities do not exist in generation {c.genText} ({c.name} has ability {raw})."
  else if raw = "" then [s!"{c.name} needs to have an ability."]
  else
    match c.ability? with
    | none => [s!"{raw} is not a valid ability for generation {c.genText}."]
    | some ability => c.foundAbilityProblems ability

/-! ### Level and gender -/

/-- Problems of the level and, in Little Cup, of the evolution family. -/
def levelProblems (c : SetContext) : List String :=
  let limit := c.config.littleCupLevel
  problemIf (c.level < 1) s!"{c.name} must be at least level 1."
    ++ if c.table.has Clause.littleCup then
        (if c.species.preEvolution ≠ "" then
            [s!"{c.name} isn't the first in its evolution family."]
          else problemIf (!c.species.canEvolve) s!"{c.name} doesn't have an evolution family.")
        ++ problemIf (limit < c.level) s!"{c.name} must be level {limit} or under in Little Cup."
      else
        problemIf (c.format.maxLevel < c.level)
          s!"{c.name} is higher than level {c.format.maxLevel}."

/-- Problems of a gender that the Attack determinant value decides. -/
def decidedGenderProblems (c : SetContext) (gender : Gender) : Except RatioError (List String) := do
  let threshold ← c.species.genderThreshold
  let attackDv := StatTable.dv c.set.ivs.attack
  let expected : Gender := if threshold ≤ attackDv then .male else .female
  pure (problemIf (gender ≠ expected)
    (s!"{c.name} is {gender.letter}, but it has an Atk DV of {attackDv}, "
      ++ s!"which makes its gender {expected.letter}."))

/-- Problems of the gender; the gender ratio of the species may make the question meaningless. -/
def genderProblems (c : SetContext) : Except RatioError (List String) :=
  match c.set.gender, c.species.gender with
  | none, _ => .ok []
  | some gender, some only =>
    .ok (problemIf (gender ≠ only)
      (s!"{c.name} is the wrong gender for its species ({gender.letter} vs. "
        ++ s!"{only.letter})."))
  | some .genderless, none => .ok [s!"{c.name} can't be genderless."]
  | some gender, none => if c.gen = 2 then c.decidedGenderProblems gender else .ok []

/-! ### Individual values, effort values and nature -/

/-- Problems of values outside a range. -/
def rangeProblems (c : SetContext) (kind : String) (highest : Int) (t : StatTable) : List String :=
  Stat.all.flatMap fun s =>
    problemIf (!(decide (0 ≤ t.get s) && decide (t.get s ≤ highest)))
      (s!"{c.name} has an invalid {s.label} {kind} ({t.get s}); "
        ++ s!"{kind}s must be between 0 and {highest}.")

/-- The number of values that are as high as they can be. -/
def perfectCount (c : SetContext) : Nat :=
  (Stat.all.filter fun s => decide (c.config.maxIv ≤ c.set.ivs.get s)).length

/-- Whether the species is sure to have three perfect values. -/
def isSureOfPerfectIvs (c : SetContext) : Bool :=
  decide (6 ≤ c.gen) && c.species.isLegendary c.set.shiny

/-- Problems of the determinant values of generation 2. -/
def dvProblems (c : SetContext) : List String :=
  let ivs := c.set.ivs
  let hpDv := StatTable.dv ivs.hp
  let expected := ivs.expectedHpDv
  let shiny := if c.set.shiny then "shiny" else "not shiny"
  problemIf (hpDv ≠ expected)
      (s!"{c.name} has an HP DV of {hpDv}, but its Atk, Def, Spe and Spc DVs "
        ++ s!"give it an HP DV of {expected}.")
    ++ problemIf (ivs.isShinyByDvs != c.set.shiny)
      s!"{c.name} is {shiny}, which does not match its DVs."

/-- Problems of special values that differ before generation 3. -/
def specialProblems (c : SetContext) (kind : String) (t : StatTable) : List String :=
  problemIf (t.specialAttack ≠ t.specialDefense)
    (s!"Before generation 3, SpA and SpD {kind}s must match "
      ++ s!"({c.name} has {t.specialAttack} SpA and {t.specialDefense} SpD {kind}s).")

/-- Problems of the individual values. -/
def ivProblems (c : SetContext) : List String :=
  c.rangeProblems "IV" c.config.maxIv c.set.ivs
    ++ problemIf (c.isSureOfPerfectIvs && decide (c.perfectCount < 3))
      (s!"{c.name} must have at least three perfect IVs because it's a legendary "
        ++ s!"in generation {c.genText}.")
    ++ (if 3 ≤ c.gen then []
        else c.specialProblems "IV" c.set.ivs ++ (if c.gen = 2 then c.dvProblems else []))

/-- Problems of the effort values. -/
def evProblems (c : SetContext) : List String :=
  c.rangeProblems "EV" c.config.maxEv c.set.evs
    ++ if 3 ≤ c.gen then
        problemIf (c.config.maxTotalEvs < c.set.evs.total)
          s!"{c.name} has more than {c.config.maxTotalEvs} total EVs."
      else c.specialProblems "EV" c.set.evs

/-- Problems of the nature. -/
def natureProblems (c : SetContext) : List String :=
  let raw := c.set.nature
  match Nature.find? raw with
  | some nature =>
    problemIf (c.gen < 3)
      s!"Natures do not exist in generation {c.genText} ({c.name} has {nature})."
  | none =>
    if c.gen < 3 then []
    else if raw = "" then [s!"{c.name} requires a nature in generation {c.genText}."]
    else [s!"{raw} is not a valid nature in generation {c.genText}."]

/-! ### Moves -/

/-- The first problem of a move with the rules: not in any game, banned, or under a clause. -/
def moveRuleProblems (c : SetContext) (move : Move) : List String :=
  let reason := c.table.banReason (.entry .move move.id)
  if move.isNonstandard ∧ !c.admitsNonstandard then [s!"{move.name} does not exist."]
  else if reason ≠ "" then [s!"{c.name}'s move {move.name} is {reason}."]
  else if c.table.has Clause.ohko ∧ move.ohko.isSet then
    [s!"{move.name} is banned by OHKO Clause."]
  else
    match Clause.moveClauses.find? fun clause =>
        c.table.has clause.rule && clause.ban.bansMove move.id with
    | some clause => [s!"{move.name} is banned by {clause.label}."]
    | none => []

/-- Problems that a legality check finds with a move. -/
def hookProblems (c : SetContext) (hook : Option MoveCheck) (move : Move) : List String :=
  match hook.bind fun check => check move c.set c.format c.dex with
  | some problem => problemIf (problem ≠ "") problem
  | none => []

/-- Problems of the moves one by one; a move found before is only a duplicate. -/
def eachMoveProblems (c : SetContext) (hook : Option MoveCheck) :
    (seen : List String) → List String → List String
  | _, [] => []
  | seen, raw :: rest =>
    match c.dex.findMove? raw with
    | none =>
      s!"{raw} is not a valid move for generation {c.genText}." :: eachMoveProblems c hook seen rest
    | some move =>
      if seen.contains move.id then
        s!"{c.name} may not have duplicate moves ({move.name} is duplicated)."
          :: eachMoveProblems c hook seen rest
      else
        c.hookProblems hook move ++ c.moveRuleProblems move
          ++ eachMoveProblems c hook (move.id :: seen) rest

/-- Whether the set can pass Speed together with another stat by Baton Pass. -/
def passesSpeedAndOther (c : SetContext) : Bool :=
  c.moveIds.contains "batonpass"
    && BatonPass.canPassSpeedAndOther c.moves c.spelledAbilityId c.item?

/-- Problems of the moves. -/
def moveProblems (c : SetContext) (hook : Option MoveCheck) : List String :=
  if c.set.moves.isEmpty then [s!"{c.name} must have at least one move."]
  else
    problemIf (c.config.maxMoves < c.set.moves.length)
        s!"{c.name} has more than {c.config.maxMoves} moves."
      ++ c.eachMoveProblems hook [] c.set.moves
      ++ problemIf (c.gen == 2 && Clause.hasSleepTrap c.moveIds)
        (s!"{c.name} has both a sleeping and a trapping move, "
          ++ "a combination which is banned in generation 2.")
      ++ problemIf (c.table.has Clause.batonPass && c.passesSpeedAndOther)
        (s!"{c.name} can Baton Pass both Speed and a different stat, "
          ++ "which is banned by Baton Pass Clause.")

/-! ### Hidden Power -/

/-- The Hidden Power type that the set declares, if it is one. -/
def declaredHiddenPower? (c : SetContext) : Option String :=
  if c.set.hpType = "" then none
  else ((ElementType.ofName? c.set.hpType).filter HiddenPower.types.contains).map (·.name)

/-- The Hidden Powers among the moves. -/
def hiddenPowers (c : SetContext) : List Move :=
  c.moves.filter fun m => Dex.hiddenPowerId.toList.isPrefixOf m.id.toList

/-- The type of the first Hidden Power that names one. -/
def moveHiddenPower? (c : SetContext) : Option String :=
  ((c.hiddenPowers.filter fun m => m.id ≠ Dex.hiddenPowerId).map (·.type)).head?

/-- Problems of a Hidden Power of a type with the individual values. -/
def hiddenPowerTypeProblems (c : SetContext) (type : String) : List String :=
  let byIvs := (HiddenPower.typeOf c.set.ivs c.gen).name
  problemIf (!(decide (7 ≤ c.gen) && c.level == 100) && byIvs != type)
      s!"{c.name} has Hidden Power {type}, but its IVs are for Hidden Power {byIvs}."
    ++ problemIf (type == "Fighting" && c.isSureOfPerfectIvs)
      (s!"{c.name} can't have Hidden Power Fighting because it must have "
        ++ "at least three perfect IVs as a legendary.")

/-- Problems of Hidden Power. -/
def hiddenPowerProblems (c : SetContext) : List String :=
  let declared := c.declaredHiddenPower?
  let byMove := c.moveHiddenPower?.filter (· ≠ "")
  let undeclared := problemIf (c.set.hpType ≠ "" && declared.isNone)
    s!"{c.name}'s Hidden Power type ({c.set.hpType}) is invalid."
  let mismatch := match byMove, declared with
    | some m, some d =>
      problemIf (m ≠ d)
        s!"{c.name}'s Hidden Power type ({d}) does not match its move (Hidden Power {m})."
    | _, _ => []
  undeclared
    ++ if c.hiddenPowers.isEmpty then []
      else mismatch ++ match byMove <|> declared with
        | some type => c.hiddenPowerTypeProblems type
        | none => []

/-! ### Formes and combinations -/

/-- The items that a forme needs, as messages name them. -/
def requiredItemsText (s : Species) : String :=
  let names := String.intercalate " or " s.requiredItems
  if 1 < s.requiredItems.length then "either " ++ names else names

/-- Problems of what the forme needs. -/
def formeProblems (c : SetContext) : List String :=
  let s := c.species
  let start (needs : String) : String :=
    if s.battleOnly then s!"{s.name} transforms in-battle with " else s!"{c.name} {needs} "
  let itemName := (c.item?.map (·.name)).getD ""
  problemIf (s.requiredAbility ≠ "" && c.spelledAbilityId ≠ Text.toId s.requiredAbility)
      (start "needs the ability" ++ s.requiredAbility ++ ".")
    ++ problemIf (!s.requiredItems.isEmpty && !s.requiredItems.contains itemName)
      (start "needs to hold" ++ requiredItemsText s ++ ".")
    ++ problemIf (s.requiredMove ≠ "" && !c.moveIds.contains (Text.toId s.requiredMove))
      (start "needs to have the move" ++ s.requiredMove ++ ".")

/-- The words that name the source of a combination. -/
def byClause (source : String) : String := if source = "" then "" else s!" by {source}"

/-- Problems of the features with a combination. -/
def combinationProblems (c : SetContext) (combination : Combination) : List String :=
  let ban := Ban.ofTargets combination.targets
  let origin := byClause combination.source
  match combination.limit with
  | .allowed => []
  | .forbidden limit =>
    if limit = 0 then
      problemIf (ban.isMatchedBy c.features)
        s!"{c.name} has the combination of {combination.rule}, which is banned{origin}."
    else
      problemIf (limit < ban.count c.features)
        s!"{c.name} is limited to {limit} of {combination.rule}{origin}."

/-- Problems of the features with the combinations of the table. -/
def complexBanProblems (c : SetContext) : List String :=
  c.table.complexBans.flatMap c.combinationProblems

/-! ### All checks -/

/-- All problems of the set, in the order of the checks. -/
def problems (c : SetContext) (hook : Option MoveCheck) : Except RatioError (List String) := do
  let gender ← c.genderProblems
  pure (c.speciesProblems ++ c.itemProblems ++ c.abilityProblems ++ c.levelProblems ++ gender
    ++ c.ivProblems ++ c.evProblems ++ c.natureProblems ++ c.moveProblems hook
    ++ c.hiddenPowerProblems ++ c.formeProblems ++ c.complexBanProblems)

end SetContext

end TeamLegality
