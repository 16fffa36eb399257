import TeamLegality.Proofs.Legality.TeamChecks

/-!
# Wording — the names in a set written another way

Two wordings of a set are alike when the dex finds the same under the names of both.  What is found
decides the features of the set (`features_reword`) and how many problems each check finds, with two
exceptions: a legality check is handed the set as it is written, and some checks compare the
identifier of the ability as it is written (`comparedAbilities`).  Where these do not tell the
wordings apart, there are as many problems (`map_length_problems_reword`).
-/

namespace TeamLegality

/-! ### Ways of writing -/

/-- Two names that are the same, or under which the same is found. -/
def SameFind {α : Type} (find : String → Option α) (x y : String) : Prop :=
  x = y ∨ ∃ e, find x = some e ∧ find y = some e

namespace SameFind

variable {α : Type} {find : String → Option α} {x y : String}

theorem find_eq (h : SameFind find x y) : find x = find y := by
  obtain rfl | ⟨e, hx, hy⟩ := h
  · rfl
  · rw [hx, hy]

/-- Nothing is found without a name. -/
theorem blank_iff (h : SameFind find x y) (hblank : find "" = none) : x = "" ↔ y = "" := by
  obtain rfl | ⟨e, hx, hy⟩ := h
  · rfl
  · refine iff_of_false ?_ ?_
    · rintro rfl
      rw [hblank] at hx
      cases hx
    · rintro rfl
      rw [hblank] at hy
      cases hy

end SameFind

/-- A blank name would not be found anyway. -/
theorem find_unless_blank {α : Type} {find : String → Option α} (hblank : find "" = none)
    (x : String) (p : Prop) [Decidable p] :
    (if x = "" ∨ p then none else find x) = if p then none else find x := by
  by_cases hx : x = ""
  · simp [hx, hblank]
  · simp [hx]

/-- The names in a set that are looked up. -/
structure Wording where
  species : String
  item : String
  ability : String
  moves : List String

/-- Wordings under which a dex finds the same. -/
structure Wording.Alike (d : Dex) (w w' : Wording) : Prop where
  species : SameFind d.findSpecies? w.species w'.species
  item : SameFind d.findItem? w.item w'.item
  ability : SameFind d.findAbility? w.ability w'.ability
  moves : List.Forall₂ (SameFind d.findMove?) w.moves w'.moves

namespace PokemonSet

/-- How a set writes the names in it. -/
def wording (s : PokemonSet) : Wording where
  species := s.species
  item := s.item
  ability := s.ability
  moves := s.moves

/-- The same set with its names written another way. -/
def reword (s : PokemonSet) (w : Wording) : PokemonSet :=
  { s with species := w.species, item := w.item, ability := w.ability, moves := w.moves }

/-- Sets that differ only in names under which a dex finds the same. -/
structure Respelled (d : Dex) (a b : PokemonSet) : Prop where
  rest : a.reword b.wording = b
  names : a.wording.Alike d b.wording

theorem Respelled.refl (d : Dex) (a : PokemonSet) : a.Respelled d a where
  rest := rfl
  names :=
    { species := .inl rfl
      item := .inl rfl
      ability := .inl rfl
      moves := List.forall₂_same.mpr fun _ _ => .inl rfl }

end PokemonSet

namespace Dex

variable {d : Dex}

theorem lookup_blank {α : Type} (table : Assoc String α) (gen : α → Int) :
    d.lookup table gen "" = none := by
  unfold lookup entry?
  rw [if_pos (show Text.toId "" = "" by decide)]
  rfl

end Dex

/-! ### Checks of a set -/

/-- The identifiers that checks compare with the ability as a set writes it: the one that the forme
needs, those that Baton Pass Clause knows, and those that must not meet. -/
def comparedAbilities (f : Format) (t : RuleTable) (species : Species) : List String :=
  (if species.requiredAbility = "" then [] else [Text.toId species.requiredAbility])
    ++ (if t.has Clause.batonPass then BatonPass.speedAbilities ++ BatonPass.otherAbilities else [])
    ++ if f.id = Clause.weatherFormat then
        Clause.weatherPairs.flatMap fun (weather, user) => [Text.toId weather, Text.toId user]
      else []

section Compared

variable {f : Format} {t : RuleTable} {species : Species} {id : String}

theorem required_mem_comparedAbilities (h : species.requiredAbility ≠ "") :
    Text.toId species.requiredAbility ∈ comparedAbilities f t species := by
  simp [comparedAbilities, h]

theorem passed_mem_comparedAbilities (h : t.has Clause.batonPass = true)
    (hid : id ∈ BatonPass.speedAbilities ∨ id ∈ BatonPass.otherAbilities) :
    id ∈ comparedAbilities f t species := by
  have hmem : id ∈ BatonPass.speedAbilities ++ BatonPass.otherAbilities :=
    List.mem_append.mpr hid
  unfold comparedAbilities
  rw [if_pos h]
  exact List.mem_append_left _ (List.mem_append_right _ hmem)

theorem paired_mem_comparedAbilities (h : f.id = Clause.weatherFormat) {pair : String × String}
    (hpair : pair ∈ Clause.weatherPairs)
    (hid : id = Text.toId pair.1 ∨ id = Text.toId pair.2) :
    id ∈ comparedAbilities f t species := by
  have hmem : id ∈ Clause.weatherPairs.flatMap
      fun (weather, user) => [Text.toId weather, Text.toId user] :=
    List.mem_flatMap.mpr ⟨pair, hpair, by simpa using hid⟩
  unfold comparedAbilities
  rw [if_pos h]
  exact List.mem_append_right _ hmem

end Compared

theorem contains_congr {ids : List String} {x y : String} (h : ∀ id ∈ ids, (x = id ↔ y = id)) :
    ids.contains x = ids.contains y := by
  rw [Bool.eq_iff_iff, List.contains_iff_mem, List.contains_iff_mem]
  exact ⟨fun hx => (h x hx).mp rfl ▸ hx, fun hy => (h y hy).mpr rfl ▸ hy⟩

/-- A legality check that objects to the same moves of two sets. -/
def MoveCheck.AgreesOn (check : MoveCheck) (a b : PokemonSet) (f : Format) (d : Dex) : Prop :=
  ∀ move, (check move a f d).any (· ≠ "") = (check move b f d).any (· ≠ "")

namespace SetContext

/-- The same question about a set that writes its names another way. -/
def reword (c : SetContext) (w : Wording) : SetContext := { c with set := c.set.reword w }

section

variable (c : SetContext) (w : Wording)

@[simp] theorem reword_table : (c.reword w).table = c.table := rfl

@[simp] theorem reword_dex : (c.reword w).dex = c.dex := rfl

@[simp] theorem reword_gen : (c.reword w).gen = c.gen := rfl

@[simp] theorem reword_species : (c.reword w).species = c.species := rfl

@[simp] theorem reword_config : (c.reword w).config = c.config := rfl

end

/-- What the checks find, counted: the texts themselves quote the names as they are written. -/
theorem map_length_problems (c : SetContext) (hook : Option MoveCheck) :
    (c.problems hook).map List.length = (c.genderProblems.map List.length).map fun gender =>
      c.speciesProblems.length + c.itemProblems.length + c.abilityProblems.length
        + c.levelProblems.length + gender + c.ivProblems.length + c.evProblems.length
        + c.natureProblems.length + (c.moveProblems hook).length + c.hiddenPowerProblems.length
        + c.formeProblems.length + c.complexBanProblems.length := by
  rw [problems_eq]
  cases c.genderProblems with
  | error cause => rfl
  | ok gender => simp only [Except.map, List.length_append]

theorem item?_eq (c : SetContext) :
    c.item? = if c.gen < 2 then none else c.dex.findItem? c.set.item :=
  find_unless_blank (Dex.lookup_blank _ _) _ _

theorem ability?_eq (c : SetContext) :
    c.ability? = if c.gen < 3 then none else c.dex.findAbility? c.set.ability :=
  find_unless_blank (Dex.lookup_blank _ _) _ _

theorem distinctMoves_congr {d : Dex} {raws raws' : List String}
    (h : List.Forall₂ (SameFind d.findMove?) raws raws') : ∀ seen : List String,
      distinctMoves d seen raws = distinctMoves d seen raws' := by
  induction h with
  | nil => exact fun _ => rfl
  | cons hraw _ ih =>
    intro seen
    simp only [distinctMoves, hraw.find_eq, ih]

/-! #### Checks of what is not spelled -/

section

variable {c : SetContext} {w : Wording}

theorem length_speciesProblems_reword :
    (c.reword w).speciesProblems.length = c.speciesProblems.length := by
  simp only [speciesProblems, List.length_append, length_problemIf, apply_ite List.length]
  rfl

theorem length_foundItemProblems_reword (item : Item) :
    ((c.reword w).foundItemProblems item).length = (c.foundItemProblems item).length := by
  simp only [foundItemProblems, List.length_append, length_problemIf]
  rfl

theorem length_foundAbilityProblems_reword (ability : Ability) :
    ((c.reword w).foundAbilityProblems ability).length
      = (c.foundAbilityProblems ability).length := by
  simp only [foundAbilityProblems, hiddenAbilityProblems, List.length_append, length_problemIf,
    apply_ite List.length]
  rfl

theorem length_levelProblems_reword :
    (c.reword w).levelProblems.length = c.levelProblems.length := by
  simp only [levelProblems, List.length_append, length_problemIf, apply_ite List.length]
  rfl

theorem map_length_decidedGenderProblems_reword (gender : Gender) :
    ((c.reword w).decidedGenderProblems gender).map List.length
      = (c.decidedGenderProblems gender).map List.length := by
  unfold decidedGenderProblems
  rw [reword_species]
  cases c.species.genderThreshold with
  | error cause => rfl
  | ok threshold =>
    refine congrArg Except.ok ?_
    rw [length_problemIf, length_problemIf]
    rfl

/-- The gender check comes to as many problems, or fails for the same reason. -/
theorem map_length_genderProblems_reword :
    (c.reword w).genderProblems.map List.length = c.genderProblems.map List.length := by
  have hgender : (c.reword w).set.gender = c.set.gender := rfl
  unfold genderProblems
  rw [hgender, reword_species, reword_gen]
  split
  · rfl
  · refine congrArg Except.ok ?_
    rw [length_problemIf, length_problemIf]
  · rfl
  · split_ifs
    · exact map_length_decidedGenderProblems_reword _
    · rfl

theorem length_ivProblems_reword : (c.reword w).ivProblems.length = c.ivProblems.length := by
  simp only [ivProblems, rangeProblems, specialProblems, dvProblems, List.length_append,
    length_problemIf, apply_ite List.length, List.length_flatMap]
  rfl

theorem length_evProblems_reword : (c.reword w).evProblems.length = c.evProblems.length := by
  simp only [evProblems, rangeProblems, specialProblems, List.length_append, length_problemIf,
    apply_ite List.length, List.length_flatMap]
  rfl

theorem length_natureProblems_reword :
    (c.reword w).natureProblems.length = c.natureProblems.length := by
  have hnature : (c.reword w).set.nature = c.set.nature := rfl
  unfold natureProblems
  dsimp only
  rw [hnature, reword_gen]
  cases Nature.find? c.set.nature with
  | none => simp only [apply_ite List.length, List.length_singleton]
  | some nature => rw [length_problemIf, length_problemIf]

theorem length_moveRuleProblems_reword (move : Move) :
    ((c.reword w).moveRuleProblems move).length = (c.moveRuleProblems move).length := by
  have hadmits : (c.reword w).admitsNonstandard = c.admitsNonstandard := rfl
  unfold moveRuleProblems
  rw [reword_table, hadmits]
  dsimp only
  split_ifs
  · rfl
  · rfl
  · rfl
  · rfl

theorem length_hiddenPowerTypeProblems_reword (type : String) :
    ((c.reword w).hiddenPowerTypeProblems type).length
      = (c.hiddenPowerTypeProblems type).length := by
  simp only [hiddenPowerTypeProblems, List.length_append, length_problemIf]
  rfl

end

/-! #### Checks of what is found -/

section

variable {c : SetContext} {w : Wording} (h : c.set.wording.Alike c.dex w)

include h

theorem item?_reword : (c.reword w).item? = c.item? := by
  rw [item?_eq, item?_eq]
  exact congrArg (if c.gen < 2 then none else ·) h.item.find_eq.symm

theorem ability?_reword : (c.reword w).ability? = c.ability? := by
  rw [ability?_eq, ability?_eq]
  exact congrArg (if c.gen < 3 then none else ·) h.ability.find_eq.symm

theorem moves_reword : (c.reword w).moves = c.moves := (distinctMoves_congr h.moves []).symm

theorem moveIds_reword : (c.reword w).moveIds = c.moveIds := by
  unfold moveIds
  rw [moves_reword h]

/-- **Features do not depend on the spelling.** -/
theorem features_reword : (c.reword w).features = c.features := by
  unfold features
  rw [item?_reword h, ability?_reword h, moveIds_reword h]
  rfl

theorem length_itemProblems_reword :
    (c.reword w).itemProblems.length = c.itemProblems.length := by
  have hblank : (c.reword w).set.item = "" ↔ c.set.item = "" :=
    (h.item.blank_iff (Dex.lookup_blank _ _)).symm
  unfold itemProblems
  simp only [hblank, reword_gen, item?_reword h]
  split_ifs
  · rfl
  · rfl
  · cases c.item? with
    | none => rfl
    | some item => exact length_foundItemProblems_reword item

theorem length_abilityProblems_reword :
    (c.reword w).abilityProblems.length = c.abilityProblems.length := by
  have hblank : (c.reword w).set.ability = "" ↔ c.set.ability = "" :=
    (h.ability.blank_iff (Dex.lookup_blank _ _)).symm
  unfold abilityProblems
  simp only [hblank, reword_gen, ability?_reword h]
  split_ifs
  · simp only [length_problemIf, ne_eq, hblank]
  · rfl
  · cases c.ability? with
    | none => rfl
    | some ability => exact length_foundAbilityProblems_reword ability

theorem hiddenPowers_reword : (c.reword w).hiddenPowers = c.hiddenPowers := by
  unfold hiddenPowers
  rw [moves_reword h]

theorem length_hiddenPowerProblems_reword :
    (c.reword w).hiddenPowerProblems.length = c.hiddenPowerProblems.length := by
  have htype : (c.reword w).set.hpType = c.set.hpType := rfl
  have hdeclared : (c.reword w).declaredHiddenPower? = c.declaredHiddenPower? := rfl
  have hmove : (c.reword w).moveHiddenPower? = c.moveHiddenPower? := by
    unfold moveHiddenPower?
    rw [hiddenPowers_reword h]
  unfold hiddenPowerProblems
  simp only [htype, hdeclared, hmove, hiddenPowers_reword h, List.length_append, length_problemIf,
    apply_ite List.length]
  cases c.moveHiddenPower?.filter (· ≠ "") with
  | none =>
    cases c.declaredHiddenPower? with
    | none => rfl
    | some declared => simp [length_hiddenPowerTypeProblems_reword]
  | some type =>
    cases c.declaredHiddenPower? with
    | none => simp [length_hiddenPowerTypeProblems_reword]
    | some declared => simp [length_problemIf, length_hiddenPowerTypeProblems_reword]

theorem length_complexBanProblems_reword :
    (c.reword w).complexBanProblems.length = c.complexBanProblems.length := by
  unfold complexBanProblems
  rw [reword_table, List.length_flatMap, List.length_flatMap]
  refine congrArg List.sum (List.map_congr_left fun combination _ => ?_)
  unfold combinationProblems
  rw [features_reword h]
  cases combination.limit with
  | allowed => rfl
  | forbidden limit => simp only [apply_ite List.length, length_problemIf]

/-! #### Checks that ask someone else, or read the ability as it is written -/

omit h in
theorem length_hookProblems {c : SetContext} {hook : Option MoveCheck} {move : Move} :
    (c.hookProblems hook move).length
      = if (hook.bind fun check => check move c.set c.format c.dex).any (· ≠ "") then 1 else 0 := by
  unfold hookProblems
  cases hook.bind fun check => check move c.set c.format c.dex with
  | none => rfl
  | some problem => rw [length_problemIf, Option.any_some]

variable {hook : Option MoveCheck}
  (hhook : ∀ check, hook = some check → check.AgreesOn c.set (c.set.reword w) c.format c.dex)

include hhook

omit h in
theorem length_hookProblems_reword (move : Move) :
    ((c.reword w).hookProblems hook move).length = (c.hookProblems hook move).length := by
  rw [length_hookProblems, length_hookProblems]
  cases hook with
  | none => rfl
  | some check =>
    have hagree : (check move (c.set.reword w) c.format c.dex).any (· ≠ "")
        = (check move c.set c.format c.dex).any (· ≠ "") := (hhook check rfl move).symm
    exact congrArg (fun found : Bool => if found then 1 else 0) hagree

omit h in
theorem length_eachMoveProblems_reword {raws raws' : List String}
    (h : List.Forall₂ (SameFind c.dex.findMove?) raws raws') : ∀ seen : List String,
      ((c.reword w).eachMoveProblems hook seen raws').length
        = (c.eachMoveProblems hook seen raws).length := by
  induction h with
  | nil => exact fun _ => rfl
  | @cons raw raw' raws raws' hraw _ ih =>
    intro seen
    rw [eachMoveProblems, eachMoveProblems, reword_dex, ← hraw.find_eq]
    cases c.dex.findMove? raw with
    | none => simp only [List.length_cons, ih seen]
    | some move =>
      dsimp only
      split_ifs
      · simp only [List.length_cons, ih seen]
      · simp only [List.length_append, length_hookProblems_reword hhook,
          length_moveRuleProblems_reword, ih]

variable (hability : ∀ id ∈ comparedAbilities c.format c.table c.species,
  (c.spelledAbilityId = id ↔ Text.toId w.ability = id))

include hability

omit hhook in
theorem length_formeProblems_reword :
    (c.reword w).formeProblems.length = c.formeProblems.length := by
  have hspecies : (c.reword w).species = c.species := rfl
  have hneeded : (c.species.requiredAbility ≠ ""
        && (c.reword w).spelledAbilityId ≠ Text.toId c.species.requiredAbility)
      = (c.species.requiredAbility ≠ ""
        && c.spelledAbilityId ≠ Text.toId c.species.requiredAbility) := by
    by_cases hnone : c.species.requiredAbility = ""
    · simp [hnone]
    · have hrequired : (c.reword w).spelledAbilityId = Text.toId c.species.requiredAbility
          ↔ c.spelledAbilityId = Text.toId c.species.requiredAbility :=
        (hability _ (required_mem_comparedAbilities hnone)).symm
      simp [hrequired]
  unfold formeProblems
  simp only [List.length_append, length_problemIf, hspecies, item?_reword h, moveIds_reword h]
  rw [hneeded]

theorem length_moveProblems_reword :
    ((c.reword w).moveProblems hook).length = (c.moveProblems hook).length := by
  have hlength : (c.reword w).set.moves.length = c.set.moves.length := h.moves.length_eq.symm
  have hempty : (c.reword w).set.moves.isEmpty = c.set.moves.isEmpty := by
    rw [Bool.eq_iff_iff, List.isEmpty_iff_length_eq_zero, List.isEmpty_iff_length_eq_zero, hlength]
  have heach : ((c.reword w).eachMoveProblems hook [] (c.reword w).set.moves).length
      = (c.eachMoveProblems hook [] c.set.moves).length :=
    length_eachMoveProblems_reword hhook h.moves []
  have hpass : (c.table.has Clause.batonPass && (c.reword w).passesSpeedAndOther)
      = (c.table.has Clause.batonPass && c.passesSpeedAndOther) := by
    cases hclause : c.table.has Clause.batonPass with
    | false => rw [Bool.false_and, Bool.false_and]
    | true =>
      have hspeed : BatonPass.speedAbilities.contains (c.reword w).spelledAbilityId
          = BatonPass.speedAbilities.contains c.spelledAbilityId :=
        (contains_congr fun id hid =>
          hability id (passed_mem_comparedAbilities hclause (.inl hid))).symm
      have hother : BatonPass.otherAbilities.contains (c.reword w).spelledAbilityId
          = BatonPass.otherAbilities.contains c.spelledAbilityId :=
        (contains_congr fun id hid =>
          hability id (passed_mem_comparedAbilities hclause (.inr hid))).symm
      unfold passesSpeedAndOther BatonPass.canPassSpeedAndOther BatonPass.sources
      rw [moveIds_reword h, moves_reword h, item?_reword h, hspeed, hother]
  unfold moveProblems
  simp only [reword_table, reword_gen, reword_config, hlength, hempty, moveIds_reword h,
    apply_ite List.length, List.length_append, length_problemIf, heach, List.length_singleton]
  rw [hpass]

/-- **As many problems are found**, or no answer is for the same reason. -/
theorem map_length_problems_reword :
    ((c.reword w).problems hook).map List.length = (c.problems hook).map List.length := by
  rw [map_length_problems, map_length_problems, map_length_genderProblems_reword]
  simp only [length_speciesProblems_reword, length_itemProblems_reword h,
    length_abilityProblems_reword h, length_levelProblems_reword, length_ivProblems_reword,
    length_evProblems_reword, length_natureProblems_reword,
    length_moveProblems_reword h hhook hability, length_hiddenPowerProblems_reword h,
    length_formeProblems_reword h hability, length_complexBanProblems_reword h]

end

end SetContext

end TeamLegality
