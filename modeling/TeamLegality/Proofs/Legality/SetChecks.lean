import TeamLegality.Legality.SetReport
import Mathlib.Data.List.Basic
import Mathlib.Tactic.SplitIfs

/-!
# Set checks — when each check of a single set finds nothing

For each check that looks at the rule table or at a part of the set that has to be found, the
condition under which it finds no problem, in terms of what the table has.  `Clean` puts the checks
together: a set has no problem exactly when each of its checks finds none (`problems_eq_nil_iff`).
-/

namespace TeamLegality

@[simp] theorem problemIf_eq_nil_iff {condition : Bool} {text : String} :
    problemIf condition text = [] ↔ condition = false := by
  cases condition <;> simp [problemIf]

theorem mem_problemIf_iff {condition : Bool} {text problem : String} :
    problem ∈ problemIf condition text ↔ condition = true ∧ problem = text := by
  cases condition <;> simp [problemIf]

namespace RuleTable

variable {t : RuleTable} {key : RuleKey} {target : Target}

/-- A key bans without a reason only when it is absent. -/
theorem reason_eq_empty_iff : t.reason key = "" ↔ t.has key = false := by
  unfold reason has get? Assoc.contains
  cases t.rules.get? key with
  | none => simp
  | some source => by_cases hs : source = "" <;> simp [hs]

theorem banReason_eq_empty_iff : t.banReason target = "" ↔ t.has (.ban target) = false :=
  reason_eq_empty_iff

end RuleTable

namespace SetContext

variable {c : SetContext} {hook : Option MoveCheck}

/-! ### Species, item and ability -/

theorem speciesProblems_eq_nil_iff : c.speciesProblems = [] ↔
    c.table.speciesReason c.species = ""
      ∧ (c.species.tier = "Illegal" → c.table.has Clause.illegal = false)
      ∧ (c.species.tier = "Unreleased" → c.table.has Clause.unreleased = false)
      ∧ (c.species.isNonstandard = true → c.admitsNonstandard = true) := by
  unfold speciesProblems
  simp only [List.append_eq_nil_iff, problemIf_eq_nil_iff]
  by_cases hi : c.species.tier = "Illegal"
  · simp [hi, and_assoc]
  · by_cases hu : c.species.tier = "Unreleased" <;> simp [hi, hu, and_assoc]

theorem foundItemProblems_eq_nil_iff {item : Item} : c.foundItemProblems item = [] ↔
    c.table.has (.ban (.entry .item item.id)) = false
      ∧ (item.isNonstandard = true → c.admitsNonstandard = true)
      ∧ (c.gen = 4 → item.id = "griseousorb" → c.species.num = giratinaNumber) := by
  unfold foundItemProblems
  simp [← RuleTable.banReason_eq_empty_iff]

theorem item?_of_ne {c : SetContext} (hitem : c.set.item ≠ "") (hgen : 2 ≤ c.gen) :
    c.item? = c.dex.findItem? c.set.item := by
  unfold item?
  rw [if_neg]
  rintro (h | h)
  · exact hitem h
  · omega

theorem itemProblems_eq_nil_iff : c.itemProblems = [] ↔
    c.set.item = "" ∨ 2 ≤ c.gen ∧ ∃ item, c.dex.findItem? c.set.item = some item
      ∧ c.foundItemProblems item = [] := by
  unfold itemProblems
  dsimp only
  split_ifs with hitem hgen
  · simp [hitem]
  · have hgen' : ¬ 2 ≤ c.gen := by omega
    simp [hitem, hgen']
  · have hgen' : 2 ≤ c.gen := by omega
    rw [item?_of_ne hitem hgen']
    cases c.dex.findItem? c.set.item <;> simp [hitem, hgen']

theorem abilityClauseProblems_eq_nil_iff {ability : Ability} :
    c.abilityClauseProblems ability = [] ↔ ∀ clause ∈ Clause.abilityClauses,
      c.table.has clause.rule = true → clause.ban.bansAbility ability.id = false := by
  unfold abilityClauseProblems
  simp

theorem ability?_of_ne {c : SetContext} (hability : c.set.ability ≠ "") (hgen : 3 ≤ c.gen) :
    c.ability? = c.dex.findAbility? c.set.ability := by
  unfold ability?
  rw [if_neg]
  rintro (h | h)
  · exact hability h
  · omega

/-- The reasons against a hidden ability exclude each other, except that its sex may be wrong in
each case. -/
theorem hiddenAbilityProblems_eq_nil_iff {ability : Ability} :
    c.hiddenAbilityProblems ability = [] ↔
      (c.species.unreleasedHidden = true → c.table.has Clause.unreleased = false)
      ∧ ¬ (c.gen = 6 ∧ ability.id = "symbiosis"
          ∧ ("Orange".toList.isSuffixOf c.species.name.toList = true
            ∨ "White".toList.isSuffixOf c.species.name.toList = true))
      ∧ ¬ (c.gen = 5 ∧ c.level < 10
          ∧ (c.species.maleOnlyHidden = true ∨ c.species.gender = some .genderless))
      ∧ (c.species.maleOnlyHidden = true → c.set.gender.any (· ≠ .male) = false) := by
  unfold hiddenAbilityProblems
  dsimp only
  rw [List.append_eq_nil_iff, problemIf_eq_nil_iff, Bool.and_eq_false_imp]
  split_ifs with h1 h2 h3
  · refine iff_of_false (by simp) fun h => ?_
    simp [h.1 h1.1] at h1
  · exact iff_of_false (by simp) fun h => h.2.1 h2
  · exact iff_of_false (by simp) fun h => h.2.2.1 h3
  · have h1' : c.species.unreleasedHidden = true → c.table.has Clause.unreleased = false := by
      simpa using h1
    rw [and_iff_right h1', and_iff_right h2, and_iff_right h3]
    simp

theorem foundAbilityProblems_eq_nil_iff {ability : Ability} :
    c.foundAbilityProblems ability = [] ↔
      c.table.has (.ban (.entry .ability ability.id)) = false
      ∧ c.abilityClauseProblems ability = []
      ∧ (ability.isNonstandard = true → c.admitsNonstandard = true)
      ∧ ability.id ∈ c.species.abilityIds
      ∧ (ability.id = "battlebond" → c.species.id = "greninja" → c.set.gender = some .male)
      ∧ (c.species.hiddenAbility ≠ "" → ability.id = Text.toId c.species.hiddenAbility →
          c.hiddenAbilityProblems ability = []) := by
  unfold foundAbilityProblems
  dsimp only
  rw [← RuleTable.banReason_eq_empty_iff]
  by_cases hreason : c.table.banReason (.entry .ability ability.id) = ""
  · simp [hreason]
  · simp [hreason]

theorem abilityProblems_eq_nil_iff : c.abilityProblems = [] ↔
    (c.gen < 3 → c.set.ability = "")
      ∧ (3 ≤ c.gen → ∃ ability, c.set.ability ≠ ""
        ∧ c.dex.findAbility? c.set.ability = some ability
        ∧ c.foundAbilityProblems ability = []) := by
  unfold abilityProblems
  dsimp only
  split_ifs with hgen hability
  · have hgen' : ¬ 3 ≤ c.gen := by omega
    simp [hgen, hgen']
  · have hgen' : 3 ≤ c.gen := by omega
    simp [hability, hgen', hgen]
  · have hgen' : 3 ≤ c.gen := by omega
    rw [ability?_of_ne hability hgen']
    cases c.dex.findAbility? c.set.ability <;> simp [hgen, hability, hgen']

/-! ### Values -/

theorem rangeProblems_eq_nil_iff {kind : String} {highest : Int} {values : StatTable} :
    c.rangeProblems kind highest values = [] ↔
      ∀ stat, 0 ≤ values.get stat ∧ values.get stat ≤ highest := by
  unfold rangeProblems
  simp [Stat.mem_all]

/-! ### Moves -/

theorem moveRuleProblems_eq_nil_iff {move : Move} : c.moveRuleProblems move = [] ↔
    (move.isNonstandard = true → c.admitsNonstandard = true)
      ∧ c.table.has (.ban (.entry .move move.id)) = false
      ∧ (c.table.has Clause.ohko = true → move.ohko.isSet = false)
      ∧ ∀ clause ∈ Clause.moveClauses,
          c.table.has clause.rule = true → clause.ban.bansMove move.id = false := by
  unfold moveRuleProblems
  dsimp only
  rw [← RuleTable.banReason_eq_empty_iff]
  split_ifs with h1 h2 h3
  · refine iff_of_false (by simp) fun h => ?_
    simp [h.1 h1.1] at h1
  · exact iff_of_false (by simp) fun h => h2 h.2.1
  · refine iff_of_false (by simp) fun h => ?_
    simp [h.2.2.1 h3.1] at h3
  · have h1' : move.isNonstandard = true → c.admitsNonstandard = true := by simpa using h1
    have h2' : c.table.banReason (.entry .move move.id) = "" := by simpa using h2
    have h3' : c.table.has Clause.ohko = true → move.ohko.isSet = false := by simpa using h3
    rw [and_iff_right h1', and_iff_right h2', and_iff_right h3']
    split
    · next clause hfind =>
      have hbad := List.find?_some hfind
      have hmem := List.mem_of_find?_eq_some hfind
      simp only [Bool.and_eq_true] at hbad
      refine iff_of_false (by simp) fun h => ?_
      rw [h clause hmem hbad.1] at hbad
      exact absurd hbad.2 (by simp)
    · next hfind =>
      simpa using hfind

theorem eachMoveProblems_cons_eq_nil_iff {seen : List String} {raw : String}
    {rest : List String} : c.eachMoveProblems hook seen (raw :: rest) = [] ↔ ∃ move : Move,
      c.dex.findMove? raw = some move ∧ move.id ∉ seen
      ∧ (c.hookProblems hook move = [] ∧ c.moveRuleProblems move = [])
      ∧ c.eachMoveProblems hook (move.id :: seen) rest = [] := by
  rw [eachMoveProblems]
  cases c.dex.findMove? raw with
  | none => simp
  | some move => by_cases hseen : move.id ∈ seen <;> simp [hseen, and_assoc]

/-- Moves that no check objects to are found, differ from each other and from those seen, and none
of them is objected to by itself. -/
theorem eachMoveProblems_eq_nil_iff : ∀ {seen raws : List String},
    c.eachMoveProblems hook seen raws = [] ↔ ∃ moves : List Move,
      raws.map c.dex.findMove? = moves.map some
      ∧ (moves.map fun m => m.id).Nodup ∧ (∀ m ∈ moves, m.id ∉ seen)
      ∧ ∀ m ∈ moves, c.hookProblems hook m = [] ∧ c.moveRuleProblems m = []
  | seen, [] => by
    refine iff_of_true rfl ⟨[], rfl, by simp, by simp, by simp⟩
  | seen, raw :: rest => by
    rw [eachMoveProblems_cons_eq_nil_iff]
    constructor
    · rintro ⟨move, hfind, hseen, hmove, hrest⟩
      obtain ⟨moves, hmoves, hnodup, hnew, hclean⟩ := eachMoveProblems_eq_nil_iff.mp hrest
      refine ⟨move :: moves, by simp [hfind, hmoves], ?_, List.forall_mem_cons.mpr ⟨hseen, ?_⟩,
        List.forall_mem_cons.mpr ⟨hmove, hclean⟩⟩
      · rw [List.map_cons, List.nodup_cons, List.mem_map]
        refine ⟨?_, hnodup⟩
        rintro ⟨m, hm, heq⟩
        exact hnew m hm (by simp [heq])
      · exact fun m hm h => hnew m hm (List.mem_cons_of_mem _ h)
    · rintro ⟨moves, hmoves, hnodup, hnew, hclean⟩
      cases moves with
      | nil => simp at hmoves
      | cons move moves =>
        obtain ⟨hfind, hmoves⟩ := List.cons.inj hmoves
        obtain ⟨hseen, hnew⟩ := List.forall_mem_cons.mp hnew
        obtain ⟨hmove, hclean⟩ := List.forall_mem_cons.mp hclean
        obtain ⟨hfirst, hnodup⟩ := List.nodup_cons.mp hnodup
        refine ⟨move, hfind, hseen, hmove,
          eachMoveProblems_eq_nil_iff.mpr ⟨moves, hmoves, hnodup, fun m hm => ?_, hclean⟩⟩
        rw [List.mem_cons, not_or]
        exact ⟨fun heq => hfirst (List.mem_map.mpr ⟨m, hm, heq⟩), hnew m hm⟩

theorem moveProblems_eq_nil_iff : c.moveProblems hook = [] ↔
    c.set.moves ≠ [] ∧ c.set.moves.length ≤ c.config.maxMoves
      ∧ c.eachMoveProblems hook [] c.set.moves = []
      ∧ (c.gen = 2 → Clause.hasSleepTrap c.moveIds = false)
      ∧ (c.table.has Clause.batonPass = true → c.passesSpeedAndOther = false) := by
  unfold moveProblems
  split_ifs with hnone
  · simp only [List.isEmpty_iff] at hnone
    simp [hnone]
  · simp only [List.isEmpty_iff] at hnone
    simp [hnone]

/-! ### Combinations -/

theorem combinationProblems_eq_nil_iff {combination : Combination} :
    c.combinationProblems combination = [] ↔
      ∀ limit, combination.limit = .forbidden limit →
        (limit = 0 → (Ban.ofTargets combination.targets).isMatchedBy c.features = false)
        ∧ (limit ≠ 0 → (Ban.ofTargets combination.targets).count c.features ≤ limit) := by
  unfold combinationProblems
  dsimp only
  cases combination.limit with
  | allowed => simp
  | forbidden limit => by_cases hl : limit = 0 <;> simp [hl]

theorem complexBanProblems_eq_nil_iff : c.complexBanProblems = [] ↔
    ∀ combination ∈ c.table.complexBans, c.combinationProblems combination = [] := by
  unfold complexBanProblems
  simp

/-! ### All checks -/

/-- Only the gender check can fail to give an answer. -/
theorem problems_eq (c : SetContext) (hook : Option MoveCheck) : c.problems hook =
    c.genderProblems.map fun gender =>
      c.speciesProblems ++ c.itemProblems ++ c.abilityProblems ++ c.levelProblems ++ gender
        ++ c.ivProblems ++ c.evProblems ++ c.natureProblems ++ c.moveProblems hook
        ++ c.hiddenPowerProblems ++ c.formeProblems ++ c.complexBanProblems := by
  unfold problems
  cases c.genderProblems <;> rfl

/-- The gender check fails only in generation 2, on a species whose gender ratio is no number. -/
theorem genderProblems_eq_error {cause : RatioError} (h : c.genderProblems = .error cause) :
    c.gen = 2 ∧ c.species.genderThreshold = .error cause := by
  unfold genderProblems at h
  split at h
  · cases h
  · cases h
  · cases h
  · split_ifs at h with hgen
    refine ⟨hgen, ?_⟩
    unfold decidedGenderProblems at h
    cases hthreshold : c.species.genderThreshold with
    | error cause' =>
      rw [hthreshold] at h
      cases h
      rfl
    | ok threshold =>
      rw [hthreshold] at h
      cases h

/-- Each check of a set finds nothing. -/
structure Clean (c : SetContext) (hook : Option MoveCheck) : Prop where
  species : c.speciesProblems = []
  item : c.itemProblems = []
  ability : c.abilityProblems = []
  level : c.levelProblems = []
  gender : c.genderProblems = .ok []
  ivs : c.ivProblems = []
  evs : c.evProblems = []
  nature : c.natureProblems = []
  moves : c.moveProblems hook = []
  hiddenPower : c.hiddenPowerProblems = []
  forme : c.formeProblems = []
  combinations : c.complexBanProblems = []

/-- **A set has no problem exactly when each check finds none.** -/
theorem problems_eq_nil_iff : c.problems hook = .ok [] ↔ c.Clean hook := by
  rw [problems_eq]
  cases hgender : c.genderProblems with
  | error cause =>
    refine iff_of_false nofun fun h => ?_
    rw [h.gender] at hgender
    cases hgender
  | ok gender =>
    simp only [Except.map, Except.ok.injEq, List.append_eq_nil_iff, and_assoc]
    constructor
    · rintro ⟨h1, h2, h3, h4, h5, h6, h7, h8, h9, h10, h11, h12⟩
      exact ⟨h1, h2, h3, h4, by rw [hgender, h5], h6, h7, h8, h9, h10, h11, h12⟩
    · intro h
      have hnone := h.gender
      rw [hgender, Except.ok.injEq] at hnone
      exact ⟨h.species, h.item, h.ability, h.level, hnone, h.ivs, h.evs, h.nature, h.moves,
        h.hiddenPower, h.forme, h.combinations⟩

end SetContext

end TeamLegality
