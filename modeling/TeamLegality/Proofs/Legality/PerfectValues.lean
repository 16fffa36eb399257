import TeamLegality.Proofs.Legality.HiddenPowers

/-!
# Perfect values — which Hidden Powers three of them leave

After generation 2 the parities of the individual values, with a weight for each stat, decide the
type of a Hidden Power.  Three odd values weigh too much for Fighting, the first of the types, and
every other type has a table with three perfect values.  So where the check of the individual values
insists on three, the problem that the check of the Hidden Power keeps for Fighting is found for
exactly the type that no values allow any more (`fighting_alone_unreachable`).
-/

namespace TeamLegality

theorem ElementType.name_injective : Function.Injective ElementType.name := by
  intro t u h
  cases t <;> cases u <;> first | rfl | exact absurd h (by decide)

/-! ### Parities -/

/-- The number of stats that have a value. -/
def StatTable.countOf (n : Int) (ivs : StatTable) : Nat := Stat.all.countP fun s => ivs.get s = n

/-- All values lie between zero and a highest one. -/
def StatTable.IsWithin (highest : Int) (ivs : StatTable) : Prop :=
  ∀ s, 0 ≤ ivs.get s ∧ ivs.get s ≤ highest

namespace HiddenPower

variable {ivs : StatTable} {gen : Int} {t : ElementType}

theorem typeOf_of_three_le (h : 3 ≤ gen) (ivs : StatTable) : typeOf ivs gen = typeByParity ivs :=
  if_neg (by omega)

theorem typeAt_injective : Function.Injective typeAt :=
  List.nodup_iff_injective_get.mp (by decide : types.Nodup)

/-- Each type belongs to a range of sums. -/
theorem typeByParity_eq_typeAt_iff {i : Fin 16} : typeByParity ivs = typeAt i ↔
    63 * (i : Int) ≤ 15 * paritySum ivs ∧ 15 * paritySum ivs < 63 * ((i : Int) + 1) := by
  have hbounds := paritySum_bounds ivs
  unfold typeByParity
  rw [typeAt_injective.eq_iff, Fin.ext_iff]
  dsimp only
  omega

theorem typeByParity_eq_fighting_iff : typeByParity ivs = .fighting ↔ paritySum ivs ≤ 4 := by
  have hfirst : ElementType.fighting = typeAt ⟨0, by decide⟩ := rfl
  have hbounds := paritySum_bounds ivs
  rw [hfirst, typeByParity_eq_typeAt_iff]
  dsimp only
  omega

/-- Three odd values weigh at least as much as the three lightest stats. -/
theorem seven_le_paritySum (h : 3 ≤ ivs.countOf 31) : 7 ≤ paritySum ivs := by
  let bit (s : Stat) : Nat := if ivs.get s = 31 then 1 else 0
  have hbit : ∀ s, bit s ≤ 1 ∧ (bit s : Int) ≤ ivs.get s % 2 := by
    intro s
    dsimp only [bit]
    split_ifs <;> omega
  have hcount : ivs.countOf 31 = bit .hp + bit .attack + bit .defense + bit .specialAttack
      + bit .specialDefense + bit .speed := by
    simp [StatTable.countOf, Stat.all, List.countP_cons, bit]
    omega
  have hhp := hbit .hp
  have hattack := hbit .attack
  have hdefense := hbit .defense
  have hspecialAttack := hbit .specialAttack
  have hspecialDefense := hbit .specialDefense
  have hspeed := hbit .speed
  simp only [StatTable.get] at hhp hattack hdefense hspecialAttack hspecialDefense hspeed
  unfold paritySum
  omega

theorem typeByParity_ne_fighting (h : 3 ≤ ivs.countOf 31) : typeByParity ivs ≠ .fighting := by
  rw [ne_eq, typeByParity_eq_fighting_iff]
  have hsum := seven_le_paritySum h
  omega

/-- For each type but the first, in order, a table with three perfect values. -/
def perfectTables : List StatTable :=
  [⟨31, 31, 31, 0, 0, 0⟩, ⟨31, 31, 0, 0, 0, 31⟩, ⟨31, 0, 31, 0, 0, 31⟩, ⟨31, 31, 0, 31, 0, 0⟩,
   ⟨31, 0, 31, 31, 0, 0⟩, ⟨0, 31, 0, 31, 0, 31⟩, ⟨0, 1, 31, 31, 0, 31⟩, ⟨31, 31, 0, 0, 31, 0⟩,
   ⟨0, 31, 31, 0, 31, 0⟩, ⟨0, 31, 0, 0, 31, 31⟩, ⟨31, 0, 0, 31, 31, 0⟩, ⟨0, 0, 31, 31, 31, 0⟩,
   ⟨0, 0, 0, 31, 31, 31⟩, ⟨0, 0, 1, 31, 31, 31⟩, ⟨1, 1, 1, 31, 31, 31⟩]

theorem map_typeByParity_perfectTables : perfectTables.map typeByParity = types.tail := by decide

theorem countOf_of_mem_perfectTables (h : ivs ∈ perfectTables) : ivs.countOf 31 = 3 :=
  (by decide : ∀ ivs ∈ perfectTables, ivs.countOf 31 = 3) ivs h

theorem isWithin_of_mem_perfectTables (h : ivs ∈ perfectTables) : ivs.IsWithin 31 := fun s =>
  (by decide : ∀ ivs ∈ perfectTables, ∀ s ∈ Stat.all, 0 ≤ ivs.get s ∧ ivs.get s ≤ 31)
    ivs h s (Stat.mem_all s)

/-- Every type but Fighting can be had with three perfect values. -/
theorem exists_perfectTable (ht : t ∈ types) (hne : t ≠ .fighting) :
    ∃ ivs : StatTable, ivs.countOf 31 = 3 ∧ ivs.IsWithin 31 ∧ typeByParity ivs = t := by
  have htail : t ∈ perfectTables.map typeByParity := by
    rw [map_typeByParity_perfectTables]
    exact (List.mem_cons.mp ht).resolve_left hne
  obtain ⟨ivs, hmem, htype⟩ := List.mem_map.mp htail
  exact ⟨ivs, countOf_of_mem_perfectTables hmem, isWithin_of_mem_perfectTables hmem, htype⟩

end HiddenPower

namespace SetContext

variable {c : SetContext} {ivs : StatTable} {type : String}

/-! ### The check of the individual values -/

/-- The same question about a set with other individual values. -/
def withIvs (c : SetContext) (ivs : StatTable) : SetContext :=
  { c with set := { c.set with ivs } }

/-- The check of the individual values finds nothing against these. -/
def AllowsIvs (c : SetContext) (ivs : StatTable) : Prop := (c.withIvs ivs).ivProblems = []

theorem ivProblems_eq_nil_iff (hgen : 3 ≤ c.gen) : c.ivProblems = [] ↔
    c.set.ivs.IsWithin c.config.maxIv ∧ (c.isSureOfPerfectIvs = true → 3 ≤ c.perfectCount) := by
  unfold ivProblems
  rw [if_pos hgen, List.append_nil, List.append_eq_nil_iff, rangeProblems_eq_nil_iff,
    problemIf_eq_nil_iff, Bool.and_eq_false_imp]
  simp [StatTable.IsWithin]

/-- Values above the highest count as perfect too, but are not within the limits. -/
theorem perfectCount_of_isWithin (h : c.set.ivs.IsWithin c.config.maxIv) :
    c.perfectCount = c.set.ivs.countOf c.config.maxIv := by
  unfold perfectCount StatTable.countOf
  rw [← List.countP_eq_length_filter]
  refine List.countP_congr fun s _ => ?_
  have hs := (h s).2
  simp only [decide_eq_true_eq]
  omega

theorem allowsIvs_iff (hgen : 3 ≤ c.gen) : c.AllowsIvs ivs ↔ ivs.IsWithin c.config.maxIv
    ∧ (c.isSureOfPerfectIvs = true → 3 ≤ ivs.countOf c.config.maxIv) := by
  refine (ivProblems_eq_nil_iff (c := c.withIvs ivs) hgen).trans (and_congr_right fun h => ?_)
  rw [perfectCount_of_isWithin h]
  rfl

/-- Fighting is not to be had exactly where three perfect values are asked for. -/
theorem fighting_unreachable_iff (hgen : 3 ≤ c.gen) (hmax : c.config.maxIv = 31) :
    (∀ ivs, c.AllowsIvs ivs → HiddenPower.typeByParity ivs ≠ .fighting)
      ↔ c.isSureOfPerfectIvs = true := by
  constructor
  · intro h
    by_contra hsure
    -- All values may be zero where no perfect ones are asked for.
    have hzero : c.AllowsIvs (.const 0) := by
      rw [allowsIvs_iff hgen, hmax]
      exact ⟨fun s => by simp, fun hsure' => absurd hsure' hsure⟩
    exact h _ hzero (by decide)
  · intro hsure ivs hallows
    have hcount := ((allowsIvs_iff hgen).mp hallows).2 hsure
    exact HiddenPower.typeByParity_ne_fighting (hmax ▸ hcount)

/-- Every other type can be had wherever it is asked for. -/
theorem reachable_of_ne_fighting (hgen : 3 ≤ c.gen) (hmax : c.config.maxIv = 31) {t : ElementType}
    (ht : t ∈ HiddenPower.types) (hne : t ≠ .fighting) :
    ∃ ivs, c.AllowsIvs ivs ∧ HiddenPower.typeByParity ivs = t := by
  obtain ⟨ivs, hcount, hwithin, htype⟩ := HiddenPower.exists_perfectTable ht hne
  refine ⟨ivs, (allowsIvs_iff hgen).mpr ?_, htype⟩
  rw [hmax]
  exact ⟨hwithin, fun _ => hcount.ge⟩

/-! ### The problem kept for Fighting -/

/-- The type of Hidden Power that the check goes by: that of the moves, or else the one declared. -/
def checkedHiddenPower? (c : SetContext) : Option String :=
  if c.hiddenPowers.isEmpty then none
  else c.moveHiddenPower?.filter (· ≠ "") <|> c.declaredHiddenPower?

/-- The problem of Fighting where three perfect values are asked for. -/
def fightingProblem (c : SetContext) : String :=
  s!"{c.name} can't have Hidden Power Fighting because it must have "
    ++ "at least three perfect IVs as a legendary."

/-- The other problem of this check goes on another way behind the name of the set. -/
theorem fightingProblem_mem_typeProblems_iff : c.fightingProblem ∈ c.hiddenPowerTypeProblems type
    ↔ type = "Fighting" ∧ c.isSureOfPerfectIvs = true := by
  unfold hiddenPowerTypeProblems
  dsimp only
  rw [List.mem_append, mem_problemIf_iff, mem_problemIf_iff, or_iff_right, Bool.and_eq_true,
    beq_iff_eq, and_iff_left]
  · rfl
  · rintro ⟨-, heq⟩
    simp [fightingProblem, toString, ← String.toList_inj] at heq

/-- **The problem is found for Fighting alone**, where three perfect values are asked for. -/
theorem fightingProblem_mem_iff : c.fightingProblem ∈ c.hiddenPowerProblems
    ↔ c.checkedHiddenPower? = some "Fighting" ∧ c.isSureOfPerfectIvs = true := by
  have hinvalid : c.fightingProblem
      ∉ problemIf (c.set.hpType ≠ "" && c.declaredHiddenPower?.isNone)
        s!"{c.name}'s Hidden Power type ({c.set.hpType}) is invalid." := by
    rw [mem_problemIf_iff]
    rintro ⟨-, heq⟩
    simp [fightingProblem, toString, ← String.toList_inj] at heq
  unfold hiddenPowerProblems checkedHiddenPower?
  dsimp only
  rw [List.mem_append, or_iff_right hinvalid]
  cases c.hiddenPowers.isEmpty with
  | true => simp
  | false =>
    rw [if_neg Bool.false_ne_true, if_neg Bool.false_ne_true, List.mem_append, or_iff_right]
    · cases c.moveHiddenPower?.filter (· ≠ "") <|> c.declaredHiddenPower? with
      | none => simp
      | some type => simp [fightingProblem_mem_typeProblems_iff]
    · intro hmem
      split at hmem
      · rw [mem_problemIf_iff] at hmem
        simp [fightingProblem, toString, ← String.toList_inj] at hmem
      · exact List.not_mem_nil hmem

end SetContext

/-- **Fighting alone is unreachable, and is excluded.**  After generation 2, three values of 31
never give Fighting, and each other type is given by a table within the limits with three values of
31.  So where 31 is the highest value, the problem that is kept for Fighting is found exactly when
no individual values that are allowed to the set give the type that the check goes by. -/
theorem HiddenPower.fighting_alone_unreachable {gen : Int} (hgen : 3 ≤ gen) :
    (∀ ivs : StatTable, 3 ≤ ivs.countOf 31 → typeOf ivs gen ≠ .fighting)
    ∧ (∀ t ∈ types, t ≠ .fighting →
      ∃ ivs : StatTable, ivs.countOf 31 = 3 ∧ ivs.IsWithin 31 ∧ typeOf ivs gen = t)
    ∧ ∀ c : SetContext, c.gen = gen → c.config.maxIv = 31 → ∀ t ∈ types,
      c.checkedHiddenPower? = some t.name →
        (c.fightingProblem ∈ c.hiddenPowerProblems ↔ ∀ ivs, c.AllowsIvs ivs → typeOf ivs gen ≠ t)
    := by
  simp only [typeOf_of_three_le hgen]
  refine ⟨fun ivs => typeByParity_ne_fighting, fun t => exists_perfectTable, ?_⟩
  rintro c rfl hmax t ht hchecked
  rw [SetContext.fightingProblem_mem_iff, hchecked]
  by_cases hfighting : t = .fighting
  · subst hfighting
    exact (and_iff_right rfl).trans (SetContext.fighting_unreachable_iff hgen hmax).symm
  · refine iff_of_false ?_ fun hnone => ?_
    · rintro ⟨hname, -⟩
      exact hfighting (ElementType.name_injective (Option.some.inj hname))
    · obtain ⟨ivs, hallows, htype⟩ := SetContext.reachable_of_ne_fighting hgen hmax ht hfighting
      exact hnone ivs hallows htype

namespace Validator.Sample

/-- A legendary species at its best, with Hidden Power Fighting.  At the highest level its
individual values do not count against it. -/
def manaphy : SetContext where
  set := pokemon "Manaphy" "" "Hydration" ["Hidden Power Fighting"]
  format := hiddenPowerCup
  table := table
  dex := hiddenPowerDex
  species := species "Manaphy" 490 "Hydration" ""
  config := {}

end Validator.Sample

open Validator.Sample in
theorem HiddenPower.fighting_alone_unreachable_manaphy :
    manaphy.checkedHiddenPower? = some "Fighting"
    ∧ manaphy.fightingProblem ∈ manaphy.hiddenPowerProblems
    ∧ (∀ ivs, manaphy.AllowsIvs ivs → typeOf ivs 7 ≠ .fighting)
    ∧ typeOf ⟨31, 31, 31, 0, 0, 0⟩ 7 ≠ .fighting
    ∧ ∃ ivs : StatTable, ivs.countOf 31 = 3 ∧ ivs.IsWithin 31 ∧ typeOf ivs 7 = .dark := by
  obtain ⟨hperfect, hothers, hexcluded⟩ := fighting_alone_unreachable (by decide : (3 : Int) ≤ 7)
  have hchecked : manaphy.checkedHiddenPower? = some "Fighting" := by decide +kernel
  have hproblem : manaphy.fightingProblem ∈ manaphy.hiddenPowerProblems :=
    SetContext.fightingProblem_mem_iff.mpr ⟨hchecked, by decide⟩
  exact ⟨hchecked, hproblem, (hexcluded manaphy rfl rfl .fighting (by decide) hchecked).mp hproblem,
    hperfect _ (by decide), hothers .dark (by decide) (by decide)⟩

end TeamLegality
