import TeamLegality.Proofs.Legality.Acceptance

/-!
# Hidden Powers — what the type of an accepted Hidden Power is

The individual values of a set decide the type of its Hidden Power.  The check reads the type from
the first move that is a Hidden Power of a type, and compares it with the values and with what the
set declares; the types of further ones it leaves alone.  So of the Hidden Powers of an accepted set
exactly those fit that have the type of the first (`hiddenPowers_fit_iff`).
-/

namespace TeamLegality

/-- Whether a move is Hidden Power of a type: its identifier goes on behind that of Hidden Power. -/
def Move.isTypedHiddenPower (m : Move) : Bool :=
  Dex.hiddenPowerId.toList.isPrefixOf m.id.toList && m.id ≠ Dex.hiddenPowerId

/-- The Hidden Powers of a type that a dex finds under names, in order. -/
def Dex.typedHiddenPowers (d : Dex) (names : List String) : List Move :=
  (names.filterMap d.findMove?).filter Move.isTypedHiddenPower

/-- A Hidden Power has the type that the individual values of the set give it in a generation, and
the one that the set declares, if it does. -/
structure PokemonSet.GivesHiddenPower (set : PokemonSet) (gen : Int) (m : Move) : Prop where
  type : m.type = (HiddenPower.typeOf set.ivs gen).name
  declared : set.hpType ≠ "" → ∃ t, ElementType.ofName? set.hpType = some t ∧ m.type = t.name

namespace SetContext

variable {c : SetContext} {hook : Option MoveCheck} {m : Move}

/-! ### The check -/

theorem hiddenPowerTypeProblems_eq_nil_iff {type : String} :
    c.hiddenPowerTypeProblems type = [] ↔
      (¬ (7 ≤ c.gen ∧ c.level = 100) → (HiddenPower.typeOf c.set.ivs c.gen).name = type)
      ∧ (type = "Fighting" → c.isSureOfPerfectIvs = false) := by
  have hexempt : (!(decide (7 ≤ c.gen) && c.level == 100)) = true ↔
      ¬ (7 ≤ c.gen ∧ c.level = 100) := by
    rw [Bool.not_eq_true', ← Bool.not_eq_true, Bool.and_eq_true, decide_eq_true_iff, beq_iff_eq]
  unfold hiddenPowerTypeProblems
  simp only [List.append_eq_nil_iff, problemIf_eq_nil_iff, Bool.and_eq_false_imp, hexempt,
    bne_eq_false_iff_eq, beq_iff_eq]

theorem declaredHiddenPower?_eq_some {declared : String}
    (h : c.declaredHiddenPower? = some declared) :
    ∃ t, ElementType.ofName? c.set.hpType = some t ∧ t.name = declared := by
  unfold declaredHiddenPower? at h
  split_ifs at h
  obtain ⟨t, ht, hname⟩ := Option.map_eq_some_iff.mp h
  exact ⟨t, (Option.filter_eq_some_iff.mp ht).1, hname⟩

/-- The type that is read from the moves is that of the first Hidden Power with one. -/
theorem moveHiddenPower?_eq : c.moveHiddenPower? =
    (c.moves.filter Move.isTypedHiddenPower).head?.map (·.type) := by
  unfold moveHiddenPower? hiddenPowers
  rw [List.head?_map, List.filter_filter]
  congr 2
  exact List.filter_congr fun m _ => Bool.and_comm _ _

/-- Where the check finds nothing, the first Hidden Power of a type fits. -/
theorem givesHiddenPower_of_nil (h : c.hiddenPowerProblems = [])
    (hlevel : ¬ (7 ≤ c.gen ∧ c.level = 100))
    (hm : (c.moves.filter Move.isTypedHiddenPower).head? = some m) (htype : m.type ≠ "") :
    c.set.GivesHiddenPower c.gen m := by
  have hmem : m ∈ c.moves.filter Move.isTypedHiddenPower := List.mem_of_head? hm
  have hsome : c.hiddenPowers.isEmpty = false := by
    obtain ⟨hmoves, htyped⟩ := List.mem_filter.mp hmem
    have hhidden : m ∈ c.hiddenPowers :=
      List.mem_filter.mpr ⟨hmoves, (Bool.and_eq_true_iff.mp htyped).1⟩
    simpa using List.ne_nil_of_mem hhidden
  have hmove : c.moveHiddenPower?.filter (· ≠ "") = some m.type := by
    rw [moveHiddenPower?_eq, hm]
    simp [htype]
  unfold hiddenPowerProblems at h
  dsimp only at h
  rw [hmove, hsome, List.append_eq_nil_iff, problemIf_eq_nil_iff, if_neg Bool.false_ne_true,
    List.append_eq_nil_iff] at h
  obtain ⟨hdeclared, hmatch, hivs⟩ := h
  refine ⟨((hiddenPowerTypeProblems_eq_nil_iff.mp hivs).1 hlevel).symm, fun hne => ?_⟩
  cases hd : c.declaredHiddenPower? with
  | none =>
    rw [hd] at hdeclared
    simp [hne] at hdeclared
  | some declared =>
    obtain ⟨t, ht, hname⟩ := declaredHiddenPower?_eq_some hd
    rw [hd] at hmatch
    have heq : m.type = declared := by simpa using hmatch
    exact ⟨t, ht, by rw [heq, hname]⟩

/-! ### The moves of an accepted set -/

/-- Moves that are found and differ are kept as they are. -/
theorem distinctMoves_eq {d : Dex} : ∀ {raws : List String} {found : List Move}
    {seen : List String}, raws.map d.findMove? = found.map some →
      (found.map fun m => m.id).Nodup → (∀ m ∈ found, m.id ∉ seen) →
      distinctMoves d seen raws = found
  | [], found, seen, h, _, _ => by
    rw [distinctMoves, List.map_eq_nil_iff.mp h.symm]
  | raw :: rest, [], seen, h, _, _ => by cases h
  | raw :: rest, move :: found, seen, h, hnodup, hnew => by
    obtain ⟨hmove, hrest⟩ := List.cons.inj h
    obtain ⟨hfirst, hnodup⟩ := List.nodup_cons.mp hnodup
    obtain ⟨hseen, hnew⟩ := List.forall_mem_cons.mp hnew
    have hnew' : ∀ m ∈ found, m.id ∉ move.id :: seen := by
      intro m hm
      rw [List.mem_cons, not_or]
      exact ⟨fun heq => hfirst (List.mem_map.mpr ⟨m, hm, heq⟩), hnew m hm⟩
    rw [distinctMoves, hmove]
    dsimp only
    rw [if_neg (by simpa using hseen), distinctMoves_eq hrest hnodup hnew']

theorem Clean.moves_eq (h : c.Clean hook) : c.moves = c.set.moves.filterMap c.dex.findMove? := by
  obtain ⟨found, hfound, hnodup, -⟩ := h.moves_allowed
  have hfilter : c.set.moves.filterMap c.dex.findMove? = found := by
    simpa using congrArg (List.filterMap id) hfound
  rw [hfilter, SetContext.moves, distinctMoves_eq hfound hnodup fun _ _ => List.not_mem_nil]

end SetContext

namespace Validator

variable {v : Validator} {f : Format} {t : RuleTable} {set : PokemonSet} {s : Session}
  {report : SetReport} {m : Move} {rest : List Move}

/-- **The Hidden Powers of an accepted set.**  Against an existing format, unless the generation is
at least 7 and the level in effect 100, the first Hidden Power of a type has the type that the
individual values give it and the one that the set declares; of the others exactly those do that
have the same type. -/
theorem hiddenPowers_fit_iff (hk : f.isKnown = true) (ht : v.registry.outcome 0 f s = .ok t)
    (hreport : v.setOutcome f set s = .ok report) (hnone : report.problems = [])
    (hlevel : ¬ (7 ≤ (v.registry.dexFor f).gen ∧ set.level.getD f.defaultLevel = 100))
    (hfirst : (v.registry.dexFor f).typedHiddenPowers set.moves = m :: rest)
    (htype : m.type ≠ "") :
    ∀ m' ∈ m :: rest, set.GivesHiddenPower (v.registry.dexFor f).gen m' ↔ m'.type = m.type := by
  rw [setOutcome_eq hk ht] at hreport
  obtain ⟨hook, c, -, hc, hclean, -, -⟩ :=
    report_clean_iff.mp ⟨report, hreport, hnone, rfl, rfl⟩
  obtain ⟨species, -, rfl⟩ := context?_eq_some_iff.mp hc
  have hm : set.GivesHiddenPower (v.registry.dexFor f).gen m := by
    refine SetContext.givesHiddenPower_of_nil hclean.hiddenPower hlevel ?_ htype
    rw [hclean.moves_eq]
    exact congrArg List.head? hfirst
  intro m' _
  constructor
  · intro h
    rw [h.type, hm.type]
  · intro h
    exact ⟨h ▸ hm.type, fun hne => h ▸ hm.declared hne⟩

namespace Sample

/-- The small dex with Hidden Power. -/
def hiddenPowerDex : Dex :=
  { dex with moves := ⟨[("hiddenpower", move "Hidden Power" 237)], by decide⟩ }

/-- The registry of the small records over this dex, if there is one. -/
def hiddenPowerBuilt : Except RegistryError FormatRegistry :=
  FormatRegistry.build {} ⟨[("gen7", hiddenPowerDex)], by decide⟩ .null (records.map .record)

theorem isSome_hiddenPowerBuilt : hiddenPowerBuilt.toOption.isSome = true := by decide +kernel

/-- A validator of these formats. -/
def hiddenPowerValidator : Validator where
  registry := hiddenPowerBuilt.toOption.get isSome_hiddenPowerBuilt
  hooks := validator.hooks
  config := {}

/-- The cup over this dex. -/
def hiddenPowerCup : Format := hiddenPowerValidator.registry.getFormat "cup"

theorem isSome_hiddenPowerOutcome :
    (hiddenPowerValidator.registry.outcome 0 hiddenPowerCup .fresh).toOption.isSome = true := by
  decide +kernel

theorem hiddenPowerOutcome_eq : hiddenPowerValidator.registry.outcome 0 hiddenPowerCup .fresh
    = .ok ((hiddenPowerValidator.registry.outcome 0 hiddenPowerCup .fresh).toOption.get
      isSome_hiddenPowerOutcome) :=
  FormatRegistry.eq_ok_get isSome_hiddenPowerOutcome

/-- A set at level 50 whose individual values are for Hidden Power Fire. -/
def firePikachu (moves : List String) : PokemonSet :=
  { pokemon "Pikachu" "Light Ball" "Static" moves with
    ivs := { StatTable.const 31 with attack := 30, specialAttack := 30, speed := 30 }
    level := some 50 }

theorem firePikachu_not_exempt (moves : List String) :
    ¬ (7 ≤ (hiddenPowerValidator.registry.dexFor hiddenPowerCup).gen
      ∧ (firePikachu moves).level.getD hiddenPowerCup.defaultLevel = 100) :=
  fun h => absurd h.2 (by decide : (50 : Int) ≠ 100)

/-- Hidden Power of a type, as this dex finds it. -/
def hiddenPowerOf (t : ElementType) : Move := Dex.withType (move "Hidden Power" 237) t

end Sample

open Sample in
theorem hiddenPowers_fit_fire : ∃ report, hiddenPowerValidator.setOutcome hiddenPowerCup
      (firePikachu ["Hidden Power Fire"]) .fresh = .ok report
    ∧ report.problems = []
    ∧ (firePikachu ["Hidden Power Fire"]).GivesHiddenPower 7 (hiddenPowerOf .fire) := by
  obtain ⟨report, hreport, hnone⟩ := exists_clean
    (x := hiddenPowerValidator.setOutcome hiddenPowerCup (firePikachu ["Hidden Power Fire"])
      .fresh) (by decide +kernel)
  refine ⟨report, hreport, hnone, ?_⟩
  have hfirst : (hiddenPowerValidator.registry.dexFor hiddenPowerCup).typedHiddenPowers
      ["Hidden Power Fire"] = [hiddenPowerOf .fire] := by decide +kernel
  exact (hiddenPowers_fit_iff (by decide +kernel) hiddenPowerOutcome_eq hreport hnone
    (firePikachu_not_exempt _) hfirst (by decide) _ List.mem_cons_self).mpr rfl

open Sample in
/-- Behind one that fits, a Hidden Power of another type is accepted. -/
theorem second_hiddenPower_overlooked : ∃ report,
    hiddenPowerValidator.setOutcome hiddenPowerCup
      (firePikachu ["Hidden Power Fire", "Hidden Power Ice"]) .fresh = .ok report
    ∧ report.problems = []
    ∧ ¬ (7 ≤ (hiddenPowerValidator.registry.dexFor hiddenPowerCup).gen
      ∧ (firePikachu ["Hidden Power Fire", "Hidden Power Ice"]).level.getD
        hiddenPowerCup.defaultLevel = 100)
    ∧ (hiddenPowerValidator.registry.dexFor hiddenPowerCup).typedHiddenPowers
      ["Hidden Power Fire", "Hidden Power Ice"] = [hiddenPowerOf .fire, hiddenPowerOf .ice]
    ∧ ¬ (firePikachu ["Hidden Power Fire", "Hidden Power Ice"]).GivesHiddenPower 7
      (hiddenPowerOf .ice) := by
  obtain ⟨report, hreport, hnone⟩ := exists_clean
    (x := hiddenPowerValidator.setOutcome hiddenPowerCup
      (firePikachu ["Hidden Power Fire", "Hidden Power Ice"]) .fresh) (by decide +kernel)
  refine ⟨report, hreport, hnone, firePikachu_not_exempt _, by decide +kernel, fun h => ?_⟩
  exact absurd h.type (by decide)

end Validator

end TeamLegality
