import TeamLegality.Proofs.Legality.Reports
import TeamLegality.Proofs.Rule.Grouping

/-!
# Acceptance — what a set without problems is sure of

A report without problems vouches for each part of the set (`fits_of_clean`): what the set names is
found in the dex of the format and is not banned by the table, its values are within their limits,
and its features fall under no combination that the table forbids.
-/

namespace TeamLegality

/-- A set of that species, with those features, that a table has nothing against. -/
structure Fits (dex : Dex) (config : Config) (t : RuleTable) (set : PokemonSet) (species : Species)
    (features : List Target) : Prop where
  species_found : dex.findSpecies? set.species = some species
  species_allowed : t.speciesReason species = ""
  no_item : dex.gen < 2 → set.item = ""
  item : 2 ≤ dex.gen → set.item ≠ "" → ∃ item : Item, dex.findItem? set.item = some item
    ∧ t.has (.ban (.entry .item item.id)) = false
  no_ability : dex.gen < 3 → set.ability = ""
  ability : 3 ≤ dex.gen → ∃ ability : Ability, dex.findAbility? set.ability = some ability
    ∧ ability.id ∈ species.abilityIds ∧ t.has (.ban (.entry .ability ability.id)) = false
  move_count : 1 ≤ set.moves.length ∧ set.moves.length ≤ config.maxMoves
  moves : ∃ moves : List Move, set.moves.map dex.findMove? = moves.map some
    ∧ (moves.map fun m => m.id).Nodup ∧ ∀ m ∈ moves, t.has (.ban (.entry .move m.id)) = false
  ivs : ∀ stat, 0 ≤ set.ivs.get stat ∧ set.ivs.get stat ≤ config.maxIv
  evs : ∀ stat, 0 ≤ set.evs.get stat ∧ set.evs.get stat ≤ config.maxEv
  total_evs : 3 ≤ dex.gen → set.evs.total ≤ config.maxTotalEvs
  combinations : ∀ c ∈ t.complexBans, ∀ limit, c.limit = .forbidden limit →
    (limit = 0 → ¬ Ban.Covers c.targets features)
      ∧ (limit ≠ 0 → Target.countIn features c.targets ≤ limit)

namespace SetContext.Clean

variable {c : SetContext} {hook : Option MoveCheck}

theorem species_allowed (h : c.Clean hook) : c.table.speciesReason c.species = "" :=
  (speciesProblems_eq_nil_iff.mp h.species).1

theorem no_item (h : c.Clean hook) (hgen : c.gen < 2) : c.set.item = "" := by
  rcases itemProblems_eq_nil_iff.mp h.item with hitem | ⟨hgen', -⟩
  · exact hitem
  · omega

theorem item_allowed (h : c.Clean hook) (hitem : c.set.item ≠ "") :
    ∃ item : Item, c.dex.findItem? c.set.item = some item
      ∧ c.table.has (.ban (.entry .item item.id)) = false := by
  obtain ⟨-, item, hfound, hproblems⟩ :=
    (itemProblems_eq_nil_iff.mp h.item).resolve_left hitem
  exact ⟨item, hfound, (foundItemProblems_eq_nil_iff.mp hproblems).1⟩

theorem no_ability (h : c.Clean hook) (hgen : c.gen < 3) : c.set.ability = "" :=
  (abilityProblems_eq_nil_iff.mp h.ability).1 hgen

theorem ability_allowed (h : c.Clean hook) (hgen : 3 ≤ c.gen) :
    ∃ ability : Ability, c.dex.findAbility? c.set.ability = some ability
      ∧ ability.id ∈ c.species.abilityIds
      ∧ c.table.has (.ban (.entry .ability ability.id)) = false := by
  obtain ⟨ability, -, hfound, hproblems⟩ := (abilityProblems_eq_nil_iff.mp h.ability).2 hgen
  obtain ⟨hban, -, -, hown, -⟩ := foundAbilityProblems_eq_nil_iff.mp hproblems
  exact ⟨ability, hfound, hown, hban⟩

theorem move_count (h : c.Clean hook) :
    1 ≤ c.set.moves.length ∧ c.set.moves.length ≤ c.config.maxMoves := by
  obtain ⟨hsome, hcount, -⟩ := moveProblems_eq_nil_iff.mp h.moves
  exact ⟨List.length_pos_iff.mpr hsome, hcount⟩

theorem moves_allowed (h : c.Clean hook) :
    ∃ moves : List Move, c.set.moves.map c.dex.findMove? = moves.map some
      ∧ (moves.map fun m => m.id).Nodup
      ∧ ∀ m ∈ moves, c.table.has (.ban (.entry .move m.id)) = false := by
  obtain ⟨-, -, heach, -⟩ := moveProblems_eq_nil_iff.mp h.moves
  obtain ⟨moves, hfound, hnodup, -, hrules⟩ := eachMoveProblems_eq_nil_iff.mp heach
  exact ⟨moves, hfound, hnodup,
    fun m hm => (moveRuleProblems_eq_nil_iff.mp (hrules m hm).2).2.1⟩

theorem ivs_in_range (h : c.Clean hook) (stat : Stat) :
    0 ≤ c.set.ivs.get stat ∧ c.set.ivs.get stat ≤ c.config.maxIv := by
  have hivs := h.ivs
  unfold ivProblems at hivs
  simp only [List.append_eq_nil_iff] at hivs
  exact rangeProblems_eq_nil_iff.mp hivs.1.1 stat

theorem evs_in_range (h : c.Clean hook) (stat : Stat) :
    0 ≤ c.set.evs.get stat ∧ c.set.evs.get stat ≤ c.config.maxEv := by
  have hevs := h.evs
  unfold evProblems at hevs
  exact rangeProblems_eq_nil_iff.mp (List.append_eq_nil_iff.mp hevs).1 stat

theorem total_evs (h : c.Clean hook) (hgen : 3 ≤ c.gen) :
    c.set.evs.total ≤ c.config.maxTotalEvs := by
  have hevs := h.evs
  unfold evProblems at hevs
  have htotal := (List.append_eq_nil_iff.mp hevs).2
  rw [if_pos hgen, problemIf_eq_nil_iff] at htotal
  simpa using htotal

theorem combinations_allowed (h : c.Clean hook) {combination : Combination}
    (hc : combination ∈ c.table.complexBans) {limit : Int}
    (hl : combination.limit = .forbidden limit) :
    (limit = 0 → ¬ Ban.Covers combination.targets c.features)
      ∧ (limit ≠ 0 → Target.countIn c.features combination.targets ≤ limit) := by
  have hall := complexBanProblems_eq_nil_iff.mp h.combinations combination hc
  obtain ⟨hmatch, hcount⟩ := combinationProblems_eq_nil_iff.mp hall limit hl
  rw [Ban.count_ofTargets] at hcount
  refine ⟨fun h0 hcovers => ?_, hcount⟩
  rw [Ban.isMatchedBy_ofTargets.mpr hcovers] at hmatch
  cases hmatch h0

end SetContext.Clean

namespace Validator

variable {v : Validator} {f : Format} {t : RuleTable} {set : PokemonSet} {s : Session}
  {report : SetReport}

/-- **A set is accepted only if it fits.**  In whatever session a set is checked without a problem
against an existing format, its species is found and the table of the format has nothing against
any part of it. -/
theorem fits_of_accepted (hk : f.isKnown = true) (ht : v.registry.outcome 0 f s = .ok t)
    (hreport : v.setOutcome f set s = .ok report) (hnone : report.problems = []) :
    ∃ species, report.species = some species
      ∧ Fits (v.registry.dexFor f) v.config t set species report.features := by
  rw [setOutcome_eq hk ht] at hreport
  obtain ⟨hook, c, -, hc, hclean, hfeatures, hspecies⟩ :=
    report_clean_iff.mp ⟨report, hreport, hnone, rfl, rfl⟩
  obtain ⟨species, hfound, rfl⟩ := context?_eq_some_iff.mp hc
  refine ⟨species, hspecies.symm, ?_⟩
  rw [← hfeatures]
  exact {
    species_found := hfound
    species_allowed := hclean.species_allowed
    no_item := hclean.no_item
    item := fun _ => hclean.item_allowed
    no_ability := hclean.no_ability
    ability := hclean.ability_allowed
    move_count := hclean.move_count
    moves := hclean.moves_allowed
    ivs := hclean.ivs_in_range
    evs := hclean.evs_in_range
    total_evs := hclean.total_evs
    combinations := fun _ hc _ => hclean.combinations_allowed hc }

/-- Snorlax with Leftovers is accepted, although the cup forbids Leftovers to Pikachu. -/
theorem fits_of_accepted_snorlax :
    ∃ report, Sample.validator.setOutcome Sample.cup Sample.snorlax .fresh = .ok report
      ∧ report.problems = [] ∧ ∃ species, report.species = some species
        ∧ Fits (Sample.validator.registry.dexFor Sample.cup) Sample.validator.config Sample.table
          Sample.snorlax species report.features := by
  obtain ⟨report, hreport, hnone⟩ := Sample.exists_clean
    (x := Sample.validator.setOutcome Sample.cup Sample.snorlax .fresh) (by decide +kernel)
  exact ⟨report, hreport, hnone,
    fits_of_accepted Sample.isKnown_cup Sample.outcome_eq hreport hnone⟩

end Validator

end TeamLegality
