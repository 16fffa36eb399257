import TeamLegality.Proofs.Legality.Reports
import TeamLegality.Proofs.Legality.Wording

/-!
# Features — what a set has does not depend on the rules

The features of a set are those that its species, its item, its ability and its moves have in the
dex (`SetContext.mem_features_iff`).  No table is asked for them: a ban, a clause or a legality
check may object to what it finds, and the feature is recorded all the same.  So two reports on a
set agree about its features whenever their formats are played in the same dex
(`Validator.features_independent`).
-/

namespace TeamLegality

open SessionM

/-- The features that a set of that species has in a dex. -/
inductive PokemonSet.Has (set : PokemonSet) (d : Dex) (species : Species) : Target → Prop where
  | species : set.Has d species (.entry .pokemon species.id)
  | baseSpecies : set.Has d species (.entry .baseSpecies (Text.toId species.baseSpecies))
  | tier : Text.toId species.tier ≠ "" → set.Has d species (.entry .tag (Text.toId species.tier))
  | mega : species.isMega = true → set.Has d species (.entry .tag "mega")
  | item {item : Item} : 2 ≤ d.gen → d.findItem? set.item = some item →
      set.Has d species (.entry .item item.id)
  | ability {ability : Ability} : 3 ≤ d.gen → d.findAbility? set.ability = some ability →
      set.Has d species (.entry .ability ability.id)
  | move {name : String} {move : Move} : name ∈ set.moves → d.findMove? name = some move →
      set.Has d species (.entry .move move.id)

/-! ### Features of a context -/

theorem Species.mem_features_iff {s : Species} {target : Target} : target ∈ s.features ↔
    target = .entry .pokemon s.id ∨ target = .entry .baseSpecies (Text.toId s.baseSpecies)
      ∨ (Text.toId s.tier ≠ "" ∧ target = .entry .tag (Text.toId s.tier))
      ∨ (s.isMega = true ∧ target = .entry .tag "mega") := by
  unfold features
  by_cases htier : Text.toId s.tier = "" <;> by_cases hmega : s.isMega = true <;>
    simp [htier, hmega]

namespace SetContext

variable {c : SetContext} {d : Dex} {id : String} {target : Target}

/-- What a scan of names keeps is, with what was seen before it, all that is found: what it leaves
out it has seen. -/
theorem mem_distinctMoves_iff : ∀ seen raws : List String,
    id ∈ seen ∨ id ∈ (distinctMoves d seen raws).map (·.id)
      ↔ id ∈ seen ∨ ∃ raw ∈ raws, ∃ m, d.findMove? raw = some m ∧ m.id = id
  | seen, [] => by simp [distinctMoves]
  | seen, raw :: rest => by
    rw [distinctMoves]
    simp only [List.mem_cons, exists_eq_or_imp]
    cases hfound : d.findMove? raw with
    | none =>
      rw [mem_distinctMoves_iff seen rest]
      simp only [reduceCtorEq, false_and, exists_false, false_or]
    | some m =>
      simp only [Option.some.injEq, exists_eq_left']
      split_ifs with hseen
      · have habsorb : m.id = id → id ∈ seen := fun h => h ▸ List.contains_iff_mem.mp hseen
        rw [mem_distinctMoves_iff seen rest, or_left_comm]
        exact (or_iff_right_of_imp fun h => .inl (habsorb h)).symm
      · have ih := mem_distinctMoves_iff (m.id :: seen) rest
        rw [List.mem_cons, eq_comm, or_assoc, or_assoc] at ih
        rw [List.map_cons, List.mem_cons, eq_comm, or_left_comm, ih, or_left_comm]

/-- The checks of the moves one by one scan them as the features do: after some names, the
identifiers that they have seen are those of the moves that `distinctMoves` keeps of these names. -/
theorem eachMoveProblems_append (hook : Option MoveCheck) (rest : List String) :
    ∀ seen raws : List String, c.eachMoveProblems hook seen (raws ++ rest)
      = c.eachMoveProblems hook seen raws
        ++ c.eachMoveProblems hook (((distinctMoves c.dex seen raws).map (·.id)).reverse ++ seen) rest
  | _, [] => rfl
  | seen, raw :: raws => by
    have ih := fun seen => eachMoveProblems_append hook rest seen raws
    rw [List.cons_append, eachMoveProblems, eachMoveProblems, distinctMoves]
    cases c.dex.findMove? raw with
    | none =>
      dsimp only
      rw [ih, List.cons_append]
    | some move =>
      dsimp only
      split_ifs with hseen
      · rw [ih, List.cons_append]
      · rw [ih, List.map_cons, List.reverse_cons]
        simp only [List.append_assoc, List.singleton_append]

theorem mem_moveIds_iff :
    id ∈ c.moveIds ↔ ∃ raw ∈ c.set.moves, ∃ m, c.dex.findMove? raw = some m ∧ m.id = id := by
  have h := @mem_distinctMoves_iff c.dex id [] c.set.moves
  simp only [List.not_mem_nil, false_or] at h
  exact h

theorem item?_eq_some_iff {item : Item} :
    c.item? = some item ↔ 2 ≤ c.gen ∧ c.dex.findItem? c.set.item = some item := by
  rw [item?_eq]
  split_ifs with hgen
  · simp [not_le.mpr hgen]
  · simp [not_lt.mp hgen]

theorem ability?_eq_some_iff {ability : Ability} :
    c.ability? = some ability ↔ 3 ≤ c.gen ∧ c.dex.findAbility? c.set.ability = some ability := by
  rw [ability?_eq]
  split_ifs with hgen
  · simp [not_le.mpr hgen]
  · simp [not_lt.mp hgen]

/-- **The features of a context** are those that the set has in the dex. -/
theorem mem_features_iff : target ∈ c.features ↔ c.set.Has c.dex c.species target := by
  unfold features
  simp only [List.mem_eraseDups, List.mem_append, List.mem_map, Option.mem_toList,
    Species.mem_features_iff, item?_eq_some_iff, ability?_eq_some_iff, mem_moveIds_iff]
  constructor
  · rintro (((((rfl | rfl | ⟨htier, rfl⟩ | ⟨hmega, rfl⟩) | ⟨item, ⟨hgen, hitem⟩, rfl⟩)
      | ⟨ability, ⟨hgen, hability⟩, rfl⟩) | ⟨_, ⟨name, hname, move, hmove, rfl⟩, rfl⟩))
    · exact .species
    · exact .baseSpecies
    · exact .tier htier
    · exact .mega hmega
    · exact .item hgen hitem
    · exact .ability hgen hability
    · exact .move hname hmove
  · intro h
    cases h with
    | species => exact .inl (.inl (.inl (.inl rfl)))
    | baseSpecies => exact .inl (.inl (.inl (.inr (.inl rfl))))
    | tier htier => exact .inl (.inl (.inl (.inr (.inr (.inl ⟨htier, rfl⟩)))))
    | mega hmega => exact .inl (.inl (.inl (.inr (.inr (.inr ⟨hmega, rfl⟩)))))
    | item hgen hitem => exact .inl (.inl (.inr ⟨_, ⟨hgen, hitem⟩, rfl⟩))
    | ability hgen hability => exact .inl (.inr ⟨_, ⟨hgen, hability⟩, rfl⟩)
    | move hname hmove => exact .inr ⟨_, ⟨_, hname, _, hmove, rfl⟩, rfl⟩

theorem nodup_features : c.features.Nodup := nodup_eraseDups _

/-- Features are found without the table, the format and the limits of the context. -/
theorem features_congr {c c' : SetContext} (hset : c'.set = c.set) (hdex : c'.dex = c.dex)
    (hspecies : c'.species = c.species) : c'.features = c.features := by
  cases c
  cases c'
  cases hset
  cases hdex
  cases hspecies
  rfl

end SetContext

/-! ### Features of a report -/

namespace Validator

variable {v w : Validator} {f g : Format} {t : RuleTable} {set : PokemonSet} {s s' : Session}
  {r r' : SetReport}

/-- A set that is checked has a report against some table. -/
theorem exists_report_of_setOutcome (hk : f.isKnown = true) (h : v.setOutcome f set s = .ok r) :
    ∃ t, v.report f t set = .ok r := by
  obtain ⟨s₁, hrun⟩ : ∃ s₁, (v.checkSet f set).run.run s = (.ok r, s₁) := ⟨_, Prod.ext h rfl⟩
  rw [checkSet_of_known hk] at hrun
  obtain ⟨t, s₂, -, hrun⟩ := run_bind_ok.mp hrun
  refine ⟨t, ?_⟩
  cases hreport : v.report f t set with
  | error e =>
    rw [hreport] at hrun
    cases hrun
  | ok r' =>
    rw [hreport] at hrun
    cases hrun
    rfl

theorem context?_of_unknown (h : (v.registry.dexFor f).findSpecies? set.species = none) :
    v.context? f t set = none := by
  rw [context?, h, Option.map_none]

theorem exists_context_of_known {species : Species}
    (h : (v.registry.dexFor f).findSpecies? set.species = some species) :
    ∃ c, v.context? f t set = some c ∧ c.set = set ∧ c.dex = v.registry.dexFor f
      ∧ c.species = species := by
  rw [context?, h, Option.map_some]
  exact ⟨_, rfl, rfl, rfl, rfl⟩

/-- A report on a set of a known species has the features of what the set was checked against. -/
theorem features_of_known {c : SetContext} (h : v.report f t set = .ok r)
    (hc : v.context? f t set = some c) : r.features = c.features := by
  cases hhook : v.hookFor t with
  | error failure =>
    rw [report_of_unregistered hhook] at h
    cases h
  | ok hook =>
    rw [report_of_known hhook hc] at h
    cases hp : c.problems hook with
    | error cause =>
      rw [hp] at h
      cases h
    | ok problems =>
      rw [hp] at h
      rw [← Except.ok.inj h]

theorem features_of_unknown (h : v.report f t set = .ok r) (hc : v.context? f t set = none) :
    r.features = [] := by
  cases hhook : v.hookFor t with
  | error failure =>
    rw [report_of_unregistered hhook] at h
    cases h
  | ok hook =>
    obtain ⟨problem, hr⟩ := report_of_unknown hhook hc
    rw [hr] at h
    cases h
    rfl

/-- **Features depend on the set and the dex alone.**  Two checks of a set that both come to a report
agree about its features, whatever the formats ask for, if these are played in the same dex.  There
are no features of a set whose species is unknown; otherwise they are those that the set has, each
once. -/
theorem features_independent (hregistry : w.registry = v.registry) (hmod : g.mod = f.mod)
    (hf : f.isKnown = true) (hg : g.isKnown = true) (hr : v.setOutcome f set s = .ok r)
    (hr' : w.setOutcome g set s' = .ok r') :
    r'.features = r.features
      ∧ ((v.registry.dexFor f).findSpecies? set.species = none → r.features = [])
      ∧ ∀ species, (v.registry.dexFor f).findSpecies? set.species = some species →
        r.features.Nodup
          ∧ ∀ target, target ∈ r.features ↔ set.Has (v.registry.dexFor f) species target := by
  obtain ⟨t, ht⟩ := exists_report_of_setOutcome hf hr
  obtain ⟨t', ht'⟩ := exists_report_of_setOutcome hg hr'
  have hdex : w.registry.dexFor g = v.registry.dexFor f := by
    rw [hregistry, FormatRegistry.dexFor, FormatRegistry.dexFor, hmod]
  cases hspecies : (v.registry.dexFor f).findSpecies? set.species with
  | none =>
    rw [features_of_unknown ht (context?_of_unknown hspecies),
      features_of_unknown ht' (context?_of_unknown (hdex ▸ hspecies))]
    exact ⟨rfl, fun _ => rfl, fun _ h => absurd h.symm (Option.some_ne_none _)⟩
  | some species =>
    obtain ⟨c, hc, hset, hcdex, hcspecies⟩ := exists_context_of_known (t := t) hspecies
    obtain ⟨c', hc', hset', hcdex', hcspecies'⟩ :=
      exists_context_of_known (v := w) (f := g) (t := t') (hdex ▸ hspecies)
    rw [features_of_known ht hc, features_of_known ht' hc']
    refine ⟨SetContext.features_congr (hset'.trans hset.symm)
      (hcdex'.trans (hdex.trans hcdex.symm)) (hcspecies'.trans hcspecies.symm), nofun, ?_⟩
    rintro _ ⟨⟩
    rw [← hset, ← hcdex, ← hcspecies]
    exact ⟨SetContext.nodup_features, fun _ => SetContext.mem_features_iff⟩

namespace Sample

/-- A set with a move twice, a move that is not learned and one that is unknown. -/
def careless : PokemonSet :=
  pokemon "Pikachu" "Leftovers" "Static" ["Surf", "Body Slam", "Surf", "Splash"]

/-- A validator of the same formats, without legality checks and with a narrow limit. -/
def lenient : Validator := { validator with hooks := .empty, config := { maxMoves := 2 } }

/-- A format that bans nothing. -/
def clause : Format := lenient.registry.getFormat "speciesclause"

end Sample

open Sample in
/-- Two reports that find different problems, and the same features. -/
theorem features_independent_careless : ∃ r r',
    validator.setOutcome cup careless .fresh = .ok r
      ∧ lenient.setOutcome clause careless .fresh = .ok r'
      ∧ r.problems.length = 4 ∧ r'.problems.length = 3 ∧ r'.features = r.features
      ∧ ∀ target, target ∈ r.features
        ↔ careless.Has (validator.registry.dexFor cup) (species "Pikachu" 25 "Static" "Pichu")
          target := by
  have hcup : (validator.setOutcome cup careless .fresh).toOption.map (·.problems.length)
      = some 4 := by decide +kernel
  have hclause : (lenient.setOutcome clause careless .fresh).toOption.map (·.problems.length)
      = some 3 := by decide +kernel
  obtain ⟨r, hr, hlength⟩ := Option.map_eq_some_iff.mp hcup
  obtain ⟨r', hr', hlength'⟩ := Option.map_eq_some_iff.mp hclause
  have hok := toOption_eq_some_iff.mp hr
  have hok' := toOption_eq_some_iff.mp hr'
  have hmod : clause.mod = cup.mod := by decide +kernel
  have hknown : clause.isKnown = true := by decide +kernel
  have hspecies : (validator.registry.dexFor cup).findSpecies? careless.species
      = some (species "Pikachu" 25 "Static" "Pichu") := by decide +kernel
  obtain ⟨heq, -, hfeatures⟩ :=
    features_independent (v := validator) (w := lenient) rfl hmod isKnown_cup hknown hok hok'
  exact ⟨r, r', hok, hok', hlength, hlength', heq, (hfeatures _ hspecies).2⟩

end Validator

end TeamLegality
