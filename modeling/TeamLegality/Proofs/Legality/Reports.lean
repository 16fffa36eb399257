import TeamLegality.Legality.TeamReport
import TeamLegality.Proofs.Fallible
import TeamLegality.Proofs.Legality.SetChecks
import TeamLegality.Proofs.Resolution.History

/-!
# Reports — what a check comes to once the format has resolved

A format that has resolved is remembered, so that every set of a team is checked against the same
table: the outcome of checking a set is its report (`setOutcome_eq`), and the outcome of checking a
team is what the limits on teams make of the reports (`teamOutcome_eq`).
-/

namespace TeamLegality

open SessionM

/-! ### Outcomes -/

namespace Validator

/-- What comes of checking a set against a format in a session. -/
def setOutcome (v : Validator) (f : Format) (set : PokemonSet) (s : Session) :
    Except Failure SetReport :=
  ((v.checkSet f set).run.run s).1

/-- What comes of checking a team against a format in a session. -/
def teamOutcome (v : Validator) (f : Format) (sets : List PokemonSet) (s : Session) :
    Except Failure (List String) :=
  ((v.checkTeam f sets).run.run s).1

/-- A set with the report on it against a table. -/
def checked (v : Validator) (f : Format) (t : RuleTable) (set : PokemonSet) :
    Except Failure CheckedSet :=
  (v.report f t set).map (CheckedSet.mk set)

section

variable {v : Validator} {f : Format} {t : RuleTable} {set : PokemonSet} {s : Session}
  {hook : Option MoveCheck} {c : SetContext}

theorem checkSet_of_known (hk : f.isKnown = true) : v.checkSet f set =
    v.registry.resolveAt 0 f >>= fun table =>
      match v.report f table set with
      | .error failure => throw failure
      | .ok r => do
        modify (·.note (eventsOf f set r))
        return r := by
  unfold checkSet
  simp only [hk, Bool.not_true, Bool.false_eq_true, if_false]
  rfl

theorem run_checkSet (hk : f.isKnown = true) (h : v.registry.outcome 0 f s = .ok t) :
    ∃ s', (v.checkSet f set).run.run s = (v.report f t set, s')
      ∧ s'.cache.get? f.key = some t := by
  obtain ⟨s', hrun, hs'⟩ := FormatRegistry.exists_run_of_outcome h
  rw [checkSet_of_known hk, run_bind, hrun]
  cases hr : v.report f t set with
  | error failure => exact ⟨s', by simp only [hr]; rfl, hs'⟩
  | ok r => exact ⟨s'.note (eventsOf f set r), by simp only [hr]; rfl, hs'⟩

/-- **Checking a set comes to the report on it.** -/
theorem setOutcome_eq (hk : f.isKnown = true) (h : v.registry.outcome 0 f s = .ok t) :
    v.setOutcome f set s = v.report f t set := by
  obtain ⟨s', hrun, -⟩ := @run_checkSet v f t set s hk h
  rw [setOutcome, hrun]

/-- Sets checked in turn, in a session that remembers the format. -/
theorem run_checkSets (hk : f.isKnown = true) : ∀ (sets : List PokemonSet) (s : Session),
    s.cache.get? f.key = some t →
      ((v.checkSets f sets).run.run s).1 = sets.mapM (v.checked f t)
  | [], s, _ => rfl
  | set :: rest, s, hs => by
    obtain ⟨s', hrun, hs'⟩ := @run_checkSet v f t set s hk (FormatRegistry.outcome_of_remembered hs)
    have ih := run_checkSets hk rest s' hs'
    unfold checkSets
    rw [run_bind, hrun, List.mapM_cons, checked]
    cases hr : v.report f t set with
    | error failure => rfl
    | ok r =>
      dsimp only
      rw [run_bind]
      rcases hrest : (v.checkSets f rest).run.run s' with ⟨x, s''⟩
      rw [hrest] at ih
      dsimp only at ih
      subst ih
      cases sets : rest.mapM (v.checked f t) <;> rfl

/-- **Checking a team comes to what the limits on teams make of the reports.** -/
theorem teamOutcome_eq (hk : f.isKnown = true) (h : v.registry.outcome 0 f s = .ok t)
    (sets : List PokemonSet) : v.teamOutcome f sets s
      = (sets.mapM (v.checked f t)).map (TeamCheck.problems v.config f t) := by
  obtain ⟨s', hrun, hs'⟩ := FormatRegistry.exists_run_of_outcome h
  have hsets := @run_checkSets v f t hk sets s' hs'
  have hcheck : v.checkTeam f sets = v.registry.resolveAt 0 f >>= fun table =>
      v.checkSets f sets >>= fun checked => do
        let problems := TeamCheck.problems v.config f table checked
        modify (·.note [.teamChecked sets.length f.key problems.length])
        return problems := by
    unfold checkTeam
    simp only [hk, Bool.not_true, Bool.false_eq_true, if_false]
    rfl
  rw [teamOutcome, hcheck, run_bind, hrun]
  dsimp only
  rw [run_bind]
  rcases hc : (v.checkSets f sets).run.run s' with ⟨x, s''⟩
  rw [hc] at hsets
  dsimp only at hsets
  subst hsets
  cases sets.mapM (v.checked f t) <;> rfl

theorem checked_eq_ok_iff {x : CheckedSet} :
    v.checked f t set = .ok x ↔ x.set = set ∧ v.report f t set = .ok x.report := by
  unfold checked
  cases v.report f t set with
  | error e => simp [Except.map]
  | ok report =>
    obtain ⟨set', report'⟩ := x
    simp [Except.map, eq_comm]

theorem checked_eq_error_iff {e : Failure} :
    v.checked f t set = .error e ↔ v.report f t set = .error e := by
  unfold checked
  cases v.report f t set <;> simp [Except.map]

/-- Sets are checked in order, and all of them have reports. -/
theorem mapM_checked_eq_ok_iff : ∀ {sets : List PokemonSet} {xs : List CheckedSet},
    sets.mapM (v.checked f t) = .ok xs ↔
      xs.map (fun x => x.set) = sets ∧ ∀ x ∈ xs, v.report f t x.set = .ok x.report
  | [], xs => by cases xs <;> simp [pure, Except.pure]
  | set :: rest, xs => by
    have ih := @mapM_checked_eq_ok_iff rest
    simp only [mapM_cons_eq_ok_iff, ih, checked_eq_ok_iff]
    constructor
    · rintro ⟨x, xs, ⟨rfl, hx⟩, ⟨rfl, hxs⟩, rfl⟩
      exact ⟨rfl, List.forall_mem_cons.mpr ⟨hx, hxs⟩⟩
    · rintro ⟨hsets, hall⟩
      cases xs with
      | nil => cases hsets
      | cons x xs =>
        obtain ⟨rfl, rfl⟩ := List.cons.inj hsets
        obtain ⟨hx, hxs⟩ := List.forall_mem_cons.mp hall
        exact ⟨x, xs, ⟨rfl, hx⟩, ⟨rfl, hxs⟩, rfl⟩

/-- There is an answer for a team when there is a report on each of its sets. -/
theorem exists_teamOutcome_iff (hk : f.isKnown = true) (h : v.registry.outcome 0 f s = .ok t)
    {sets : List PokemonSet} : (∃ problems, v.teamOutcome f sets s = .ok problems)
      ↔ ∀ set ∈ sets, ∃ report, v.report f t set = .ok report := by
  rw [teamOutcome_eq hk h]
  cases hxs : sets.mapM (v.checked f t) with
  | ok xs =>
    refine iff_of_true ⟨_, rfl⟩ fun set hset => ?_
    obtain ⟨hsets, hreports⟩ := mapM_checked_eq_ok_iff.mp hxs
    rw [← hsets] at hset
    obtain ⟨x, hx, rfl⟩ := List.mem_map.mp hset
    exact ⟨x.report, hreports x hx⟩
  | error failure =>
    refine iff_of_false nofun fun hall => ?_
    obtain ⟨set, hset, hfails⟩ := exists_of_mapM_error hxs
    obtain ⟨report, hreport⟩ := hall set hset
    rw [checked, hreport] at hfails
    cases hfails

/-! ### Reports -/

theorem context?_eq_some_iff : v.context? f t set = some c ↔ ∃ species,
    (v.registry.dexFor f).findSpecies? set.species = some species
      ∧ { set, format := f, table := t, dex := v.registry.dexFor f, species,
          config := v.config } = c := by
  unfold context?
  simp

/-- There are no reports without the legality check of the table. -/
theorem report_of_unregistered {failure : Failure} (hhook : v.hookFor t = .error failure) :
    v.report f t set = .error failure := by
  unfold report
  rw [hhook]
  rfl

/-- The report on a set whose species is unknown. -/
theorem report_of_unknown (hhook : v.hookFor t = .ok hook) (hc : v.context? f t set = none) :
    ∃ problem, v.report f t set = .ok { problems := [problem] } := by
  unfold report
  rw [hhook, hc]
  exact ⟨_, rfl⟩

/-- The report on a set whose species is known. -/
theorem report_of_known (hhook : v.hookFor t = .ok hook) (hc : v.context? f t set = some c) :
    v.report f t set = ((c.problems hook).mapError .ratio).map fun problems =>
      { problems, features := c.features, species := some c.species,
        calls := if hook.isSome then callsOf c else [] } := by
  unfold report
  rw [hhook, hc]
  change ((c.problems hook).mapError Failure.ratio >>= fun problems => pure _) = _
  cases c.problems hook <;> rfl

/-- Once its legality check is known, a report is missing only in generation 2, for a species whose
gender ratio is no number. -/
theorem exists_of_report_error {e : Failure} (hhook : v.hookFor t = .ok hook)
    (h : v.report f t set = .error e) : ∃ c cause, v.context? f t set = some c ∧ c.gen = 2
      ∧ c.species.genderThreshold = .error cause ∧ e = .ratio cause := by
  cases hc : v.context? f t set with
  | none =>
    obtain ⟨problem, hrep⟩ := report_of_unknown hhook hc
    rw [hrep] at h
    cases h
  | some c =>
    rw [report_of_known hhook hc, SetContext.problems_eq] at h
    cases hgender : c.genderProblems with
    | ok gender =>
      rw [hgender] at h
      cases h
    | error cause =>
      rw [hgender] at h
      obtain ⟨hgen, hthreshold⟩ := SetContext.genderProblems_eq_error hgender
      exact ⟨c, cause, rfl, hgen, hthreshold, (Except.error.inj h).symm⟩

/-- **A report without problems** is on a set whose species is known and whose checks find
nothing. -/
theorem report_clean_iff {features : List Target} {species : Option Species} :
    (∃ rep, v.report f t set = .ok rep ∧ rep.problems = [] ∧ rep.features = features
        ∧ rep.species = species)
      ↔ ∃ hook c, v.hookFor t = .ok hook ∧ v.context? f t set = some c ∧ c.Clean hook
        ∧ c.features = features ∧ some c.species = species := by
  cases hhook : v.hookFor t with
  | error failure =>
    simp [report_of_unregistered hhook]
  | ok hook =>
    cases hc : v.context? f t set with
    | none =>
      obtain ⟨problem, hrep⟩ := report_of_unknown hhook hc
      simp [hrep]
    | some c =>
      rw [report_of_known hhook hc]
      cases hp : c.problems hook with
      | error cause =>
        have hclean : ¬ c.Clean hook := by
          rw [← SetContext.problems_eq_nil_iff, hp]
          nofun
        simp [Except.mapError, Except.map, hclean]
      | ok problems =>
        have hclean : c.Clean hook ↔ problems = [] := by
          rw [← SetContext.problems_eq_nil_iff, hp, Except.ok.injEq]
        simp [Except.mapError, Except.map, hclean]

end

/-! ### A small validator -/

namespace Sample

theorem exists_clean {x : Except Failure SetReport}
    (h : x.toOption.map (fun report => report.problems) = some []) :
    ∃ report, x = .ok report ∧ report.problems = [] := by
  cases x with
  | error e => cases h
  | ok report => exact ⟨report, rfl, Option.some.inj h⟩

theorem exists_problem {x : Except Failure SetReport} {n : Nat}
    (h : x.toOption.map (fun report => report.problems.length) = some (n + 1)) :
    ∃ report, x = .ok report ∧ report.problems ≠ [] := by
  cases x with
  | error e => cases h
  | ok report =>
    refine ⟨report, rfl, fun hnone => ?_⟩
    have hlength : report.problems.length = n + 1 := Option.some.inj h
    rw [hnone] at hlength
    cases hlength

theorem exists_of_length {x : Except Failure (List String)} {n : Nat}
    (h : x.toOption.map List.length = some n) :
    ∃ problems, x = .ok problems ∧ problems.length = n := by
  cases x with
  | error e => cases h
  | ok problems => exact ⟨problems, rfl, Option.some.inj h⟩

/-- An entity of an early generation. -/
def entity (name : String) (num : Int) : Entity :=
  { name, num, gen := 1, nonstandard := none }

/-- A species with one ability. -/
def species (name : String) (num : Int) (ability preEvolution : String) : Species where
  toEntity := entity name num
  baseSpecies := name
  forme := ""
  types := ["Normal"]
  gender := none
  genderRatio := none
  abilities := ⟨[("0", ability)], by simp⟩
  eggGroups := ["Field"]
  preEvolution := preEvolution
  evolutions := []
  tier := "OU"
  otherFormes := []
  battleOnly := false
  requiredAbility := ""
  requiredItems := []
  requiredMove := ""
  unreleasedHidden := false
  maleOnlyHidden := false

/-- A move that does nothing special. -/
def move (name : String) (num : Int) : Move where
  toEntity := entity name num
  type := "Normal"
  category := "Special"
  ohko := .flag false
  boosts := none
  zMoveBoost := none

/-- An item that does nothing special. -/
def item (name : String) (num : Int) : Item where
  toEntity := entity name num
  zMove := none
  zMoveType := none
  megaStone := none
  forcedForme := none

/-- A dex of two species, with what they need. -/
def dex : Dex where
  mod := "gen7"
  gen := 7
  species := ⟨[("pikachu", species "Pikachu" 25 "Static" "Pichu"),
    ("snorlax", species "Snorlax" 143 "Immunity" "Munchlax")], by decide⟩
  moves := ⟨[("bodyslam", move "Body Slam" 34), ("surf", move "Surf" 57)], by decide⟩
  items := ⟨[("leftovers", item "Leftovers" 234), ("lightball", item "Light Ball" 236)],
    by decide⟩
  abilities := ⟨[("immunity", ⟨entity "Immunity" 17⟩), ("static", ⟨entity "Static" 9⟩)],
    by decide⟩
  aliases := .empty

/-- A set at its best. -/
def pokemon (species item ability : String) (moves : List String) : PokemonSet where
  name := ""
  species := species
  item := item
  ability := ability
  moves := moves
  nature := "Hardy"
  gender := none
  evs := .const 85
  ivs := .const 31
  level := none
  shiny := false
  hpType := ""
  happiness := 255
  pokeball := ""

/-- A set with a held item. -/
def pikachu : PokemonSet := pokemon "Pikachu" "Light Ball" "Static" ["Surf"]

/-- A set with two moves. -/
def snorlax : PokemonSet := pokemon "Snorlax" "Leftovers" "Immunity" ["Body Slam", "Surf"]

/-- Two clauses, and a cup with a ban of each kind and a legality check. -/
def records : List FormatRecord := [
  { name := "Species Clause", effectType := .validatorRule },
  { name := "Nickname Clause", effectType := .validatorRule },
  { name := "Cup", ruleset := ["Species Clause", "Nickname Clause"],
    banlist := ["Pikachu + Leftovers", "Light Ball ++ Leftovers > 2"],
    learnsetCheck := some "learned" }]

/-- The registry of these records, if there is one. -/
def built : Except RegistryError FormatRegistry :=
  FormatRegistry.build {} ⟨[("gen7", dex)], by decide⟩ .null (records.map .record)

theorem isSome_built : built.toOption.isSome = true := by decide +kernel

/-- A legality check that knows of one move that is not learned. -/
def learned : MoveCheck := fun move set _ _ =>
  if move.id = "bodyslam" ∧ set.species = "Pikachu" then some "It is not learned." else none

/-- A validator of these formats with that check. -/
def validator : Validator where
  registry := built.toOption.get isSome_built
  hooks := ⟨[("learned", learned)], by decide⟩
  config := {}

theorem build_eq : FormatRegistry.build {} ⟨[("gen7", dex)], by decide⟩ .null
    (records.map .record) = .ok validator.registry := FormatRegistry.eq_ok_get isSome_built

/-- The cup. -/
def cup : Format := validator.registry.getFormat "cup"

theorem isKnown_cup : cup.isKnown = true := by decide +kernel

theorem isSome_outcome : (validator.registry.outcome 0 cup .fresh).toOption.isSome = true := by
  decide +kernel

/-- The table of the cup. -/
def table : RuleTable := (validator.registry.outcome 0 cup .fresh).toOption.get isSome_outcome

theorem outcome_eq : validator.registry.outcome 0 cup .fresh = .ok table :=
  FormatRegistry.eq_ok_get isSome_outcome

theorem hookFor_eq : validator.hookFor table = .ok (some learned) := by
  have hhook : table.hook = some ⟨"learned", "Cup"⟩ := by decide +kernel
  unfold hookFor
  rw [hhook]
  rfl

end Sample

end Validator

end TeamLegality
