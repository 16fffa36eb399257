import TeamLegality.Proofs.Legality.Teams
import TeamLegality.Proofs.Number.Scaling
import TeamLegality.Proofs.Team.Loading
import TeamLegality.RuleTable.CustomRules

/-!
# Answers — when checking gives an answer

Once the rules of a format are resolved, only the gender check can fail, and only where sixteen
times a gender ratio is no finite number.  So a loaded team always gets an answer in a dex whose
ratios are moderate (`always_answers`).  A finite ratio is not enough
(`no_answer_for_huge_ratio`).  Values of any size are written into the problems in full; that
writing an integer may stop at 4,300 digits is left out of the model.
-/

namespace TeamLegality

/-! ### Hidden Power -/

namespace HiddenPower

/-- The place in the list of types that the formula of a generation comes to. -/
def place (ivs : StatTable) (gen : Int) : Int :=
  if gen ≤ 2 then 4 * (StatTable.dv ivs.attack % 4) + StatTable.dv ivs.defense % 4
  else paritySum ivs * 15 / 63

/-- The formula of a generation comes to one of the sixteen types, whatever the values. -/
structure IsInList (ivs : StatTable) (gen : Int) : Prop where
  bounds : 0 ≤ place ivs gen ∧ place ivs gen ≤ 15
  typeOf : types[(place ivs gen).toNat]? = some (typeOf ivs gen)

theorem getElem?_types {n : Nat} (h : n < 16) : types[n]? = some (typeAt ⟨n, h⟩) :=
  List.getElem?_eq_getElem h

theorem isInList (ivs : StatTable) (gen : Int) : IsInList ivs gen := by
  have hsum := paritySum_bounds ivs
  by_cases hgen : gen ≤ 2
  · have hplace : place ivs gen
        = 4 * (StatTable.dv ivs.attack % 4) + StatTable.dv ivs.defense % 4 := if_pos hgen
    refine ⟨by omega, ?_⟩
    rw [hplace, HiddenPower.typeOf, if_pos hgen]
    exact getElem?_types (by omega)
  · have hplace : place ivs gen = paritySum ivs * 15 / 63 := if_neg hgen
    refine ⟨by omega, ?_⟩
    rw [hplace, HiddenPower.typeOf, if_neg hgen]
    exact getElem?_types (by omega)

end HiddenPower

/-! ### Gender ratios -/

namespace Species

variable {s : Species}

/-- The female part of a species is moderate, if its gender ratio says one. -/
def HasModerateRatio (s : Species) : Prop :=
  ∀ x, s.genderRatio.bind (·.get? "F") = some x → x.IsModerate

theorem exists_genderThreshold (h : s.HasModerateRatio) : ∃ n, s.genderThreshold = .ok n := by
  have hmoderate : s.femaleRatio.IsModerate := by
    unfold femaleRatio
    cases hx : s.genderRatio.bind (·.get? "F") with
    | none => exact (by decide +kernel : 2 ^ 52 < 2 ^ 53 ∧ (-53 : Int) + 4 ≤ 971)
    | some x => exact h x hx
  obtain ⟨negative, m, e, hfinite⟩ := Binary64.exists_scale_eq_finite hmoderate
  unfold genderThreshold
  rw [hfinite]
  exact ⟨_, rfl⟩

end Species

namespace Dex

variable {d : Dex} {name : String} {s : Species}

theorem mem_values_of_get? {α : Type} {table : Assoc String α} {k : String} {a : α}
    (h : table.get? k = some a) : a ∈ table.values :=
  List.mem_map_of_mem (f := Prod.snd) (Assoc.mem_of_get? h)

/-- A species that is found is in the table. -/
theorem mem_species_of_find (h : d.findSpecies? name = some s) : s ∈ d.species.values := by
  obtain ⟨h, -⟩ := Option.filter_eq_some_iff.mp h
  unfold entry? at h
  dsimp only at h
  split_ifs at h
  cases hid : d.species.get? (Text.toId name) with
  | some entry =>
    rw [hid] at h
    cases h
    exact mem_values_of_get? hid
  | none =>
    rw [hid] at h
    exact mem_values_of_get? h

end Dex

/-! ### Checking -/

namespace Validator

open SessionM

section

variable {v : Validator} {f : Format} {t : RuleTable} {s s₀ : Session} {hook : Option MoveCheck}
  {sets : List PokemonSet} {team : Team} {set : PokemonSet}

theorem genderThreshold_of_context {c : SetContext} {cause : RatioError}
    (hratios : ∀ species ∈ (v.registry.dexFor f).species.values, species.HasModerateRatio)
    (hc : v.context? f t set = some c) : c.species.genderThreshold ≠ .error cause := by
  obtain ⟨species, hfound, rfl⟩ := context?_eq_some_iff.mp hc
  obtain ⟨n, hn⟩ := Species.exists_genderThreshold
    (hratios species (Dex.mem_species_of_find hfound))
  intro herror
  rw [hn] at herror
  cases herror

theorem exists_report_of_moderate (hhook : v.hookFor t = .ok hook)
    (hratios : ∀ species ∈ (v.registry.dexFor f).species.values, species.HasModerateRatio)
    (set : PokemonSet) : ∃ report, v.report f t set = .ok report := by
  cases hreport : v.report f t set with
  | ok report => exact ⟨report, rfl⟩
  | error e =>
    obtain ⟨c, cause, hc, -, hthreshold, -⟩ := exists_of_report_error hhook hreport
    exact absurd hthreshold (genderThreshold_of_context hratios hc)

/-- A team is checked by name against the format that the name asks for. -/
theorem run_checkSetsNamed {name : String}
    (h : (v.registry.requestFormat name).run.run s₀ = (.ok f, s)) :
    ((v.checkSetsNamed name sets).run.run s₀).1 = v.teamOutcome f sets s := by
  unfold checkSetsNamed
  rw [run_bind, h]
  rfl

/-- **Checking always gives an answer.**  When the table of an existing format is resolved, its
legality check is registered, and the gender ratios of its dex are moderate, there is an answer for
every loaded team, in the format itself and by any name that asks for it, and for each of its sets.
Each set has a value for every stat, and its values, however large, have a Hidden Power type in
every generation. -/
theorem always_answers (hteam : team.Loaded) (hk : f.isKnown = true)
    (ht : v.registry.outcome 0 f s = .ok t) (hhook : v.hookFor t = .ok hook)
    (hratios : ∀ species ∈ (v.registry.dexFor f).species.values, species.HasModerateRatio) :
    (∃ problems, v.teamOutcome f team.sets s = .ok problems
      ∧ ∀ name s₀, (v.registry.requestFormat name).run.run s₀ = (.ok f, s) →
        ((v.checkSetsNamed name team.sets).run.run s₀).1 = .ok problems)
    ∧ ∀ set ∈ team.sets, (∃ report, v.setOutcome f set s = .ok report)
      ∧ (∃ members, set.IsReadFrom members) ∧ ∀ gen, HiddenPower.IsInList set.ivs gen := by
  have hreports := exists_report_of_moderate hhook hratios
  obtain ⟨problems, hproblems⟩ := (exists_teamOutcome_iff hk ht).mpr fun set _ => hreports set
  refine ⟨⟨problems, hproblems, fun name s₀ hname => ?_⟩, fun set hset => ⟨?_, ?_, ?_⟩⟩
  · rw [run_checkSetsNamed hname, hproblems]
  · rw [setOutcome_eq hk ht]
    exact hreports set
  · exact hteam.exists_isReadFrom set hset
  · exact HiddenPower.isInList set.ivs

end

/-! ### A dex of generation 2 -/

namespace Sample

/-- A species whose female part is a number. -/
def ratioSpecies (female : Binary64) : Species :=
  { species "Snorlax" 143 "Immunity" "" with
    genderRatio := some { entries := [("M", .ofDecimal false 5 (-1)), ("F", female)] } }

/-- A dex of generation 2 with that species. -/
def oldDex (female : Binary64) : Dex :=
  { dex with
    mod := "gen2"
    gen := 2
    species := { entries := [("snorlax", ratioSpecies female)] } }

/-- The registry of one format over this dex, if there is one. -/
def oldBuilt (female : Binary64) : Except RegistryError FormatRegistry :=
  FormatRegistry.build {} { entries := [("gen7", dex), ("gen2", oldDex female)] } .null
    [.record { name := "Old Cup", mod := some "gen2" }]

/-- An eighth. -/
def eighth : Binary64 := .ofDecimal false 125 (-3)

/-- A number that is finite, but sixteen times it is not. -/
def huge : Binary64 := .ofDecimal false 1 308

theorem isSome_oldBuilt_eighth : (oldBuilt eighth).toOption.isSome = true := by decide +kernel

theorem isSome_oldBuilt_huge : (oldBuilt huge).toOption.isSome = true := by decide +kernel

/-- A validator without legality checks. -/
def validatorOf (registry : FormatRegistry) : Validator where
  registry
  hooks := .empty
  config := {}

/-- A validator of the format, with a moderate ratio. -/
def oldValidator : Validator := validatorOf ((oldBuilt eighth).toOption.get isSome_oldBuilt_eighth)

/-- A validator of the format, with a huge ratio. -/
def hugeValidator : Validator := validatorOf ((oldBuilt huge).toOption.get isSome_oldBuilt_huge)

/-- The format of a validator. -/
def oldCup (v : Validator) : Format := v.registry.getFormat "oldcup"

theorem isSome_oldOutcome :
    (oldValidator.registry.outcome 0 (oldCup oldValidator) .fresh).toOption.isSome = true := by
  decide +kernel

theorem isSome_hugeOutcome :
    (hugeValidator.registry.outcome 0 (oldCup hugeValidator) .fresh).toOption.isSome = true := by
  decide +kernel

/-- A team of one male. -/
def teamDocument : Json := .obj [("sets", .arr [.obj [("species", .str "Snorlax"),
  ("gender", .str "M"), ("ivs", .obj [("atk", .int (-7))]), ("moves", .arr [.str "Surf"])]])]

theorem isSome_team : (Team.load teamDocument).toOption.isSome = true := by decide +kernel

/-- The team of that document. -/
def team : Team := (Team.load teamDocument).toOption.get isSome_team

theorem loaded_team : team.Loaded := .document (FormatRegistry.eq_ok_get isSome_team)

theorem hasModerateRatio_old : ∀ species ∈
    (oldValidator.registry.dexFor (oldCup oldValidator)).species.values,
      species.HasModerateRatio := by
  have hdex : oldValidator.registry.dexFor (oldCup oldValidator) = oldDex eighth := by rfl
  have heighth : eighth = .finite false (2 ^ 52) (-55) := by decide +kernel
  intro species hspecies x hx
  rw [hdex] at hspecies
  obtain rfl : species = ratioSpecies eighth := List.mem_singleton.mp hspecies
  obtain rfl : eighth = x := Option.some.inj hx
  rw [heighth]
  exact ⟨by decide, by decide⟩

end Sample

open Sample in
theorem always_answers_old : ∃ problems,
    oldValidator.teamOutcome (oldCup oldValidator) Sample.team.sets .fresh = .ok problems := by
  have hhook : oldValidator.hookFor ((oldValidator.registry.outcome 0 (oldCup oldValidator)
      .fresh).toOption.get isSome_oldOutcome) = .ok none := by
    have hnone : ((oldValidator.registry.outcome 0 (oldCup oldValidator) .fresh).toOption.get
        isSome_oldOutcome).hook = none := by decide +kernel
    rw [hookFor, hnone]
  obtain ⟨⟨problems, hproblems, -⟩, -⟩ := always_answers loaded_team (by decide +kernel)
    (FormatRegistry.eq_ok_get isSome_oldOutcome) hhook hasModerateRatio_old
  exact ⟨problems, hproblems⟩

open Sample in
/-- A ratio may be finite and sixteen times it infinite: then there is no answer, neither for the
team nor for its set. -/
theorem no_answer_for_huge_ratio :
    (∃ m e, huge = .finite false m e) ∧ Sample.team.Loaded
      ∧ (oldCup hugeValidator).isKnown = true
      ∧ (∃ t, hugeValidator.registry.outcome 0 (oldCup hugeValidator) .fresh = .ok t
        ∧ hugeValidator.hookFor t = .ok none)
      ∧ (∀ problems, hugeValidator.teamOutcome (oldCup hugeValidator) Sample.team.sets .fresh
        ≠ .ok problems)
      ∧ ∀ set ∈ Sample.team.sets, ∀ report,
        hugeValidator.setOutcome (oldCup hugeValidator) set .fresh ≠ .ok report := by
  have hfinite : huge = .finite false 5010420900022432 971 := by decide +kernel
  have hnone : ((hugeValidator.registry.outcome 0 (oldCup hugeValidator) .fresh).toOption.get
      isSome_hugeOutcome).hook = none := by decide +kernel
  have hteam : (hugeValidator.teamOutcome (oldCup hugeValidator) Sample.team.sets
      .fresh).toOption = none := by decide +kernel
  have hset : ∀ set ∈ Sample.team.sets, ((hugeValidator.setOutcome (oldCup hugeValidator) set
      .fresh).toOption.map fun r => r.problems) = none := by decide +kernel
  refine ⟨⟨_, _, hfinite⟩, loaded_team, by decide +kernel,
    ⟨_, FormatRegistry.eq_ok_get isSome_hugeOutcome, by rw [hookFor, hnone]⟩, ?_, ?_⟩
  · intro problems h
    rw [h] at hteam
    cases hteam
  · intro set hmem report h
    have hno := hset set hmem
    rw [h] at hno
    cases hno

end Validator

end TeamLegality
