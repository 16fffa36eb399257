import TeamLegality.Proofs.Legality.Teams
import TeamLegality.Proofs.Legality.Wording

/-!
# Spelling — sets that are read alike

Two sets are respellings of each other when they differ only in how species, item, ability and moves
are written, and the dex finds the same under both.  They have the same features.  They have as many
problems, and one can stand for the other in a team, if also those read them alike who see the names
as they are written.  An alias of an ability is not always read like its own name: to a forme that
needs the ability, to Baton Pass Clause and to the weather pairs it is another
(`aliased_ability_counts`).
-/

namespace TeamLegality

/-! ### Checks of a team -/

section Forall₂

variable {α β : Type} {R : α → α → Prop} {l l' : List α}

theorem map_eq_of_forall₂ {g : α → β} (h : List.Forall₂ R l l')
    (hg : ∀ x y, R x y → g x = g y) : l.map g = l'.map g := by
  rw [← List.forall₂_eq_eq_eq, List.forall₂_map_left_iff, List.forall₂_map_right_iff]
  exact h.imp hg

theorem filterMap_eq_of_forall₂ {g : α → Option β} (h : List.Forall₂ R l l')
    (hg : ∀ x y, R x y → g x = g y) : l.filterMap g = l'.filterMap g := by
  have hmap := congrArg (List.filterMap id) (map_eq_of_forall₂ h hg)
  rwa [List.filterMap_map, List.filterMap_map] at hmap

end Forall₂

/-- Checked sets between which the limits on teams make no difference: the ability as it is written
matters only for the weather pairs. -/
structure CheckedSet.Alike (f : Format) (x y : CheckedSet) : Prop where
  name : x.set.name = y.set.name
  species : x.report.species = y.report.species
  features : x.report.features = y.report.features
  problems : x.report.problems.length = y.report.problems.length
  ability : f.id = Clause.weatherFormat → ∀ pair ∈ Clause.weatherPairs,
    ∀ id, id = Text.toId pair.1 ∨ id = Text.toId pair.2 →
      (x.abilityId? = some id ↔ y.abilityId? = some id)

namespace CheckedSet.Alike

variable {f : Format} {x y : CheckedSet}

theorem nickname? (h : Alike f x y) : x.nickname? = y.nickname? := by
  unfold CheckedSet.nickname?
  rw [h.species, h.name]

theorem number? (h : Alike f x y) : x.number? = y.number? := by
  unfold CheckedSet.number?
  rw [h.species]

theorem formeGroup? (h : Alike f x y) : x.formeGroup? = y.formeGroup? := by
  unfold CheckedSet.formeGroup?
  rw [h.species]

theorem has (h : Alike f x y) (feature : Target) : x.has feature = y.has feature := by
  unfold CheckedSet.has
  rw [h.features]

end CheckedSet.Alike

namespace TeamCheck

variable {config : Config} {f : Format} {t : RuleTable} {xs ys : List CheckedSet}

theorem holders_eq_of_alike (h : List.Forall₂ (CheckedSet.Alike f) xs ys) (feature : Target) :
    holders xs feature = holders ys feature := by
  have hmap := congrArg (List.countP id) (map_eq_of_forall₂ h fun _ _ hxy => hxy.has feature)
  rw [List.countP_map, List.countP_map] at hmap
  unfold holders
  rw [← List.countP_eq_length_filter, ← List.countP_eq_length_filter]
  exact hmap

theorem totalHolders_eq_of_alike (h : List.Forall₂ (CheckedSet.Alike f) xs ys) :
    ∀ keys : List Target, totalHolders xs keys = totalHolders ys keys
  | [] => rfl
  | key :: keys => by
    rw [totalHolders, totalHolders, holders_eq_of_alike h key, totalHolders_eq_of_alike h keys]

theorem length_eachSetProblems_of_alike (h : List.Forall₂ (CheckedSet.Alike f) xs ys) :
    (eachSetProblems t [] xs).length = (eachSetProblems t [] ys).length := by
  have hproblems : xs.map (fun x => x.report.problems.length)
      = ys.map fun y => y.report.problems.length := map_eq_of_forall₂ h fun _ _ hxy => hxy.problems
  have hnicknames : xs.filterMap (fun x => x.nickname?) = ys.filterMap fun y => y.nickname? :=
    filterMap_eq_of_forall₂ h fun _ _ hxy => hxy.nickname?
  have hnumbers : xs.filterMap (fun x => x.number?) = ys.filterMap fun y => y.number? :=
    filterMap_eq_of_forall₂ h fun _ _ hxy => hxy.number?
  rw [length_eachSetProblems, length_eachSetProblems, hproblems, hnicknames, hnumbers]

theorem formeProblems_eq_of_alike (h : List.Forall₂ (CheckedSet.Alike f) xs ys) :
    formeProblems xs = formeProblems ys := by
  have hgroups : xs.filterMap (fun x => x.formeGroup?) = ys.filterMap fun y => y.formeGroup? :=
    filterMap_eq_of_forall₂ h fun _ _ hxy => hxy.formeGroup?
  unfold formeProblems
  rw [hgroups]

theorem batonPassProblems_eq_of_alike (h : List.Forall₂ (CheckedSet.Alike f) xs ys) :
    batonPassProblems t xs = batonPassProblems t ys := by
  have hpassers := holders_eq_of_alike h (.entry .move "batonpass")
  unfold holders at hpassers
  unfold batonPassProblems
  rw [hpassers]

theorem contains_abilityId?_of_alike (h : List.Forall₂ (CheckedSet.Alike f) xs ys)
    (hf : f.id = Clause.weatherFormat) {pair : String × String} (hpair : pair ∈ Clause.weatherPairs)
    {id : String} (hid : id = Text.toId pair.1 ∨ id = Text.toId pair.2) :
    (xs.filterMap fun x => x.abilityId?).contains id
      = (ys.filterMap fun y => y.abilityId?).contains id := by
  have hmap : xs.map (fun x => decide (x.abilityId? = some id))
      = ys.map fun y => decide (y.abilityId? = some id) :=
    map_eq_of_forall₂ h fun x y hxy => decide_eq_decide.mpr (hxy.ability hf pair hpair id hid)
  have hmem : true ∈ xs.map (fun x => decide (x.abilityId? = some id))
      ↔ true ∈ ys.map fun y => decide (y.abilityId? = some id) := by rw [hmap]
  rw [Bool.eq_iff_iff]
  simpa using hmem

theorem weatherProblems_eq_of_alike (h : List.Forall₂ (CheckedSet.Alike f) xs ys) :
    weatherProblems f xs = weatherProblems f ys := by
  unfold weatherProblems
  split_ifs with hf
  · refine List.flatMap_congr fun pair hpair => ?_
    dsimp only
    rw [contains_abilityId?_of_alike h hf hpair (.inl rfl),
      contains_abilityId?_of_alike h hf hpair (.inr rfl)]
  · rfl

theorem combinationProblems_eq_of_alike (h : List.Forall₂ (CheckedSet.Alike f) xs ys)
    (c : Combination) : combinationProblems xs c = combinationProblems ys c := by
  unfold combinationProblems
  simp only [holders_eq_of_alike h, totalHolders_eq_of_alike h]

/-- The limits on teams find as many problems. -/
theorem length_problems_of_alike (h : List.Forall₂ (CheckedSet.Alike f) xs ys) :
    (problems config f t xs).length = (problems config f t ys).length := by
  have hcombinations : combinationProblems xs = combinationProblems ys :=
    funext (combinationProblems_eq_of_alike h)
  unfold problems
  simp only [List.length_append, h.length_eq, length_eachSetProblems_of_alike h,
    formeProblems_eq_of_alike h, batonPassProblems_eq_of_alike h, weatherProblems_eq_of_alike h,
    hcombinations]

end TeamCheck

/-! ### Reports -/

/-- Two computations that come to the same, or of which both fail alike. -/
theorem cases_of_map_eq {ε α β : Type} {g : α → β} {x y : Except ε α} (h : x.map g = y.map g) :
    (∃ e, x = .error e ∧ y = .error e) ∨ ∃ a b, x = .ok a ∧ y = .ok b ∧ g a = g b := by
  cases x with
  | error e =>
    cases y with
    | error e' =>
      cases h
      exact .inl ⟨e, rfl, rfl⟩
    | ok b => cases h
  | ok a =>
    cases y with
    | error e' => cases h
    | ok b => exact .inr ⟨a, b, rfl, rfl, Except.ok.inj h⟩

namespace Validator

variable {v : Validator} {f : Format} {t : RuleTable} {a b : PokemonSet} {s s' : Session}
  {hook : Option MoveCheck} {c : SetContext}

/-- Respelled sets that also those read alike who see the names as they are written: the legality
check of the table, and the checks that compare the ability. -/
structure ReadAlike (v : Validator) (f : Format) (t : RuleTable) (a b : PokemonSet) : Prop where
  respelled : a.Respelled (v.registry.dexFor f) b
  hook : ∀ check, v.hookFor t = .ok (some check) → check.AgreesOn a b f (v.registry.dexFor f)
  ability : ∀ species, (v.registry.dexFor f).findSpecies? a.species = some species →
    ∀ id ∈ comparedAbilities f t species, (Text.toId a.ability = id ↔ Text.toId b.ability = id)

theorem ReadAlike.refl (v : Validator) (f : Format) (t : RuleTable) (a : PokemonSet) :
    v.ReadAlike f t a a where
  respelled := .refl _ a
  hook := fun _ _ _ => rfl
  ability := fun _ _ _ _ => Iff.rfl

/-- A respelled set is checked against the same, with its names written the other way. -/
theorem context?_respelled (h : a.Respelled (v.registry.dexFor f) b) :
    v.context? f t b = (v.context? f t a).map fun c => c.reword b.wording := by
  have hfind : (v.registry.dexFor f).findSpecies? b.species
      = (v.registry.dexFor f).findSpecies? a.species := h.names.species.find_eq.symm
  have hrest : a.reword b.wording = b := h.rest
  unfold context?
  dsimp only
  rw [hfind, Option.map_map]
  refine congrArg (Option.map · _) (funext fun species => ?_)
  show SetContext.mk b f t _ species v.config
    = SetContext.mk (a.reword b.wording) f t _ species v.config
  rw [hrest]

theorem alike_of_respelled (h : a.Respelled (v.registry.dexFor f) b)
    (hc : v.context? f t a = some c) : c.set.wording.Alike c.dex b.wording := by
  obtain ⟨species, -, rfl⟩ := context?_eq_some_iff.mp hc
  exact h.names

/-- What a report says of the set itself. -/
def findings (r : SetReport) : List Target × Option Species := (r.features, r.species)

/-- Without the legality check of the table, or with a species that is unknown, there is one report
for respelled sets, but for how it quotes the species.  Otherwise the checks are asked. -/
theorem report_cases_of_respelled (h : a.Respelled (v.registry.dexFor f) b) :
    ((v.report f t a).map findings = (v.report f t b).map findings
      ∧ (v.report f t a).map (fun r => r.problems.length)
        = (v.report f t b).map fun r => r.problems.length)
    ∨ ∃ hook c, v.hookFor t = .ok hook ∧ v.context? f t a = some c
      ∧ v.context? f t b = some (c.reword b.wording) := by
  cases hhook : v.hookFor t with
  | error failure =>
    refine .inl ?_
    rw [report_of_unregistered hhook, report_of_unregistered hhook]
    exact ⟨rfl, rfl⟩
  | ok hook =>
    have hcontext := @context?_respelled v f t a b h
    cases hc : v.context? f t a with
    | none =>
      rw [hc] at hcontext
      obtain ⟨problem, hrep⟩ := report_of_unknown hhook hc
      obtain ⟨problem', hrep'⟩ := report_of_unknown hhook hcontext
      refine .inl ?_
      rw [hrep, hrep']
      exact ⟨rfl, rfl⟩
    | some c =>
      rw [hc] at hcontext
      exact .inr ⟨hook, c, rfl, rfl, hcontext⟩

theorem map_findings_report_of_known (hhook : v.hookFor t = .ok hook)
    (hc : v.context? f t a = some c) : (v.report f t a).map findings
      = ((c.genderProblems.map List.length).mapError .ratio).map fun _ =>
          (c.features, some c.species) := by
  rw [report_of_known hhook hc, SetContext.problems_eq]
  cases c.genderProblems with
  | error cause => rfl
  | ok gender => simp only [Except.map, Except.mapError, findings]

theorem map_length_report_of_known (hhook : v.hookFor t = .ok hook)
    (hc : v.context? f t a = some c) : (v.report f t a).map (fun r => r.problems.length)
      = ((c.problems hook).map List.length).mapError .ratio := by
  rw [report_of_known hhook hc]
  cases c.problems hook <;> rfl

/-- **Respelled sets have the same features.** -/
theorem map_findings_report (h : a.Respelled (v.registry.dexFor f) b) :
    (v.report f t a).map findings = (v.report f t b).map findings := by
  obtain ⟨hsame, -⟩ | ⟨hook, c, hhook, ha, hb⟩ := report_cases_of_respelled (t := t) h
  · exact hsame
  · rw [map_findings_report_of_known hhook ha, map_findings_report_of_known hhook hb,
      SetContext.map_length_genderProblems_reword,
      SetContext.features_reword (alike_of_respelled h ha), SetContext.reword_species]

/-- **Sets that are read alike have as many problems.** -/
theorem map_length_report (h : v.ReadAlike f t a b) :
    (v.report f t a).map (fun r => r.problems.length)
      = (v.report f t b).map fun r => r.problems.length := by
  obtain ⟨-, hsame⟩ | ⟨hook, c, hhook, ha, hb⟩ := report_cases_of_respelled (t := t) h.respelled
  · exact hsame
  · have halike := alike_of_respelled h.respelled ha
    obtain ⟨species, hspecies, rfl⟩ := context?_eq_some_iff.mp ha
    rw [map_length_report_of_known hhook ha, map_length_report_of_known hhook hb,
      SetContext.map_length_problems_reword halike]
    · intro check hcheck
      have hagree := h.hook check (hcheck ▸ hhook)
      rwa [← h.respelled.rest] at hagree
    · exact h.ability species hspecies

/-- A report knows only species that the dex finds. -/
theorem findSpecies?_of_report {r : SetReport} {species : Species}
    (h : v.report f t a = .ok r) (hspecies : r.species = some species) :
    (v.registry.dexFor f).findSpecies? a.species = some species := by
  cases hhook : v.hookFor t with
  | error failure =>
    rw [report_of_unregistered hhook] at h
    cases h
  | ok hook =>
    cases hc : v.context? f t a with
    | none =>
      obtain ⟨problem, hrep⟩ := report_of_unknown hhook hc
      rw [hrep] at h
      cases h
      cases hspecies
    | some c =>
      have hknown := map_findings_report_of_known hhook hc
      rw [h] at hknown
      cases hgender : c.genderProblems with
      | error cause =>
        rw [hgender] at hknown
        cases hknown
      | ok gender =>
        rw [hgender] at hknown
        have hsame : r.species = some c.species := congrArg Prod.snd (Except.ok.inj hknown)
        obtain ⟨found, hfound, rfl⟩ := context?_eq_some_iff.mp hc
        rw [hfound, ← hspecies, hsame]

/-- Sets that are read alike are checked alike, or neither has a report. -/
theorem checked_of_readAlike (h : v.ReadAlike f t a b) :
    (∃ e, v.checked f t a = .error e ∧ v.checked f t b = .error e)
      ∨ ∃ x y, v.checked f t a = .ok x ∧ v.checked f t b = .ok y ∧ CheckedSet.Alike f x y := by
  have hfindings := map_findings_report (t := t) h.respelled
  unfold checked
  obtain ⟨e, ha, hb⟩ | ⟨r, r', ha, hb, hlength⟩ := cases_of_map_eq (map_length_report h)
  · rw [ha, hb]
    exact .inl ⟨e, rfl, rfl⟩
  · rw [ha, hb] at hfindings ⊢
    obtain ⟨hfeatures, hspecies⟩ := Prod.mk.inj (Except.ok.inj hfindings)
    refine .inr ⟨_, _, rfl, rfl, ?_⟩
    exact
      { name := by rw [← h.respelled.rest]; rfl
        species := hspecies
        features := hfeatures
        problems := hlength
        ability := fun hf pair hpair id hid => by
          unfold CheckedSet.abilityId?
          dsimp only
          rw [← hspecies]
          cases hfound : r.species with
          | none => rfl
          | some species =>
            have hcompared := h.ability species (findSpecies?_of_report ha hfound) id
              (paired_mem_comparedAbilities hf hpair hid)
            simpa using hcompared }

theorem mapM_checked_of_readAlike {A B : List PokemonSet}
    (h : List.Forall₂ (v.ReadAlike f t) A B) :
    (∃ e, A.mapM (v.checked f t) = .error e ∧ B.mapM (v.checked f t) = .error e)
      ∨ ∃ xs ys, A.mapM (v.checked f t) = .ok xs ∧ B.mapM (v.checked f t) = .ok ys
        ∧ List.Forall₂ (CheckedSet.Alike f) xs ys := by
  induction h with
  | nil => exact .inr ⟨[], [], rfl, rfl, .nil⟩
  | @cons a b A B hab _ ih =>
    rw [List.mapM_cons, List.mapM_cons]
    obtain ⟨e, ha, hb⟩ | ⟨x, y, ha, hb, hxy⟩ := checked_of_readAlike hab
    · rw [ha, hb]
      exact .inl ⟨e, rfl, rfl⟩
    · rw [ha, hb]
      obtain ⟨e, hA, hB⟩ | ⟨xs, ys, hA, hB, hxys⟩ := ih
      · rw [hA, hB]
        exact .inl ⟨e, rfl, rfl⟩
      · rw [hA, hB]
        exact .inr ⟨x :: xs, y :: ys, rfl, rfl, .cons hxy hxys⟩

/-- **Teams whose sets are read alike have as many problems.** -/
theorem map_length_teamOutcome {A B : List PokemonSet} (hk : f.isKnown = true)
    (hs : v.registry.outcome 0 f s = .ok t) (hs' : v.registry.outcome 0 f s' = .ok t)
    (h : List.Forall₂ (v.ReadAlike f t) A B) :
    (v.teamOutcome f A s).map List.length = (v.teamOutcome f B s').map List.length := by
  rw [teamOutcome_eq hk hs, teamOutcome_eq hk hs']
  obtain ⟨e, hA, hB⟩ | ⟨xs, ys, hA, hB, hxys⟩ := mapM_checked_of_readAlike h
  · rw [hA, hB]
  · rw [hA, hB]
    exact congrArg Except.ok (TeamCheck.length_problems_of_alike hxys)

/-- **The spelling of names does not matter** in an existing format that resolves, except for the
ability where its name is compared as it is written.  Two sets that differ only in names under which
the dex finds the same have the same features.  If the legality check of the table objects to the
same moves of both, and each comparison with the identifier of the ability has the same outcome, the
sets have as many problems, and so has every team with one in place of the other. -/
theorem spelling_immaterial (hk : f.isKnown = true) (hs : v.registry.outcome 0 f s = .ok t)
    (hs' : v.registry.outcome 0 f s' = .ok t) (h : a.Respelled (v.registry.dexFor f) b) :
    (v.setOutcome f a s).map (fun r => r.features)
        = (v.setOutcome f b s').map (fun r => r.features)
      ∧ (v.ReadAlike f t a b →
        (v.setOutcome f a s).map (fun r => r.problems.length)
            = (v.setOutcome f b s').map (fun r => r.problems.length)
          ∧ ∀ before after, (v.teamOutcome f (before ++ a :: after) s).map List.length
            = (v.teamOutcome f (before ++ b :: after) s').map List.length) := by
  rw [setOutcome_eq hk hs, setOutcome_eq hk hs']
  refine ⟨?_, fun halike => ⟨map_length_report halike, fun before after => ?_⟩⟩
  · obtain ⟨e, ha, hb⟩ | ⟨r, r', ha, hb, hsame⟩ := cases_of_map_eq (map_findings_report (t := t) h)
    · rw [ha, hb]
    · rw [ha, hb]
      exact congrArg Except.ok (congrArg Prod.fst hsame)
  · have hsame : ∀ sets : List PokemonSet, List.Forall₂ (v.ReadAlike f t) sets sets :=
      fun sets => List.forall₂_same.mpr fun set _ => .refl v f t set
    exact map_length_teamOutcome hk hs hs'
      (List.rel_append (hsame before) (.cons halike (hsame after)))

/-! ### A dex with aliases -/

namespace Sample

/-- The small dex with other names for what is in it, and with a forme that needs its ability. -/
def aliasedDex : Dex :=
  { dex with
    species := ⟨[("pikachu", species "Pikachu" 25 "Static" "Pichu"),
      ("snorlax",
        { species "Snorlax" 143 "Immunity" "Munchlax" with requiredAbility := "Immunity" })],
      by decide⟩
    aliases := ⟨[("bulb", "lightball"), ("guard", "immunity"), ("mouse", "pikachu"),
      ("spark", "static"), ("wave", "surf")], by decide⟩ }

/-- The registry of the small records over this dex, if there is one. -/
def aliasedBuilt : Except RegistryError FormatRegistry :=
  FormatRegistry.build {} ⟨[("gen7", aliasedDex)], by decide⟩ .null (records.map .record)

theorem isSome_aliasedBuilt : aliasedBuilt.toOption.isSome = true := by decide +kernel

/-- A legality check that looks at the move only. -/
def unlearned : MoveCheck := fun move _ _ _ =>
  if move.id = "bodyslam" then some "It is not learned." else none

/-- A validator of these formats with that check. -/
def aliasedValidator : Validator where
  registry := aliasedBuilt.toOption.get isSome_aliasedBuilt
  hooks := ⟨[("learned", unlearned)], by decide⟩
  config := {}

/-- The cup over this dex. -/
def aliasedCup : Format := aliasedValidator.registry.getFormat "cup"

theorem dexFor_aliased : aliasedValidator.registry.dexFor aliasedCup = aliasedDex := by rfl

theorem isSome_aliasedOutcome :
    (aliasedValidator.registry.outcome 0 aliasedCup .fresh).toOption.isSome = true := by
  decide +kernel

/-- The table of that cup. -/
def aliasedTable : RuleTable :=
  (aliasedValidator.registry.outcome 0 aliasedCup .fresh).toOption.get isSome_aliasedOutcome

theorem aliasedOutcome_eq :
    aliasedValidator.registry.outcome 0 aliasedCup .fresh = .ok aliasedTable :=
  FormatRegistry.eq_ok_get isSome_aliasedOutcome

theorem agreesOn_of_hookFor_aliased {a b : PokemonSet} {f : Format} {d : Dex} (check : MoveCheck)
    (h : aliasedValidator.hookFor aliasedTable = .ok (some check)) : check.AgreesOn a b f d := by
  have hhook : aliasedTable.hook = some ⟨"learned", "Cup"⟩ := by decide +kernel
  have hcheck : aliasedValidator.hookFor aliasedTable = .ok (some unlearned) := by
    unfold hookFor
    rw [hhook]
    rfl
  rw [hcheck] at h
  cases h
  exact fun _ => rfl

/-- The set with a held item under other names. -/
def mouse : PokemonSet := pokemon "MOUSE" "bulb" "spark" ["wave!"]

theorem respelled_mouse : pikachu.Respelled aliasedDex mouse where
  rest := rfl
  names :=
    { species := .inr ⟨species "Pikachu" 25 "Static" "Pichu", by decide +kernel, by decide +kernel⟩
      item := .inr ⟨item "Light Ball" 236, by decide +kernel, by decide +kernel⟩
      ability := .inr ⟨⟨entity "Static" 9⟩, by decide +kernel, by decide +kernel⟩
      moves := .cons (.inr ⟨move "Surf" 57, by decide +kernel, by decide +kernel⟩) .nil }

/-- The forme that needs its ability, with one move. -/
def guardian (ability : String) : PokemonSet := pokemon "Snorlax" "Leftovers" ability ["Surf"]

theorem respelled_guardian :
    (guardian "Immunity").Respelled aliasedDex (guardian "Guard") where
  rest := rfl
  names :=
    { species := .inl rfl
      item := .inl rfl
      ability := .inr ⟨⟨entity "Immunity" 17⟩, by decide +kernel, by decide +kernel⟩
      moves := .cons (.inl rfl) .nil }

end Sample

/-- Pikachu under other names has as many problems, also in every team. -/
theorem spelling_immaterial_mouse :
    (Sample.aliasedValidator.setOutcome Sample.aliasedCup Sample.pikachu .fresh).map
        (fun r => r.features)
      = (Sample.aliasedValidator.setOutcome Sample.aliasedCup Sample.mouse .fresh).map
        (fun r => r.features)
    ∧ (Sample.aliasedValidator.setOutcome Sample.aliasedCup Sample.pikachu .fresh).map
        (fun r => r.problems.length)
      = (Sample.aliasedValidator.setOutcome Sample.aliasedCup Sample.mouse .fresh).map
        (fun r => r.problems.length)
    ∧ ∀ before after,
      (Sample.aliasedValidator.teamOutcome Sample.aliasedCup (before ++ Sample.pikachu :: after)
        .fresh).map List.length
      = (Sample.aliasedValidator.teamOutcome Sample.aliasedCup (before ++ Sample.mouse :: after)
        .fresh).map List.length := by
  have hknown : Sample.aliasedCup.isKnown = true := by decide +kernel
  have hrespelled : Sample.pikachu.Respelled
      (Sample.aliasedValidator.registry.dexFor Sample.aliasedCup) Sample.mouse := by
    rw [Sample.dexFor_aliased]
    exact Sample.respelled_mouse
  have hsame := spelling_immaterial hknown Sample.aliasedOutcome_eq Sample.aliasedOutcome_eq
    hrespelled
  refine ⟨hsame.1, hsame.2 ?_⟩
  exact
    { respelled := hrespelled
      hook := fun check hcheck => Sample.agreesOn_of_hookFor_aliased check hcheck
      ability := fun species hspecies => by
        have hfound : Sample.aliasedDex.findSpecies? "Pikachu"
            = some (Sample.species "Pikachu" 25 "Static" "Pichu") := by decide +kernel
        rw [Sample.dexFor_aliased] at hspecies
        cases hfound.symm.trans hspecies
        have hnone : comparedAbilities Sample.aliasedCup Sample.aliasedTable
            (Sample.species "Pikachu" 25 "Static" "Pichu") = [] := by decide +kernel
        rw [hnone]
        nofun }

/-- **An alias of an ability can cost a problem.**  A forme that needs its ability lacks it when the
set names it by an alias, in a format whose legality check does not look at the set. -/
theorem aliased_ability_counts :
    Sample.aliasedCup.isKnown = true
    ∧ Sample.aliasedValidator.registry.outcome 0 Sample.aliasedCup .fresh = .ok Sample.aliasedTable
    ∧ (Sample.guardian "Immunity").Respelled
      (Sample.aliasedValidator.registry.dexFor Sample.aliasedCup) (Sample.guardian "Guard")
    ∧ (∀ check, Sample.aliasedValidator.hookFor Sample.aliasedTable = .ok (some check) →
      check.AgreesOn (Sample.guardian "Immunity") (Sample.guardian "Guard") Sample.aliasedCup
        (Sample.aliasedValidator.registry.dexFor Sample.aliasedCup))
    ∧ (Sample.aliasedValidator.setOutcome Sample.aliasedCup (Sample.guardian "Immunity")
      .fresh).map (fun r => r.problems.length) = .ok 0
    ∧ (Sample.aliasedValidator.setOutcome Sample.aliasedCup (Sample.guardian "Guard")
      .fresh).map (fun r => r.problems.length) = .ok 1
    ∧ (Sample.aliasedValidator.teamOutcome Sample.aliasedCup [Sample.guardian "Immunity"]
      .fresh).map List.length = .ok 0
    ∧ (Sample.aliasedValidator.teamOutcome Sample.aliasedCup [Sample.guardian "Guard"]
      .fresh).map List.length = .ok 1 := by
  have hrespelled : (Sample.guardian "Immunity").Respelled
      (Sample.aliasedValidator.registry.dexFor Sample.aliasedCup) (Sample.guardian "Guard") := by
    rw [Sample.dexFor_aliased]
    exact Sample.respelled_guardian
  refine ⟨by decide +kernel, Sample.aliasedOutcome_eq, hrespelled,
    fun check hcheck => Sample.agreesOn_of_hookFor_aliased check hcheck, ?_⟩
  -- The four outcomes are evaluated together, over one registry.
  decide +kernel

end Validator

end TeamLegality
