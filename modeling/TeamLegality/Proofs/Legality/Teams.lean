import TeamLegality.Proofs.Legality.Reports
import TeamLegality.Proofs.Legality.TeamChecks

/-!
# Teams — which teams are legal, and how their problems grow

What comes of checking a team, in whatever session it is checked.  It has no problem exactly when it
is legal (`teamOutcome_nil_iff`).  A team of more sets, in any order, has no fewer problems
(`problems_of_subperm`).
-/

namespace TeamLegality

namespace Validator

variable {v : Validator} {f : Format} {t : RuleTable} {s s' : Session} {sets : List PokemonSet}
  {hook : Option MoveCheck}

theorem teamOutcome_eq_nil_iff (hk : f.isKnown = true) (ht : v.registry.outcome 0 f s = .ok t) :
    v.teamOutcome f sets s = .ok [] ↔ ∃ checked : List CheckedSet,
      checked.map (fun x => x.set) = sets ∧ (∀ x ∈ checked, v.report f t x.set = .ok x.report)
        ∧ TeamCheck.Legal v.config f t checked := by
  have hall : v.teamOutcome f sets s = .ok [] ↔ ∃ checked, sets.mapM (v.checked f t) = .ok checked
      ∧ TeamCheck.problems v.config f t checked = [] := by
    rw [teamOutcome_eq hk ht]
    cases sets.mapM (v.checked f t) <;> simp [Except.map]
  rw [hall]
  refine exists_congr fun checked => ?_
  rw [mapM_checked_eq_ok_iff, TeamCheck.problems_eq_nil_iff, and_assoc]

/-- **What a legal team is.**  A team has no problem in an existing format that resolves exactly
when all of its sets have reports, and the sets with their reports make a legal team. -/
theorem teamOutcome_nil_iff (hk : f.isKnown = true) (ht : v.registry.outcome 0 f s = .ok t) :
    v.teamOutcome f sets s = .ok [] ↔ ∃ checked : List CheckedSet,
      checked.map (fun x => x.set) = sets
        ∧ (∀ x ∈ checked, v.setOutcome f x.set s = .ok x.report)
        ∧ TeamCheck.Legal v.config f t checked := by
  have hreports : ∀ checked : List CheckedSet,
      (∀ x ∈ checked, v.setOutcome f x.set s = .ok x.report)
        ↔ ∀ x ∈ checked, v.report f t x.set = .ok x.report :=
    fun checked => forall₂_congr fun x _ => by rw [setOutcome_eq hk ht]
  rw [teamOutcome_eq_nil_iff hk ht]
  exact exists_congr fun checked => by rw [hreports]

/-- Pikachu and Snorlax make a legal team, although each of them holds an item that counts. -/
theorem teamOutcome_nil_iff_pair :
    Sample.validator.teamOutcome Sample.cup [Sample.pikachu, Sample.snorlax] .fresh = .ok []
      ∧ ∃ checked : List CheckedSet,
        checked.map (fun x => x.set) = [Sample.pikachu, Sample.snorlax]
          ∧ (∀ x ∈ checked,
            Sample.validator.setOutcome Sample.cup x.set .fresh = .ok x.report)
          ∧ TeamCheck.Legal Sample.validator.config Sample.cup Sample.table checked := by
  have hnone : Sample.validator.teamOutcome Sample.cup [Sample.pikachu, Sample.snorlax] .fresh
      = .ok [] := by decide +kernel
  exact ⟨hnone, (teamOutcome_nil_iff Sample.isKnown_cup Sample.outcome_eq).mp hnone⟩

/-- The sets of a team that has reports, with the reports, are given by a function. -/
theorem exists_reported (h : ∀ set ∈ sets, ∃ report, v.report f t set = .ok report) :
    ∃ reported : PokemonSet → CheckedSet, ∀ part, part ⊆ sets →
      part.mapM (v.checked f t) = .ok (part.map reported) := by
  let reported (set : PokemonSet) : CheckedSet :=
    ⟨set, (v.report f t set).toOption.getD { problems := [] }⟩
  refine ⟨reported, fun part hpart => mapM_checked_eq_ok_iff.mpr ⟨?_, ?_⟩⟩
  · rw [List.map_map]
    exact List.map_id part
  · intro x hx
    obtain ⟨set, hset, rfl⟩ := List.mem_map.mp hx
    obtain ⟨report, hreport⟩ := h set (hpart hset)
    show v.report f t set = .ok ((v.report f t set).toOption.getD _)
    rw [hreport]
    rfl

/-- A part of a team that has problems to report has no more of them. -/
theorem exists_problems_of_subperm {A B : List PokemonSet} {problems : List String}
    (hk : f.isKnown = true) (hs : v.registry.outcome 0 f s = .ok t)
    (hs' : v.registry.outcome 0 f s' = .ok t) (hne : A ≠ []) (hsub : A.Subperm B)
    (hB : v.teamOutcome f B s' = .ok problems) :
    ∃ fewer, v.teamOutcome f A s = .ok fewer ∧ fewer.length ≤ problems.length := by
  obtain ⟨reported, hreported⟩ := exists_reported ((exists_teamOutcome_iff hk hs').mp ⟨_, hB⟩)
  rw [teamOutcome_eq hk hs', hreported B (List.Subset.refl B)] at hB
  cases hB
  refine ⟨_, by rw [teamOutcome_eq hk hs, hreported A hsub.subset]; rfl, ?_⟩
  -- The reports on the rest of the team come last in some order of all reports.
  obtain ⟨part, hpart, hsublist⟩ := hsub
  obtain ⟨rest, hrest⟩ := hsublist.exists_perm_append
  have hperm : (B.map reported).Perm (A.map reported ++ rest.map reported) := by
    rw [← List.map_append]
    exact (hrest.trans (hpart.append_right rest)).map reported
  exact TeamCheck.length_problems_le (by simpa using hne) hperm

/-- A team is left without an answer only where the gender ratio of a species is no number. -/
theorem exists_of_teamOutcome_error {e : Failure} (hk : f.isKnown = true)
    (hs : v.registry.outcome 0 f s = .ok t) (hhook : v.hookFor t = .ok hook)
    (h : v.teamOutcome f sets s = .error e) : ∃ set ∈ sets, ∃ c cause,
      v.context? f t set = some c ∧ c.gen = 2 ∧ c.species.genderThreshold = .error cause
        ∧ e = .ratio cause := by
  have hfails : sets.mapM (v.checked f t) = .error e := by
    rw [teamOutcome_eq hk hs] at h
    cases hxs : sets.mapM (v.checked f t) with
    | ok xs =>
      rw [hxs] at h
      cases h
    | error e' =>
      rw [hxs] at h
      cases h
      rfl
  obtain ⟨set, hset, hchecked⟩ := exists_of_mapM_error hfails
  exact ⟨set, hset, exists_of_report_error hhook (checked_eq_error_iff.mp hchecked)⟩

/-- **The problems of a team grow with its sets and not with their order.**  Checking a team in an
existing format that resolves can only fail where the gender ratio of a species is no number.  When
it gives an answer, so does every part of the team that is not empty, in any order: it has no more
problems, as many if it is the same team in another order, and none if the whole team has none. -/
theorem problems_of_subperm {A B : List PokemonSet} (hk : f.isKnown = true)
    (hs : v.registry.outcome 0 f s = .ok t) (hs' : v.registry.outcome 0 f s' = .ok t)
    (hhook : v.hookFor t = .ok hook) (hne : A ≠ []) (hsub : A.Subperm B) :
    (∀ e, v.teamOutcome f B s' = .error e → ∃ set ∈ B, ∃ c cause, v.context? f t set = some c
      ∧ c.gen = 2 ∧ c.species.genderThreshold = .error cause ∧ e = .ratio cause)
    ∧ ∀ problems, v.teamOutcome f B s' = .ok problems →
      ∃ fewer, v.teamOutcome f A s = .ok fewer ∧ fewer.length ≤ problems.length
        ∧ (A.Perm B → fewer.length = problems.length) ∧ (problems = [] → fewer = []) := by
  refine ⟨fun e he => exists_of_teamOutcome_error hk hs' hhook he, fun problems hB => ?_⟩
  obtain ⟨fewer, hA, hle⟩ := exists_problems_of_subperm hk hs hs' hne hsub hB
  refine ⟨fewer, hA, hle, fun hperm => ?_, fun hnone => ?_⟩
  · have hneB : B ≠ [] := by
      rintro rfl
      exact hne hperm.eq_nil
    obtain ⟨problems', hB', hge⟩ :=
      exists_problems_of_subperm hk hs' hs hneB hperm.symm.subperm hA
    rw [hB] at hB'
    cases hB'
    omega
  · rw [hnone] at hle
    exact List.length_eq_zero_iff.mp (Nat.le_zero.mp hle)

/-- Two of a kind have one problem.  With a set between them that holds another item that counts,
they have two. -/
theorem problems_of_subperm_pair :
    ∃ problems fewer,
      Sample.validator.teamOutcome Sample.cup [Sample.pikachu, Sample.snorlax, Sample.pikachu]
        .fresh = .ok problems
      ∧ Sample.validator.teamOutcome Sample.cup [Sample.pikachu, Sample.pikachu] .fresh = .ok fewer
      ∧ problems.length = 2 ∧ fewer.length ≤ problems.length := by
  have hsub : [Sample.pikachu, Sample.pikachu].Subperm
      [Sample.pikachu, Sample.snorlax, Sample.pikachu] := ⟨_, List.Perm.refl _, by simp⟩
  obtain ⟨problems, hproblems, hlength⟩ := Sample.exists_of_length (n := 2)
    (x := Sample.validator.teamOutcome Sample.cup
      [Sample.pikachu, Sample.snorlax, Sample.pikachu] .fresh) (by decide +kernel)
  obtain ⟨fewer, hfewer, hle, -⟩ := (problems_of_subperm Sample.isKnown_cup Sample.outcome_eq
    Sample.outcome_eq Sample.hookFor_eq (by simp) hsub).2 problems hproblems
  exact ⟨problems, fewer, hproblems, hfewer, hlength, hle⟩

end Validator

end TeamLegality
