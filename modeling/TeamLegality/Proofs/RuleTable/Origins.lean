import TeamLegality.Proofs.Assoc
import TeamLegality.Proofs.RuleTable.Lookup

/-!
# Origins — where the entries of a table come from when it inherits

An entry of a rule table is a key or a combination, and a table holds it with a source.  What a
table holds after it has inherited from another one it held before, or the other table holds it: a
source that is already known stays, and the empty source becomes the name of the format that the
entry is inherited from (`holds_inheritFrom`).  A legality hook is handed on as it is.
-/

namespace TeamLegality

namespace Combination

variable {c e : Combination} {l cs : List Combination}

theorem mem_merge : ∀ {l : List Combination}, e ∈ c.merge l → e = c ∨ e ∈ l
  | [], h => .inl (List.mem_singleton.mp h)
  | first :: rest, h => by
    unfold merge at h
    split_ifs at h with hkey hallowed
    · exact .inr h
    · exact (List.mem_cons.mp h).imp_right (List.mem_cons_of_mem first)
    · rcases List.mem_cons.mp h with rfl | h
      · exact .inr List.mem_cons_self
      · exact (mem_merge h).imp_right (List.mem_cons_of_mem first)

/-- Merging makes no combinations up. -/
theorem mem_mergeAll (h : e ∈ mergeAll l cs) : e ∈ l ∨ e ∈ cs := by
  induction cs generalizing l with
  | nil => exact .inl h
  | cons c cs ih =>
    rcases ih h with h | h
    · rcases mem_merge h with rfl | h
      · exact .inr List.mem_cons_self
      · exact .inl h
    · exact .inr (List.mem_cons_of_mem c h)

end Combination

/-- An entry of a rule table: a key, or a combination but for its source. -/
inductive TableEntry where
  | key (key : RuleKey)
  | combination (scope : BanScope) (c : Combination)

namespace RuleTable

/-- A table holds an entry with a source. -/
def Holds (t : RuleTable) (held : TableEntry) (source : String) : Prop :=
  match held with
  | .key key => t.get? key = some source
  | .combination scope c => { c with source } ∈ scope.list t

/-- The source of an entry once it is inherited from a format of that name. -/
def inheritedSource (origin source : String) : String := if source = "" then origin else source

variable {t t' u : RuleTable} {origin format source : String} {x : RuleKey} {held : TableEntry}
  {hook : LegalityHook}

theorem inheritedSource_ne (ho : origin ≠ "") (source : String) :
    inheritedSource origin source ≠ "" := by
  unfold inheritedSource
  split_ifs with h
  · exact ho
  · exact h

theorem holds_combination_iff {scope : BanScope} {c : Combination} :
    t.Holds (.combination scope c) source ↔ { c with source } ∈ scope.list t := Iff.rfl

/-! ### Keys -/

theorem get?_inheritKey_cases {entry : RuleKey × String}
    (h : (inheritKey origin t entry).get? x = some source) :
    t.get? x = some source ∨ x = entry.1 ∧ source = inheritedSource origin entry.2 := by
  unfold inheritKey at h
  split_ifs at h with hrefuses
  · exact .inl h
  all_goals
    rw [get?_set] at h
    split_ifs at h with hx
    · exact .inr ⟨hx, (Option.some.inj h).symm.trans (by simp [inheritedSource, *])⟩
    · exact .inl h

theorem get?_inheritKeys_cases (h : (t.inheritKeys u origin).get? x = some source) :
    t.get? x = some source ∨ ∃ s, u.get? x = some s ∧ source = inheritedSource origin s := by
  have hfold : ∀ (l : List (RuleKey × String)) (t : RuleTable), (∀ e ∈ l, u.get? e.1 = some e.2) →
      (l.foldl (inheritKey origin) t).get? x = some source →
      t.get? x = some source ∨ ∃ s, u.get? x = some s ∧ source = inheritedSource origin s := by
    intro l
    induction l with
    | nil => exact fun _ _ h => .inl h
    | cons e rest ih =>
      intro t hl h
      rcases ih _ (fun e' he' => hl e' (List.mem_cons_of_mem e he')) h with h | h
      · rcases get?_inheritKey_cases h with h | ⟨rfl, hsource⟩
        · exact .inl h
        · exact .inr ⟨e.2, hl e List.mem_cons_self, hsource⟩
      · exact .inr h
  exact hfold u.rules.entries t (fun e he => Assoc.get?_of_mem he) h

/-! ### Tables -/

/-- **What a table holds after inheriting** it held before, or it comes from the other table. -/
theorem holds_inheritFrom (h : t.inheritFrom u origin format = .ok t') (hh : t'.Holds held source) :
    t.Holds held source ∨ ∃ s, u.Holds held s ∧ source = inheritedSource origin s := by
  obtain ⟨hrules, hlist⟩ := inheritFrom_ok h
  cases held with
  | key key =>
    have hkey : (t.inheritKeys u origin).get? key = some source := by
      rw [← get?_of_rules_eq hrules]
      exact hh
    exact get?_inheritKeys_cases hkey
  | combination scope c =>
    rw [holds_combination_iff, hlist] at hh
    rcases Combination.mem_mergeAll hh with hh | hh
    · exact .inl hh
    · obtain ⟨c', hc', heq⟩ := List.mem_map.mp hh
      rw [Combination.inheritedFrom_eq] at heq
      have hsame : { c with source := c'.source } = c' := by
        cases c
        cases c'
        simp_all
      refine .inr ⟨c'.source, ?_, (congrArg Combination.source heq).symm⟩
      rw [holds_combination_iff, hsame]
      exact hc'

theorem hook_set {key : RuleKey} : (t.set key source).hook = t.hook := by
  cases key <;> rfl

theorem hook_inheritKeys : (t.inheritKeys u origin).hook = t.hook :=
  inheritKeys_induction u origin (fun _ t' => t'.hook = t.hook)
    (fun _ _ _ _ h => by unfold inheritKey; split <;> simp [hook_set, h]) (fun _ => True) rfl

theorem hook_inheritCombinations :
    ((t.inheritKeys u origin).inheritCombinations u origin).hook = t.hook := by
  rw [inheritCombinations_eq]
  exact hook_inheritKeys

/-- A hook after inheriting was there before, or it comes from the other table. -/
theorem hook_inheritFrom (h : t.inheritFrom u origin format = .ok t') (hh : t'.hook = some hook) :
    t.hook = some hook ∨ u.hook = some hook := by
  unfold inheritFrom inheritHook at h
  rw [hook_inheritCombinations] at h
  split at h
  · cases h
    exact .inl (hook_inheritCombinations.symm.trans hh)
  · next hu =>
    cases h
    exact .inr (hu.trans hh)
  · split_ifs at h
    cases h
    exact .inl (hook_inheritCombinations.symm.trans hh)

/-- Inheriting fails only for two hooks of different names. -/
theorem hooks_of_inheritFrom_error {cause : ConfigurationCause}
    (h : t.inheritFrom u origin format = .error cause) :
    ∃ current inherited, t.hook = some current ∧ u.hook = some inherited
      ∧ current.name ≠ inherited.name
      ∧ cause = .conflictingHooks format current.source inherited.source := by
  unfold inheritFrom inheritHook at h
  rw [hook_inheritCombinations] at h
  split at h
  · cases h
  · cases h
  · next current inherited ht hu =>
    split_ifs at h with hname
    cases h
    exact ⟨current, inherited, ht, hu, hname, rfl⟩

end RuleTable

end TeamLegality
