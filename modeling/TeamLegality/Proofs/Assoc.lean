import TeamLegality.Assoc
import Mathlib.Logic.Basic
import Mathlib.Tactic.SplitIfs

/-!
# Associations — entries, look-ups and what a run of insertions leaves

An entry is what its key is found with (`get?_of_mem`, `mem_of_get?`).  A key that is new comes after
the others, and what a run of insertions leaves under a key is the value inserted last, or else what
was there (`get?_foldl_insert`).
-/

namespace TeamLegality.Assoc

variable {κ α : Type} [DecidableEq κ] {t u : Assoc κ α} {l : List (κ × α)} {k : κ} {v : α}

/-! ### Entries and look-ups -/

theorem findValue?_of_mem :
    ∀ {l : List (κ × α)}, (l.map Prod.fst).Nodup → (k, v) ∈ l → findValue? k l = some v
  | e :: rest, hl, h => by
    rw [List.map_cons, List.nodup_cons] at hl
    rcases List.mem_cons.mp h with rfl | h
    · simp [findValue?]
    · have hne : e.1 ≠ k := by
        rintro rfl
        exact hl.1 (List.mem_map.mpr ⟨(e.1, v), h, rfl⟩)
      rw [findValue?, if_neg hne]
      exact findValue?_of_mem hl.2 h

/-- An entry is what its key is found with. -/
theorem get?_of_mem (h : (k, v) ∈ t.entries) : t.get? k = some v :=
  findValue?_of_mem t.nodup h

theorem mem_of_findValue? : ∀ {l : List (κ × α)}, findValue? k l = some v → (k, v) ∈ l
  | e :: rest, h => by
    rw [findValue?] at h
    split_ifs at h with hk
    · rw [← hk, ← Option.some.inj h]
      exact List.mem_cons_self
    · exact List.mem_cons_of_mem e (mem_of_findValue? h)

theorem mem_of_get? (h : t.get? k = some v) : (k, v) ∈ t.entries := mem_of_findValue? h

theorem findValue?_eq_none (h : k ∉ l.map Prod.fst) : findValue? k l = none := by
  rw [← Option.not_isSome_iff_eq_none, findValue?_isSome]
  exact h

/-! ### Insertions -/

theorem insertEntry_of_notMem : ∀ {l : List (κ × α)}, k ∉ l.map Prod.fst →
    insertEntry k v l = l ++ [(k, v)]
  | [], _ => rfl
  | e :: rest, h => by
    obtain ⟨hfirst, hrest⟩ := not_or.mp (mt List.mem_cons.mpr h)
    rw [insertEntry, if_neg (Ne.symm hfirst), insertEntry_of_notMem hrest, List.cons_append]

/-- A new key comes after the others. -/
theorem entries_insert_of_notMem (h : k ∉ t.keys) :
    (t.insert k v).entries = t.entries ++ [(k, v)] := insertEntry_of_notMem h

theorem get?_foldl_insert : ∀ {l : List (κ × α)} {t : Assoc κ α}, (l.map Prod.fst).Nodup →
    (l.foldl (fun t e => t.insert e.1 e.2) t).get? k = (findValue? k l).or (t.get? k)
  | [], t, _ => rfl
  | e :: rest, t, h => by
    obtain ⟨hfirst, hrest⟩ := List.nodup_cons.mp h
    rw [List.foldl_cons, get?_foldl_insert hrest, get?_insert, findValue?]
    by_cases hk : e.1 = k
    · subst hk
      simp [findValue?_eq_none hfirst]
    · rw [if_neg hk, if_neg (Ne.symm hk)]

theorem mem_keys_foldl_insert : ∀ {l : List (κ × α)} {t : Assoc κ α},
    k ∈ (l.foldl (fun t e => t.insert e.1 e.2) t).keys ↔ k ∈ l.map Prod.fst ∨ k ∈ t.keys
  | [], t => by simp
  | e :: rest, t => by
    have hinsert : k ∈ (t.insert e.1 e.2).keys ↔ k = e.1 ∨ k ∈ t.keys := by
      rw [keys_insert]
      split_ifs with h
      · exact ⟨.inr, fun hk => hk.elim (fun heq => heq ▸ h) id⟩
      · rw [List.mem_append, List.mem_singleton, or_comm]
    rw [List.foldl_cons, mem_keys_foldl_insert, hinsert, List.map_cons, List.mem_cons,
      or_left_comm, or_assoc]

theorem mem_keys_ofList : k ∈ (ofList l).keys ↔ k ∈ l.map Prod.fst :=
  mem_keys_foldl_insert.trans (or_iff_left List.not_mem_nil)

/-! ### Overlays -/

/-- What an overlay has for a key: what is put over, or else what was there. -/
theorem get?_overlay : (t.overlay u).get? k = (u.get? k).or (t.get? k) :=
  get?_foldl_insert u.nodup

/-- Overlaying values of keys that are there adds no keys. -/
theorem keys_overlay (h : ∀ k ∈ u.keys, k ∈ t.keys) : (t.overlay u).keys = t.keys := by
  have hfold : ∀ {l : List (κ × α)} {t : Assoc κ α}, (∀ k ∈ l.map Prod.fst, k ∈ t.keys) →
      (l.foldl (fun t e => t.insert e.1 e.2) t).keys = t.keys := by
    intro l
    induction l with
    | nil => exact fun _ => rfl
    | cons e rest ih =>
      intro t h
      obtain ⟨hfirst, hrest⟩ := List.forall_mem_cons.mp h
      have hkeys : (t.insert e.1 e.2).keys = t.keys := by rw [keys_insert, if_pos hfirst]
      rw [List.foldl_cons, ih (by rwa [hkeys]), hkeys]
  exact hfold h

end TeamLegality.Assoc
