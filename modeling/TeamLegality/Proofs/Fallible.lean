import TeamLegality.Error
import Mathlib.Data.List.Forall2

/-!
# Fallible — computations that may fail

A failure that is reported in other words is still the same failure.  A list of computations
succeeds exactly when each does, and fails as one of them does.
-/

namespace TeamLegality

section Except

variable {ε ε' α : Type} {f : ε → ε'} {x : Except ε α}

theorem toOption_eq_some_iff {a : α} : x.toOption = some a ↔ x = .ok a := by
  cases x <;> simp [Except.toOption]

theorem mapError_eq_ok_iff {a : α} : x.mapError f = .ok a ↔ x = .ok a := by
  cases x <;> simp [Except.mapError]

theorem mapError_eq_error_iff {e' : ε'} :
    x.mapError f = .error e' ↔ ∃ e, x = .error e ∧ f e = e' := by
  cases x <;> simp [Except.mapError]

theorem bind_eq_ok_iff {β : Type} {g : α → Except ε β} {b : β} :
    x >>= g = .ok b ↔ ∃ a, x = .ok a ∧ g a = .ok b := by
  cases x <;> simp [bind, Except.bind]

end Except

/-- What is related to a list comes from its members. -/
theorem exists_of_mem_forall₂ {α β : Type} {R : α → β → Prop} {l : List α} {ys : List β}
    (h : List.Forall₂ R l ys) {b : β} (hb : b ∈ ys) : ∃ a ∈ l, R a b := by
  induction h with
  | nil => cases hb
  | cons hab _ ih =>
    rcases List.mem_cons.mp hb with rfl | hb
    · exact ⟨_, List.mem_cons_self, hab⟩
    · obtain ⟨a, ha, hab⟩ := ih hb
      exact ⟨a, List.mem_cons_of_mem _ ha, hab⟩

section MapM

variable {ε α β : Type} {f : α → Except ε β}

theorem mapM_cons_eq_ok_iff {a : α} {l : List α} {ys : List β} : (a :: l).mapM f = .ok ys ↔
    ∃ b bs, f a = .ok b ∧ l.mapM f = .ok bs ∧ b :: bs = ys := by
  rw [List.mapM_cons]
  cases f a with
  | error e => simp [bind, Except.bind]
  | ok b => cases l.mapM f <;> simp [bind, Except.bind, pure, Except.pure]

theorem mapM_eq_ok_iff : ∀ {l : List α} {ys : List β}, l.mapM f = .ok ys ↔
    List.Forall₂ (fun a b => f a = .ok b) l ys
  | [], ys => by
    rw [List.forall₂_nil_left_iff]
    show (Except.ok [] : Except ε (List β)) = .ok ys ↔ ys = []
    rw [Except.ok.injEq, eq_comm]
  | a :: l, ys => by
    rw [mapM_cons_eq_ok_iff, List.forall₂_cons_left_iff]
    simp only [mapM_eq_ok_iff, eq_comm (a := ys)]

theorem exists_of_mapM_error {e : ε} : ∀ {l : List α}, l.mapM f = .error e →
    ∃ a ∈ l, f a = .error e
  | [], h => by cases h
  | a :: l, h => by
    rw [List.mapM_cons] at h
    cases ha : f a with
    | error e' =>
      rw [ha] at h
      cases h
      exact ⟨a, List.mem_cons_self, ha⟩
    | ok b =>
      cases hl : l.mapM f with
      | error e' =>
        rw [ha, hl] at h
        cases h
        obtain ⟨a', hmem, ha'⟩ := exists_of_mapM_error hl
        exact ⟨a', List.mem_cons_of_mem a hmem, ha'⟩
      | ok bs =>
        rw [ha, hl] at h
        cases h

end MapM

end TeamLegality
