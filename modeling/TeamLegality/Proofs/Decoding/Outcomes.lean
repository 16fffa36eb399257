import TeamLegality.Decoding.Fields
import Mathlib.Tactic.SplitIfs

/-!
# Outcomes — when reading is aborted

Reading ends with a value, with issues or, where a part has a shape that cannot be normalised, with
neither.  `Decoded.AbortsIff x p` says that the last happens exactly when `p` holds, and that a
rejection names at least one issue.  There is a rule for each way in which outcomes are combined, so
that the condition of a record is read off its fields: reading is aborted when it is for one of the
parts, wherever that part stands and whatever else is wrong.
-/

namespace TeamLegality

open Decoding

/-- A field whose name is a single word is the member of that name. -/
theorem Decoding.findField?_of_compact {members : List (String × Json)} {name : String}
    (h : compactName name = name) :
    findField? members name = (Json.member? members name).map fun j => (name, j) := by
  unfold findField?
  rw [h]
  cases Json.member? members name <;> rfl

namespace Decoded

variable {α β : Type} {x : Decoded α} {p q : Prop}

/-- An outcome is aborted exactly under a condition, and is no rejection without issues. -/
structure AbortsIff (x : Decoded α) (p : Prop) : Prop where
  aborted_iff : x = .aborted ↔ p
  rejected_ne : x ≠ .rejected []

@[simp] theorem abortsIff_accepted_iff {a : α} : (accepted a).AbortsIff p ↔ ¬ p :=
  ⟨fun h hp => (nomatch h.aborted_iff.mpr hp), fun h => ⟨iff_of_false nofun h, nofun⟩⟩

@[simp] theorem abortsIff_rejected_iff {issues : List Issue} :
    (rejected issues : Decoded α).AbortsIff p ↔ ¬ p ∧ issues ≠ [] := by
  constructor
  · intro h
    refine ⟨fun hp => (nomatch h.aborted_iff.mpr hp), ?_⟩
    rintro rfl
    exact h.rejected_ne rfl
  · rintro ⟨hp, hne⟩
    exact ⟨iff_of_false nofun hp, fun heq => hne (rejected.inj heq)⟩

@[simp] theorem abortsIff_aborted_iff : (aborted : Decoded α).AbortsIff p ↔ p :=
  ⟨fun h => h.aborted_iff.mp rfl, fun h => ⟨iff_of_true rfl h, nofun⟩⟩

namespace AbortsIff

/-- **Reading ends in one of three ways.** -/
theorem outcomes (h : x.AbortsIff p) : (∃ a, x = .accepted a)
    ∨ (∃ issues, issues ≠ [] ∧ x = .rejected issues) ∨ x = .aborted := by
  cases x with
  | accepted a => exact .inl ⟨a, rfl⟩
  | rejected issues => exact .inr (.inl ⟨issues, (abortsIff_rejected_iff.mp h).2, rfl⟩)
  | aborted => exact .inr (.inr rfl)

theorem congr (h : x.AbortsIff p) (hpq : p ↔ q) : x.AbortsIff q :=
  ⟨h.aborted_iff.trans hpq, h.rejected_ne⟩

/-! ### Rules for outcomes -/

theorem fail (fault : Fault) : (Decoded.fail fault : Decoded α).AbortsIff False := by
  simp [Decoded.fail]

theorem map (h : x.AbortsIff p) (g : α → β) : (g <$> x).AbortsIff p := by
  show (x.map g).AbortsIff p
  cases x <;> simpa [Decoded.map] using h

/-- A combination is aborted when one of its parts is. -/
theorem seq {f : Decoded (α → β)} (hf : f.AbortsIff p) (hx : x.AbortsIff q) :
    (f <*> x).AbortsIff (p ∨ q) := by
  show (f.apply x).AbortsIff (p ∨ q)
  cases f <;> cases x <;> simp_all [Decoded.apply]

theorem seqLeft {y : Decoded β} (hx : x.AbortsIff p) (hy : y.AbortsIff q) :
    (x <* y).AbortsIff (p ∨ q) := (hx.map (Function.const β)).seq hy

theorem within (h : x.AbortsIff p) (step : PathStep) : (x.within step).AbortsIff p := by
  cases x <;> simpa [Decoded.within] using h

/-- Reading on from a value that is accepted does not abort if the rest does not. -/
theorem andThen {f : α → Decoded β} (h : x.AbortsIff p) (hf : ∀ a, (f a).AbortsIff False) :
    (x.andThen f).AbortsIff p := by
  cases x with
  | accepted a => exact (hf a).congr (iff_of_false id (abortsIff_accepted_iff.mp h))
  | rejected issues => exact abortsIff_rejected_iff.mpr (abortsIff_rejected_iff.mp h)
  | aborted => exact abortsIff_aborted_iff.mpr (abortsIff_aborted_iff.mp h)

/-! ### Rules for lists and fields -/

variable {read : Json → Decoded α} {bad : Json → Prop}

/-- Items are read in turn, and one that aborts is enough. -/
theorem ofItems (h : ∀ j, (read j).AbortsIff (bad j)) : ∀ (n : Nat) (items : List Json),
    (Decoded.ofItems read n items).AbortsIff (∃ j ∈ items, bad j)
  | _, [] => by simp [Decoded.ofItems]
  | n, j :: rest => by
    rw [Decoded.ofItems]
    exact ((((h j).within (.index n)).map List.cons).seq (ofItems h (n + 1) rest)).congr (by simp)

theorem ofList (h : ∀ j, (read j).AbortsIff (bad j)) (j : Json) :
    (Decoded.ofList read j).AbortsIff (∃ items, j = .arr items ∧ ∃ item ∈ items, bad item) := by
  cases j with
  | arr items => exact (ofItems h 0 items).congr (by simp)
  | _ => exact (fail _).congr (by simp)

theorem ofList_of_never (h : ∀ j, (read j).AbortsIff False) (j : Json) :
    (Decoded.ofList read j).AbortsIff False := (ofList h j).congr (by simp)

theorem ofOptional (h : ∀ j, (read j).AbortsIff False) (j : Json) :
    (Decoded.ofOptional read j).AbortsIff False := by
  cases j with
  | null => simp [Decoded.ofOptional]
  | _ => exact (h _).map some

theorem fieldOr {absent : Decoded α} (habsent : absent.AbortsIff False)
    (h : ∀ j, (read j).AbortsIff (bad j)) (members : List (String × Json)) (name : String) :
    (Decoding.fieldOr members name absent read).AbortsIff
      (∃ found, findField? members name = some found ∧ bad found.2) := by
  unfold Decoding.fieldOr
  cases findField? members name with
  | none => exact habsent.congr (by simp)
  | some found => exact ((h found.2).within (.field found.1)).congr (by simp)

/-- A field whose name is a single word aborts when the member of that name does. -/
theorem field {name : String} (hname : compactName name = name) (default : α)
    (h : ∀ j, (read j).AbortsIff (bad j)) (members : List (String × Json)) :
    (Decoding.field members name default read).AbortsIff
      (∃ j, Json.member? members name = some j ∧ bad j) := by
  refine (fieldOr (abortsIff_accepted_iff.mpr id) h members name).congr ?_
  rw [findField?_of_compact hname]
  cases Json.member? members name <;> simp

/-- A field does not abort if none of its values does. -/
theorem field_of_never (default : α) (h : ∀ j, (read j).AbortsIff False)
    (members : List (String × Json)) (name : String) :
    (Decoding.field members name default read).AbortsIff False :=
  (fieldOr (abortsIff_accepted_iff.mpr id) h members name).congr (by simp)

theorem required_of_never (h : ∀ j, (read j).AbortsIff False) (members : List (String × Json))
    (name : String) : (Decoding.required members name read).AbortsIff False :=
  (fieldOr ((fail _).within _) h members name).congr (by simp)

theorem noOthers (names : List String) (members : List (String × Json)) :
    (Decoding.noOthers names members).AbortsIff False := by
  unfold Decoding.noOthers
  split
  · simp
  · simp_all

end AbortsIff

/-! ### Scalars -/

theorem abortsIff_ofText (j : Json) : (ofText j).AbortsIff False := by
  cases j <;> simp [ofText, fail]

theorem abortsIff_ofNonemptyText (j : Json) : (ofNonemptyText j).AbortsIff False := by
  refine (abortsIff_ofText j).andThen fun s => ?_
  split_ifs <;> simp [fail]

theorem abortsIff_ofWhole (j : Json) : (ofWhole j).AbortsIff False := by
  unfold ofWhole ofWholeText
  repeat' split
  all_goals simp [fail]

theorem abortsIff_ofTruth (j : Json) : (ofTruth j).AbortsIff False := by
  unfold ofTruth ofTruthNumber
  repeat' split
  all_goals simp [fail]

end Decoded

end TeamLegality
