import TeamLegality.Proofs.Decoding.Outcomes
import TeamLegality.Proofs.Json.Members

/-!
# Spellings — a field reads the same in either spelling

A field may be a member under its name or under the compact spelling of it.  As long as an object
has each field at most once, what a field reads is the member that stands under its name when every
field is put there (`fieldValue?_eq_member?`).  So members that are spelled otherwise are read
alike: the outcome is the same value, or issues of the same kinds in the same order
(`Decoded.Alike`).  There is a rule for each way in which outcomes are combined.
-/

namespace TeamLegality

namespace Decoding

/-! ### Members under the names of their fields -/

/-- The field whose compact spelling a name is, or else the name itself. -/
def fieldOf (names : List String) (spelling : String) : String :=
  (names.find? fun name => compactName name == spelling).getD spelling

/-- The members, each field under its name. -/
def byField (names : List String) (members : List (String × Json)) : List (String × Json) :=
  members.map fun m => (fieldOf names m.1, m.2)

/-- Both spellings of each field are told apart from those of the others. -/
def AreTold (names : List String) : Prop :=
  ∀ name ∈ names, fieldOf names name = name ∧ fieldOf names (compactName name) = name

instance (names : List String) : Decidable (AreTold names) :=
  inferInstanceAs (Decidable (∀ name ∈ names, _ ∧ _))

/-- Members are spelled otherwise: no two of them are the same field, and with each field under its
name they are the same members. -/
structure Respelled (names : List String) (members members' : List (String × Json)) : Prop where
  once : ((byField names members).map Prod.fst).Nodup
  same : byField names members = byField names members'

/-- What an object has as a field, in either spelling. -/
def fieldValue? (members : List (String × Json)) (name : String) : Option Json :=
  (findField? members name).map Prod.snd

variable {names : List String} {members members' : List (String × Json)} {name k : String}
  {j : Json}

theorem byField_eq_zip (names : List String) (members : List (String × Json)) : byField names members
    = ((members.map Prod.fst).map (fieldOf names)).zip (members.map Prod.snd) := by
  unfold byField
  rw [List.map_map, List.zip_map']
  rfl

theorem fields_byField (names : List String) (members : List (String × Json)) :
    (byField names members).map Prod.fst = (members.map Prod.fst).map (fieldOf names) := by
  simp [byField, Function.comp_def]

/-- Members are spelled otherwise when their names spell the same fields, each once, and their
values are the same. -/
theorem respelled_of_names (honce : ((members.map Prod.fst).map (fieldOf names)).Nodup)
    (hnames : (members.map Prod.fst).map (fieldOf names)
      = (members'.map Prod.fst).map (fieldOf names))
    (hvalues : members.map Prod.snd = members'.map Prod.snd) :
    Respelled names members members' where
  once := by rwa [fields_byField]
  same := by rw [byField_eq_zip, byField_eq_zip, hnames, hvalues]

theorem eq_or_eq_of_fieldOf (h : fieldOf names k = name) : k = name ∨ k = compactName name := by
  unfold fieldOf at h
  cases hfind : names.find? fun name => compactName name == k with
  | none =>
    rw [hfind] at h
    exact .inl h
  | some found =>
    rw [hfind] at h
    obtain rfl : found = name := h
    have hcompact := List.find?_some hfind
    exact .inr (beq_iff_eq.mp hcompact).symm

theorem names_nodup (honce : ((byField names members).map Prod.fst).Nodup) :
    (members.map Prod.fst).Nodup := by
  rw [fields_byField] at honce
  exact honce.of_map _

theorem mem_byField (h : (k, j) ∈ members) : (fieldOf names k, j) ∈ byField names members :=
  List.mem_map_of_mem (f := fun m : String × Json => (fieldOf names m.1, m.2)) h

/-- **A field reads the member under its name**, once every field is put there. -/
theorem fieldValue?_eq_member? (htold : AreTold names)
    (honce : ((byField names members).map Prod.fst).Nodup) (hname : name ∈ names) :
    fieldValue? members name = Json.member? (byField names members) name := by
  have hnodup := names_nodup honce
  have hput : ∀ {k j}, Json.member? members k = some j → fieldOf names k = name →
      Json.member? (byField names members) name = some j := by
    intro k j hj hk
    have hmem : (fieldOf names k, j) ∈ byField names members :=
      mem_byField ((Json.member?_eq_some_iff hnodup).mp hj)
    rw [hk] at hmem
    exact (Json.member?_eq_some_iff honce).mpr hmem
  unfold fieldValue? findField?
  cases hcompact : Json.member? members (compactName name) with
  | some j => exact (hput hcompact (htold name hname).2).symm
  | none =>
    cases hfull : Json.member? members name with
    | some j => exact (hput hfull (htold name hname).1).symm
    | none =>
      -- A member under the name would have been one in either spelling.
      symm
      rw [Option.map_none, Option.map_none, Option.eq_none_iff_forall_ne_some]
      intro j hj
      obtain ⟨⟨k, j'⟩, hmem, heq⟩ := List.mem_map.mp ((Json.member?_eq_some_iff honce).mp hj)
      rw [Prod.mk.injEq] at heq
      obtain ⟨hk, rfl⟩ := heq
      have hfound := (Json.member?_eq_some_iff hnodup).mpr hmem
      rcases eq_or_eq_of_fieldOf hk with rfl | rfl
      · rw [hfull] at hfound
        cases hfound
      · rw [hcompact] at hfound
        cases hfound

theorem Respelled.symm (h : Respelled names members members') : Respelled names members' members :=
  ⟨h.same ▸ h.once, h.same.symm⟩

/-- **Fields have the same values** however the members are spelled. -/
theorem Respelled.fieldValue?_eq (h : Respelled names members members') (htold : AreTold names)
    (hname : name ∈ names) : fieldValue? members name = fieldValue? members' name := by
  rw [fieldValue?_eq_member? htold h.once hname, fieldValue?_eq_member? htold h.symm.once hname,
    h.same]

/-- A field whose name is a single word is the member of that name. -/
theorem fieldValue?_of_compact (h : compactName name = name) :
    fieldValue? members name = Json.member? members name := by
  unfold fieldValue?
  rw [findField?_of_compact h]
  cases Json.member? members name <;> rfl

theorem spelling_of_findField? (h : findField? members name = some (k, j)) :
    k = name ∨ k = compactName name := by
  unfold findField? at h
  split at h
  · cases h
    exact .inr rfl
  · obtain ⟨j', -, hj⟩ := Option.map_eq_some_iff.mp h
    cases hj
    exact .inl rfl

end Decoding

open Decoding

/-- Issues are alike: they have the same fault at the same place, but for the spelling of the field
in which the place is. -/
structure Issue.Alike (i i' : Issue) : Prop where
  fault : i.fault = i'.fault
  path : i.path = i'.path ∨ ∃ name k k' rest, (k = name ∨ k = compactName name)
    ∧ (k' = name ∨ k' = compactName name) ∧ i.path = .field k :: rest ∧ i'.path = .field k' :: rest

theorem Issue.Alike.refl (i : Issue) : i.Alike i := ⟨rfl, .inl rfl⟩

namespace Decoded

variable {α β : Type}

/-- Outcomes are alike: the same value, or alike issues in the same order. -/
inductive Alike : Decoded α → Decoded α → Prop where
  | accepted (a : α) : Alike (.accepted a) (.accepted a)
  | rejected {issues issues' : List Issue} (h : List.Forall₂ Issue.Alike issues issues') :
      Alike (.rejected issues) (.rejected issues')
  | aborted : Alike .aborted .aborted

namespace Alike

variable {x x' : Decoded α} {f f' : Decoded (α → β)} {members members' : List (String × Json)}
  {name k k' : String}

theorem refl (x : Decoded α) : x.Alike x := by
  cases x with
  | accepted a => exact .accepted a
  | rejected issues => exact .rejected (List.forall₂_same.mpr fun i _ => .refl i)
  | aborted => exact .aborted

theorem eq_accepted {a : α} (h : x.Alike x') (hx : x = .accepted a) : x' = .accepted a := by
  subst hx
  cases h
  rfl

theorem map (h : x.Alike x') (g : α → β) : (g <$> x).Alike (g <$> x') := by
  cases h with
  | accepted a => exact .accepted (g a)
  | rejected h => exact .rejected h
  | aborted => exact .aborted

theorem seq (hf : f.Alike f') (hx : x.Alike x') : (f <*> x).Alike (f' <*> x') := by
  show (f.apply x).Alike (f'.apply x')
  cases hf with
  | accepted g =>
    cases hx with
    | accepted a => exact .accepted (g a)
    | rejected h => exact .rejected h
    | aborted => exact .aborted
  | rejected hf =>
    cases hx with
    | accepted a => exact .rejected hf
    | rejected h => exact .rejected (List.rel_append hf h)
    | aborted => exact .aborted
  | aborted => exact .aborted

/-- One outcome seen from either spelling of a field. -/
theorem within (hk : k = name ∨ k = compactName name) (hk' : k' = name ∨ k' = compactName name)
    (x : Decoded α) : (x.within (.field k)).Alike (x.within (.field k')) := by
  cases x with
  | accepted a => exact .accepted a
  | rejected issues =>
    refine .rejected ?_
    rw [List.forall₂_map_left_iff, List.forall₂_map_right_iff, List.forall₂_same]
    exact fun i _ => ⟨rfl, .inr ⟨name, k, k', i.path, hk, hk', rfl, rfl⟩⟩
  | aborted => exact .aborted

theorem fieldOr (h : fieldValue? members name = fieldValue? members' name) (absent : Decoded α)
    (read : Json → Decoded α) : (Decoding.fieldOr members name absent read).Alike
      (Decoding.fieldOr members' name absent read) := by
  unfold fieldValue? at h
  unfold Decoding.fieldOr
  cases hfound : findField? members name with
  | none =>
    rw [hfound, Option.map_none, eq_comm, Option.map_eq_none_iff] at h
    rw [h]
    exact .refl absent
  | some found =>
    rw [hfound, Option.map_some, eq_comm, Option.map_eq_some_iff] at h
    obtain ⟨found', hfound', hj⟩ := h
    rw [hfound']
    dsimp only
    rw [hj]
    exact within (spelling_of_findField? hfound) (spelling_of_findField? hfound') (read found.2)

theorem field (h : fieldValue? members name = fieldValue? members' name) (default : α)
    (read : Json → Decoded α) : (Decoding.field members name default read).Alike
      (Decoding.field members' name default read) := fieldOr h _ read

theorem required (h : fieldValue? members name = fieldValue? members' name)
    (read : Json → Decoded α) : (Decoding.required members name read).Alike
      (Decoding.required members' name read) := fieldOr h _ read

end Alike

end Decoded

end TeamLegality
