import TeamLegality.Decoding.Fields
import Mathlib.Data.List.Induction
import Mathlib.Data.List.Nodup
import Mathlib.Tactic.SplitIfs

/-!
# Members — the members of an object are found again

Members with distinct names are kept as they are when they are collected
(`collectMembers_of_nodup`), and their order does not matter to a reader (`member?_perm`).  An
object is written from a table of what it may have (`present`): each value is found under its name
(`member?_present`), and the fields of a record read what the table says (`Show.field_eq`) if no
name is the compact spelling of another.
-/

namespace TeamLegality

theorem lookup_cons_eq_ite {κ α : Type} [DecidableEq κ] {k : κ} {e : κ × α} {l : List (κ × α)} :
    (e :: l).lookup k = if k = e.1 then some e.2 else l.lookup k := by
  rw [List.lookup_cons]
  by_cases h : k = e.1
  · rw [beq_iff_eq.mpr h, if_pos h]
  · rw [beq_eq_false_iff_ne.mpr h, if_neg h]

namespace Json

variable {members members' : List (String × Json)} {name : String} {j : Json}

/-! ### Distinct names -/

theorem setMember_of_notMem (h : name ∉ members.map Prod.fst) (j : Json) :
    setMember name j members = members ++ [(name, j)] := by
  induction members with
  | nil => rfl
  | cons m rest ih =>
    obtain ⟨hm, hrest⟩ := not_or.mp (mt List.mem_cons.mpr h)
    rw [setMember, if_neg (Ne.symm hm), ih hrest, List.cons_append]

theorem collectMembers_of_nodup (h : (members.map Prod.fst).Nodup) :
    collectMembers members = members := by
  induction members using List.reverseRecOn with
  | nil => rfl
  | append_singleton members m ih =>
    rw [List.map_append, List.nodup_append] at h
    obtain ⟨hmembers, -, hdisjoint⟩ := h
    have hm : m.1 ∉ members.map Prod.fst := fun hmem =>
      hdisjoint _ hmem _ (List.mem_singleton_self _) rfl
    have hstep : collectMembers (members ++ [m])
        = setMember m.1 m.2 (collectMembers members) := List.foldl_append
    rw [hstep, ih hmembers, setMember_of_notMem hm]

theorem member?_cons {m : String × Json} : member? (m :: members) name
    = if name = m.1 then some m.2 else member? members name := lookup_cons_eq_ite

theorem name_mem_of_member? (h : member? members name = some j) : name ∈ members.map Prod.fst := by
  induction members with
  | nil => cases h
  | cons m rest ih =>
    rw [member?_cons] at h
    split_ifs at h with hm
    · exact hm ▸ List.mem_cons_self
    · exact List.mem_cons_of_mem _ (ih h)

theorem member?_isSome_of_mem (h : name ∈ members.map Prod.fst) :
    ∃ j, member? members name = some j := by
  induction members with
  | nil => cases h
  | cons m rest ih =>
    rw [member?_cons]
    by_cases hm : name = m.1
    · exact ⟨m.2, if_pos hm⟩
    · rw [if_neg hm]
      exact ih ((List.mem_cons.mp h).resolve_left hm)

theorem member?_eq_some_iff (h : (members.map Prod.fst).Nodup) :
    member? members name = some j ↔ (name, j) ∈ members := by
  induction members with
  | nil => simp [member?]
  | cons m rest ih =>
    obtain ⟨hm, hrest⟩ := List.nodup_cons.mp h
    rw [member?_cons, List.mem_cons]
    by_cases hname : name = m.1
    · subst hname
      have hnone : (m.1, j) ∉ rest := fun hmem =>
        hm (List.mem_map.mpr ⟨_, hmem, rfl⟩)
      simp [hnone, Prod.ext_iff, eq_comm]
    · have hne : (name, j) ≠ m := fun heq => hname (heq ▸ rfl)
      rw [if_neg hname, ih hrest, or_iff_right hne]

/-- **The order of members with distinct names does not matter.** -/
theorem member?_perm (hperm : members.Perm members') (h : (members.map Prod.fst).Nodup)
    (name : String) : member? members name = member? members' name := by
  have h' : (members'.map Prod.fst).Nodup := (hperm.map Prod.fst).nodup_iff.mp h
  ext j
  rw [member?_eq_some_iff h, member?_eq_some_iff h', hperm.mem_iff]

/-! ### Tables of members -/

/-- The members of a table that have a value. -/
def present (table : List (String × Option Json)) : List (String × Json) :=
  table.filterMap fun e => e.2.map fun j => (e.1, j)

variable {table : List (String × Option Json)}

theorem present_append (table table' : List (String × Option Json)) :
    present (table ++ table') = present table ++ present table' := List.filterMap_append

theorem names_present_sublist (table : List (String × Option Json)) :
    ((present table).map Prod.fst).Sublist (table.map Prod.fst) := by
  induction table with
  | nil => exact .slnil
  | cons e rest ih =>
    obtain ⟨name, _ | j⟩ := e
    · exact ih.cons name
    · exact ih.cons_cons name

theorem nodup_present (h : (table.map Prod.fst).Nodup) : ((present table).map Prod.fst).Nodup :=
  h.sublist (names_present_sublist table)

/-- **Each value of a table is found under its name.** -/
theorem member?_present (h : (table.map Prod.fst).Nodup) (name : String) :
    member? (present table) name = (table.lookup name).join := by
  induction table with
  | nil => rfl
  | cons e rest ih =>
    obtain ⟨hfirst, hrest⟩ := List.nodup_cons.mp h
    have ih := ih hrest
    obtain ⟨first, value⟩ := e
    rw [lookup_cons_eq_ite]
    by_cases hname : name = first
    · subst hname
      rw [if_pos rfl]
      cases value with
      | some j => exact member?_cons.trans (if_pos rfl)
      | none =>
        -- A name without a value has none further down either.
        have hnone : member? (present rest) name = none := by
          rw [Option.eq_none_iff_forall_ne_some]
          intro j hj
          exact hfirst ((names_present_sublist rest).subset (name_mem_of_member? hj))
        exact hnone
    · rw [if_neg hname, ← ih]
      cases value with
      | some j => exact member?_cons.trans (if_neg hname)
      | none => rfl

end Json

/-! ### Fields -/

namespace Decoding

open Json

/-- No name is the compact spelling of another. -/
def AreSpelledApart (names : List String) : Prop :=
  ∀ name ∈ names, compactName name = name ∨ compactName name ∉ names

instance (names : List String) : Decidable (AreSpelledApart names) :=
  inferInstanceAs (Decidable (∀ name ∈ names, compactName name = name ∨ compactName name ∉ names))

/-- Members have the names of fields and say what a table says. -/
structure Show (names : List String) (table : List (String × Option Json))
    (members : List (String × Json)) : Prop where
  apart : AreSpelledApart names
  subset : members.map Prod.fst ⊆ names
  member? : ∀ name, Json.member? members name = (table.lookup name).join

variable {α β : Type} {names : List String} {table : List (String × Option Json)}
  {members : List (String × Json)} {name : String}

/-- **The present members of a table say what it says**, in any order. -/
theorem show_of_perm (hapart : AreSpelledApart names) (hnodup : (table.map Prod.fst).Nodup)
    (hsubset : table.map Prod.fst ⊆ names) (hperm : members.Perm (present table)) :
    Show names table members where
  apart := hapart
  subset name hname :=
    hsubset ((names_present_sublist table).subset ((hperm.map Prod.fst).subset hname))
  member? name := by
    have hmembers : (members.map Prod.fst).Nodup :=
      (hperm.map Prod.fst).nodup_iff.mpr (nodup_present hnodup)
    rw [member?_perm hperm hmembers, member?_present hnodup]

/-- **Members under the names of all fields** say what they hold. -/
theorem show_of_names (hapart : AreSpelledApart names) (hnodup : names.Nodup)
    (hnames : members.map Prod.fst = names) :
    Show names (members.map fun m => (m.1, some m.2)) members := by
  have htable : (members.map fun m => (m.1, some m.2)).map Prod.fst = names := by
    rw [← hnames, List.map_map]
    rfl
  have hpresent : present (members.map fun m => (m.1, some m.2)) = members := by
    unfold present
    rw [List.filterMap_map]
    exact List.filterMap_some
  refine show_of_perm hapart ?_ ?_ (.of_eq hpresent.symm)
  · rw [htable]
    exact hnodup
  · rw [htable]
    exact List.Subset.refl names

namespace Show

variable (h : Show names table members)
include h

theorem findField?_eq (hname : name ∈ names) :
    findField? members name = (table.lookup name).join.map fun j => (name, j) := by
  unfold findField?
  rw [h.member? name]
  rcases h.apart name hname with hsame | hnone
  · rw [hsame, h.member? name]
    cases (table.lookup name).join <;> rfl
  · have habsent : Json.member? members (compactName name) = none := by
      rw [Option.eq_none_iff_forall_ne_some]
      intro j hj
      exact hnone (h.subset (name_mem_of_member? hj))
    rw [habsent]

/-- No member is left unread. -/
theorem noOthers_eq : noOthers names members = .accepted () := by
  have hnone : unknownMembers names members = [] := by
    unfold unknownMembers
    rw [List.filter_eq_nil_iff]
    intro m hm
    have hread : m ∈ names.filterMap fun name => (findField? members name).map Prod.fst := by
      obtain ⟨j, hj⟩ := member?_isSome_of_mem hm
      refine List.mem_filterMap.mpr ⟨m, h.subset hm, ?_⟩
      rw [h.findField?_eq (h.subset hm), ← h.member? m, hj]
      rfl
    simpa using hread
  unfold noOthers
  rw [hnone]

/-- **A field reads the value that was written**, or has its default where there was none. -/
theorem field_eq {v : Option β} {write : β → Json} {default : α} {read : Json → Decoded α}
    {value : β → α} (hname : name ∈ names) (hvalue : (table.lookup name).join = v.map write)
    (hread : ∀ b ∈ v, read (write b) = .accepted (value b)) :
    field members name default read = .accepted ((v.map value).getD default) := by
  unfold field fieldOr
  rw [h.findField?_eq hname, hvalue]
  cases v with
  | none => rfl
  | some b => exact congrArg (Decoded.within (.field name)) (hread b rfl)

/-- A field that has a value. -/
theorem field_eq_of_value {j : Json} {a default : α} {read : Json → Decoded α}
    (hname : name ∈ names) (hvalue : (table.lookup name).join = some j)
    (hread : read j = .accepted a) : field members name default read = .accepted a := by
  unfold field fieldOr
  rw [h.findField?_eq hname, hvalue]
  exact congrArg (Decoded.within (.field name)) hread

/-- A field whose default is nothing. -/
theorem field_none_eq {v : Option β} {write : β → Json} {read : Json → Decoded (Option α)}
    {value : β → α} (hname : name ∈ names) (hvalue : (table.lookup name).join = v.map write)
    (hread : ∀ b ∈ v, read (write b) = .accepted (some (value b))) :
    field members name none read = .accepted (v.map value) := by
  rw [h.field_eq hname hvalue hread]
  cases v <;> rfl

/-- A field that has to be there. -/
theorem required_eq {j : Json} {a : α} {read : Json → Decoded α} (hname : name ∈ names)
    (hvalue : (table.lookup name).join = some j) (hread : read j = .accepted a) :
    required members name read = .accepted a := by
  unfold required fieldOr
  rw [h.findField?_eq hname, hvalue]
  exact congrArg (Decoded.within (.field name)) hread

end Show

end Decoding

end TeamLegality
