/-!
# Assoc — finite maps that remember the order of insertion

Entries keep the place where their key was first inserted: a later value for the same key replaces
the earlier one where it stands, and a key that is erased and inserted again moves to the end.  No
two entries have the same key, and the type says so.
-/

namespace TeamLegality

/-- An association of keys with values, in insertion order. -/
structure Assoc (κ α : Type) where
  entries : List (κ × α)
  nodup : (entries.map Prod.fst).Nodup := by simp

namespace Assoc

variable {κ α β : Type}

@[ext] theorem ext {s t : Assoc κ α} (h : s.entries = t.entries) : s = t := by
  cases s; cases t; simp_all

instance [DecidableEq κ] [DecidableEq α] : DecidableEq (Assoc κ α) := fun s t =>
  if h : s.entries = t.entries then isTrue (ext h)
  else isFalse fun e => h (congrArg entries e)

/-- The association without entries. -/
def empty : Assoc κ α := ⟨[], List.nodup_nil⟩

instance : Inhabited (Assoc κ α) := ⟨empty⟩

/-- The keys, in order. -/
def keys (t : Assoc κ α) : List κ := t.entries.map Prod.fst

/-- The values, in the order of their keys. -/
def values (t : Assoc κ α) : List α := t.entries.map Prod.snd

/-- The number of entries. -/
def size (t : Assoc κ α) : Nat := t.entries.length

/-- The same keys with other values. -/
def map (f : α → β) (t : Assoc κ α) : Assoc κ β :=
  ⟨t.entries.map fun e => (e.1, f e.2), by simpa [List.map_map, Function.comp_def] using t.nodup⟩

variable [DecidableEq κ]

/-- The value of the first entry with a key. -/
def findValue? (k : κ) : List (κ × α) → Option α
  | [] => none
  | e :: rest => if e.1 = k then some e.2 else findValue? k rest

/-- The value of a key. -/
def get? (t : Assoc κ α) (k : κ) : Option α := findValue? k t.entries

/-- Whether a key has a value. -/
def contains (t : Assoc κ α) (k : κ) : Bool := (t.get? k).isSome

/-- Entries with the value of `k` replaced where it stands, or added at the end. -/
def insertEntry (k : κ) (v : α) : List (κ × α) → List (κ × α)
  | [] => [(k, v)]
  | e :: rest => if e.1 = k then (k, v) :: rest else e :: insertEntry k v rest

theorem map_fst_insertEntry (k : κ) (v : α) (l : List (κ × α)) :
    (insertEntry k v l).map Prod.fst =
      if k ∈ l.map Prod.fst then l.map Prod.fst else l.map Prod.fst ++ [k] := by
  induction l with
  | nil => simp [insertEntry]
  | cons e rest ih =>
    by_cases h : e.1 = k
    · simp [insertEntry, h]
    · have h' : ¬ k = e.1 := fun hk => h hk.symm
      simp only [insertEntry, h, if_false, List.map_cons, ih, List.mem_cons, h', false_or]
      split <;> rfl

/-- Sets the value of a key: in place if the key is present, else at the end. -/
def insert (t : Assoc κ α) (k : κ) (v : α) : Assoc κ α :=
  ⟨insertEntry k v t.entries, by
    rw [map_fst_insertEntry]
    split
    · exact t.nodup
    · next h =>
      rw [List.nodup_append]
      exact ⟨t.nodup, by simp, fun a ha b hb => by
        simp only [List.mem_singleton] at hb
        subst hb
        exact fun hab => h (hab ▸ ha)⟩⟩

/-- Removes a key. -/
def erase (t : Assoc κ α) (k : κ) : Assoc κ α :=
  ⟨t.entries.filter fun e => !decide (e.1 = k),
    List.Nodup.sublist ((List.filter_sublist).map Prod.fst) t.nodup⟩

/-- The association that inserts the pairs from left to right. -/
def ofList (l : List (κ × α)) : Assoc κ α := l.foldl (fun t e => t.insert e.1 e.2) empty

/-- The entries of `u` inserted over those of `t`. -/
def overlay (t u : Assoc κ α) : Assoc κ α :=
  u.entries.foldl (fun t e => t.insert e.1 e.2) t

/-! ### Looking up after a change -/

theorem findValue?_insertEntry (k x : κ) (v : α) (l : List (κ × α)) :
    findValue? x (insertEntry k v l) = if x = k then some v else findValue? x l := by
  induction l with
  | nil => simp [insertEntry, findValue?, eq_comm]
  | cons e rest ih =>
    by_cases hy : e.1 = k <;> by_cases hx : x = k <;> by_cases hxy : e.1 = x <;>
      grind [insertEntry, findValue?]

@[simp] theorem get?_empty (x : κ) : (empty : Assoc κ α).get? x = none := rfl

theorem get?_insert (t : Assoc κ α) (k x : κ) (v : α) :
    (t.insert k v).get? x = if x = k then some v else t.get? x :=
  findValue?_insertEntry k x v t.entries

@[simp] theorem get?_insert_self (t : Assoc κ α) (k : κ) (v : α) :
    (t.insert k v).get? k = some v := by
  simp [get?_insert]

theorem findValue?_filter_ne (k x : κ) (l : List (κ × α)) :
    findValue? x (l.filter fun e => !decide (e.1 = k)) =
      if x = k then none else findValue? x l := by
  induction l with
  | nil => simp [findValue?]
  | cons e rest ih => grind [findValue?]

theorem get?_erase (t : Assoc κ α) (k x : κ) :
    (t.erase k).get? x = if x = k then none else t.get? x :=
  findValue?_filter_ne k x t.entries

theorem findValue?_isSome (k : κ) :
    ∀ l : List (κ × α), (findValue? k l).isSome = true ↔ k ∈ l.map Prod.fst
  | [] => by simp [findValue?]
  | e :: rest => by
    rw [findValue?, List.map_cons, List.mem_cons, ← findValue?_isSome k rest]
    by_cases h : e.1 = k
    · simp [h]
    · simp [h, Ne.symm h]

theorem contains_iff_mem_keys (t : Assoc κ α) (k : κ) : t.contains k = true ↔ k ∈ t.keys :=
  findValue?_isSome k t.entries

theorem keys_insert (t : Assoc κ α) (k : κ) (v : α) :
    (t.insert k v).keys = if k ∈ t.keys then t.keys else t.keys ++ [k] :=
  map_fst_insertEntry k v t.entries

end Assoc

end TeamLegality
