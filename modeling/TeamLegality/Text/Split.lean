/-!
# Cutting texts at separators

A text is cut at the first, the last or every occurrence of a separator, occurrences being taken
from the left and without overlap.
-/

namespace TeamLegality.Text

/-- The parts before and after the first occurrence of `sep`, if it occurs. -/
def cutFirst? (sep : List Char) : List Char → Option (List Char × List Char)
  | [] => if sep.isEmpty then some ([], []) else none
  | c :: rest =>
    if sep.isPrefixOf (c :: rest) then some ([], (c :: rest).drop sep.length)
    else (cutFirst? sep rest).map fun (before, after) => (c :: before, after)

/-- The parts before and after the last occurrence of `sep`, if it occurs. -/
def cutLast? (sep : List Char) (cs : List Char) : Option (List Char × List Char) :=
  (cutFirst? sep.reverse cs.reverse).map fun (after, before) => (before.reverse, after.reverse)

/-- The parts between the occurrences of a single character; there is always at least one part. -/
def splitAt (sep : Char) : List Char → List (List Char)
  | [] => [[]]
  | c :: rest =>
    if c = sep then [] :: splitAt sep rest
    else match splitAt sep rest with
      | [] => [[c]]
      | part :: more => (c :: part) :: more

/-- The parts between the occurrences of a doubled character. -/
def splitAtTwo (sep : Char) : List Char → List (List Char)
  | [] => [[]]
  | [c] => [[c]]
  | c :: d :: rest =>
    if c = sep ∧ d = sep then [] :: splitAtTwo sep rest
    else match splitAtTwo sep (d :: rest) with
      | [] => [[c]]
      | part :: more => (c :: part) :: more

theorem splitAt_ne_nil (sep : Char) (cs : List Char) : splitAt sep cs ≠ [] := by
  cases cs with
  | nil => simp [splitAt]
  | cons c rest =>
    simp only [splitAt]
    split
    · simp
    · split <;> simp

/-- A separator ends the parts before it and starts those after it. -/
theorem splitAt_append_cons (sep : Char) (as bs : List Char) :
    splitAt sep (as ++ sep :: bs) = splitAt sep as ++ splitAt sep bs := by
  induction as with
  | nil => simp [splitAt]
  | cons a as ih =>
    by_cases ha : a = sep
    · simp [splitAt, ha, ih]
    · obtain ⟨part, more, h⟩ := List.exists_cons_of_ne_nil (splitAt_ne_nil sep as)
      simp [splitAt, ha, ih, h]

/-- No part holds the separator. -/
theorem notMem_of_mem_splitAt {sep : Char} {cs part : List Char} (h : part ∈ splitAt sep cs) :
    sep ∉ part := by
  induction cs generalizing part with
  | nil => simp_all [splitAt]
  | cons c rest ih =>
    by_cases hc : c = sep
    · simp only [splitAt, hc, if_true, List.mem_cons] at h
      rcases h with rfl | h
      · simp
      · exact ih h
    · obtain ⟨first, more, hs⟩ := List.exists_cons_of_ne_nil (splitAt_ne_nil sep rest)
      simp only [splitAt, hc, if_false, hs, List.mem_cons] at h
      rcases h with rfl | h
      · have hfirst : sep ∉ first := ih (by simp [hs])
        simp [hfirst, Ne.symm hc]
      · exact ih (by simp [hs, h])

/-- Putting the separator back between the parts gives the text back. -/
theorem append_of_cutFirst? {sep cs before after : List Char}
    (h : cutFirst? sep cs = some (before, after)) : before ++ sep ++ after = cs := by
  induction cs generalizing before with
  | nil =>
    by_cases hs : sep = [] <;> simp_all [cutFirst?]
  | cons c rest ih =>
    simp only [cutFirst?] at h
    split at h
    · next hp =>
      obtain ⟨t, ht⟩ := List.isPrefixOf_iff_prefix.1 hp
      simp only [Option.some.injEq, Prod.mk.injEq] at h
      obtain ⟨rfl, rfl⟩ := h
      simp [← ht]
    · obtain ⟨⟨b, a⟩, hb, hab⟩ := Option.map_eq_some_iff.1 h
      simp only [Prod.mk.injEq] at hab
      obtain ⟨rfl, rfl⟩ := hab
      simpa using ih hb

end TeamLegality.Text
