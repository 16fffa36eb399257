import TeamLegality.Proofs.Format.Requests

/-!
# Lines — joined lines come apart again

A text on one line holds no character that ends a line.  Such texts are the lines of their join by
line feeds, except that an empty last one is not seen (`lines_intercalate`).  A line feed behind any
text leaves its lines as they are (`lines_append_feed_cases`).  A line is cut at the last mark where
a character of the mark is missing behind it (`cutLast?_of_notMem_after`).
-/

namespace TeamLegality.Text

variable {a b c : Char} {cs as bs sep more before after rest : List Char}

/-! ### Lines -/

/-- A text on one line. -/
def IsOneLine (cs : List Char) : Prop := ∀ c ∈ cs, isLineBreak c = false

instance : Decidable (IsOneLine cs) := List.decidableBAll (isLineBreak · = false) cs

theorem isOneLine_nil : IsOneLine [] := fun _ h => absurd h List.not_mem_nil

theorem isOneLine_append : IsOneLine (as ++ bs) ↔ IsOneLine as ∧ IsOneLine bs :=
  List.forall_mem_append

theorem isOneLine_cons : IsOneLine (c :: cs) ↔ isLineBreak c = false ∧ IsOneLine cs :=
  List.forall_mem_cons

theorem lines_cons_of_not (hc : isLineBreak c = false) (rest : List Char) :
    lines (c :: rest) = match lines rest with
      | [] => [[c]]
      | line :: more => (c :: line) :: more := by
  have hreturn : c ≠ '\r' := by
    rintro rfl
    cases hc
  rw [lines.eq_3 c rest fun rest' h _ => hreturn h, hc]
  rfl

/-- A line break ends a line, unless it is a carriage return in front of a line feed. -/
theorem lines_cons_of_break (hc : isLineBreak c = true)
    (hjoin : ∀ rest', c = '\r' → rest ≠ '\n' :: rest') : lines (c :: rest) = [] :: lines rest := by
  rw [lines.eq_3 c rest hjoin, if_pos hc]

theorem lines_feed (rest : List Char) : lines ('\n' :: rest) = [] :: lines rest := rfl

/-- A line ends where it was joined. -/
theorem lines_append_feed (h : IsOneLine as) (rest : List Char) :
    lines (as ++ '\n' :: rest) = as :: lines rest := by
  induction as with
  | nil => exact lines_feed rest
  | cons a as ih =>
    obtain ⟨ha, has⟩ := isOneLine_cons.mp h
    rw [List.cons_append, lines_cons_of_not ha, ih has]

theorem lines_of_isOneLine (h : IsOneLine as) (hne : as ≠ []) : lines as = [as] := by
  induction as with
  | nil => exact absurd rfl hne
  | cons a as ih =>
    obtain ⟨ha, has⟩ := isOneLine_cons.mp h
    rw [lines_cons_of_not ha]
    by_cases hnil : as = []
    · rw [hnil]
      rfl
    · rw [ih has hnil]

/-- Only the empty text has no lines. -/
theorem eq_nil_of_lines (h : lines as = []) : as = [] := by
  unfold lines at h
  split at h
  · rfl
  · cases h
  · split_ifs at h
    split at h
    · cases h
    · cases h

/-- A line feed behind a text ends its last line; where that has ended, it stands for an empty line
of its own. -/
theorem lines_append_feed_cases (as rest : List Char) :
    lines (as ++ '\n' :: rest) = lines as ++ lines rest
      ∨ lines (as ++ '\n' :: rest) = lines as ++ [] :: lines rest := by
  fun_induction lines as with
  | case1 => exact .inr (lines_feed rest)
  | case2 as ih =>
    have hjoined (cs : List Char) : lines ('\r' :: '\n' :: cs) = [] :: lines cs := rfl
    rw [List.cons_append, List.cons_append, hjoined]
    exact ih.imp (congrArg _) (congrArg _)
  | case3 c as hjoin hbreak ih =>
    by_cases hreturn : c = '\r' ∧ as = []
    · -- The line feed joins the carriage return at the end of the text.
      obtain ⟨rfl, rfl⟩ := hreturn
      exact .inl rfl
    · have hstep : lines (c :: (as ++ '\n' :: rest)) = [] :: lines (as ++ '\n' :: rest) := by
        refine lines_cons_of_break hbreak fun rest' hc happend => ?_
        cases as with
        | nil => exact hreturn ⟨hc, rfl⟩
        | cons a as =>
          obtain ⟨rfl, -⟩ := List.cons.inj happend
          exact hjoin as hc rfl
      rw [List.cons_append, hstep]
      exact ih.imp (congrArg _) (congrArg _)
  | case4 c as hjoin hbreak hnil ih =>
    have hc : isLineBreak c = false := by simpa using hbreak
    obtain rfl : as = [] := eq_nil_of_lines hnil
    refine .inl ?_
    rw [List.cons_append, lines_cons_of_not hc, List.nil_append, lines_feed]
    rfl
  | case5 c as hjoin hbreak line more hmore ih =>
    have hc : isLineBreak c = false := by simpa using hbreak
    rw [List.cons_append, lines_cons_of_not hc]
    rcases ih with ih | ih
    · rw [ih, hmore]
      exact .inl rfl
    · rw [ih, hmore]
      exact .inr rfl

/-- **Joined lines come apart again**, except for an empty one at the end. -/
theorem lines_intercalate : ∀ {ls : List (List Char)}, (∀ line ∈ ls, IsOneLine line) →
    lines (['\n'].intercalate ls) = ls
      ∨ ∃ front, ls = front ++ [[]] ∧ lines (['\n'].intercalate ls) = front
  | [], _ => .inl rfl
  | [line], h => by
    rw [List.intercalate_singleton]
    by_cases hnil : line = []
    · exact .inr ⟨[], by rw [hnil]; rfl, by rw [hnil]; rfl⟩
    · exact .inl (lines_of_isOneLine (h line List.mem_cons_self) hnil)
  | line :: line' :: ls, h => by
    obtain ⟨hline, hrest⟩ := List.forall_mem_cons.mp h
    have hstep : lines (['\n'].intercalate (line :: line' :: ls))
        = line :: lines (['\n'].intercalate (line' :: ls)) := by
      rw [List.intercalate_cons_cons, List.append_assoc, List.singleton_append,
        lines_append_feed hline]
    rw [hstep]
    obtain hall | ⟨front, hfront, hlines⟩ := lines_intercalate hrest
    · exact .inl (congrArg _ hall)
    · exact .inr ⟨line :: front, by rw [hfront]; rfl, congrArg _ hlines⟩

/-! ### Marks of several characters -/

/-- A mark is found where it stands if its second character, which differs from its first, is
missing in front of it. -/
theorem cutFirst?_of_notMem_before (hb : b ∉ before) (hab : a ≠ b) :
    cutFirst? (a :: b :: more) (before ++ (a :: b :: more ++ after)) = some (before, after) := by
  induction before with
  | nil => simp [cutFirst?]
  | cons c before ih =>
    obtain ⟨hc, hrest⟩ := not_or.mp (mt List.mem_cons.mpr hb)
    have hstart : (a :: b :: more).isPrefixOf (c :: (before ++ (a :: b :: more ++ after)))
        = false := by
      cases before with
      | nil => simp [List.isPrefixOf, Ne.symm hab]
      | cons d before =>
        have hd : b ≠ d := fun h => hrest (h ▸ List.mem_cons_self)
        simp [List.isPrefixOf, hd]
    rw [List.cons_append, cutFirst?, hstart, ih hrest]
    rfl

theorem cutFirst?_eq_none (hsep : c ∈ sep) (h : c ∉ cs) : cutFirst? sep cs = none := by
  rw [Option.eq_none_iff_forall_ne_some]
  rintro ⟨before, after⟩ hcut
  have happend := append_of_cutFirst? hcut
  exact h (happend ▸ by simp [hsep])

theorem cutLast?_of_notMem_after (hb : b ∉ after) (hab : a ≠ b) (before : List Char) :
    cutLast? [a, b, a] (before ++ [a, b, a] ++ after) = some (before, after) := by
  have hreverse : (before ++ [a, b, a] ++ after).reverse
      = after.reverse ++ ([a, b, a] ++ before.reverse) := by simp
  have hcut : cutFirst? [a, b, a] (after.reverse ++ ([a, b, a] ++ before.reverse))
      = some (after.reverse, before.reverse) :=
    cutFirst?_of_notMem_before (by simpa using hb) hab
  have hmark : [a, b, a].reverse = [a, b, a] := by simp
  rw [cutLast?, hreverse, hmark, hcut]
  simp

theorem cutLast?_eq_none (hsep : c ∈ sep) (h : c ∉ cs) : cutLast? sep cs = none := by
  have hnone : cutFirst? sep.reverse cs.reverse = none :=
    cutFirst?_eq_none (List.mem_reverse.mpr hsep) (mt List.mem_reverse.mp h)
  rw [cutLast?, hnone]
  rfl

end TeamLegality.Text
