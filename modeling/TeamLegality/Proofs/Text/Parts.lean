import TeamLegality.Proofs.Format.Requests
import Mathlib.Data.List.Chain

/-!
# Parts — joined texts come apart where they were joined, blanks aside

A text is cut at a mark of one character or of two.  Between such parts the mark may be set off by
blanks: parts that hold no mark and have no outer blanks are found again when they are joined by the
mark between two blanks (`SplitsAt.map_trim_join`).
-/

namespace TeamLegality.Text

variable {sep : Char} {cs as bs part pre post before after : List Char}

/-! ### Blanks around a text -/

theorem isBlank_of_mem_nil : ∀ c ∈ ([] : List Char), isBlank c = true := by simp

theorem isBlank_of_mem_space : ∀ c ∈ [' '], isBlank c = true := by
  intro c hc
  rw [List.mem_singleton.mp hc]
  decide

/-- Blanks around a text have no part in it. -/
theorem trim_pad (hpre : ∀ c ∈ pre, isBlank c = true) (hpost : ∀ c ∈ post, isBlank c = true)
    (cs : List Char) : trim (pre ++ cs ++ post) = trim cs := by
  unfold trim trimBy
  rw [List.append_assoc, List.dropWhile_append_of_pos hpre, List.dropWhile_append]
  split_ifs with hempty
  · -- A text of blanks only: nothing is left on either side.
    have hdrop : post.dropWhile isBlank = [] := List.dropWhile_eq_nil_iff.mpr hpost
    rw [List.isEmpty_iff] at hempty
    rw [hdrop, hempty]
  · rw [List.reverse_append, List.dropWhile_append_of_pos]
    exact fun c hc => hpost c (List.mem_reverse.mp hc)

/-! ### The last mark -/

theorem cutLast?_append (h : sep ∉ after) (before : List Char) :
    cutLast? [sep] (before ++ sep :: after) = some (before, after) := by
  have hcut : cutFirst? [sep] (after.reverse ++ ([sep] ++ before.reverse))
      = some (after.reverse, before.reverse) :=
    cutFirst?_append (by simpa using h) [] _
  have hreverse : (before ++ sep :: after).reverse = after.reverse ++ ([sep] ++ before.reverse) := by
    simp
  rw [cutLast?, hreverse, List.reverse_singleton, hcut]
  simp

theorem append_of_cutLast? (h : cutLast? [sep] cs = some (before, after)) :
    cs = before ++ sep :: after := by
  obtain ⟨⟨after', before'⟩, hcut, hparts⟩ := Option.map_eq_some_iff.mp h
  cases hparts
  have hcs := congrArg List.reverse (append_of_cutFirst? hcut)
  simpa using hcs.symm

/-! ### Doubled characters -/

/-- No two neighbours in a text are both the character. -/
def HasNoPair (sep : Char) (cs : List Char) : Prop :=
  cs.IsChain fun a b => ¬ (a = sep ∧ b = sep)

theorem hasNoPair_of_notMem (h : sep ∉ cs) : HasNoPair sep cs := by
  induction cs with
  | nil => exact .nil
  | cons c cs ih =>
    obtain ⟨hc, hcs⟩ := not_or.mp (mt List.mem_cons.mpr h)
    cases cs with
    | nil => exact .singleton c
    | cons d cs => exact .cons_cons (fun hpair => hc hpair.1.symm) (ih hcs)

/-- Something else at the end of the first text keeps two texts from forming a pair. -/
theorem HasNoPair.append (ha : HasNoPair sep as) (hb : HasNoPair sep bs)
    (hlast : ∀ c ∈ as.getLast?, c ≠ sep) : HasNoPair sep (as ++ bs) :=
  List.isChain_append.mpr ⟨ha, hb, fun c hc _ _ hpair => hlast c hc hpair.1⟩

theorem HasNoPair.append_head (ha : HasNoPair sep as) (hb : HasNoPair sep bs)
    (hhead : ∀ c ∈ bs.head?, c ≠ sep) : HasNoPair sep (as ++ bs) :=
  List.isChain_append.mpr ⟨ha, hb, fun _ _ d hd hpair => hhead d hd hpair.2⟩

theorem HasNoPair.trim (h : HasNoPair sep cs) : HasNoPair sep (trim cs) := by
  have htrim := trim_infix cs
  exact List.IsChain.infix h htrim

theorem splitAtTwo_of_hasNoPair (h : HasNoPair sep cs) : splitAtTwo sep cs = [cs] := by
  induction cs using splitAtTwo.induct sep with
  | case1 => rfl
  | case2 c => rfl
  | case3 c d rest hpair => exact absurd hpair (List.isChain_cons_cons.mp h).1
  | case4 c d rest hpair hnil ih | case5 c d rest hpair part more hsplit ih =>
    simp [splitAtTwo, hpair, ih (List.isChain_cons_cons.mp h).2]

/-- The first pair is where the first part ends. -/
theorem splitAtTwo_append (h : HasNoPair sep (as ++ [sep])) (bs : List Char) :
    splitAtTwo sep (as ++ sep :: sep :: bs) = as :: splitAtTwo sep bs := by
  induction as with
  | nil => simp [splitAtTwo]
  | cons a as ih =>
    cases as with
    | nil =>
      obtain ⟨hpair, -⟩ := List.isChain_cons_cons.mp h
      have ha : a ≠ sep := fun ha => hpair ⟨ha, rfl⟩
      simp [splitAtTwo, ha]
    | cons b as =>
      obtain ⟨hpair, htail⟩ := List.isChain_cons_cons.mp h
      have hrest := ih htail
      simp only [List.cons_append] at hrest ⊢
      rw [splitAtTwo, if_neg hpair, hrest]

theorem splitAtTwo_ne_nil (sep : Char) (cs : List Char) : splitAtTwo sep cs ≠ [] := by
  induction cs using splitAtTwo.induct sep with
  | case1 => simp [splitAtTwo]
  | case2 c => simp [splitAtTwo]
  | case3 c d rest hpair ih => simp [splitAtTwo, hpair]
  | case4 c d rest hpair hnil ih => exact absurd hnil ih
  | case5 c d rest hpair part more hsplit ih => simp [splitAtTwo, hpair, hsplit]

theorem head_prefix_of_splitAtTwo {more : List (List Char)}
    (h : splitAtTwo sep cs = part :: more) : part <+: cs := by
  induction cs using splitAtTwo.induct sep generalizing part more with
  | case1 => cases h; exact List.prefix_rfl
  | case2 c => cases h; exact List.prefix_rfl
  | case3 c d rest hpair ih =>
    rw [splitAtTwo, if_pos hpair] at h
    cases h
    exact List.nil_prefix
  | case4 c d rest hpair hnil ih => exact absurd hnil (splitAtTwo_ne_nil sep _)
  | case5 c d rest hpair first more' hsplit ih =>
    rw [splitAtTwo, if_neg hpair, hsplit] at h
    cases h
    exact List.cons_prefix_cons.mpr ⟨rfl, ih hsplit⟩

/-- No part holds a pair. -/
theorem hasNoPair_of_mem_splitAtTwo (h : part ∈ splitAtTwo sep cs) : HasNoPair sep part := by
  induction cs using splitAtTwo.induct sep generalizing part with
  | case1 => simp_all [splitAtTwo, HasNoPair]
  | case2 c => simp_all [splitAtTwo, HasNoPair]
  | case3 c d rest hpair ih =>
    rw [splitAtTwo, if_pos hpair, List.mem_cons] at h
    rcases h with rfl | h
    · exact .nil
    · exact ih h
  | case4 c d rest hpair hnil ih => exact absurd hnil (splitAtTwo_ne_nil sep _)
  | case5 c d rest hpair first more hsplit ih =>
    rw [splitAtTwo, if_neg hpair, hsplit, List.mem_cons] at h
    rcases h with rfl | h
    · have hfirst := ih (hsplit ▸ List.mem_cons_self)
      have hprefix := head_prefix_of_splitAtTwo hsplit
      cases first with
      | nil => exact .singleton c
      | cons e first =>
        -- A part that is not empty starts as the rest of the text does.
        obtain ⟨rfl, -⟩ := List.cons_prefix_cons.mp hprefix
        exact .cons_cons hpair hfirst
    · exact ih (hsplit ▸ List.mem_cons_of_mem first h)

theorem cutFirst?_pair_eq_none_iff : cutFirst? [sep, sep] cs = none ↔ HasNoPair sep cs := by
  induction cs with
  | nil => simp [cutFirst?, HasNoPair]
  | cons c cs ih =>
    cases cs with
    | nil => simp [cutFirst?, HasNoPair, List.isPrefixOf]
    | cons d cs =>
      have hstart : [sep, sep].isPrefixOf (c :: d :: cs) = true ↔ c = sep ∧ d = sep := by
        simp only [List.isPrefixOf, Bool.and_eq_true, beq_iff_eq, and_true]
        exact and_congr eq_comm eq_comm
      rw [cutFirst?, HasNoPair, List.isChain_cons_cons]
      split_ifs with hcut
      · simp [hstart.mp hcut]
      · rw [Option.map_eq_none_iff, ih]
        exact ⟨fun h => ⟨mt hstart.mpr hcut, h⟩, And.right⟩

theorem one_lt_length_splitAtTwo (h : ¬ HasNoPair sep cs) : 1 < (splitAtTwo sep cs).length := by
  induction cs using splitAtTwo.induct sep with
  | case1 => exact absurd .nil h
  | case2 c => exact absurd (.singleton c) h
  | case3 c d rest hpair ih =>
    have hlength := List.length_pos_iff.mpr (splitAtTwo_ne_nil sep rest)
    rw [splitAtTwo, if_pos hpair, List.length_cons]
    omega
  | case4 c d rest hpair hnil ih => exact absurd hnil (splitAtTwo_ne_nil sep _)
  | case5 c d rest hpair first more hsplit ih =>
    have hrest := ih fun hrest => h (.cons_cons hpair hrest)
    rw [hsplit] at hrest
    rw [splitAtTwo, if_neg hpair, hsplit]
    exact hrest

/-! ### Joining -/

/-- A way to cut texts at a mark, and what it takes for a text to hold no mark. -/
structure SplitsAt (split : List Char → List (List Char)) (mark : List Char)
    (Whole : List Char → Prop) : Prop where
  whole : ∀ {cs}, Whole cs → split cs = [cs]
  append : ∀ {as}, Whole as → ∀ bs, split (as ++ [' '] ++ mark ++ bs) = (as ++ [' ']) :: split bs
  pad : ∀ {pre cs post}, (∀ c ∈ pre, isBlank c = true) → (∀ c ∈ post, isBlank c = true) →
    Whole cs → Whole (pre ++ cs ++ post)

theorem ne_of_isBlank (hsep : isBlank sep = false) {c : Char} (hc : isBlank c = true) : c ≠ sep := by
  rintro rfl
  rw [hc] at hsep
  cases hsep

theorem splitsAt_one (hsep : isBlank sep = false) : SplitsAt (splitAt sep) [sep] (sep ∉ ·) where
  whole := splitAt_of_notMem
  append {as} h bs := by
    have hpadded : sep ∉ as ++ [' '] := by
      simpa [h] using (ne_of_isBlank hsep (c := ' ') (by decide)).symm
    rw [List.append_assoc _ [sep], List.singleton_append, splitAt_append_cons,
      splitAt_of_notMem hpadded, List.singleton_append]
  pad hpre hpost h := by
    simp only [List.mem_append, not_or]
    exact ⟨⟨fun hmem => ne_of_isBlank hsep (hpre _ hmem) rfl, h⟩,
      fun hmem => ne_of_isBlank hsep (hpost _ hmem) rfl⟩

theorem splitsAt_two (hsep : isBlank sep = false) :
    SplitsAt (splitAtTwo sep) [sep, sep] (HasNoPair sep) where
  whole := splitAtTwo_of_hasNoPair
  append {as} h bs := by
    have hblank : ' ' ≠ sep := ne_of_isBlank hsep (by decide)
    have hpadded : HasNoPair sep (as ++ [' '] ++ [sep]) :=
      (h.append_head (.singleton _) (by simpa using hblank)).append (.singleton _)
        (by simpa using hblank)
    rw [List.append_assoc _ [sep, sep]]
    exact splitAtTwo_append hpadded bs
  pad {pre cs post} hpre hpost h := by
    have hblanks : ∀ {bs : List Char}, (∀ c ∈ bs, isBlank c = true) → HasNoPair sep bs :=
      fun hbs => hasNoPair_of_notMem fun hmem => ne_of_isBlank hsep (hbs _ hmem) rfl
    exact ((hblanks hpre).append h fun c hc =>
      ne_of_isBlank hsep (hpre c (List.mem_of_mem_getLast? hc))).append_head (hblanks hpost)
        fun c hc => ne_of_isBlank hsep (hpost c (List.mem_of_mem_head? hc))

variable {split : List Char → List (List Char)} {mark : List Char} {Whole : List Char → Prop}

/-- **Parts that are joined come apart again**, whatever blanks stand around the whole. -/
theorem SplitsAt.map_trim_join (hs : SplitsAt split mark Whole) : ∀ {parts : List (List Char)},
    parts ≠ [] → (∀ part ∈ parts, Whole part ∧ HasNoOuterBlank part) →
    ∀ {pre post : List Char}, (∀ c ∈ pre, isBlank c = true) → (∀ c ∈ post, isBlank c = true) →
    (split (pre ++ ([' '] ++ mark ++ [' ']).intercalate parts ++ post)).map trim = parts
  | [], hne, _, _, _, _, _ => absurd rfl hne
  | [part], _, hparts, pre, post, hpre, hpost => by
    obtain ⟨hwhole, houter⟩ := hparts part List.mem_cons_self
    rw [List.intercalate_singleton, hs.whole (hs.pad hpre hpost hwhole), List.map_singleton,
      trim_pad hpre hpost, houter.trim_eq]
  | part :: part' :: parts, _, hparts, pre, post, hpre, hpost => by
    obtain ⟨⟨hwhole, houter⟩, hrest⟩ := List.forall_mem_cons.mp hparts
    have hfirst : Whole (pre ++ part) := by simpa using hs.pad hpre isBlank_of_mem_nil hwhole
    -- The blank in front of the mark ends the first part, the one after it starts the second.
    have hcut : pre ++ ([' '] ++ mark ++ [' ']).intercalate (part :: part' :: parts) ++ post
        = (pre ++ part) ++ [' '] ++ mark
          ++ ([' '] ++ ([' '] ++ mark ++ [' ']).intercalate (part' :: parts) ++ post) := by
      rw [List.intercalate_cons_cons]
      simp only [List.append_assoc]
    rw [hcut, hs.append hfirst, List.map_cons, trim_pad hpre isBlank_of_mem_space, houter.trim_eq,
      hs.map_trim_join (List.cons_ne_nil _ _) hrest isBlank_of_mem_space hpost]

end TeamLegality.Text
