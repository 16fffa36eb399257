import TeamLegality.Proofs.Json.Members
import TeamLegality.Proofs.Team.Layout

/-!
# Headers — the header of a sheet is taken apart as it was put together

A header is read from its end: the item first, then the gender, then the species between its
parentheses.  What is left at each turn ends where a part was joined to it, since no text holds the
mark that would end it later; only a nickname may hold parentheses, and it comes last
(`headerMembers_line`).
-/

namespace TeamLegality.Export

open Text

variable {as bs : Line}

/-- The blank in front of a parenthesis is dropped, seen from the end, and nothing of the text that
it follows. -/
theorem IsPhrase.dropWhile_reverse (h : IsPhrase as) :
    (' ' :: as.reverse).dropWhile isBlank = as.reverse := by
  have hlast : ∀ c ∈ as.reverse.head?, isBlank c = false := by
    rw [List.head?_reverse]
    exact h.outer.last
  rw [List.dropWhile_cons_of_pos (by decide)]
  cases hreverse : as.reverse with
  | nil => rfl
  | cons c rest =>
    rw [hreverse] at hlast
    rw [List.dropWhile_cons_of_neg]
    simp [hlast c rfl]

/-! ### Parentheses at the end -/

/-- A letter between parentheses is cut off. -/
theorem splitGender_bracketed {letter : Char} (ha : IsPhrase as)
    (hletter : letter = 'M' ∨ letter = 'F') :
    splitGender (as ++ ([' ', '('] ++ [letter] ++ [')'])) = (as, some letter) := by
  have hreverse : (as ++ ([' ', '('] ++ [letter] ++ [')'])).reverse
      = ')' :: letter :: '(' :: ' ' :: as.reverse := by simp
  have hblank : (' ' :: as.reverse).head?.any isBlank = true := rfl
  unfold splitGender
  rw [hreverse]
  simp only [hletter, hblank, and_self, if_true, ha.dropWhile_reverse, List.reverse_reverse]

theorem splitGender_of_notMem (h : ')' ∉ as) : splitGender as = (as, none) := by
  unfold splitGender
  split
  · rename_i letter before hreverse
    refine absurd ?_ h
    rw [← List.mem_reverse, hreverse]
    exact List.mem_cons_self
  · rfl

/-- A species between parentheses is not taken for the letter of a gender. -/
theorem splitGender_nickname (hne : bs ≠ []) (hopen : '(' ∉ bs)
    (hletter : bs ≠ ['M'] ∧ bs ≠ ['F']) :
    splitGender (as ++ [' ', '('] ++ bs ++ [')']) = (as ++ [' ', '('] ++ bs ++ [')'], none) := by
  have hreverse : (as ++ [' ', '('] ++ bs ++ [')']).reverse
      = ')' :: (bs.reverse ++ '(' :: ' ' :: as.reverse) := by simp
  unfold splitGender
  split
  · rename_i letter before hcut
    rw [hreverse, List.cons.injEq] at hcut
    have hsingle : bs = [letter] := by
      rw [← List.reverse_reverse bs]
      cases hbs : bs.reverse with
      | nil => exact absurd (List.reverse_eq_nil_iff.mp hbs) hne
      | cons c rest =>
        rw [hbs, List.cons_append, List.cons.injEq] at hcut
        obtain ⟨-, rfl, hrest⟩ := hcut
        cases rest with
        | nil => rfl
        | cons d rest =>
          -- A longer text would hold the opening parenthesis.
          cases hrest
          refine absurd ?_ hopen
          rw [← List.mem_reverse, hbs]
          simp
    subst hsingle
    rw [if_neg]
    rintro ⟨rfl | rfl, -⟩
    · exact hletter.1 rfl
    · exact hletter.2 rfl
  · rfl

theorem splitNickname?_of_notMem (h : ')' ∉ as) : splitNickname? as = none := by
  unfold splitNickname?
  split
  · rename_i rest hreverse
    refine absurd ?_ h
    rw [← List.mem_reverse]
    simp only [hreverse, List.mem_cons, true_or]
  · rfl

/-- The last parentheses are those of the species. -/
theorem splitNickname?_bracketed (ha : IsPhrase as) (hne : bs ≠ []) (hopen : '(' ∉ bs)
    (hclose : ')' ∉ bs) : splitNickname? (as ++ [' ', '('] ++ bs ++ [')']) = some (as, bs) := by
  have hreverse : (as ++ [' ', '('] ++ bs ++ [')']).reverse
      = ')' :: (bs.reverse ++ '(' :: ' ' :: as.reverse) := by simp
  have hinner : ∀ c ∈ bs.reverse, (!(c = '(' || c = ')' : Bool)) = true := by
    intro c hc
    rw [List.mem_reverse] at hc
    have hne : c ≠ '(' ∧ c ≠ ')' := ⟨fun heq => hopen (heq ▸ hc), fun heq => hclose (heq ▸ hc)⟩
    simp [hne]
  have htake : (bs.reverse ++ '(' :: ' ' :: as.reverse).takeWhile
      (fun c => !(c = '(' || c = ')' : Bool)) = bs.reverse := by
    rw [List.takeWhile_append_of_pos hinner]
    simp
  have hdrop : (bs.reverse ++ '(' :: ' ' :: as.reverse).dropWhile
      (fun c => !(c = '(' || c = ')' : Bool)) = '(' :: ' ' :: as.reverse := by
    rw [List.dropWhile_append_of_pos hinner]
    simp
  have hblank : (' ' :: as.reverse).head?.any isBlank = true := rfl
  unfold splitNickname?
  simp only [hreverse, htake, hdrop, ha.dropWhile_reverse, List.reverse_reverse, hblank, hne,
    ha.ne_nil, ne_eq, not_false_eq_true, and_self, if_true]

namespace Header

variable (h : Header)

/-- What a header says, by the names of the members. -/
def table : List (String × Option Json) :=
  [("item", h.item.map fun p => .str p.text), ("gender", h.gender.map fun g => .str g.letter),
   ("name", h.name.map fun p => .str p.text), ("species", some (.str h.species.text))]

/-! ### The item -/

theorem at_notMem_subject : '@' ∉ h.subject := by
  unfold subject
  cases hname : h.name with
  | none => exact h.species_plain.1
  | some name =>
    have hplain := h.name_plain name hname
    simp [hplain, h.species_plain.1]

theorem at_notMem_front : '@' ∉ h.subject ++ h.genderText := by
  have hgender : '@' ∉ h.genderText := by
    unfold genderText
    cases h.gender with
    | none => exact List.not_mem_nil
    | some gender => cases gender <;> decide
  exact List.mem_append.not.mpr (not_or.mpr ⟨h.at_notMem_subject, hgender⟩)

/-- The last mark of an item is the one that the header was given. -/
theorem cutLast?_line : cutLast? " @ ".toList h.line
    = h.item.map fun item => (h.subject ++ h.genderText, item.chars) := by
  unfold line
  cases hitem : h.item with
  | none => exact cutLast?_eq_none (c := '@') (by decide) h.at_notMem_front
  | some item => exact cutLast?_of_notMem_after (h.item_plain item hitem) (by decide) _

/-! ### The gender -/

/-- Without a gender no letter stands alone between parentheses at the end. -/
theorem splitGender_subject (hgender : h.gender = none) :
    splitGender h.subject = (h.subject, none) := by
  obtain ⟨-, hopen, hclose⟩ := h.species_plain
  unfold subject
  cases h.name with
  | none => exact splitGender_of_notMem hclose
  | some name =>
    exact splitGender_nickname h.species.isPhrase.ne_nil hopen (h.species_not_letter hgender)

theorem splitGender_front : splitGender (h.subject ++ h.genderText)
    = (h.subject, h.gender.bind fun gender => gender.letter.toList.head?) := by
  unfold genderText
  cases hgender : h.gender with
  | none =>
    rw [List.append_nil, h.splitGender_subject hgender]
    rfl
  | some gender =>
    cases gender with
    | male => exact splitGender_bracketed h.isPhrase_subject (.inl rfl)
    | female => exact splitGender_bracketed h.isPhrase_subject (.inr rfl)
    | genderless => exact absurd hgender h.gender_lettered

/-! ### The species -/

theorem splitNickname?_subject : splitNickname? h.subject
    = h.name.map fun name => (name.chars, h.species.chars) := by
  obtain ⟨-, hopen, hclose⟩ := h.species_plain
  unfold subject
  cases h.name with
  | none => exact splitNickname?_of_notMem hclose
  | some name => exact splitNickname?_bracketed name.isPhrase h.species.isPhrase.ne_nil hopen hclose

/-! ### The whole header -/

theorem genderMembers : (h.gender.bind fun gender => gender.letter.toList.head?).toList.map
    (fun letter => textMember "gender" [letter])
      = Json.present [("gender", h.gender.map fun gender => .str gender.letter)] := by
  cases h.gender with
  | none => rfl
  | some gender => cases gender <;> rfl

theorem subjectMembers (front : List (String × Json)) :
    (match splitNickname? h.subject with
      | some (name, species) =>
        front ++ [textMember "name" (trim name), textMember "species" (trim species)]
      | none => front ++ [textMember "species" h.subject])
    = front ++ Json.present [("name", h.name.map fun p => .str p.text),
        ("species", some (.str h.species.text))] := by
  rw [h.splitNickname?_subject]
  cases hname : h.name with
  | none =>
    have hsubject : h.subject = h.species.chars := by simp only [subject, hname]
    rw [hsubject]
    rfl
  | some name =>
    simp only [Option.map_some, name.isPhrase.outer.trim_eq, h.species.isPhrase.outer.trim_eq]
    rfl

/-- **A header gives what it was made of.** -/
theorem headerMembers_line : headerMembers h.line = Json.present h.table := by
  have hfront : trim (h.subject ++ h.genderText) = h.subject ++ h.genderText :=
    h.isPhrase_front.outer.trim_eq
  have htable : Json.present h.table = Json.present [("item", h.item.map fun p => .str p.text)]
      ++ Json.present [("gender", h.gender.map fun gender => .str gender.letter)]
      ++ Json.present [("name", h.name.map fun p => .str p.text),
        ("species", some (.str h.species.text))] := by
    rw [← Json.present_append, ← Json.present_append]
    rfl
  rw [htable, ← subjectMembers]
  unfold headerMembers
  rw [h.cutLast?_line]
  cases hitem : h.item with
  | none =>
    have hline : h.line = h.subject ++ h.genderText := by simp only [line, hitem]
    simp only [Option.map_none, hline, hfront, h.splitGender_front, h.genderMembers]
    rfl
  | some item =>
    simp only [Option.map_some, hfront, h.splitGender_front, h.genderMembers,
      item.isPhrase.outer.trim_eq]
    rfl

end Header

end TeamLegality.Export
