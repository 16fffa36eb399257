import TeamLegality.Proofs.Team.Headers
import TeamLegality.Proofs.Team.Loading

/-!
# Entries — every line of a sheet is read as what it shows

A label is told by its first letters, and what comes behind it is read without its blanks
(`Entry.lineField_line`).  A spread comes apart at its slashes into its entries
(`Spread.statEntries_chars`), which have different names and so all count in its table
(`Spread.ofJson_members`).
-/

namespace TeamLegality.Export

open Text

variable {chunk : Line}

/-! ### Spreads -/

namespace Spread

theorem entryText_eq (stat : Stat) (n : Numeral) : entryText (stat, n)
    = (if n.negative then ['-'] else []) ++ (n.digits ++ ' ' :: stat.label.toList) := by
  unfold entryText Numeral.chars
  split_ifs <;> simp

/-- The digits of an entry end where its blank stands, and only a minus comes before them. -/
theorem statEntry_of_sign {sign : Line} {n : Numeral} {stat : Stat}
    (hsign : sign = ['-'] ∨ sign = []) (hchars : sign ++ n.digits = n.chars)
    (h : trim chunk = sign ++ (n.digits ++ ' ' :: stat.label.toList)) :
    statEntry chunk = .ok (stat.label, .int n.value) := by
  have hblank : isDecimal ' ' = false := by decide
  have htake : (n.digits ++ ' ' :: stat.label.toList).takeWhile isDecimal = n.digits := by
    rw [List.takeWhile_append_of_pos fun c => n.isDecimal_of_mem]
    simp [hblank]
  have hdrop : (n.digits ++ ' ' :: stat.label.toList).dropWhile isDecimal
      = ' ' :: stat.label.toList := by
    rw [List.dropWhile_append_of_pos fun c => n.isDecimal_of_mem]
    simp [hblank]
  have hlabel : (' ' :: stat.label.toList).dropWhile isBlank = stat.label.toList
      ∧ stat.label.toList ≠ [] ∧ stat.label.toList.all isLetter := by
    cases stat <;> decide
  have hhead : (' ' :: stat.label.toList).head?.any isBlank = true := rfl
  have hvalue : integer? (sign ++ n.digits) = some n.value := by
    have hread : integer? ([] ++ n.chars) = some n.value := n.integer?_chars (by simp)
    rwa [hchars]
  -- Without a minus in front the first character is a digit.
  have hminus : ∀ rest, n.digits ++ ' ' :: stat.label.toList ≠ '-' :: rest := by
    intro rest hrest
    have hfirst := congrArg List.head? hrest
    rw [List.head?_append_of_ne_nil _ n.ne_nil, List.head?_cons] at hfirst
    exact n.minus_notMem_digits (List.mem_of_mem_head? hfirst)
  unfold statEntry
  rw [h]
  rcases hsign with rfl | rfl
  · simp only [List.singleton_append] at hvalue ⊢
    simp only [htake, hdrop, hlabel, hhead, hvalue, n.ne_nil, ne_eq, not_false_eq_true, and_self,
      if_true, String.ofList_toList]
  · simp only [List.nil_append] at hvalue ⊢
    simp only [htake, hdrop, hlabel, hhead, hvalue, n.ne_nil, ne_eq, not_false_eq_true, and_self,
      if_true, String.ofList_toList]

theorem statEntry_of_trim {e : Stat × Numeral} (h : trim chunk = entryText e) :
    statEntry chunk = .ok (e.1.label, .int e.2.value) := by
  obtain ⟨stat, n⟩ := e
  rw [entryText_eq] at h
  refine statEntry_of_sign ?_ ?_ h
  · split_ifs <;> simp
  · unfold Numeral.chars
    split_ifs <;> rfl

/-- The members that a spread gives. -/
def members (s : Spread) : List (String × Json) :=
  s.entries.map fun e => (e.1.label, .int e.2.value)

theorem nodup_members (s : Spread) : (s.members.map Prod.fst).Nodup := by
  have hinjective : Function.Injective Stat.label := by
    intro a b
    cases a <;> cases b <;> decide
  have hlabels := s.nodup.map hinjective
  rw [List.map_map] at hlabels
  unfold members
  rwa [List.map_map]

theorem slash_notMem_entryText (e : Stat × Numeral) : '/' ∉ entryText e := by
  obtain ⟨stat, n⟩ := e
  have hdigits : '/' ∉ n.digits := notMem_of_isDigit n.isDigit_digits (by decide)
  have hlabel : '/' ∉ stat.label.toList := by cases stat <;> decide
  rw [entryText_eq]
  split_ifs <;> simp [hdigits, hlabel]

/-- **A spread comes apart into its entries.** -/
theorem statEntries_chars (s : Spread) : statEntries (' ' :: s.chars) = .ok (.obj s.members) := by
  have hwhole : ∀ part ∈ s.entries.map entryText, '/' ∉ part ∧ HasNoOuterBlank part := by
    intro part hpart
    obtain ⟨e, -, rfl⟩ := List.mem_map.mp hpart
    exact ⟨slash_notMem_entryText e, (isPhrase_entryText e).outer⟩
  have hparts : (splitAt '/' (' ' :: s.chars)).map trim = s.entries.map entryText := by
    have hne : s.entries.map entryText ≠ [] := by simpa using s.ne_nil
    have hslash : isBlank '/' = false := by decide
    have hjoin := (splitsAt_one hslash).map_trim_join hne hwhole isBlank_of_mem_space
      isBlank_of_mem_nil
    rwa [List.append_nil] at hjoin
  have hread : List.Forall₂ (fun chunk member => statEntry chunk = .ok member)
      (splitAt '/' (' ' :: s.chars)) s.members := by
    rw [← List.forall₂_eq_eq_eq, List.forall₂_map_left_iff, List.forall₂_map_right_iff] at hparts
    unfold members
    rw [List.forall₂_map_right_iff]
    exact hparts.imp fun chunk e => statEntry_of_trim
  unfold statEntries
  rw [mapM_eq_ok_iff.mpr hread]
  show Except.ok (Json.obj (Json.collectMembers s.members)) = _
  rw [Json.collectMembers_of_nodup s.nodup_members]

/-! ### The table of a spread -/

theorem ofName?_label (stat : Stat) : Stat.ofName? stat.label = some stat := by
  cases stat <;> decide

/-- **A spread is read as its table.** -/
theorem ofJson_members (s : Spread) (default : Int) :
    StatTable.ofJson default (.obj s.members) = .accepted (s.table default) :=
  StatTable.ofJson_of_nodup ofName?_label Numeral.value s.nodup default

end Spread

/-! ### Entries -/

/-- The field that an entry shows. -/
def Entry.field : Entry → Field
  | ability text => .member "ability" (.str text.text)
  | level n => .member "level" (.int n.value)
  | shiny => .member "shiny" (.bool true)
  | happiness n => .member "happiness" (.int n.value)
  | hiddenPower text => .member "hp_type" (.str text.text)
  | evs spread => .member "evs" (.obj spread.members)
  | ivs spread => .member "ivs" (.obj spread.members)
  | nature text => .member "nature" (.str text.text)
  | move text => .move text.text

theorem trim_blank_phrase (text : Phrase) : trim (' ' :: text.chars) = text.chars := by
  have htrim := trim_pad isBlank_of_mem_space isBlank_of_mem_nil text.chars
  rw [List.append_nil, text.isPhrase.outer.trim_eq] at htrim
  exact htrim

theorem number_blank_chars (n : Numeral) : number (' ' :: n.chars) = .ok (.int n.value) := by
  have hblank : isNumberBlank ' ' = true := by decide
  have hvalue : integer? ([' '] ++ n.chars) = some n.value :=
    n.integer?_chars (by simpa using hblank)
  unfold number
  rw [List.singleton_append] at hvalue
  rw [hvalue]

theorem lineField_nature (text : NaturePhrase) : lineField (text.chars ++ natureEnding)
    = .ok (.member "nature" (.str text.text)) := by
  have hlabel : (labels.find? fun l => l.1.toList.isPrefixOf (text.chars ++ natureEnding)) = none :=
    List.find?_eq_none.mpr fun l hl => by simp [text.not_label l hl]
  have hending : natureEnding.isSuffixOf (text.chars ++ natureEnding) = true := by
    simp [List.isSuffixOf_iff_suffix]
  have hfront : (text.chars ++ natureEnding).take
      ((text.chars ++ natureEnding).length - natureEnding.length) = text.chars := by
    simp
  unfold lineField
  split
  · rename_i move hline
    exact absurd (congrArg List.head? hline) text.not_move
  · rw [hlabel]
    simp only [hending, if_true, hfront, text.isPhrase.outer.trim_eq]
    rfl

/-- **The line of an entry is read as what it shows.** -/
theorem Entry.lineField_line (e : Entry) : lineField e.line = .ok e.field := by
  cases e with
  | ability text =>
    have hread : lineField (ability text).line
        = .ok (.member "ability" (.str (String.ofList (trim (' ' :: text.chars))))) := rfl
    rw [hread, trim_blank_phrase]
    rfl
  | level n =>
    have hread : lineField (level n).line
        = (number (' ' :: n.chars)).map (.member "level") := rfl
    rw [hread, number_blank_chars]
    rfl
  | shiny => rfl
  | happiness n =>
    have hread : lineField (happiness n).line
        = (number (' ' :: n.chars)).map (.member "happiness") := rfl
    rw [hread, number_blank_chars]
    rfl
  | hiddenPower text =>
    have hread : lineField (hiddenPower text).line
        = .ok (.member "hp_type" (.str (String.ofList (trim (' ' :: text.chars))))) := rfl
    rw [hread, trim_blank_phrase]
    rfl
  | evs spread =>
    have hread : lineField (evs spread).line
        = (statEntries (' ' :: spread.chars)).map (.member "evs") := rfl
    rw [hread, spread.statEntries_chars]
    rfl
  | ivs spread =>
    have hread : lineField (ivs spread).line
        = (statEntries (' ' :: spread.chars)).map (.member "ivs") := rfl
    rw [hread, spread.statEntries_chars]
    rfl
  | nature text => exact lineField_nature text
  | move text =>
    have hread : lineField (move text).line
        = .ok (.move (String.ofList (trim (' ' :: text.chars)))) := rfl
    rw [hread, trim_blank_phrase]
    rfl

end TeamLegality.Export
