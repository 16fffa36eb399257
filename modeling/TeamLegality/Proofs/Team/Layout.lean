import TeamLegality.Team.Export
import TeamLegality.Proofs.Text.Lines
import TeamLegality.Proofs.Text.Numerals
import TeamLegality.Proofs.Text.Parts

/-!
# Layout — how an exported team is laid out

A sheet is a set as the layout can show it.  It has a header and further lines, which may come in
any order as long as the moves keep theirs (`Sheet.Lays`).  A team is laid out as the lines of its
sheets, with blank lines between any two of them (`Lays`).  A blank line parts the blocks before it
from those behind it (`fullBlocks_append_cons_blank`), and no line of a sheet is blank: so the blocks
of the lines are those of the sheets (`fullBlocks_of_lays`).
-/

namespace TeamLegality.Export

open Text

/-! ### Texts -/

/-- A text that can stand in a line: it is not empty, on one line, and has no outer blanks. -/
structure IsPhrase (cs : Line) : Prop where
  ne_nil : cs ≠ []
  oneLine : IsOneLine cs
  outer : HasNoOuterBlank cs

/-- A text that can stand in a line. -/
structure Phrase where
  chars : Line
  isPhrase : IsPhrase chars

/-- A phrase as a text. -/
def Phrase.text (p : Phrase) : String := String.ofList p.chars

/-- The text of a nature, whose line is taken for no other. -/
structure NaturePhrase extends Phrase where
  not_move : (chars ++ natureEnding).head? ≠ some '-'
  not_label : ∀ l ∈ labels, l.1.toList.isPrefixOf (chars ++ natureEnding) = false

/-- Some stats with values, each stat once. -/
structure Spread where
  entries : List (Stat × Numeral)
  ne_nil : entries ≠ []
  nodup : (entries.map Prod.fst).Nodup

namespace Spread

/-- An entry of a spread as a text. -/
def entryText (e : Stat × Numeral) : Line := e.2.chars ++ [' '] ++ e.1.label.toList

/-- A spread as a text. -/
def chars (s : Spread) : Line := ([' '] ++ ['/'] ++ [' ']).intercalate (s.entries.map entryText)

/-- The stat table of a spread; a stat without a value has the default. -/
def table (s : Spread) (default : Int) : StatTable :=
  .ofFn fun stat => ((s.entries.lookup stat).map Numeral.value).getD default

end Spread

/-! ### Lines -/

/-- What a line after the header shows. -/
inductive Entry where
  | ability (text : Phrase)
  | level (n : Numeral)
  | shiny
  | happiness (n : Numeral)
  | hiddenPower (text : Phrase)
  | evs (spread : Spread)
  | ivs (spread : Spread)
  | nature (text : NaturePhrase)
  | move (text : Phrase)

namespace Entry

/-- The line of an entry. -/
def line : Entry → Line
  | ability text => "Ability:".toList ++ [' '] ++ text.chars
  | level n => "Level:".toList ++ [' '] ++ n.chars
  | shiny => "Shiny:".toList ++ [' '] ++ "Yes".toList
  | happiness n => "Happiness:".toList ++ [' '] ++ n.chars
  | hiddenPower text => "Hidden Power:".toList ++ [' '] ++ text.chars
  | evs spread => "EVs:".toList ++ [' '] ++ spread.chars
  | ivs spread => "IVs:".toList ++ [' '] ++ spread.chars
  | nature text => text.chars ++ natureEnding
  | move text => ['-'] ++ [' '] ++ text.chars

/-- The move of an entry, if it is one. -/
def move? : Entry → Option Phrase
  | move text => some text
  | _ => none

end Entry

/-- The header of a sheet.  Neither a text nor a missing gender leaves a doubt where its parts
end. -/
structure Header where
  name : Option Phrase
  species : Phrase
  gender : Option Gender
  item : Option Phrase
  name_plain : ∀ p ∈ name, '@' ∉ p.chars
  species_plain : '@' ∉ species.chars ∧ '(' ∉ species.chars ∧ ')' ∉ species.chars
  species_not_letter : gender = none → species.chars ≠ ['M'] ∧ species.chars ≠ ['F']
  gender_lettered : gender ≠ some .genderless
  item_plain : ∀ p ∈ item, '@' ∉ p.chars

namespace Header

/-- The part of a header that says which species it is. -/
def subject (h : Header) : Line :=
  match h.name with
  | some name => name.chars ++ [' ', '('] ++ h.species.chars ++ [')']
  | none => h.species.chars

/-- The gender of a header, between parentheses. -/
def genderText (h : Header) : Line :=
  match h.gender with
  | some gender => [' ', '('] ++ gender.letter.toList ++ [')']
  | none => []

/-- The line of a header. -/
def line (h : Header) : Line :=
  match h.item with
  | some item => h.subject ++ h.genderText ++ [' ', '@', ' '] ++ item.chars
  | none => h.subject ++ h.genderText

end Header

/-! ### Sheets -/

/-- A set as the layout shows it. -/
structure Sheet where
  header : Header
  ability : Option Phrase
  level : Option Numeral
  shiny : Bool
  happiness : Option Numeral
  hiddenPower : Option Phrase
  evs : Option Spread
  ivs : Option Spread
  nature : Option NaturePhrase
  moves : List Phrase

namespace Sheet

/-- The entries of a sheet, in one of their orders. -/
def entries (s : Sheet) : List Entry :=
  [s.ability.map .ability, s.level.map .level, if s.shiny then some .shiny else none,
    s.happiness.map .happiness, s.hiddenPower.map .hiddenPower, s.evs.map .evs, s.ivs.map .ivs,
    s.nature.map .nature].reduceOption ++ s.moves.map .move

/-- The lines of a sheet are its header and its entries, in any order that keeps the moves in
theirs. -/
def Lays (s : Sheet) (lines : List Line) : Prop :=
  ∃ body : List Entry, body.Perm s.entries ∧ body.filterMap Entry.move? = s.moves
    ∧ lines = s.header.line :: body.map Entry.line

/-- The set that a sheet shows; what it does not show has its default. -/
def set (s : Sheet) : PokemonSet where
  name := (s.header.name.map Phrase.text).getD ""
  species := s.header.species.text
  item := (s.header.item.map Phrase.text).getD ""
  ability := (s.ability.map Phrase.text).getD ""
  moves := s.moves.map Phrase.text
  nature := (s.nature.map fun p => p.text).getD ""
  gender := s.header.gender
  evs := (s.evs.map fun spread => spread.table 0).getD (.const 0)
  ivs := (s.ivs.map fun spread => spread.table 31).getD (.const 31)
  level := s.level.map Numeral.value
  shiny := s.shiny
  hpType := (s.hiddenPower.map Phrase.text).getD ""
  happiness := (s.happiness.map Numeral.value).getD 255
  pokeball := ""

end Sheet

/-- A line of blanks, or of nothing. -/
def IsBlankLine (line : Line) : Prop := IsOneLine line ∧ ∀ c ∈ line, isBlank c = true

instance (line : Line) : Decidable (IsBlankLine line) :=
  decidable_of_iff (IsOneLine line ∧ line.all isBlank = true)
    (and_congr_right fun _ => List.all_eq_true)

/-- Lines show sheets in order, with at least one blank line between any two of them. -/
inductive Lays : List Sheet → List Line → Prop where
  | nil : Lays [] []
  | blank {sheets : List Sheet} {line : Line} {lines : List Line} : IsBlankLine line →
      Lays sheets lines → Lays sheets (line :: lines)
  | last {sheet : Sheet} {lines : List Line} : sheet.Lays lines → Lays [sheet] lines
  | cons {sheet : Sheet} {sheets : List Sheet} {block lines : List Line} {line : Line} :
      sheet.Lays block → IsBlankLine line → Lays sheets lines →
      Lays (sheet :: sheets) (block ++ line :: lines)

/-! ### Every line of a sheet is a phrase -/

variable {cs as bs mid label line : Line} {ls rest : List Line} {sheets : List Sheet}

theorem any_eq_false_iff {α : Type} {p : α → Bool} {o : Option α} :
    o.any p = false ↔ ∀ a ∈ o, p a = false := by
  cases o <;> simp

instance : Decidable (IsPhrase cs) :=
  decidable_of_iff (cs ≠ [] ∧ IsOneLine cs ∧ cs.head?.any isBlank = false
      ∧ cs.getLast?.any isBlank = false)
    ⟨fun ⟨hne, hone, hhead, hlast⟩ =>
        ⟨hne, hone, ⟨any_eq_false_iff.mp hhead, any_eq_false_iff.mp hlast⟩⟩,
      fun h => ⟨h.ne_nil, h.oneLine, any_eq_false_iff.mpr h.outer.head,
        any_eq_false_iff.mpr h.outer.last⟩⟩

theorem isPhrase_of_forall (hne : cs ≠ []) (h : ∀ c ∈ cs, isBlank c = false) : IsPhrase cs where
  ne_nil := hne
  oneLine c hc := by
    cases hbreak : isLineBreak c with
    | false => rfl
    | true =>
      have hblank := isBlank_of_isLineBreak hbreak
      rw [h c hc] at hblank
      cases hblank
  outer := hasNoOuterBlank_of_forall h

theorem IsPhrase.append (ha : IsPhrase as) (hb : IsPhrase bs) (hmid : IsOneLine mid) :
    IsPhrase (as ++ mid ++ bs) where
  ne_nil := by simp [ha.ne_nil]
  oneLine := isOneLine_append.mpr ⟨isOneLine_append.mpr ⟨ha.oneLine, hmid⟩, hb.oneLine⟩
  outer := ha.outer.append hb.outer ha.ne_nil hb.ne_nil mid

theorem IsPhrase.intercalate (hmid : IsOneLine mid) : ∀ {parts : List Line}, parts ≠ [] →
    (∀ part ∈ parts, IsPhrase part) → IsPhrase (mid.intercalate parts)
  | [], hne, _ => absurd rfl hne
  | [part], _, h => by
    rw [List.intercalate_singleton]
    exact h part List.mem_cons_self
  | part :: part' :: parts, _, h => by
    obtain ⟨hpart, hrest⟩ := List.forall_mem_cons.mp h
    rw [List.intercalate_cons_cons]
    exact hpart.append (IsPhrase.intercalate hmid (List.cons_ne_nil _ _) hrest) hmid

theorem isPhrase_numeral (n : Numeral) : IsPhrase n.chars :=
  isPhrase_of_forall n.chars_ne_nil fun _ => n.isBlank_of_mem_chars

theorem Spread.isPhrase_entryText (e : Stat × Numeral) : IsPhrase (Spread.entryText e) := by
  have hlabel : IsPhrase e.1.label.toList := by cases e.1 <;> decide
  exact (isPhrase_numeral e.2).append hlabel (by decide)

theorem Spread.isPhrase_chars (s : Spread) : IsPhrase s.chars := by
  refine IsPhrase.intercalate (by decide) (by simpa using s.ne_nil) fun part hpart => ?_
  obtain ⟨e, -, rfl⟩ := List.mem_map.mp hpart
  exact isPhrase_entryText e

theorem Entry.isPhrase_line (e : Entry) : IsPhrase e.line := by
  have hlabelled (label : String) (hlabel : IsPhrase label.toList) {cs : Line} (hcs : IsPhrase cs) :
      IsPhrase (label.toList ++ [' '] ++ cs) := hlabel.append hcs (by decide)
  unfold line
  cases e with
  | ability text => exact hlabelled "Ability:" (by decide) text.isPhrase
  | level n => exact hlabelled "Level:" (by decide) (isPhrase_numeral n)
  | shiny => decide
  | happiness n => exact hlabelled "Happiness:" (by decide) (isPhrase_numeral n)
  | hiddenPower text => exact hlabelled "Hidden Power:" (by decide) text.isPhrase
  | evs spread => exact hlabelled "EVs:" (by decide) spread.isPhrase_chars
  | ivs spread => exact hlabelled "IVs:" (by decide) spread.isPhrase_chars
  | nature text =>
    have hnature : IsPhrase (text.chars ++ [' '] ++ "Nature".toList) :=
      text.isPhrase.append (by decide) (by decide)
    rwa [List.append_assoc] at hnature
  | move text => exact hlabelled "-" (by decide) text.isPhrase

theorem IsPhrase.bracketed (ha : IsPhrase as) (hb : IsPhrase bs) :
    IsPhrase (as ++ [' ', '('] ++ bs ++ [')']) := by
  have hclosed : IsPhrase (as ++ [' ', '('] ++ bs ++ [] ++ [')']) :=
    (ha.append hb (by decide)).append (by decide) isOneLine_nil
  rwa [List.append_nil] at hclosed

namespace Header

variable (h : Header)

theorem isPhrase_subject : IsPhrase h.subject := by
  unfold subject
  cases h.name with
  | none => exact h.species.isPhrase
  | some name => exact name.isPhrase.bracketed h.species.isPhrase

theorem isPhrase_front : IsPhrase (h.subject ++ h.genderText) := by
  unfold genderText
  cases h.gender with
  | none =>
    rw [List.append_nil]
    exact h.isPhrase_subject
  | some gender =>
    have hletter : IsPhrase gender.letter.toList := by cases gender <;> decide
    have hgender := h.isPhrase_subject.bracketed hletter
    simpa only [List.append_assoc] using hgender

theorem isPhrase_line : IsPhrase h.line := by
  unfold line
  cases h.item with
  | none => exact h.isPhrase_front
  | some item => exact h.isPhrase_front.append item.isPhrase (by decide)

end Header

theorem Sheet.Lays.isPhrase {sheet : Sheet} (h : sheet.Lays ls) : ∀ l ∈ ls, IsPhrase l := by
  obtain ⟨body, -, -, rfl⟩ := h
  refine List.forall_mem_cons.mpr ⟨sheet.header.isPhrase_line, fun l hl => ?_⟩
  obtain ⟨e, -, rfl⟩ := List.mem_map.mp hl
  exact e.isPhrase_line

theorem Lays.isOneLine (h : Lays sheets ls) : ∀ l ∈ ls, IsOneLine l := by
  induction h with
  | nil => exact fun l hl => absurd hl List.not_mem_nil
  | blank hline _ ih => exact List.forall_mem_cons.mpr ⟨hline.1, ih⟩
  | last hsheet => exact fun l hl => (hsheet.isPhrase l hl).oneLine
  | cons hsheet hline _ ih =>
    rw [List.forall_mem_append]
    exact ⟨fun l hl => (hsheet.isPhrase l hl).oneLine, List.forall_mem_cons.mpr ⟨hline.1, ih⟩⟩

/-! ### Blocks -/

/-- The blocks of lines that hold something. -/
def fullBlocks (ls : List Line) : List (List Line) := (blocks ls).filter (!·.isEmpty)

theorem blocks_blank (h : trim line = []) : blocks (line :: rest) = [] :: blocks rest := by
  rw [blocks]
  simp only [h, if_true]

theorem blocks_phrase (h : IsPhrase line) : blocks (line :: rest) = match blocks rest with
    | [] => [[line]]
    | block :: more => (line :: block) :: more := by
  have htrim : trim line = line := h.outer.trim_eq
  cases hrest : blocks rest with
  | nil => simp only [blocks, htrim, hrest, if_neg h.ne_nil]
  | cons block more => simp only [blocks, htrim, hrest, if_neg h.ne_nil]

theorem trim_of_blank (h : ∀ c ∈ line, isBlank c = true) : trim line = [] := by
  simpa using trim_pad h isBlank_of_mem_nil []

/-- Only where there are no lines are there no blocks. -/
theorem eq_nil_of_blocks (h : blocks ls = []) : ls = [] := by
  cases ls with
  | nil => rfl
  | cons l ls =>
    rw [blocks] at h
    split_ifs at h
    split at h
    · cases h
    · cases h

/-- A blank line ends the block before it; where no block is open, it adds an empty one. -/
theorem blocks_append_cons_blank (hline : trim line = []) (ls rest : List Line) :
    blocks (ls ++ line :: rest) = blocks ls ++ blocks rest
      ∨ blocks (ls ++ line :: rest) = blocks ls ++ [] :: blocks rest := by
  induction ls with
  | nil => exact .inr (blocks_blank hline)
  | cons l ls ih =>
    rw [List.cons_append, blocks, blocks]
    split_ifs with hblank
    · exact ih.imp (congrArg _) (congrArg _)
    · cases hls : blocks ls with
      | nil =>
        obtain rfl : ls = [] := eq_nil_of_blocks hls
        rw [List.nil_append, blocks_blank hline]
        exact .inl rfl
      | cons block more =>
        rw [hls] at ih
        rcases ih with ih | ih
        · rw [ih]
          exact .inl rfl
        · rw [ih]
          exact .inr rfl

/-- **A blank line parts the blocks before it from those behind it.** -/
theorem fullBlocks_append_cons_blank (hline : trim line = []) (ls rest : List Line) :
    fullBlocks (ls ++ line :: rest) = fullBlocks ls ++ fullBlocks rest := by
  unfold fullBlocks
  rcases blocks_append_cons_blank hline ls rest with h | h
  · rw [h, List.filter_append]
  · rw [h, List.filter_append, List.filter_cons_of_neg (by decide)]

theorem fullBlocks_append_nil (ls : List Line) : fullBlocks (ls ++ [[]]) = fullBlocks ls :=
  (fullBlocks_append_cons_blank trim_nil ls []).trans (List.append_nil _)

/-- Lines that are not blank are one block. -/
theorem blocks_of_isPhrase (h : ∀ l ∈ ls, IsPhrase l) (hne : ls ≠ []) : blocks ls = [ls] := by
  induction ls with
  | nil => exact absurd rfl hne
  | cons l ls ih =>
    obtain ⟨hl, hls⟩ := List.forall_mem_cons.mp h
    rw [blocks_phrase hl]
    by_cases hnil : ls = []
    · rw [hnil]
      rfl
    · rw [ih hls hnil]

theorem Sheet.Lays.fullBlocks_eq {sheet : Sheet} (h : sheet.Lays ls) : fullBlocks ls = [ls] := by
  have hne : ls ≠ [] := by
    obtain ⟨body, -, -, rfl⟩ := h
    exact List.cons_ne_nil _ _
  unfold fullBlocks
  rw [blocks_of_isPhrase h.isPhrase hne, List.filter_cons_of_pos (by simpa using hne)]
  rfl

/-- **The blocks of a team are those of its sheets.** -/
theorem fullBlocks_of_lays (h : Lays sheets ls) :
    List.Forall₂ Sheet.Lays sheets (fullBlocks ls) := by
  induction h with
  | nil => exact .nil
  | @blank sheets line lines hline _ ih =>
    rw [← List.nil_append (line :: lines), fullBlocks_append_cons_blank (trim_of_blank hline.2)]
    exact ih
  | last hsheet =>
    rw [hsheet.fullBlocks_eq]
    exact .cons hsheet .nil
  | cons hsheet hline _ ih =>
    rw [fullBlocks_append_cons_blank (trim_of_blank hline.2), hsheet.fullBlocks_eq]
    exact .cons hsheet ih

/-- The blocks of the joined lines of a team are those of its sheets. -/
theorem fullBlocks_joined (h : Lays sheets ls) :
    List.Forall₂ Sheet.Lays sheets (fullBlocks (lines (['\n'].intercalate ls))) := by
  obtain hlines | ⟨front, hfront, hlines⟩ := lines_intercalate h.isOneLine
  · rw [hlines]
    exact fullBlocks_of_lays h
  · have hblocks := fullBlocks_of_lays h
    rw [hfront, fullBlocks_append_nil] at hblocks
    rwa [hlines]

end TeamLegality.Export
