import TeamLegality.Text.Split

/-!
# Targets — what a ban names

A target is an identifier within a category, written `category:identifier`, or a plain word.  A
text is read by its first colon: what stands before it has to be the word of a category, or else
the whole text is plain.  Targets are also the features that a set is recorded to have.
-/

namespace TeamLegality

/-- The categories of targets. -/
inductive Category where
  | pokemon | baseSpecies | move | ability | item | tag
deriving DecidableEq, Repr

namespace Category

/-- Every category. -/
def all : List Category := [pokemon, baseSpecies, move, ability, item, tag]

/-- The word of a category. -/
def word : Category → String
  | pokemon => "pokemon"
  | baseSpecies => "basespecies"
  | move => "move"
  | ability => "ability"
  | item => "item"
  | tag => "pokemontag"

/-- The category of a word. -/
def ofWord? (s : String) : Option Category := all.find? fun c => c.word == s

theorem mem_all (c : Category) : c ∈ all := by
  cases c <;> decide

theorem ofWord?_word (c : Category) : ofWord? c.word = some c := by
  cases c <;> decide

theorem word_of_ofWord? {s : String} {c : Category} (h : ofWord? s = some c) : c.word = s := by
  simpa using List.find?_some h

end Category

/-- Something that a ban can name. -/
inductive Target where
  | entry (category : Category) (id : String)
  | plain (text : String)
deriving DecidableEq, Repr

namespace Target

/-- The text of a target. -/
def text : Target → String
  | entry category id => category.word ++ ":" ++ id
  | plain text => text

/-- The target that a text stands for. -/
def ofText (s : String) : Target :=
  match Text.cutFirst? [':'] s.toList with
  | none => plain s
  | some (before, after) =>
    match Category.ofWord? (String.ofList before) with
    | some category => entry category (String.ofList after)
    | none => plain s

/-- Reading a text loses nothing. -/
theorem text_ofText (s : String) : (ofText s).text = s := by
  unfold ofText
  split
  · rfl
  · next before after h =>
    split
    · next category hc =>
      rw [← String.toList_inj]
      have hw := Category.word_of_ofWord? hc
      have hs := Text.append_of_cutFirst? h
      simp [text, hw, String.toList_append, ← hs]
    · rfl

/-- Different texts are different targets. -/
theorem ofText_injective {s t : String} (h : ofText s = ofText t) : s = t := by
  rw [← text_ofText s, ← text_ofText t, h]

/-- Targets in the order of their texts, each once. -/
def sortedTexts (ts : List Target) : List String :=
  (ts.map text).eraseDups.mergeSort (fun a b => decide (a ≤ b))

end Target

end TeamLegality
