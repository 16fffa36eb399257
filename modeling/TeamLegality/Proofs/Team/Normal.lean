import TeamLegality.Team.Document
import TeamLegality.Proofs.Team.Loading

/-!
# Normal — a loaded team is in normal form

Loading takes stats, genders, numbers and truth values in many spellings.  What it gives is written
in one way: the six stats by their keys, and a letter or nothing for the gender
(`PokemonSet.IsNormal`).  What is written so is read as it was (`Team.load_toJson`), and so loading a
team again changes nothing (`Team.reloads_of_loaded`).
-/

namespace TeamLegality

open Decoding

/-! ### Parts of a set -/

theorem Stat.ofName?_key (stat : Stat) : ofName? stat.key = some stat := by
  cases stat <;> decide

/-- **A stat table is read as it was written.** -/
theorem StatTable.ofJson_toJson (default : Int) (t : StatTable) :
    ofJson default t.toJson = .accepted t := by
  have hnodup : ((Stat.all.map fun s => (s, s)).map Prod.fst).Nodup := by decide
  have hread := ofJson_of_nodup Stat.ofName?_key t.get hnodup default
  have hall (stat : Stat) : (Stat.all.map fun s => (s, s)).lookup stat = some stat := by
    cases stat <;> rfl
  simp only [hall] at hread
  exact hread

theorem Decoded.ofSetGender_letter (gender : Option Gender) :
    ofSetGender (.str ((gender.map Gender.letter).getD "")) = .accepted gender := by
  cases gender with
  | none => rfl
  | some g => cases g <;> rfl

theorem Decoded.ofOptional_int (n : Option Int) :
    ofOptional ofWhole ((n.map Json.int).getD .null) = .accepted n := by
  cases n <;> rfl

theorem Decoded.ofOptional_str (s : Option String) :
    ofOptional ofText ((s.map Json.str).getD .null) = .accepted s := by
  cases s <;> rfl

/-! ### Sets -/

namespace PokemonSet

variable (s : PokemonSet)

/-- A set in normal form, as its document shows it. -/
structure IsNormal : Prop where
  species : s.species ≠ ""
  gender : ∃ letter ∈ ["", "M", "F", "N"], Json.member? s.toMembers "gender" = some (.str letter)
  evs : ∃ stats, Json.member? s.toMembers "evs" = some (.obj stats)
    ∧ stats.map Prod.fst = Stat.all.map Stat.key
  ivs : ∃ stats, Json.member? s.toMembers "ivs" = some (.obj stats)
    ∧ stats.map Prod.fst = Stat.all.map Stat.key

theorem isNormal_of_species (h : s.species ≠ "") : s.IsNormal where
  species := h
  gender := by
    refine ⟨(s.gender.map Gender.letter).getD "", ?_, rfl⟩
    cases s.gender with
    | none => decide
    | some g => cases g <;> decide
  evs := ⟨_, rfl, rfl⟩
  ivs := ⟨_, rfl, rfl⟩

/-- **The document of a set has every field under its name.** -/
theorem show_toMembers :
    Show fieldNames (s.toMembers.map fun m => (m.1, some m.2)) s.toMembers :=
  show_of_names (by decide) (by decide) rfl

theorem hasFieldsOf_toMembers (hspecies : s.species ≠ "") : s.HasFieldsOf s.toMembers := by
  have h := s.show_toMembers
  have hmoves : Decoded.ofList Decoded.ofText (.arr (s.moves.map .str))
      = .accepted (s.moves.map id) := Decoded.ofList_map fun _ _ => rfl
  rw [List.map_id] at hmoves
  exact {
    name := h.field_eq_of_value (by decide) rfl rfl
    species := h.required_eq (by decide) rfl
      (Decoded.ofNonemptyText_eq_accepted_iff.mpr ⟨rfl, hspecies⟩)
    item := h.field_eq_of_value (by decide) rfl rfl
    ability := h.field_eq_of_value (by decide) rfl rfl
    moves := h.field_eq_of_value (by decide) rfl hmoves
    nature := h.field_eq_of_value (by decide) rfl rfl
    gender := h.field_eq_of_value (by decide) rfl (Decoded.ofSetGender_letter s.gender)
    evs := h.field_eq_of_value (by decide) rfl (StatTable.ofJson_toJson 0 s.evs)
    ivs := h.field_eq_of_value (by decide) rfl (StatTable.ofJson_toJson 31 s.ivs)
    level := h.field_eq_of_value (by decide) rfl (Decoded.ofOptional_int s.level)
    shiny := h.field_eq_of_value (by decide) rfl rfl
    hpType := h.field_eq_of_value (by decide) rfl rfl
    happiness := h.field_eq_of_value (by decide) rfl rfl
    pokeball := h.field_eq_of_value (by decide) rfl rfl }

/-- **A set with a species is read as it was written.** -/
theorem ofJson_toJson (hspecies : s.species ≠ "") : ofJson s.toJson = .accepted s :=
  (s.hasFieldsOf_toMembers hspecies).ofJson_eq s.show_toMembers.noOthers_eq

end PokemonSet

/-! ### Teams -/

namespace Team

variable {team : Team}

/-- The members of the document of a team. -/
def toMembers (team : Team) : List (String × Json) :=
  [("format", (team.format.map Json.str).getD .null),
    ("sets", .arr (team.sets.map (·.toJson)))]

theorem show_toMembers (team : Team) :
    Show fieldNames (team.toMembers.map fun m => (m.1, some m.2)) team.toMembers :=
  show_of_names (by decide) (by decide) rfl

/-- **A team whose sets have species is read as it was written.** -/
theorem load_toJson (hspecies : ∀ set ∈ team.sets, set.species ≠ "") :
    load team.toJson = .ok team := by
  have h := team.show_toMembers
  have hformat : field team.toMembers "format" none (Decoded.ofOptional Decoded.ofText)
      = .accepted team.format :=
    h.field_eq_of_value (by decide) rfl (Decoded.ofOptional_str team.format)
  have hsets : field team.toMembers "sets" [] (Decoded.ofList PokemonSet.ofJson)
      = .accepted (team.sets.map id) :=
    h.field_eq_of_value (by decide) rfl
      (Decoded.ofList_map fun set hset => set.ofJson_toJson (hspecies set hset))
  have hmembers : ofMembers team.toMembers = .accepted team := by
    unfold ofMembers
    rw [hformat, hsets, List.map_id]
    rfl
  show (ofMembers team.toMembers <* noOthers fieldNames team.toMembers).toExcept = _
  rw [Decoded.toExcept_eq_ok_iff, Decoded.seqLeft_eq_accepted_iff]
  exact ⟨hmembers, (), h.noOthers_eq⟩

/-- **Loading a loaded team again changes nothing.**  A team that was loaded from a document, from a
file or from an exported text is read as itself from its own document.  Each of its sets is in
normal form, and its stat tables are the six defaults with the values given put over them. -/
theorem reloads_of_loaded (h : team.Loaded) : load team.toJson = .ok team
    ∧ ∀ set ∈ team.sets, set.IsNormal ∧ ∃ members, set.IsReadFrom members := by
  have hread := h.exists_isReadFrom
  have hspecies : ∀ set ∈ team.sets, set.species ≠ "" := by
    intro set hset
    obtain ⟨members, hmembers⟩ := hread set hset
    exact (PokemonSet.ofMembers_eq_accepted_iff.mp hmembers.read).species_ne
  exact ⟨load_toJson hspecies, fun set hset =>
    ⟨set.isNormal_of_species (hspecies set hset), hread set hset⟩⟩

namespace Sample

/-- A document that spells what it can in other ways than the normal one. -/
def spelled : Json :=
  .obj [("sets", .arr [.obj [("species", .str "Pikachu"), ("hpType", .str "Ice"),
    ("gender", .str " f "), ("evs", .obj [(" SPC ", .str "+04"), ("Spe", .int 8)]),
    ("ivs", .null), ("level", .bool true), ("shiny", .str "YES"), ("happiness", .str " 7 ")]])]

/-- The team of that document. -/
def normal : Team where
  format := none
  sets := [{ name := "", species := "Pikachu", item := "", ability := "", moves := [], nature := "",
             gender := some .female, evs := ⟨0, 0, 0, 4, 0, 8⟩, ivs := .const 31, level := some 1,
             shiny := true, hpType := "Ice", happiness := 7, pokeball := "" }]

theorem load_spelled : load spelled = .ok normal := by decide +kernel

end Sample

open Sample in
theorem reloads_of_loaded_spelled : normal.Loaded ∧ load normal.toJson = .ok normal
    ∧ ∀ set ∈ normal.sets, set.IsNormal ∧ ∃ members, set.IsReadFrom members :=
  ⟨.document load_spelled, reloads_of_loaded (.document load_spelled)⟩

end Team

end TeamLegality
