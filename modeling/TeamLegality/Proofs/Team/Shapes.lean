import TeamLegality.Proofs.Decoding.Outcomes
import TeamLegality.Team.Decoding

/-!
# Shapes — which team documents are not even reported as invalid

Genders and stat tables are normalised before their types are checked.  Nothing can be normalised of
a gender that is no text or of a stat table that is no object, unless it says nothing and a default
stands for it: then the whole document is given up, with all that could be said about the rest of it
(`Team.load_object_outcome`).  No other value of any field has this effect.
-/

namespace TeamLegality

open Decoding

/-! ### Misshapen parts -/

/-- The member of that name says something, but is not of the form that it should have. -/
def Json.HasMisshapen (members : List (String × Json)) (name : String) (form : Json → Prop) :
    Prop :=
  ∃ j, member? members name = some j ∧ j.saysSomething = true ∧ ¬ form j

/-- The gender of a set says something and is no text, or a stat table says something and is no
object. -/
def PokemonSet.Misshapen (members : List (String × Json)) : Prop :=
  Json.HasMisshapen members "gender" (fun j => ∃ s, j = .str s)
    ∨ Json.HasMisshapen members "evs" (fun j => ∃ stats, j = .obj stats)
    ∨ Json.HasMisshapen members "ivs" (fun j => ∃ stats, j = .obj stats)

/-- The sets of a team are a list, and one of them is a misshapen object. -/
def Team.Misshapen (members : List (String × Json)) : Prop :=
  ∃ sets, Json.member? members "sets" = some (.arr sets)
    ∧ ∃ set, .obj set ∈ sets ∧ PokemonSet.Misshapen set

/-! ### Stat tables and genders -/

namespace StatTable

theorem abortsIff_readStat (given : Stat → Option Json) (default : Int) (stat : Stat) :
    (readStat given default stat).AbortsIff False := by
  unfold readStat
  split
  · exact (Decoded.abortsIff_ofWhole _).within _
  · simp

theorem abortsIff_readGiven (given : Stat → Option Json) (default : Int) :
    (readGiven given default).AbortsIff False := by
  have stat := abortsIff_readStat given default
  have h := (stat .hp).map mk |>.seq (stat .attack) |>.seq (stat .defense)
    |>.seq (stat .specialAttack) |>.seq (stat .specialDefense) |>.seq (stat .speed)
  exact h.congr (by simp only [or_self])

/-- A stat table aborts when it says something and is no object. -/
theorem abortsIff_ofJson (default : Int) (j : Json) : (ofJson default j).AbortsIff
    (j.saysSomething = true ∧ ¬ ∃ stats, j = .obj stats) := by
  cases j with
  | obj stats =>
    have hnever : (ofJson default (.obj stats)).AbortsIff False := by
      unfold ofJson
      dsimp only
      split
      · exact abortsIff_readGiven _ default
      · exact .fail _
    exact hnever.congr (by simp)
  | _ =>
    unfold ofJson
    dsimp only
    split_ifs with h <;> simp [h]

end StatTable

/-- A gender aborts when it says something and is no text. -/
theorem Decoded.abortsIff_ofSetGender (j : Json) : (ofSetGender j).AbortsIff
    (j.saysSomething = true ∧ ¬ ∃ s, j = .str s) := by
  cases j with
  | str s =>
    have hnever : (ofSetGender (.str s)).AbortsIff False := by
      unfold ofSetGender
      dsimp only
      split_ifs
      · simp
      · split
        · simp
        · exact .fail _
    exact hnever.congr (by simp)
  | _ =>
    unfold ofSetGender
    dsimp only
    split_ifs with h <;> simp [h]

/-! ### Sets and teams -/

namespace PokemonSet

open Decoded

/-- **Only its gender and its stat tables abort a set.** -/
theorem abortsIff_ofMembers (members : List (String × Json)) :
    (ofMembers members).AbortsIff (Misshapen members) := by
  have text := AbortsIff.field_of_never "" abortsIff_ofText members
  have species := AbortsIff.required_of_never abortsIff_ofNonemptyText members "species"
  have moves := AbortsIff.field_of_never [] (.ofList_of_never abortsIff_ofText) members "moves"
  have gender := AbortsIff.field (by decide : compactName "gender" = "gender") none
    abortsIff_ofSetGender members
  have evs := AbortsIff.field (by decide : compactName "evs" = "evs") (.const 0)
    (StatTable.abortsIff_ofJson 0) members
  have ivs := AbortsIff.field (by decide : compactName "ivs" = "ivs") (.const 31)
    (StatTable.abortsIff_ofJson 31) members
  have level := AbortsIff.field_of_never none (.ofOptional abortsIff_ofWhole) members "level"
  have shiny := AbortsIff.field_of_never false abortsIff_ofTruth members "shiny"
  have happiness := AbortsIff.field_of_never 255 abortsIff_ofWhole members "happiness"
  have h := (text "name").map mk |>.seq species |>.seq (text "item") |>.seq (text "ability")
    |>.seq moves |>.seq (text "nature") |>.seq gender |>.seq evs |>.seq ivs |>.seq level
    |>.seq shiny |>.seq (text "hp_type") |>.seq happiness |>.seq (text "pokeball")
  refine h.congr ?_
  simp only [false_or, or_false, or_assoc]
  rfl

theorem abortsIff_ofJson (j : Json) :
    (ofJson j).AbortsIff (∃ members, j = .obj members ∧ Misshapen members) := by
  cases j with
  | obj members =>
    have h := (abortsIff_ofMembers members).seqLeft (.noOthers fieldNames members)
    exact h.congr (by simp)
  | _ => exact (AbortsIff.fail _).congr (by simp)

end PokemonSet

namespace Team

open Decoded

theorem abortsIff_ofMembers (members : List (String × Json)) :
    (ofMembers members).AbortsIff (Misshapen members) := by
  have format := AbortsIff.field_of_never none (.ofOptional abortsIff_ofText) members "format"
  have sets := AbortsIff.field (by decide : compactName "sets" = "sets") []
    (.ofList PokemonSet.abortsIff_ofJson) members
  refine ((format.map mk).seq sets).congr ?_
  rw [false_or]
  constructor
  · rintro ⟨_, hsets, items, rfl, _, hmem, set, rfl, hset⟩
    exact ⟨items, hsets, set, hmem, hset⟩
  · rintro ⟨items, hsets, set, hmem, hset⟩
    exact ⟨_, hsets, items, rfl, _, hmem, set, rfl, hset⟩

/-- **Loading an object gives a team or says what is wrong, or it is given up.**  It is given up
exactly when the gender or a stat table of one of its sets has no shape that could be normalised,
whatever else is right or wrong with the object; otherwise there is a team, or there are issues, at
least one of them. -/
theorem load_object_outcome (members : List (String × Json)) :
    (load (.obj members) = .error .wrongShape ↔ Misshapen members)
      ∧ ((∃ team, load (.obj members) = .ok team)
        ∨ (∃ issues, issues ≠ [] ∧ load (.obj members) = .error (.invalid issues))
        ∨ load (.obj members) = .error .wrongShape) := by
  have h : (ofObject members).AbortsIff (Misshapen members) :=
    ((abortsIff_ofMembers members).seqLeft (.noOthers fieldNames members)).congr (or_iff_left id)
  have hload : load (.obj members) = (ofObject members).toExcept := rfl
  rw [hload, ← h.aborted_iff]
  rcases h.outcomes with ⟨team, hteam⟩ | ⟨issues, hne, hissues⟩ | haborted
  · rw [hteam]
    exact ⟨iff_of_false nofun nofun, .inl ⟨team, rfl⟩⟩
  · rw [hissues]
    exact ⟨iff_of_false nofun nofun, .inr (.inl ⟨issues, hne, rfl⟩)⟩
  · rw [haborted]
    exact ⟨iff_of_true rfl rfl, .inr (.inr rfl)⟩

/-- A team of one set with that member. -/
def withMember (name : String) (j : Json) : List (String × Json) :=
  [("sets", .arr [.obj [("species", .str "Pikachu"), (name, j)]])]

/-- Neither a team nor issues: stats in an array, a number in place of stats, a number in place of a
gender. -/
theorem misshapen_not_reported :
    load (.obj (withMember "evs" (.arr [.int 4]))) = .error .wrongShape
      ∧ load (.obj (withMember "ivs" (.int 5))) = .error .wrongShape
      ∧ load (.obj (withMember "gender" (.int 5))) = .error .wrongShape
      ∧ ¬ ∀ members, (∃ team, load (.obj members) = .ok team)
        ∨ ∃ issues, load (.obj members) = .error (.invalid issues) := by
  have hevs : load (.obj (withMember "evs" (.arr [.int 4]))) = .error .wrongShape := rfl
  refine ⟨hevs, rfl, rfl, fun h => ?_⟩
  rcases h (withMember "evs" (.arr [.int 4])) with ⟨team, hteam⟩ | ⟨issues, hissues⟩
  · rw [hevs] at hteam
    cases hteam
  · rw [hevs] at hissues
    cases hissues

end Team

end TeamLegality
