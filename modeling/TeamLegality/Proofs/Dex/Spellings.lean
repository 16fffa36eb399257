import TeamLegality.Dex.Decoding
import TeamLegality.Proofs.Decoding.Spellings
import TeamLegality.Proofs.Team.Loading

/-!
# Spellings of entities — what depends on how the fields of an entity are spelled

Entities are read alike however their fields are spelled, with one exception.  A species without a
base species is its own base species, and one whose base species says nothing counts as such; but
the default is put under the name of the field, where the compact spelling hides it.  So a base
species that says nothing is replaced in the one spelling and kept in the other, and nothing else
tells the spellings apart (`entities_alike_of_respelled`).
-/

namespace TeamLegality

open Decoding Decoded

variable {members members' : List (String × Json)} {name k : String}

theorem Json.member?_setMember (name : String) (value : Json) (members : List (String × Json))
    (k : String) : member? (setMember name value members) k
      = if k = name then some value else member? members k := by
  induction members with
  | nil => exact member?_cons
  | cons m rest ih =>
    rw [setMember]
    by_cases hm : m.1 = name
    · rw [if_pos hm, member?_cons, member?_cons]
      by_cases hk : k = name
      · rw [if_pos hk, if_pos hk]
      · rw [if_neg hk, if_neg hk, if_neg (hm ▸ hk)]
    · rw [if_neg hm, member?_cons, member?_cons, ih]
      by_cases hk : k = m.1
      · rw [if_pos hk, if_pos hk, if_neg (hk ▸ hm)]
      · rw [if_neg hk, if_neg hk]

namespace Decoded

/-- What holds of a value whatever its last argument, holds of an accepted one. -/
theorem forall_of_seq {α β : Type} {f : Decoded (α → β)} {x : Decoded α} {P : β → Prop}
    (h : ∀ g, f = .accepted g → ∀ a, P (g a)) : ∀ b, f <*> x = .accepted b → P b := by
  intro b hb
  obtain ⟨g, a, hg, -, rfl⟩ := seq_eq_accepted_iff.mp hb
  exact h g hg a

theorem eq_str_of_ofText {j : Json} {s : String} (h : ofText j = .accepted s) : j = .str s := by
  cases j with
  | str text =>
    cases h
    rfl
  | _ => cases h

end Decoded

/-! ### Entities in general -/

namespace Entity

/-- The fields that all entities have. -/
def fieldNames : List String := ["name", "num", "gen", "is_nonstandard"]

theorem areTold_fieldNames : AreTold fieldNames := by decide +kernel

theorem alike_ofMembers
    (h : ∀ name ∈ fieldNames, fieldValue? members name = fieldValue? members' name) :
    (ofMembers members).Alike (ofMembers members') :=
  (Alike.required (h "name" (by decide)) _).map mk
    |>.seq (.field (h "num" (by decide)) _ _)
    |>.seq (.field (h "gen" (by decide)) _ _)
    |>.seq (.field (h "is_nonstandard" (by decide)) _ _)

theorem name_of_ofMembers : ∀ e, ofMembers members = .accepted e →
    required members "name" ofNonemptyText = .accepted e.name := by
  unfold ofMembers
  iterate 3 apply forall_of_seq
  intro g hg
  obtain ⟨name, hname, rfl⟩ := map_eq_accepted_iff.mp hg
  intros
  exact hname

end Entity

namespace Move

/-- The fields of a move. -/
def fieldNames : List String :=
  Entity.fieldNames ++ ["type", "category", "ohko", "boosts", "z_move_boost"]

theorem areTold_fieldNames : AreTold fieldNames := by decide +kernel

theorem alike_ofJson (h : Respelled fieldNames members members') :
    (ofJson (.obj members)).Alike (ofJson (.obj members')) := by
  have value {name : String} (hname : name ∈ fieldNames) :=
    h.fieldValue?_eq areTold_fieldNames hname
  have entity := Entity.alike_ofMembers fun name hname => value (List.mem_append_left _ hname)
  exact (entity.map mk).seq (.field (value (by decide)) _ _)
    |>.seq (.field (value (by decide)) _ _)
    |>.seq (.field (value (by decide)) _ _)
    |>.seq (.field (value (by decide)) _ _)
    |>.seq (.field (value (by decide)) _ _)

end Move

namespace Item

/-- The fields of an item. -/
def fieldNames : List String :=
  Entity.fieldNames ++ ["z_move", "z_move_type", "mega_stone", "forced_forme"]

theorem areTold_fieldNames : AreTold fieldNames := by decide +kernel

theorem alike_ofJson (h : Respelled fieldNames members members') :
    (ofJson (.obj members)).Alike (ofJson (.obj members')) := by
  have value {name : String} (hname : name ∈ fieldNames) :=
    h.fieldValue?_eq areTold_fieldNames hname
  have entity := Entity.alike_ofMembers fun name hname => value (List.mem_append_left _ hname)
  exact (entity.map mk).seq (.field (value (by decide)) _ _)
    |>.seq (.field (value (by decide)) _ _)
    |>.seq (.field (value (by decide)) _ _)
    |>.seq (.field (value (by decide)) _ _)

end Item

namespace Ability

theorem alike_ofJson (h : Respelled Entity.fieldNames members members') :
    (ofJson (.obj members)).Alike (ofJson (.obj members')) :=
  (Entity.alike_ofMembers fun _ hname => h.fieldValue?_eq Entity.areTold_fieldNames hname).map mk

end Ability

/-! ### Species -/

namespace Species

/-- The fields of a species. -/
def fieldNames : List String :=
  Entity.fieldNames ++ ["base_species", "forme", "types", "gender", "gender_ratio", "abilities",
    "egg_groups", "prevo", "evos", "tier", "other_formes", "battle_only", "required_ability",
    "required_items", "required_move", "unreleased_hidden", "male_only_hidden"]

theorem areTold_fieldNames : AreTold fieldNames := by decide +kernel

/-- The base species has the compact spelling and says nothing, so that the default is not read. -/
def hidesDefault (members : List (String × Json)) : Bool :=
  (Json.member? members "baseSpecies").any fun j => !j.saysSomething

/-- A base species is given, in either spelling. -/
def givesBaseSpecies (members : List (String × Json)) : Bool :=
  (Json.member? members "base_species").any Json.saysSomething
    || (Json.member? members "baseSpecies").any Json.saysSomething

/-- An empty text is none. -/
def noneIfEmpty : Json → Json
  | .str "" => .null
  | j => j

/-- Members with the base species that a species without one has. -/
def withBaseSpecies (members : List (String × Json)) : List (String × Json) :=
  if givesBaseSpecies members then members
  else Json.setMember "base_species" ((Json.member? members "name").getD (.str "")) members

/-- Members whose gender is none if it is empty. -/
def withGender (members : List (String × Json)) : List (String × Json) :=
  match Json.member? members "gender" with
  | some (.str "") => Json.setMember "gender" .null members
  | _ => members

theorem completeMembers_eq (members : List (String × Json)) :
    completeMembers members = withGender (withBaseSpecies members) := rfl

theorem member?_withBaseSpecies (members : List (String × Json)) (k : String) :
    Json.member? (withBaseSpecies members) k
      = if k = "base_species" ∧ givesBaseSpecies members = false then
          some ((Json.member? members "name").getD (.str ""))
        else Json.member? members k := by
  unfold withBaseSpecies
  cases givesBaseSpecies members with
  | true => simp
  | false => simp [Json.member?_setMember]

theorem member?_withGender (members : List (String × Json)) (k : String) :
    Json.member? (withGender members) k
      = if k = "gender" then (Json.member? members k).map noneIfEmpty
        else Json.member? members k := by
  unfold withGender
  split
  · next hempty =>
    rw [Json.member?_setMember]
    by_cases hk : k = "gender"
    · rw [if_pos hk, if_pos hk, hk, hempty]
      rfl
    · rw [if_neg hk, if_neg hk]
  · next hother =>
    by_cases hk : k = "gender"
    · rw [if_pos hk, hk]
      cases hgender : Json.member? members "gender" with
      | none => rfl
      | some j =>
        have hsame : noneIfEmpty j = j := by
          unfold noneIfEmpty
          split
          · exact absurd hgender hother
          · rfl
        rw [Option.map_some, hsame]
    · rw [if_neg hk]

/-! ### Fields of a completed species -/

/-- Neither spelling of a field is a name that completing a species may set. -/
def IsLeftAlone (name : String) : Prop :=
  ∀ k ∈ [name, compactName name], k ≠ "base_species" ∧ k ≠ "gender"

instance (name : String) : Decidable (IsLeftAlone name) :=
  inferInstanceAs (Decidable (∀ k ∈ [name, compactName name], _ ∧ _))

theorem fieldValue?_of_isLeftAlone (h : IsLeftAlone name) :
    fieldValue? (completeMembers members) name = fieldValue? members name := by
  have hsame : ∀ k ∈ [name, compactName name],
      Json.member? (completeMembers members) k = Json.member? members k := by
    intro k hk
    obtain ⟨hbase, hgender⟩ := h k hk
    rw [completeMembers_eq, member?_withGender, if_neg hgender, member?_withBaseSpecies,
      if_neg fun h => hbase h.1]
  unfold fieldValue? findField?
  rw [hsame name (by simp), hsame (compactName name) (by simp)]

theorem fieldValue?_gender : fieldValue? (completeMembers members) "gender"
    = (fieldValue? members "gender").map noneIfEmpty := by
  have hcompact : compactName "gender" = "gender" := by decide
  rw [fieldValue?_of_compact hcompact, fieldValue?_of_compact hcompact, completeMembers_eq,
    member?_withGender, if_pos rfl, member?_withBaseSpecies, if_neg fun h => absurd h.1 (by decide)]

/-- **The base species of a completed species**: what is given, or the name; but a member in the
compact spelling goes before either. -/
theorem fieldValue?_baseSpecies : fieldValue? (completeMembers members) "base_species"
    = if hidesDefault members || (fieldValue? members "base_species").any Json.saysSomething then
        fieldValue? members "base_species"
      else some ((fieldValue? members "name").getD (.str "")) := by
  have hcompact : compactName "base_species" = "baseSpecies" := by decide
  rw [fieldValue?_of_compact (by decide : compactName "name" = "name")]
  have hset : Json.member? (completeMembers members) "baseSpecies"
      = Json.member? members "baseSpecies" := by
    rw [completeMembers_eq, member?_withGender, if_neg (by decide), member?_withBaseSpecies,
      if_neg fun h => absurd h.1 (by decide)]
  have hfull : Json.member? (completeMembers members) "base_species"
      = if givesBaseSpecies members then Json.member? members "base_species"
        else some ((Json.member? members "name").getD (.str "")) := by
    rw [completeMembers_eq, member?_withGender, if_neg (by decide), member?_withBaseSpecies]
    cases givesBaseSpecies members <;> rfl
  unfold fieldValue? findField?
  rw [hcompact, hset, hfull]
  unfold hidesDefault givesBaseSpecies
  cases Json.member? members "baseSpecies" with
  | some j => cases hsome : j.saysSomething <;> simp [hsome]
  | none =>
    cases Json.member? members "base_species" with
    | none => rfl
    | some j => cases hsome : j.saysSomething <;> simp [hsome]

/-! ### Reading species -/

theorem alike_ofCompleteMembers
    (h : ∀ name ∈ fieldNames, fieldValue? members name = fieldValue? members' name) :
    (ofCompleteMembers members).Alike (ofCompleteMembers members') := by
  have entity := Entity.alike_ofMembers fun name hname => h name (List.mem_append_left _ hname)
  exact (entity.map mk).seq (.field (h "base_species" (by decide)) _ _)
    |>.seq (.field (h "forme" (by decide)) _ _)
    |>.seq (.field (h "types" (by decide)) _ _)
    |>.seq (.field (h "gender" (by decide)) _ _)
    |>.seq (.field (h "gender_ratio" (by decide)) _ _)
    |>.seq (.field (h "abilities" (by decide)) _ _)
    |>.seq (.field (h "egg_groups" (by decide)) _ _)
    |>.seq (.field (h "prevo" (by decide)) _ _)
    |>.seq (.field (h "evos" (by decide)) _ _)
    |>.seq (.field (h "tier" (by decide)) _ _)
    |>.seq (.field (h "other_formes" (by decide)) _ _)
    |>.seq (.field (h "battle_only" (by decide)) _ _)
    |>.seq (.field (h "required_ability" (by decide)) _ _)
    |>.seq (.field (h "required_items" (by decide)) _ _)
    |>.seq (.field (h "required_move" (by decide)) _ _)
    |>.seq (.field (h "unreleased_hidden" (by decide)) _ _)
    |>.seq (.field (h "male_only_hidden" (by decide)) _ _)

theorem isLeftAlone_of_mem : ∀ name ∈ fieldNames,
    name = "base_species" ∨ name = "gender" ∨ IsLeftAlone name := by decide

/-- A species is read alike if the default of its base species is hidden in both spellings or in
neither. -/
theorem alike_ofJson (h : Respelled fieldNames members members')
    (hhides : hidesDefault members = hidesDefault members') :
    (ofJson (.obj members)).Alike (ofJson (.obj members')) := by
  refine alike_ofCompleteMembers fun name hname => ?_
  have hvalue := h.fieldValue?_eq areTold_fieldNames hname
  rcases isLeftAlone_of_mem name hname with rfl | rfl | halone
  · rw [fieldValue?_baseSpecies, fieldValue?_baseSpecies, hvalue, hhides,
      h.fieldValue?_eq areTold_fieldNames (by decide : "name" ∈ fieldNames)]
  · rw [fieldValue?_gender, fieldValue?_gender, hvalue]
  · rw [fieldValue?_of_isLeftAlone halone, fieldValue?_of_isLeftAlone halone, hvalue]

variable {s : Species}

theorem fields_of_ofCompleteMembers : ∀ s, ofCompleteMembers members = .accepted s →
    required members "name" ofNonemptyText = .accepted s.name
      ∧ field members "base_species" "" ofText = .accepted s.baseSpecies := by
  unfold ofCompleteMembers
  -- The sixteen fields after the base species do not matter.
  iterate 16 apply forall_of_seq
  intro g hg
  obtain ⟨_, base, hmk, hbase, rfl⟩ := seq_eq_accepted_iff.mp hg
  obtain ⟨entity, hentity, rfl⟩ := map_eq_accepted_iff.mp hmk
  intros
  exact ⟨Entity.name_of_ofMembers entity hentity, hbase⟩

/-- A species tells its own name, which is not empty. -/
theorem name_of_ofJson (h : ofJson (.obj members) = .accepted s) :
    fieldValue? members "name" = some (.str s.name) ∧ s.name ≠ "" := by
  have hname := (fields_of_ofCompleteMembers s h).1
  obtain ⟨spelling, j, hfound, hread⟩ := required_eq_accepted_iff.mp hname
  obtain ⟨rfl, hne⟩ := ofNonemptyText_eq_accepted_iff.mp hread
  rw [← fieldValue?_of_isLeftAlone (by decide : IsLeftAlone "name"), fieldValue?, hfound]
  exact ⟨rfl, hne⟩

theorem value_of_hidesDefault (h : hidesDefault members = true) :
    ∃ j, fieldValue? members "base_species" = some j ∧ j.saysSomething = false := by
  have hcompact : compactName "base_species" = "baseSpecies" := by decide
  unfold hidesDefault at h
  cases hj : Json.member? members "baseSpecies" with
  | none =>
    rw [hj] at h
    cases h
  | some j =>
    rw [hj] at h
    refine ⟨j, ?_, by simpa using h⟩
    rw [fieldValue?, findField?, hcompact, hj]
    rfl

/-- **A base species is empty exactly when the default is hidden.** -/
theorem baseSpecies_eq_empty_iff (h : ofJson (.obj members) = .accepted s) :
    s.baseSpecies = "" ↔ hidesDefault members = true := by
  obtain ⟨hname, hne⟩ := name_of_ofJson h
  have hread : ∀ {j}, fieldValue? (completeMembers members) "base_species" = some j →
      j = .str s.baseSpecies := by
    intro j hj
    rcases field_eq_accepted_iff.mp (fields_of_ofCompleteMembers s h).2 with
      ⟨hnone, -⟩ | ⟨k, j', hfound, hj'⟩
    · rw [fieldValue?, hnone] at hj
      cases hj
    · rw [fieldValue?, hfound] at hj
      cases hj
      exact eq_str_of_ofText hj'
  rw [fieldValue?_baseSpecies, hname, Option.getD_some] at hread
  cases hhides : hidesDefault members with
  | true =>
    obtain ⟨j, hj, hfull⟩ := value_of_hidesDefault hhides
    rw [hhides, Bool.true_or, if_pos rfl] at hread
    rw [hread hj] at hfull
    simpa [Json.saysSomething] using hfull
  | false =>
    rw [hhides, Bool.false_or] at hread
    cases hfull : (fieldValue? members "base_species").any Json.saysSomething with
    | true =>
      obtain ⟨j, hj, hfull'⟩ : ∃ j, fieldValue? members "base_species" = some j
          ∧ j.saysSomething = true := by simpa [Option.any_eq_true] using hfull
      rw [hfull, if_pos rfl] at hread
      rw [hread hj] at hfull'
      simpa [Json.saysSomething] using hfull'
    | false =>
      rw [hfull, if_neg (by decide)] at hread
      have hsame : s.name = s.baseSpecies := Json.str.inj (hread rfl)
      rw [← hsame]
      simpa using hne

end Species

/-! ### Spellings -/

/-- **How its fields are spelled tells no entity from another**, but for a base species that says
nothing.  Moves, items and abilities are read alike in all spellings: they are the same, or they are
rejected with issues of the same kinds.  So are species if the default of the base species is hidden
in both spellings or in neither, and it is only then that two spellings give the same species. -/
theorem entities_alike_of_respelled (members members' : List (String × Json)) :
    (Respelled Move.fieldNames members members' →
        (Move.ofJson (.obj members)).Alike (Move.ofJson (.obj members')))
      ∧ (Respelled Item.fieldNames members members' →
        (Item.ofJson (.obj members)).Alike (Item.ofJson (.obj members')))
      ∧ (Respelled Entity.fieldNames members members' →
        (Ability.ofJson (.obj members)).Alike (Ability.ofJson (.obj members')))
      ∧ (Respelled Species.fieldNames members members' →
        (Species.hidesDefault members = Species.hidesDefault members' →
          (Species.ofJson (.obj members)).Alike (Species.ofJson (.obj members')))
        ∧ ∀ s, Species.ofJson (.obj members) = .accepted s →
          (Species.ofJson (.obj members') = .accepted s
            ↔ Species.hidesDefault members = Species.hidesDefault members')) := by
  refine ⟨Move.alike_ofJson, Item.alike_ofJson, Ability.alike_ofJson,
    fun h => ⟨Species.alike_ofJson h, fun s hs => ?_⟩⟩
  constructor
  · intro hs'
    rw [Bool.eq_iff_iff, ← Species.baseSpecies_eq_empty_iff hs,
      ← Species.baseSpecies_eq_empty_iff hs']
  · exact fun hhides => (Species.alike_ofJson h hhides).eq_accepted hs

namespace Species

/-- A forme with fields in either spelling. -/
def mixedForme : List (String × Json) :=
  [("name", .str "Rotom-Wash"), ("baseSpecies", .str "Rotom"), ("battle_only", .bool false),
    ("requiredMove", .str "Hydro Pump")]

/-- The same fields, each in its other spelling. -/
def mixedFormeRespelled : List (String × Json) :=
  [("name", .str "Rotom-Wash"), ("base_species", .str "Rotom"), ("battleOnly", .bool false),
    ("required_move", .str "Hydro Pump")]

theorem entities_alike_of_respelled_rotom : Respelled fieldNames mixedForme mixedFormeRespelled
    ∧ hidesDefault mixedForme = hidesDefault mixedFormeRespelled
    ∧ (ofJson (.obj mixedForme)).Alike (ofJson (.obj mixedFormeRespelled)) := by
  have h : Respelled fieldNames mixedForme mixedFormeRespelled :=
    respelled_of_names (by decide +kernel) (by decide +kernel) rfl
  exact ⟨h, rfl, ((entities_alike_of_respelled _ _).2.2.2 h).1 rfl⟩

/-- A forme whose base species is empty, under the name of the field. -/
def blankBase : List (String × Json) := [("name", .str "Rotom-Wash"), ("base_species", .str "")]

/-- The same with the compact spelling. -/
def blankBaseCompact : List (String × Json) :=
  [("name", .str "Rotom-Wash"), ("baseSpecies", .str "")]

theorem respelled_blankBase : Respelled fieldNames blankBase blankBaseCompact :=
  respelled_of_names (by decide +kernel) (by decide +kernel) rfl

/-- The two spellings of an empty base species give two species. -/
theorem blank_base_told_apart : Respelled fieldNames blankBase blankBaseCompact
    ∧ (∃ s, ofJson (.obj blankBase) = .accepted s ∧ s.baseSpecies = "Rotom-Wash")
    ∧ (∃ s, ofJson (.obj blankBaseCompact) = .accepted s ∧ s.baseSpecies = "")
    ∧ ¬ (ofJson (.obj blankBase)).Alike (ofJson (.obj blankBaseCompact)) := by
  have hbase : ∃ s, ofJson (.obj blankBase) = .accepted s ∧ s.baseSpecies = "Rotom-Wash" :=
    ⟨_, rfl, rfl⟩
  have hcompact : ∃ s, ofJson (.obj blankBaseCompact) = .accepted s ∧ s.baseSpecies = "" :=
    ⟨_, rfl, rfl⟩
  refine ⟨respelled_blankBase, hbase, hcompact, fun halike => ?_⟩
  obtain ⟨s, hs, hname⟩ := hbase
  obtain ⟨s', hs', hempty⟩ := hcompact
  rw [halike.eq_accepted hs, accepted.injEq] at hs'
  rw [hs', hempty] at hname
  exact absurd hname (by decide)

end Species

end TeamLegality
