import TeamLegality.Decoding.Fields
import TeamLegality.Dex.Entity

/-!
# Reading entities from documents

Every field has a default except the name, which must not be empty.  Members that no field reads
are ignored.  A species without a base species is its own base species, and an empty gender is
none.
-/

namespace TeamLegality

open Decoding

namespace Decoded

/-- A marker: a truth value or a text as it stands, else what counts as a truth value. -/
def ofMarker : Json → Decoded Marker
  | .bool b => .accepted (.flag b)
  | .str s => .accepted (.text s)
  | j =>
    match ofTruth j with
    | .accepted b => .accepted (.flag b)
    | refused =>
      ((refused.within (.field "bool")).both ((ofText j).within (.field "str"))).map fun (_, s) =>
        .text s

/-- The gender of a species, by its letter. -/
def ofGenderLetter : Json → Decoded Gender
  | .str s =>
    match Gender.ofLetter? s with
    | some g => .accepted g
    | none => fail .notListed
  | _ => fail .notListed

end Decoded

open Decoded

namespace Entity

/-- The fields that all entities have. -/
def ofMembers (m : List (String × Json)) : Decoded Entity :=
  mk <$> required m "name" ofNonemptyText
    <*> field m "num" 0 ofWhole
    <*> field m "gen" 0 ofWhole
    <*> field m "is_nonstandard" none (ofOptional ofText)

end Entity

namespace Species

/-- The members of a species with its base species and gender completed. -/
def completeMembers (m : List (String × Json)) : List (String × Json) :=
  let given (name : String) : Bool := (Json.member? m name).any Json.saysSomething
  let m := if given "base_species" || given "baseSpecies" then m
    else Json.setMember "base_species" ((Json.member? m "name").getD (.str "")) m
  match Json.member? m "gender" with
  | some (.str "") => Json.setMember "gender" .null m
  | _ => m

/-- The fields of a species whose members are complete. -/
def ofCompleteMembers (m : List (String × Json)) : Decoded Species :=
  mk <$> Entity.ofMembers m
    <*> field m "base_species" "" ofText
    <*> field m "forme" "" ofText
    <*> field m "types" [] (ofList ofText)
    <*> field m "gender" none (ofOptional ofGenderLetter)
    <*> field m "gender_ratio" none (ofOptional (ofTable ofReal))
    <*> field m "abilities" .empty (ofTable ofText)
    <*> field m "egg_groups" [] (ofList ofText)
    <*> field m "prevo" "" ofText
    <*> field m "evos" [] (ofList ofText)
    <*> field m "tier" "" ofText
    <*> field m "other_formes" [] (ofList ofText)
    <*> field m "battle_only" false ofTruth
    <*> field m "required_ability" "" ofText
    <*> field m "required_items" [] (ofList ofText)
    <*> field m "required_move" "" ofText
    <*> field m "unreleased_hidden" false ofTruth
    <*> field m "male_only_hidden" false ofTruth

/-- A species. -/
def ofJson : Json → Decoded Species :=
  ofObject fun m => ofCompleteMembers (completeMembers m)

end Species

namespace Move

/-- A move. -/
def ofJson : Json → Decoded Move :=
  ofObject fun m =>
    mk <$> Entity.ofMembers m
      <*> field m "type" "Normal" ofText
      <*> field m "category" "Status" ofText
      <*> field m "ohko" (.flag false) ofMarker
      <*> field m "boosts" none (ofOptional (ofTable ofWhole))
      <*> field m "z_move_boost" none (ofOptional (ofTable ofWhole))

end Move

namespace Item

/-- An item. -/
def ofJson : Json → Decoded Item :=
  ofObject fun m =>
    mk <$> Entity.ofMembers m
      <*> field m "z_move" none (ofOptional ofMarker)
      <*> field m "z_move_type" none (ofOptional ofText)
      <*> field m "mega_stone" none (ofOptional ofText)
      <*> field m "forced_forme" none (ofOptional ofText)

end Item

namespace Ability

/-- An ability. -/
def ofJson : Json → Decoded Ability :=
  ofObject fun m => mk <$> Entity.ofMembers m

end Ability

end TeamLegality
