import TeamLegality.Decoding.Scalar

/-!
# Fields of objects

A field has a name whose words are joined by underscores, and a compact spelling that capitalises
the later words instead.  Either spelling is accepted; when an object has both, the compact one is
read and the other counts as an unknown member.
-/

namespace TeamLegality.Decoding

/-- Capital initial. -/
def capitalize : List Char → List Char
  | [] => []
  | c :: rest => c.toUpper :: rest

/-- The compact spelling of a name: `base_species` becomes `baseSpecies`. -/
def compactName (name : String) : String :=
  match Text.splitAt '_' name.toList with
  | [] => name
  | first :: more => String.ofList (first ++ more.flatMap capitalize)

/-- The spelling under which an object has a field, and the member. -/
def findField? (members : List (String × Json)) (name : String) : Option (String × Json) :=
  match Json.member? members (compactName name) with
  | some j => some (compactName name, j)
  | none => (Json.member? members name).map fun j => (name, j)

variable {α : Type}

/-- A field, or what stands for it when it is absent. -/
def fieldOr (members : List (String × Json)) (name : String) (absent : Decoded α)
    (read : Json → Decoded α) : Decoded α :=
  match findField? members name with
  | some (spelling, j) => (read j).within (.field spelling)
  | none => absent

/-- A field that may be absent. -/
def field (members : List (String × Json)) (name : String) (default : α)
    (read : Json → Decoded α) : Decoded α :=
  fieldOr members name (.accepted default) read

/-- A field that has to be there. -/
def required (members : List (String × Json)) (name : String) (read : Json → Decoded α) :
    Decoded α :=
  fieldOr members name ((Decoded.fail .missing).within (.field (compactName name))) read

/-- The members that no field of those names reads. -/
def unknownMembers (names : List String) (members : List (String × Json)) : List String :=
  let taken := names.filterMap fun name => (findField? members name).map Prod.fst
  (members.map Prod.fst).filter fun m => !taken.contains m

/-- Accepts an object only without members that no field reads. -/
def noOthers (names : List String) (members : List (String × Json)) : Decoded Unit :=
  match unknownMembers names members with
  | [] => .accepted ()
  | unknown => .rejected (unknown.map fun m => ⟨[.field m], .unexpected⟩)

/-- The members of an object; anything else is no record. -/
def ofObject (read : List (String × Json) → Decoded α) : Json → Decoded α
  | .obj members => read members
  | _ => .fail .notObject

end TeamLegality.Decoding
