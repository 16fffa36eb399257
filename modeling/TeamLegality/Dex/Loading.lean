import TeamLegality.Dex.Basic
import TeamLegality.Dex.Decoding
import TeamLegality.Json.Display
import TeamLegality.Text.Integer

/-!
# Loading dexes from documents

A document holds either one set of tables, which several generations share, or one set for each of
several mods.  Entities are read in order, table by table, and the first one with issues ends the
loading.
-/

namespace TeamLegality

/-- The kinds of entities. -/
inductive EntityKind where
  | species | move | item | ability
deriving DecidableEq, Repr

namespace EntityKind

/-- The title of a kind. -/
def title : EntityKind → String
  | species => "Species"
  | move => "Move"
  | item => "Item"
  | ability => "Ability"

end EntityKind

/-- Why a mod has no generation: its name tells none, or tells one too long to read. -/
inductive ModError where
  | noGeneration (mod : Option String)
  | unreadable
deriving DecidableEq, Repr

namespace ModError

/-- The wording of an error about a mod, if it has one. -/
def message? : ModError → Option String
  | noGeneration mod =>
    let shown := match mod with
      | some m => Text.quote m
      | none => "None"
    some ("Mod " ++ shown ++ " does not name a generation")
  | unreadable => none

end ModError

/-- The generation that the name of a mod tells: the number after `gen`. -/
def generationOf (mod : Option String) : Except ModError Int :=
  let cs := (mod.getD "").toList
  if "gen".toList.isPrefixOf cs then
    match (cs.drop 3).takeWhile Text.isDecimal with
    | [] => .error (.noGeneration mod)
    | digits =>
      match Text.integer? digits with
      | some n => .ok n
      | none => .error .unreadable
  else .error (.noGeneration mod)

/-- Why a document is no dex. -/
inductive DexError where
  | notSearchable
  | notNamed
  | notObject
  | noGenerations
  | mod (cause : ModError)
  | notTable (kind : EntityKind)
  | entity (issues : List Issue)

namespace DexError

/-- The wording of an error about a dex, if it has one. -/
def message? : DexError → Option String
  | mod cause => cause.message?
  | notTable kind => some (kind.title ++ " table must be a mapping keyed by identifier")
  | _ => none

end DexError

namespace Dex

/-- Entities read in turn, keyed by the identifiers of their keys. -/
def readEntries {α : Type} (read : Json → Decoded α) (members : List (String × Json)) :
    Except DexError (Assoc String α) :=
  members.foldlM (fun table (key, j) =>
    match read j with
    | .accepted a => .ok (table.insert (Text.toId key) a)
    | .rejected issues => .error (.entity issues)
    | .aborted => .error .notObject) .empty

/-- A table of a document; one that says nothing is empty. -/
def readTable {α : Type} (kind : EntityKind) (read : Json → Decoded α) (table : Json) :
    Except DexError (Assoc String α) :=
  match table with
  | .obj members => readEntries read members
  | other => if other.saysSomething then .error (.notTable kind) else .ok .empty

/-- The aliases of a document, identifiers to identifiers; one that says nothing is none. -/
def readAliases (aliases : Json) : Except DexError (Assoc String String) :=
  match aliases with
  | .obj members =>
    .ok (members.foldl (fun table (key, j) =>
      if j.saysSomething then table.insert (Text.toId key) j.toId
      else table.erase (Text.toId key)) .empty)
  | other => if other.saysSomething then .error .notObject else .ok .empty

/-- The dex of a mod, from the tables of an object. -/
def ofMembers (mod : String) (members : List (String × Json)) : Except DexError Dex := do
  let part (name : String) : Json := (Json.member? members name).getD .null
  let species ← readTable .species Species.ofJson (part "species")
  let moves ← readTable .move Move.ofJson (part "moves")
  let items ← readTable .item Item.ofJson (part "items")
  let abilities ← readTable .ability Ability.ofJson (part "abilities")
  let gen ← (generationOf (some mod)).mapError .mod
  let aliases ← readAliases (part "aliases")
  pure { mod, gen, species, moves, items, abilities, aliases }

/-- The dex of a mod, from a document. -/
def ofJson (mod : String) : Json → Except DexError Dex
  | .obj members => ofMembers mod members
  | _ => .error .notObject

end Dex

namespace DexCollection

/-- The dexes, keyed by their mods. -/
def ofDexes (dexes : List Dex) : DexCollection :=
  Assoc.ofList (dexes.map fun d => (d.mod, d))

/-- One set of tables shared by several generations. -/
def shared (payload : Json) (gens : List Int) : Except DexError DexCollection := do
  match gens.max? with
  | none => .error .noGenerations
  | some latest =>
    let base ← Dex.ofJson (Dex.modOfGen latest) payload
    pure (ofDexes (gens.map base.withGen))

/-- A set of tables for each mod. -/
def separate (payloads : Json) : Except DexError DexCollection :=
  match payloads with
  | .obj members => do
    let dexes ← members.mapM fun (mod, payload) => Dex.ofJson mod payload
    pure (ofDexes dexes)
  | _ => .error .notObject

/-- The member that holds separate sets of tables. -/
def modsMember : String := "mods"

/-- The dexes of a document. -/
def load (document : Json) (gens : List Int) : Except DexError DexCollection :=
  match document with
  | .obj members =>
    match Json.member? members modsMember with
    | some payloads => separate payloads
    | none => shared document gens
  | .arr items =>
    if items.any fun j => j.str? == some modsMember then .error .notNamed
    else shared document gens
  | .str s =>
    if (Text.cutFirst? modsMember.toList s.toList).isSome then .error .notNamed
    else shared document gens
  | _ => .error .notSearchable

/-- The generations that a shared set of tables serves unless told otherwise. -/
def defaultGens : List Int := [1, 2, 3, 4, 5, 6, 7]

end DexCollection

end TeamLegality
