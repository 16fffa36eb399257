import TeamLegality.Config
import TeamLegality.Error
import TeamLegality.Format.Decoding

/-!
# The format registry — a checked list of formats and how names find them

The entries of a format list are checked in order.  Headings are skipped; every other entry needs a
name with letters or digits, an identifier of its own, and a mod that has a dex.  Names find
formats by identifier or alias, and the identifier after the default mod is tried first.
-/

namespace TeamLegality

/-- An entry of a format list, already read or not. -/
inductive FormatEntry where
  | record (r : FormatRecord)
  | document (j : Json)

/-- The formats by identifier, with the dexes and limits they are used with. -/
structure FormatRegistry where
  config : Config
  dexes : DexCollection
  defaultDex : Dex
  formats : Assoc String Format
  aliases : Assoc String Json

/-- Why there is no registry. -/
inductive RegistryError where
  | notObject
  | notIterable
  | configuration (cause : ConfigurationCause)
  | mod (cause : ModError)

namespace FormatRegistry

/-- The record of an entry. -/
def readEntry (number : Nat) : FormatEntry → Except RegistryError FormatRecord
  | .record r => .ok r
  | .document j =>
    match FormatRecord.ofJson j with
    | .accepted r => .ok r
    | .rejected issues => .error (.configuration (.malformedRecord number issues))
    | .aborted => .error .notObject

/-- Formats with one more record, the `number`th of the list. -/
def addRecord (defaultMod : String) (dexes : DexCollection) (number : Nat) (r : FormatRecord)
    (formats : Assoc String Format) : Except RegistryError (Assoc String Format) :=
  let id := Text.toId r.name
  let mod := r.modOr defaultMod
  if r.isHeading then .ok formats
  else if id = "" then .error (.configuration (.namelessFormat number r.name))
  else if formats.contains id then .error (.configuration (.duplicateFormat number id))
  else if !dexes.contains mod then .error (.configuration (.unknownMod r.name mod))
  else
    match Format.ofRecord r defaultMod with
    | .ok f => .ok (formats.insert id f)
    | .error cause => .error (.mod cause)

/-- Formats with the entries of a list, counted from `number`. -/
def addEntries (defaultMod : String) (dexes : DexCollection) :
    (number : Nat) → List FormatEntry → Assoc String Format →
      Except RegistryError (Assoc String Format)
  | _, [], formats => .ok formats
  | number, e :: rest, formats => do
    let r ← readEntry number e
    let formats ← addRecord defaultMod dexes number r formats
    addEntries defaultMod dexes (number + 1) rest formats

/-- The aliases of a document, from identifiers to what they stand for, which is a name if it is a
text; one that says nothing is none. -/
def readAliases (aliases : Json) : Except RegistryError (Assoc String Json) :=
  match aliases with
  | .obj members =>
    .ok (members.foldl (fun table (key, j) =>
      if j.saysSomething then table.insert (Text.toId key) j
      else table.erase (Text.toId key)) .empty)
  | other => if other.saysSomething then .error .notObject else .ok .empty

/-- The registry of a format list. -/
def build (config : Config) (dexes : DexCollection) (aliases : Json) (entries : List FormatEntry) :
    Except RegistryError FormatRegistry :=
  match dexes.get? config.defaultMod with
  | none => .error (.configuration (.noDefaultDex config.defaultMod))
  | some defaultDex => do
    let aliases ← readAliases aliases
    let formats ← addEntries config.defaultMod dexes 1 entries .empty
    pure { config, dexes, defaultDex, formats, aliases }

/-- The parts of a document that stands where a list is expected: items, member names or
characters. -/
def partsOf : Json → Option (List Json)
  | .arr items => some items
  | .obj members => some (members.map fun m => .str m.1)
  | .str s => some (s.toList.map fun c => .str (String.ofList [c]))
  | _ => none

/-- The registry of a document: a list of records, or an object with records and aliases. -/
def load (config : Config) (dexes : DexCollection) (document : Json) :
    Except RegistryError FormatRegistry :=
  match document with
  | .arr items => build config dexes .null (items.map .document)
  | .obj members =>
    let aliases := (Json.member? members "aliases").getD .null
    match partsOf ((Json.member? members "formats").getD (.arr [])) with
    | some parts => build config dexes aliases (parts.map .document)
    | none => do
      let _ ← build config dexes aliases []
      .error .notIterable
  | _ => .error .notObject

/-! ### Looking names up -/

/-- Whether a format has that identifier. -/
def hasFormat (r : FormatRegistry) (id : String) : Bool := r.formats.contains id

/-- The name before the custom rules, and the custom rules. -/
def splitName (name : String) : String × List String :=
  match Text.cutFirst? Format.customRulesMark.toList (Text.trim name.toList) with
  | none => (Text.strip name, [])
  | some (before, after) =>
    let rules := (Text.splitAt ',' after).map Text.trim
    (String.ofList before, (rules.filter (!·.isEmpty)).map String.ofList)

/-- What a name is an alias of, or else the name itself. -/
def resolveAlias (r : FormatRegistry) (name : String) : Json :=
  (r.aliases.get? (Text.toId name)).getD (.str name)

/-- The registered format of an identifier: with the default mod in front if there is one. -/
def byId? (r : FormatRegistry) (id : String) : Option Format :=
  match r.formats.get? (r.config.defaultMod ++ id) with
  | some f => some f
  | none => r.formats.get? id

/-- The format of a name, with the custom rules that the name gives; a name that finds none
describes a format that does not exist. -/
def getFormat (r : FormatRegistry) (name : String) : Format :=
  let (base, rules) := splitName name
  let resolved := r.resolveAlias base
  match r.byId? resolved.toId with
  | some f => if rules.isEmpty then f else f.withCustomRules rules
  | none => .missing resolved

/-- Whether a name finds a format. -/
def contains (r : FormatRegistry) (name : String) : Bool := (r.getFormat name).isKnown

/-- The dex that a format is played with. -/
def dexFor (r : FormatRegistry) (f : Format) : Dex := (r.dexes.get? f.mod).getD r.defaultDex

end FormatRegistry

end TeamLegality
