import TeamLegality.Format.Basic

/-!
# Reading format records from documents

Every field of a record has a default, and a record must not have any other member.
-/

namespace TeamLegality

open Decoding Decoded

/-- A kind of format, by its word. -/
def Decoded.ofEffectWord : Json → Decoded EffectType
  | .str s =>
    match EffectType.all.find? fun e => e.word == s with
    | some e => .accepted e
    | none => fail .notListed
  | _ => fail .notListed

namespace FormatRecord

/-- The names of the fields of a record. -/
def fieldNames : List String :=
  ["name", "section", "mod", "effect_type", "desc", "ruleset", "banlist", "unbanlist", "team",
   "game_type", "max_level", "default_level", "check_learnset"]

/-- The fields of a record. -/
def ofMembers (m : List (String × Json)) : Decoded FormatRecord :=
  mk <$> field m "name" "" ofText
    <*> field m "section" "" ofText
    <*> field m "mod" none (ofOptional ofText)
    <*> field m "effect_type" .format ofEffectWord
    <*> field m "desc" "" ofText
    <*> field m "ruleset" [] (Decoded.ofList ofText)
    <*> field m "banlist" [] (Decoded.ofList ofText)
    <*> field m "unbanlist" [] (Decoded.ofList ofText)
    <*> field m "team" none (ofOptional ofText)
    <*> field m "game_type" "singles" ofText
    <*> field m "max_level" 100 ofPositive
    <*> field m "default_level" none (ofOptional ofPositive)
    <*> field m "check_learnset" none (ofOptional ofText)

/-- A record. -/
def ofJson : Json → Decoded FormatRecord :=
  ofObject fun m => ofMembers m <* noOthers fieldNames m

end FormatRecord

end TeamLegality
