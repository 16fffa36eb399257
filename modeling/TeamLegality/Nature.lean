import TeamLegality.Text.Identifier
import TeamLegality.Text.Blank

/-!
# Natures
-/

namespace TeamLegality.Nature

/-- The names of the natures. -/
def names : List String :=
  ["Adamant", "Bashful", "Bold", "Brave", "Calm", "Careful", "Docile", "Gentle", "Hardy", "Hasty",
   "Impish", "Jolly", "Lax", "Lonely", "Mild", "Modest", "Naive", "Naughty", "Quiet", "Quirky",
   "Rash", "Relaxed", "Sassy", "Serious", "Timid"]

/-- The nature of that name, whatever its case and outer blanks. -/
def find? (s : String) : Option String :=
  let folded := Text.foldCase (Text.strip s)
  names.find? fun n => Text.foldCase n == folded

end TeamLegality.Nature
