/-!
# Genders
-/

namespace TeamLegality

/-- The gender of a species or of a set. -/
inductive Gender where
  | male | female | genderless
deriving DecidableEq, Repr

namespace Gender

/-- The letter of a gender. -/
def letter : Gender → String
  | male => "M"
  | female => "F"
  | genderless => "N"

/-- The gender of a letter. -/
def ofLetter? (s : String) : Option Gender :=
  if s = "M" then some male
  else if s = "F" then some female
  else if s = "N" then some genderless
  else none

theorem ofLetter?_letter (g : Gender) : ofLetter? g.letter = some g := by
  cases g <;> rfl

end Gender

end TeamLegality
