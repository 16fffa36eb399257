import TeamLegality.ElementType
import TeamLegality.Stats

/-!
# Hidden Power — the type that follows from the individual values

Up to generation 2 the type follows from the low two bits of the Attack and Defense determinant
values; later from the parities of all six values, weighted and scaled down to sixteen types.
-/

namespace TeamLegality.HiddenPower

/-- The types that Hidden Power can have, in the order of the formula. -/
def types : List ElementType :=
  [.fighting, .flying, .poison, .ground, .rock, .bug, .ghost, .steel, .fire, .water, .grass,
   .electric, .psychic, .ice, .dragon, .dark]

/-- The type at an index of the formula. -/
def typeAt (i : Fin 16) : ElementType := types.get i

/-- The type by two determinant values. -/
def typeByDvs (attackDv defenseDv : Int) : ElementType :=
  typeAt ⟨(4 * (attackDv % 4) + defenseDv % 4).toNat, by omega⟩

/-- The weighted sum of the parities of the six values. -/
def paritySum (ivs : StatTable) : Int :=
  ivs.hp % 2 + 2 * (ivs.attack % 2) + 4 * (ivs.defense % 2) + 8 * (ivs.speed % 2)
    + 16 * (ivs.specialAttack % 2) + 32 * (ivs.specialDefense % 2)

theorem paritySum_bounds (ivs : StatTable) : 0 ≤ paritySum ivs ∧ paritySum ivs ≤ 63 := by
  unfold paritySum
  omega

/-- The type by the parities of all six values. -/
def typeByParity (ivs : StatTable) : ElementType :=
  typeAt ⟨(paritySum ivs * 15 / 63).toNat, by have := paritySum_bounds ivs; omega⟩

/-- The Hidden Power type of a table in a generation. -/
def typeOf (ivs : StatTable) (gen : Int) : ElementType :=
  if gen ≤ 2 then typeByDvs (StatTable.dv ivs.attack) (StatTable.dv ivs.defense)
  else typeByParity ivs

/-- The Hidden Power type of values that may lack some stats: up to generation 2 two stats are
enough. -/
def typeOf? (given : Stat → Option Int) (gen : Int) : Option ElementType :=
  if gen ≤ 2 then do
    some (typeByDvs (StatTable.dv (← given .attack)) (StatTable.dv (← given .defense)))
  else (StatTable.complete? given).map typeByParity

end TeamLegality.HiddenPower
