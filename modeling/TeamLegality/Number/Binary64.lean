/-!
# Binary64 — floating-point numbers held exactly

A number is `±mantissa · 2^exponent` with at most 53 bits of mantissa, an infinity, or not a
number.  Every result goes through one rounding function, `Binary64.ofRatio`, which rounds a
quotient of naturals to the nearest representable number and a tie to the even mantissa.
-/

namespace TeamLegality

/-- The quotient rounded to the nearest natural, a half to the even neighbour. -/
def roundDiv (n d : Nat) : Nat :=
  let q := n / d
  let r := n % d
  if 2 * r < d then q
  else if d < 2 * r then q + 1
  else if q % 2 = 0 then q else q + 1

/-- A binary floating-point number of 53 bits. -/
inductive Binary64 where
  | finite (negative : Bool) (mantissa : Nat) (exponent : Int)
  | infinite (negative : Bool)
  | notANumber
deriving DecidableEq, Repr

namespace Binary64

/-- The bits of a mantissa. -/
def precision : Nat := 53

/-- The smallest exponent: below it mantissas lose bits. -/
def minExponent : Int := -1074

/-- The largest exponent: above it numbers overflow. -/
def maxExponent : Int := 971

/-- Zero with a sign. -/
def zero (negative : Bool) : Binary64 := .finite negative 0 minExponent

/-- `num / den · 2^(-exponent)`, rounded to a natural. -/
def scaled (num den : Nat) (exponent : Int) : Nat :=
  if 0 ≤ exponent then roundDiv num (den * Nat.pow 2 exponent.toNat)
  else roundDiv (num * Nat.pow 2 (-exponent).toNat) den

/-- A number from its rounded mantissa: a carry into a 54th bit moves to the next exponent. -/
def pack (negative : Bool) (mantissa : Nat) (exponent : Int) : Binary64 :=
  let (m, e) := if mantissa = Nat.pow 2 precision then (Nat.pow 2 (precision - 1), exponent + 1)
    else (mantissa, exponent)
  if maxExponent < e then .infinite negative
  else if m = 0 then zero negative
  else .finite negative m e

/-- The number nearest to `± num / den`. -/
def ofRatio (negative : Bool) (num den : Nat) : Binary64 :=
  if num = 0 then zero negative
  else
    let guess : Int := (num.log2 : Int) - (den.log2 : Int) - (precision : Int)
    let low := max guess minExponent
    let exponent := if Nat.pow 2 precision < scaled num den low then low + 1 else low
    pack negative (scaled num den exponent) exponent

/-- The number nearest to an integer. -/
def ofInt (n : Int) : Binary64 := ofRatio (n < 0) n.natAbs 1

/-- The nearest number to `± digits · 10^exponent`.  Powers of ten that are out of range either way
are settled without being computed. -/
def ofDecimal (negative : Bool) (digits : Nat) (exponent : Int) : Binary64 :=
  if digits = 0 then zero negative
  else
    let magnitude : Int := (Nat.toDigits 10 digits).length + exponent
    if 400 < magnitude then .infinite negative
    else if magnitude < -400 then zero negative
    else if 0 ≤ exponent then ofRatio negative (digits * Nat.pow 10 exponent.toNat) 1
    else ofRatio negative digits (Nat.pow 10 (-exponent).toNat)

/-- The numerator and denominator of a magnitude `mantissa · 2^exponent`. -/
def ratio (mantissa : Nat) (exponent : Int) : Nat × Nat :=
  if 0 ≤ exponent then (mantissa * Nat.pow 2 exponent.toNat, 1)
  else (mantissa, Nat.pow 2 (-exponent).toNat)

/-- The product with a positive whole number, rounded once. -/
def scale (x : Binary64) (k : Nat) : Binary64 :=
  match x with
  | .finite negative m e =>
    let (num, den) := ratio m e
    ofRatio negative (num * k) den
  | other => other

/-- The whole part, toward zero, of a finite number. -/
def truncate? : Binary64 → Option Int
  | .finite negative m e =>
    let (num, den) := ratio m e
    some (if negative then -((num / den : Nat) : Int) else ((num / den : Nat) : Int))
  | _ => none

/-- The nearest integer to a finite number, a half going to the even neighbour. -/
def round? : Binary64 → Option Int
  | .finite negative m e =>
    let (num, den) := ratio m e
    some (if negative then -(roundDiv num den : Int) else (roundDiv num den : Int))
  | _ => none

/-- Whether a number is zero, of either sign. -/
def isZero : Binary64 → Bool
  | .finite _ m _ => m == 0
  | _ => false

/-- The integer that a number without fraction is equal to. -/
def integer? (x : Binary64) : Option Int :=
  match x with
  | .finite _ m e =>
    let (num, den) := ratio m e
    if num % den = 0 then truncate? x else none
  | _ => none

example : ofDecimal false 5 (-1) = .finite false (2 ^ 52) (-53) := by decide +kernel

example : ((ofDecimal false 875 (-3)).scale 1000000).round? = some 875000 := by decide +kernel

end Binary64

end TeamLegality
