import TeamLegality.Number.Binary64

/-!
# Shortest decimal text of a floating-point number

A number is written with the fewest significant digits that read back as the same number, and of
two such texts of one length with the nearer, a half going to the even digit.  From `10^-4` up to
`10^16` the notation is positional and always has a fraction; outside, it has a signed exponent of
at least two digits.
-/

namespace TeamLegality.Binary64

/-- The place of the first significant digit: `10^p ≤ num / den < 10^(p+1)`. -/
def decimalPlace (num den : Nat) : Int :=
  if den ≤ num then ((Nat.toDigits 10 (num / den)).length : Int) - 1
  else
    let length := (Nat.toDigits 10 (den / num)).length
    if den ≤ num * Nat.pow 10 (length - 1) then -((length : Int) - 1) else -(length : Int)

/-- `num / den` in units of `10^place`, as a quotient. -/
def onGrid (num den : Nat) (place : Int) : Nat × Nat :=
  if 0 ≤ place then (num, den * Nat.pow 10 place.toNat) else (num * Nat.pow 10 (-place).toNat, den)

/-- The digits of `x` on the grid of `10^place`: of the two neighbours of `num / den` that read
back as `x`, the nearer, or the even one if both are equally near. -/
def neighbour? (x : Binary64) (num den : Nat) (place : Int) : Option Nat :=
  let (n, d) := onGrid num den place
  let below := n / d
  let above := below + 1
  let back (digits : Nat) : Bool := ofDecimal false digits place == x
  match back below, back above with
  | true, true => some (roundDiv n d)
  | true, false => some below
  | false, true => some above
  | false, false => none

/-- Digits and place without trailing zeros; `fuel` bounds their number. -/
def trimZeros : (fuel : Nat) → Nat → Int → Nat × Int
  | 0, digits, place => (digits, place)
  | fuel + 1, digits, place =>
    if digits % 10 = 0 ∧ digits ≠ 0 then trimZeros fuel (digits / 10) (place + 1)
    else (digits, place)

/-- The shortest digits of a positive magnitude and the place of the last one. -/
def shortest (mantissa : Nat) (exponent : Int) : Nat × Int :=
  let (num, den) := ratio mantissa exponent
  let first := decimalPlace num den
  let x : Binary64 := .finite false mantissa exponent
  let found := (List.range 17).findSome? fun (k : Nat) =>
    (neighbour? x num den (first - k)).map fun digits => (digits, first - k)
  match found with
  | some (digits, place) => trimZeros 18 digits place
  | none => (0, 0)

/-- Digits with the point `point` places after the start, padded by zeros on either side. -/
def positional (digits : List Char) (point : Int) : String :=
  if point ≤ 0 then
    "0." ++ String.ofList (List.replicate (-point).toNat '0' ++ digits)
  else
    let n := point.toNat
    let whole := digits.take n ++ List.replicate (n - digits.length) '0'
    let fraction := if digits.length ≤ n then ['0'] else digits.drop n
    String.ofList whole ++ "." ++ String.ofList fraction

/-- Digits with the point after the first one, and the exponent of ten. -/
def scientific (digits : List Char) (exponent : Int) : String :=
  let size := Nat.toDigits 10 exponent.natAbs
  let fraction := if digits.length ≤ 1 then "" else "." ++ String.ofList (digits.drop 1)
  String.ofList (digits.take 1) ++ fraction ++ "e" ++ (if exponent < 0 then "-" else "+")
    ++ String.ofList (List.replicate (2 - size.length) '0' ++ size)

/-- The text of a number. -/
def text : Binary64 → String
  | .notANumber => "nan"
  | .infinite negative => if negative then "-inf" else "inf"
  | .finite negative m e =>
    let sign := if negative then "-" else ""
    if m = 0 then sign ++ "0.0"
    else
      let (digits, place) := shortest m e
      let ds := Nat.toDigits 10 digits
      let point : Int := place + ds.length
      if -4 < point ∧ point ≤ 16 then sign ++ positional ds point
      else sign ++ scientific ds (point - 1)

end TeamLegality.Binary64
