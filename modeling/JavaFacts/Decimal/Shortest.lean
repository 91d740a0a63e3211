/-!
# The shortest decimal of a floating-point number

A floating-point number stands for all reals that round to it. Its shortest decimal is the one with
the fewest digits among these reals, and of several with as many digits the one nearest to the
number. It is found on the grids of one, two, … seventeen digits: if a point of a grid rounds to the
number, then so does one of the two points around the number.
-/

namespace JavaFacts

/-- The number `digits * 10 ^ exponent`. -/
structure Decimal where
  digits : Nat
  exponent : Int
deriving DecidableEq, Repr, Inhabited

namespace Decimal

/-- A positive binary number `significand * 2 ^ exponent` among the numbers of its format. -/
structure Binary where
  significand : Nat
  exponent : Int
  /-- Whether the next smaller number is only half as far away as the next greater one. -/
  narrowBelow : Bool
deriving DecidableEq, Repr, Inhabited

namespace Binary

/-- The absolute value of a finite number in double precision. -/
def ofFloat (number : Float) : Binary :=
  let bits : Nat := number.toBits.toNat
  let fraction : Nat := bits % Nat.pow 2 52
  let biased : Nat := bits / Nat.pow 2 52 % Nat.pow 2 11
  if biased = 0 then ⟨fraction, -1074, false⟩
  else ⟨fraction + Nat.pow 2 52, (biased : Int) - 1075, fraction == 0 && 1 < biased⟩

/-- The denominator of the quarters of a unit in which the number and its bounds are counted. -/
def denominator (number : Binary) : Nat := Nat.pow 2 (2 - number.exponent).toNat

/-- The value of so many quarters of a unit, over the denominator. -/
def quarters (number : Binary) (count : Nat) : Nat := count * Nat.pow 2 (number.exponent - 2).toNat

/-- The number itself. -/
def middle (number : Binary) : Nat := number.quarters (4 * number.significand)

/-- The least real that rounds to the number. -/
def least (number : Binary) : Nat :=
  number.quarters (4 * number.significand - if number.narrowBelow then 1 else 2)

/-- The greatest real that rounds to the number. -/
def greatest (number : Binary) : Nat := number.quarters (4 * number.significand + 2)

/-- Whether a fraction rounds to the number: its bounds do so if the significand is even. -/
def covers (number : Binary) (numerator denominator : Nat) : Bool :=
  let value := numerator * number.denominator
  if number.significand % 2 = 0 then
    number.least * denominator ≤ value && value ≤ number.greatest * denominator
  else number.least * denominator < value && value < number.greatest * denominator

end Binary

/-- A decimal as a fraction: its numerator. -/
def numerator (decimal : Decimal) : Nat := decimal.digits * Nat.pow 10 decimal.exponent.toNat

/-- A decimal as a fraction: its denominator. -/
def denominator (decimal : Decimal) : Nat := Nat.pow 10 (-decimal.exponent).toNat

/-- The exponent of the first digit of a fraction below one, found by multiplying it by ten. -/
def leadingBelowOne (numerator denominator : Nat) : (fuel : Nat) → Int → Int
  | 0, exponent => exponent
  | fuel + 1, exponent =>
    if denominator ≤ numerator then exponent
    else leadingBelowOne (10 * numerator) denominator fuel (exponent - 1)

/-- The exponent of the first digit of a positive fraction. -/
def leading (numerator denominator : Nat) : Int :=
  if denominator ≤ numerator then ((Nat.toDigits 10 (numerator / denominator)).length : Int) - 1
  else leadingBelowOne numerator denominator 400 0

/-- The points of the grid of an exponent around a number: the last one that is not greater, and
the remainder as a fraction of the grid. -/
def gridPoint (number : Binary) (exponent : Int) : Nat × Nat × Nat :=
  let numerator := number.middle * Nat.pow 10 (-exponent).toNat
  let denominator := number.denominator * Nat.pow 10 exponent.toNat
  (numerator / denominator, numerator % denominator, denominator)

/-- A decimal with so many digits that rounds to the number, if there is one. -/
def withDigits? (number : Binary) (count : Nat) : Option Decimal :=
  let exponent := leading number.middle number.denominator - (count : Int) + 1
  let (point, remainder, denominator) := gridPoint number exponent
  let below : Decimal := ⟨point, exponent⟩
  let above : Decimal := ⟨point + 1, exponent⟩
  let fits := fun (decimal : Decimal) => number.covers decimal.numerator decimal.denominator
  let nearest :=
    if 2 * remainder < denominator then below
    else if denominator < 2 * remainder then above
    else if point % 2 = 0 then below
    else above
  if fits nearest then some nearest
  else if fits below then some below
  else if fits above then some above
  else none

/-- The decimal without zeros at its end. -/
def stripped (digits : Nat) (exponent : Int) : (fuel : Nat) → Decimal
  | 0 => ⟨digits, exponent⟩
  | fuel + 1 =>
    if digits % 10 = 0 && digits != 0 then stripped (digits / 10) (exponent + 1) fuel
    else ⟨digits, exponent⟩

/-- The shortest decimal of a positive number. -/
def shortest (number : Binary) : Decimal :=
  match (List.range 17).findSome? fun index => withDigits? number (index + 1) with
  | some decimal => stripped decimal.digits decimal.exponent 17
  | none => ⟨number.significand, 0⟩

/-! ## The text of a number -/

/-- So many zeros. -/
def zeros (count : Nat) : String := String.ofList (List.replicate count '0')

/-- The text of a decimal by place value, with a digit after the point. -/
def positional (decimal : Decimal) : String :=
  let digits := Nat.toDigits 10 decimal.digits
  let point := (digits.length : Int) + decimal.exponent
  if 0 ≤ decimal.exponent then String.ofList digits ++ zeros decimal.exponent.toNat ++ ".0"
  else if 0 < point then
    String.ofList (digits.take point.toNat) ++ "." ++ String.ofList (digits.drop point.toNat)
  else "0." ++ zeros (-point).toNat ++ String.ofList digits

/-- The text of a decimal. Numbers from 10⁻⁵ on and below 10¹⁶ are written by place value and have a
digit after the point; the exponent of any other number is signed. -/
def text (decimal : Decimal) : String :=
  let digits := Nat.toDigits 10 decimal.digits
  let length : Int := digits.length
  let point := length + decimal.exponent
  if -5 < point && point ≤ 16 then decimal.positional
  else
    let fraction := digits.drop 1
    String.ofList (digits.take 1) ++
      (if fraction.isEmpty then "" else "." ++ String.ofList fraction) ++
      (if 0 < point then "e+" else "e-") ++ toString (point - 1).natAbs

/-- The text of a finite number in double precision. -/
def textOfFloat (number : Float) : String :=
  let sign := if Nat.pow 2 63 ≤ number.toBits.toNat then "-" else ""
  let binary := Binary.ofFloat number
  sign ++ if binary.significand = 0 then "0.0" else (shortest binary).text

end Decimal

end JavaFacts
