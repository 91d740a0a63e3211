import JavaFacts.Json.Cursor

/-!
# Reading numbers

A number without a fraction and an exponent is an integer if it fits into 64 bits; any other number
is a floating-point one. Its digits are read into a significand of 64 bits as far as they fit, and the
significand is multiplied by a power of ten.
-/

namespace JavaFacts.Json

/-- A number of a text. -/
inductive Number where
  | natural (value : Nat)
  | negative (value : Int)
  | float (value : Float)
deriving Repr, Inhabited

/-- The number as a value that was found. -/
def Number.found : Number → Found
  | natural value => .integer value
  | negative value => .integer value
  | float value => .float value

/-- The value of a digit. -/
def digitValue (character : Char) : Nat := character.toNat - '0'.toNat

/-- The greatest significand. -/
def greatestSignificand : Nat := Nat.pow 2 64 - 1

/-- Takes digits into a significand as long as it fits; gives also the number of digits taken. -/
def absorb (significand : Nat) : List Char → Nat → Nat × Nat
  | [], taken => (significand, taken)
  | digit :: digits, taken =>
    let next := significand * 10 + digitValue digit
    if greatestSignificand < next then (significand, taken) else absorb next digits (taken + 1)

/-- Reads digits. -/
def readDigits : Reader (List Char) := do
  let cursor ← get
  modify fun cursor => Cursor.skipWhile Char.isDigit cursor.rest cursor.position
  return cursor.rest.takeWhile Char.isDigit

/-! ## Floating-point numbers -/

/-- The power of ten in double precision. -/
def powerOfTen (exponent : Nat) : Float := Float.ofScientific 1 false exponent

/-- The number times a power of ten, if it is finite. An exponent beyond that of any number in double
precision is applied in steps. -/
def scaled? (number : Float) (exponent : Int) : (fuel : Nat) → Option Float
  | 0 => some number
  | fuel + 1 =>
    if exponent.natAbs ≤ 308 then
      if 0 ≤ exponent then
        let product := number * powerOfTen exponent.natAbs
        if product.isInf then none else some product
      else some (number / powerOfTen exponent.natAbs)
    else if number == 0 then some number
    else if 0 ≤ exponent then none
    else scaled? (number / powerOfTen 308) (exponent + 308) fuel

/-- The sign of a number and its value without the sign. -/
def signed (positive : Bool) (value : Float) : Float := if positive then value else -value

/-- The number of a significand and a power of ten. -/
def floatOf (positive : Bool) (significand : Nat) (exponent : Int) : Reader Float := do
  match scaled? (Float.ofNat significand) exponent 4 with
  | some value => return signed positive value
  | none => fail .numberOutOfRange

/-- The greatest exponent that can be written. -/
def greatestExponent : Nat := Nat.pow 2 31 - 1

/-- Reads the digits of an exponent; `none` if it is too great. -/
def readExponentDigits : (fuel exponent : Nat) → Reader (Option Nat)
  | 0, exponent => return some exponent
  | fuel + 1, exponent => do
    match ← peek with
    | some character =>
      if character.isDigit then
        advance
        let next := exponent * 10 + digitValue character
        if greatestExponent < next then return none else readExponentDigits fuel next
      else return some exponent
    | none => return some exponent

/-- Reads an exponent from its mark on, and gives the number of the whole. -/
def readExponent (positive : Bool) (significand : Nat) (before : Int) : Reader Float := do
  advance
  let rising ← match ← peek with
    | some '+' =>
      advance
      pure true
    | some '-' =>
      advance
      pure false
    | _ => pure true
  match ← peek with
  | none => fail (.ended .value)
  | some character =>
    if !character.isDigit then failNext .invalidNumber
    else
      match ← readExponentDigits (← read) 0 with
      | some exponent =>
        floatOf positive significand (if rising then before + exponent else before - exponent)
      | none =>
        if significand != 0 && rising then fail .numberOutOfRange
        else
          discard readDigits
          return signed positive 0

/-- Reads an exponent if there is one, and gives the number of the whole. -/
def readMaybeExponent (positive : Bool) (significand : Nat) (exponent : Int) : Reader Float := do
  match ← peek with
  | some 'e' => readExponent positive significand exponent
  | some 'E' => readExponent positive significand exponent
  | _ => floatOf positive significand exponent

/-- Reads a fraction from its point on, and gives the number of the whole. -/
def readFraction (positive : Bool) (significand : Nat) (before : Int) : Reader Float := do
  advance
  let digits ← readDigits
  if digits.isEmpty then
    match ← peek with
    | some _ => failNext .invalidNumber
    | none => failNext (.ended .value)
  else
    let (significand, taken) := absorb significand digits 0
    readMaybeExponent positive significand (before - taken)

/-! ## Numbers -/

/-- The number of an integer without its sign. A number below those of 64 bits, and a negative zero,
is a floating-point one. -/
def ofInteger (positive : Bool) (significand : Nat) : Number :=
  if positive then .natural significand
  else if significand = 0 || Nat.pow 2 63 < significand then .float (-(Float.ofNat significand))
  else .negative (-(significand : Int))

/-- Reads what follows the integer part of a number, of which digits beyond the significand have been
dropped. -/
def readAfterInteger (positive : Bool) (significand dropped : Nat) : Reader Number := do
  match ← peek with
  | some '.' => return .float (← readFraction positive significand dropped)
  | some 'e' => return .float (← readExponent positive significand dropped)
  | some 'E' => return .float (← readExponent positive significand dropped)
  | _ =>
    if dropped = 0 then return ofInteger positive significand
    else return .float (← floatOf positive significand dropped)

/-- Reads a number without its sign. -/
def readUnsigned (positive : Bool) : Reader Number := do
  match ← peek with
  | none => fail (.ended .value)
  | some '0' =>
    advance
    match ← peek with
    | some character =>
      if character.isDigit then failNext .invalidNumber else readAfterInteger positive 0 0
    | none => readAfterInteger positive 0 0
  | some character =>
    if character.isDigit then
      let digits ← readDigits
      let (significand, taken) := absorb 0 digits 0
      readAfterInteger positive significand (digits.length - taken)
    else failNext .invalidNumber

/-- Reads a number. -/
def readNumber : Reader Number := do
  match ← peek with
  | some '-' =>
    advance
    readUnsigned false
  | _ => readUnsigned true

/-! ## Numbers that are passed over -/

/-- Passes over an exponent from its mark on. -/
def skipExponent : Reader Unit := do
  advance
  match ← peek with
  | some '+' => advance
  | some '-' => advance
  | _ => pure ()
  if (← readDigits).isEmpty then failNext .invalidNumber

/-- Passes over an exponent if there is one. -/
def skipMaybeExponent : Reader Unit := do
  match ← peek with
  | some 'e' => skipExponent
  | some 'E' => skipExponent
  | _ => pure ()

/-- Passes over a fraction and an exponent if there are any. -/
def skipAfterInteger : Reader Unit := do
  match ← peek with
  | some '.' =>
    advance
    if (← readDigits).isEmpty then failNext .invalidNumber
    skipMaybeExponent
  | _ => skipMaybeExponent

/-- Passes over a number without its sign. -/
def skipUnsigned : Reader Unit := do
  match ← peek with
  | some '0' =>
    advance
    match ← peek with
    | some character => if character.isDigit then failNext .invalidNumber else skipAfterInteger
    | none => pure ()
  | _ =>
    if (← readDigits).isEmpty then failNext .invalidNumber
    skipAfterInteger

/-- Passes over a number. -/
def skipNumber : Reader Unit := do
  if (← peek) = some '-' then advance
  skipUnsigned

end JavaFacts.Json
