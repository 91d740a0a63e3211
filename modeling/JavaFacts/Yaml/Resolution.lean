import JavaFacts.Decimal.Shortest
import JavaFacts.Text.Quoted
import JavaFacts.Yaml.Event

/-!
# What scalars stand for

A plain scalar without a tag stands for nothing, a truth value, an integer, a floating-point number or
a text, whichever it can be read as first. A tag fixes which of these it has to be.
-/

namespace JavaFacts.Yaml

/-- Whether a text stands for nothing. -/
def isNull (text : String) : Bool :=
  text == "null" || text == "Null" || text == "NULL" || text == "~"

/-- The truth value that a text stands for. -/
def bool? (text : String) : Option Bool :=
  if text == "true" || text == "True" || text == "TRUE" then some true
  else if text == "false" || text == "False" || text == "FALSE" then some false
  else none

/-! ## Integers -/

/-- The value of a digit to a base. -/
def digit? (base : Nat) (character : Char) : Option Nat := do
  let value ←
    if character.isDigit then some (character.toNat - '0'.toNat)
    else if 'a' ≤ character && character ≤ 'z' then some (character.toNat - 'a'.toNat + 10)
    else if 'A' ≤ character && character ≤ 'Z' then some (character.toNat - 'A'.toNat + 10)
    else none
  if value < base then some value else none

/-- The number of one or more digits to a base. -/
def digits? (base : Nat) (digits : List Char) : Option Nat :=
  if digits.isEmpty then none
  else digits.foldlM (fun number digit => (digit? base digit).map (number * base + ·)) 0

/-- Whether digits with a zero before them are no number. -/
def hasLeadingZero : List Char → Bool
  | '0' :: digit :: digits => (digit :: digits).all Char.isDigit
  | _ => false

/-- A number without a sign: to the base that is marked before it, or decimal. -/
def magnitude? : List Char → Option Nat
  | '0' :: 'x' :: digits => digits? 16 digits
  | '0' :: 'o' :: digits => digits? 8 digits
  | '0' :: 'b' :: digits => digits? 2 digits
  | digits => if hasLeadingZero digits then none else digits? 10 digits

/-- An integer that a text stands for. -/
inductive WholeNumber where
  /-- An integer of 64 bits. -/
  | short (value : Int)
  /-- An integer of 128 bits. -/
  | long (value : Int)
deriving DecidableEq, Repr, Inhabited

/-- The integer of a magnitude and a sign, if it fits into 128 bits. -/
def wholeNumber? (negative : Bool) (magnitude : Nat) : Option WholeNumber :=
  if negative then
    if magnitude ≤ Nat.pow 2 63 then some (.short (-(magnitude : Int)))
    else if magnitude ≤ Nat.pow 2 127 then some (.long (-(magnitude : Int)))
    else none
  else if magnitude < Nat.pow 2 64 then some (.short magnitude)
  else if magnitude < Nat.pow 2 128 then some (.long magnitude)
  else none

/-- The integer that a text stands for. -/
def integer? (text : String) : Option WholeNumber :=
  match text.toList with
  | '-' :: digits => (magnitude? digits).bind (wholeNumber? true)
  | '+' :: digits => (magnitude? digits).bind (wholeNumber? false)
  | digits => (magnitude? digits).bind (wholeNumber? false)

/-! ## Floating-point numbers -/

/-- The number `digits * 10 ^ exponent` in double precision, if it is finite. -/
def finite? (digits : Nat) (exponent : Int) : Option Float :=
  let leading := (Nat.toDigits 10 digits).length + exponent
  if digits = 0 || leading < -400 then some 0
  else if 310 < leading then none
  else
    let value := Float.ofScientific digits (exponent < 0) exponent.natAbs
    if value.isInf then none else some value

/-- The exponent that is written after a number. -/
def exponent? : List Char → Option Int
  | [] => some 0
  | mark :: digits =>
    if mark != 'e' && mark != 'E' then none
    else
      match digits with
      | '-' :: digits => (digits? 10 digits).map fun value => -(value : Int)
      | '+' :: digits => (digits? 10 digits).map fun value => (value : Int)
      | digits => (digits? 10 digits).map fun value => (value : Int)

/-- The number in decimal digits, with a point and an exponent if need be. -/
def decimal? (text : List Char) : Option Float := do
  let whole := text.takeWhile Char.isDigit
  let rest := text.dropWhile Char.isDigit
  let (fraction, rest) := match rest with
    | '.' :: rest => (rest.takeWhile Char.isDigit, rest.dropWhile Char.isDigit)
    | rest => ([], rest)
  let digits ← digits? 10 (whole ++ fraction)
  let exponent ← exponent? rest
  finite? digits (exponent - fraction.length)

/-- Whether a text is the name of infinity after its point. -/
def isInfinity (name : List Char) : Bool :=
  name == "inf".toList || name == "Inf".toList || name == "INF".toList

/-- The floating-point number that a text stands for. -/
def float? (text : String) : Option Float :=
  match text.toList with
  | '-' :: '.' :: rest =>
    if isInfinity rest then some (-(1 / 0)) else (decimal? ('.' :: rest)).map (-·)
  | '-' :: rest => (decimal? rest).map (-·)
  | '+' :: '.' :: rest => if isInfinity rest then some (1 / 0) else decimal? ('.' :: rest)
  | '+' :: rest => decimal? rest
  | '.' :: rest =>
    if isInfinity rest then some (1 / 0)
    else if text == ".nan" || text == ".NaN" || text == ".NAN" then some (0 / 0)
    else decimal? ('.' :: rest)
  | text => decimal? text

/-- The text without a sign. -/
def unsigned (text : String) : List Char :=
  match text.toList with
  | '-' :: rest => rest
  | '+' :: rest => rest
  | rest => rest

/-! ## Scalars -/

/-- A value that was found. -/
inductive Found where
  | nothing
  | bool (truth : Bool)
  | integer (value : WholeNumber)
  | float (value : Float)
  | text (content : String)
  | sequence
  | mapping
deriving Repr, Inhabited

/-- A floating-point number by place value, with a digit after the point. -/
def floatText (value : Float) : String :=
  if value.isNaN then "NaN"
  else if value.isInf then if value < 0 then "-inf" else "inf"
  else
    let sign := if Nat.pow 2 63 ≤ value.toBits.toNat then "-" else ""
    let binary := Decimal.Binary.ofFloat value
    sign ++ if binary.significand = 0 then "0.0" else (Decimal.shortest binary).positional

def Found.describe : Found → String
  | nothing => "unit value"
  | bool truth => "boolean `" ++ (if truth then "true" else "false") ++ "`"
  | integer (.short value) => "integer `" ++ toString value ++ "`"
  | integer (.long value) =>
    "integer `" ++ toString value ++ (if value < 0 then "` as i128" else "` as u128")
  | float value => "floating point `" ++ floatText value ++ "`"
  | text content => "string " ++ Text.Quoted.encode content
  | sequence => "sequence"
  | mapping => "map"

/-- What a plain text stands for. -/
def found (text : String) : Found :=
  if text.isEmpty || isNull text then .nothing
  else
    match bool? text with
    | some truth => .bool truth
    | none =>
      match integer? text with
      | some value => .integer value
      | none =>
        if hasLeadingZero (unsigned text) then .text text
        else
          match float? text with
          | some value => .float value
          | none => .text text

/-- The tags of scalars that have to be of a type. -/
inductive ScalarTag where
  | bool
  | integer
  | float
  | null
deriving DecidableEq, Repr, Inhabited

/-- The type that a tag stands for. -/
def scalarTag? (tag : Tag) : Option ScalarTag :=
  if tag == .ofText "tag:yaml.org,2002:bool" then some .bool
  else if tag == .ofText "tag:yaml.org,2002:int" then some .integer
  else if tag == .ofText "tag:yaml.org,2002:float" then some .float
  else if tag == .ofText "tag:yaml.org,2002:null" then some .null
  else none

/-- What a text stands for that has to be of a type; if it cannot be, what was wanted. -/
def foundAs (text : String) : ScalarTag → Except String Found
  | .bool => ((bool? text).map Found.bool).elim (.error "a boolean") .ok
  | .integer => ((integer? text).map Found.integer).elim (.error "an integer") .ok
  | .float => ((float? text).map Found.float).elim (.error "a float") .ok
  | .null => if isNull text then .ok .nothing else .error "null"

/-- What a scalar stands for; if its tag does not fit, what was wanted. -/
def Scalar.found (scalar : Scalar) : Except String Found :=
  match scalar.tag.bind scalarTag? with
  | some type => foundAs scalar.text type
  | none =>
    .ok (if scalar.style == .plain && scalar.tag.all Tag.isOwn then Yaml.found scalar.text else .text scalar.text)

end JavaFacts.Yaml
