import JavaFacts.Decimal.Shortest
import JavaFacts.Text.Quoted

/-!
# What can go wrong in a JSON text

A text can break a rule of JSON, and a well-formed value can be of another shape than the one that is
wanted. Either is a problem at a place of the text.
-/

namespace JavaFacts.Json

/-- A place in a text: its line, and the number of bytes before it in the line. -/
structure Position where
  line : Nat
  column : Nat
deriving DecidableEq, Repr, Inhabited

/-- What the text ended within. -/
inductive Unfinished where
  | value
  | list
  | object
  | text
deriving DecidableEq, Repr, Inhabited

/-- A value that was found where another one is wanted. -/
inductive Found where
  | null
  | bool (truth : Bool)
  | integer (value : Int)
  | float (value : Float)
  | text (content : String)
  | list
  | object
deriving Repr, Inhabited

/-- What is wrong at a place. -/
inductive Problem where
  | ended (within : Unfinished)
  | expectedColon
  | expectedCommaOrListEnd
  | expectedCommaOrObjectEnd
  | expectedWord
  | expectedValue
  | invalidEscape
  | invalidNumber
  | numberOutOfRange
  | keyNotText
  | controlCharacter
  | loneSurrogate
  | endOfEscape
  | trailingComma
  | trailingCharacters
  | wrongType (found : Found) (wanted : String)
  | wrongValue (found : Found) (wanted : String)
  | wrongLength (length : Nat) (wanted : String)
  | missingField (name : String)
  | duplicateField (name : String)
deriving Repr, Inhabited

/-- A problem at its place. -/
structure Fault where
  problem : Problem
  position : Position
deriving Repr, Inhabited

/-! ## Faults in words -/

def Unfinished.describe : Unfinished → String
  | value => "a value"
  | list => "a list"
  | object => "an object"
  | text => "a string"

def Found.describe : Found → String
  | null => "null"
  | bool truth => "boolean `" ++ (if truth then "true" else "false") ++ "`"
  | integer value => "integer `" ++ toString value ++ "`"
  | float value => "floating point `" ++ Decimal.textOfFloat value ++ "`"
  | text content => "string " ++ Text.Quoted.encode content
  | list => "sequence"
  | object => "map"

def Problem.message : Problem → String
  | ended within => "EOF while parsing " ++ within.describe
  | expectedColon => "expected `:`"
  | expectedCommaOrListEnd => "expected `,` or `]`"
  | expectedCommaOrObjectEnd => "expected `,` or `\x7d`"
  | expectedWord => "expected ident"
  | expectedValue => "expected value"
  | invalidEscape => "invalid escape"
  | invalidNumber => "invalid number"
  | numberOutOfRange => "number out of range"
  | keyNotText => "key must be a string"
  | controlCharacter => "control character (\\u0000-\\u001F) found while parsing a string"
  | loneSurrogate => "lone leading surrogate in hex escape"
  | endOfEscape => "unexpected end of hex escape"
  | trailingComma => "trailing comma"
  | trailingCharacters => "trailing characters"
  | wrongType found wanted => "invalid type: " ++ found.describe ++ ", expected " ++ wanted
  | wrongValue found wanted => "invalid value: " ++ found.describe ++ ", expected " ++ wanted
  | wrongLength length wanted =>
    "invalid length " ++ toString length ++ ", expected " ++ wanted
  | missingField name => "missing field `" ++ name ++ "`"
  | duplicateField name => "duplicate field `" ++ name ++ "`"

def Fault.message (fault : Fault) : String :=
  fault.problem.message ++ " at line " ++ toString fault.position.line ++ " column " ++
    toString fault.position.column

end JavaFacts.Json
