/-!
# JSON values

A JSON value and its two written forms: the compact one, without any blanks, and the pretty one, in
which every element of a list and every field of an object has a line of its own, indented by two
blanks for each list and object around it.
-/

namespace JavaFacts.Json

/-- A JSON value whose numbers are natural. -/
inductive Value where
  | null
  | bool (truth : Bool)
  | number (value : Nat)
  | text (content : String)
  | list (elements : List Value)
  | object (fields : List (String × Value))
deriving Repr, Inhabited

/-! ## Texts -/

/-- A character as it is written in a text. -/
def escape (character : Char) : String :=
  match character with
  | '\"' => "\\\""
  | '\\' => "\\\\"
  | '\x08' => "\\b"
  | '\x0c' => "\\f"
  | '\n' => "\\n"
  | '\r' => "\\r"
  | '\t' => "\\t"
  | character =>
    if character.toNat < 0x10 then "\\u000" ++ String.ofList (Nat.toDigits 16 character.toNat)
    else if character.toNat < 0x20 then "\\u00" ++ String.ofList (Nat.toDigits 16 character.toNat)
    else character.toString

/-- A text between quotes. -/
def quote (text : String) : String := "\"" ++ String.join (text.toList.map escape) ++ "\""

namespace Value

/-! ## The compact form -/

mutual

/-- A value without blanks. -/
def compact : Value → String
  | null => "null"
  | bool truth => if truth then "true" else "false"
  | number value => toString value
  | text content => quote content
  | list elements => "[" ++ String.intercalate "," (compactElements elements) ++ "]"
  | object fields => "\x7b" ++ String.intercalate "," (compactFields fields) ++ "\x7d"

def compactElements : List Value → List String
  | [] => []
  | element :: rest => element.compact :: compactElements rest

def compactFields : List (String × Value) → List String
  | [] => []
  | (name, value) :: rest => (quote name ++ ":" ++ value.compact) :: compactFields rest

end

/-! ## The pretty form -/

/-- The end of a line, and the blanks with which the next one begins. -/
def newline (depth : Nat) : String := "\n" ++ String.ofList (List.replicate (2 * depth) ' ')

/-- Parts between brackets, each on a line of its own. -/
def bracketed (opening closing : String) (depth : Nat) (parts : List String) : String :=
  if parts.isEmpty then opening ++ closing
  else
    opening ++ newline (depth + 1) ++ String.intercalate ("," ++ newline (depth + 1)) parts ++
      newline depth ++ closing

mutual

/-- A value within so many lists and objects, with a line for every part. -/
def pretty (depth : Nat) : Value → String
  | null => "null"
  | bool truth => if truth then "true" else "false"
  | number value => toString value
  | text content => quote content
  | list elements => bracketed "[" "]" depth (prettyElements (depth + 1) elements)
  | object fields => bracketed "\x7b" "\x7d" depth (prettyFields (depth + 1) fields)

def prettyElements (depth : Nat) : List Value → List String
  | [] => []
  | element :: rest => element.pretty depth :: prettyElements depth rest

def prettyFields (depth : Nat) : List (String × Value) → List String
  | [] => []
  | (name, value) :: rest => (quote name ++ ": " ++ value.pretty depth) :: prettyFields depth rest

end

end Value

end JavaFacts.Json
