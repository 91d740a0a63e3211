import JavaFacts.Json.Skipping

/-!
# Reading values of a known shape

A reader knows which value it wants: a text, a natural number, a list, a map or a record. A record is
written as an object, its fields in any order and others among them, or as a list of its fields in
their order. It is collected in a draft whose fields are set one after the other.
-/

namespace JavaFacts.Json

/-- Reads a value of another type than the wanted one as far as it has to be known, and refuses it. -/
def refuse {α : Type} (wanted : String) : Reader α := do
  let refuseFound : Found → Reader α := fun found => fail (.wrongType found wanted)
  match ← peek with
  | some 'n' =>
    advance
    readWord ['u', 'l', 'l']
    refuseFound .null
  | some 't' =>
    advance
    readWord ['r', 'u', 'e']
    refuseFound (.bool true)
  | some 'f' =>
    advance
    readWord ['a', 'l', 's', 'e']
    refuseFound (.bool false)
  | some '\"' =>
    advance
    refuseFound (.text (← readQuoted))
  | some '[' => refuseFound .list
  | some '\x7b' => refuseFound .object
  | some character =>
    if character = '-' || character.isDigit then refuseFound (← readNumber).found
    else failNext .expectedValue
  | none => failNext .expectedValue

/-! ## Scalars -/

/-- Reads a text. -/
def readText : Reader String := do
  match ← peekPastBlanks with
  | none => failNext (.ended .value)
  | some '\"' =>
    advance
    readQuoted
  | some _ => refuse "a string"

/-- Reads a natural number of 64 bits. -/
def readNatural : Reader Nat := do
  match ← peekPastBlanks with
  | none => failNext (.ended .value)
  | some character =>
    if character = '-' || character.isDigit then
      match ← readNumber with
      | .natural value => return value
      | .negative value => fail (.wrongValue (.integer value) "usize")
      | .float value => fail (.wrongType (.float value) "usize")
    else refuse "usize"

/-- Reads a value that can be left out by writing `null`. -/
def readOptional {α : Type} (reader : Reader α) : Reader (Option α) := do
  match ← peekPastBlanks with
  | some 'n' =>
    advance
    readWord ['u', 'l', 'l']
    return none
  | _ => return some (← reader)

/-! ## Elements and keys -/

/-- Whether another element follows in a list; a comma before it is read. -/
def nextElement (first : Bool) : Reader Bool := do
  match ← peekPastBlanks with
  | none => failNext (.ended .list)
  | some ']' => return false
  | some character =>
    if first then return true
    else if character = ',' then
      advance
      match ← peekPastBlanks with
      | none => failNext (.ended .value)
      | some ']' => failNext .trailingComma
      | some _ => return true
    else failNext .expectedCommaOrListEnd

/-- What has to stand where a key begins. -/
def expectKey : Option Char → Reader Bool
  | none => failNext (.ended .value)
  | some '\"' => return true
  | some '\x7d' => failNext .trailingComma
  | some _ => failNext .keyNotText

/-- Whether another key follows in an object; a comma before it is read. -/
def nextKey (first : Bool) : Reader Bool := do
  match ← peekPastBlanks with
  | none => failNext (.ended .object)
  | some '\x7d' => return false
  | some character =>
    if first then expectKey (some character)
    else if character = ',' then
      advance
      expectKey (← peekPastBlanks)
    else failNext .expectedCommaOrObjectEnd

/-- Reads the colon after a key. -/
def readColon : Reader Unit := do
  match ← peekPastBlanks with
  | none => failNext (.ended .object)
  | some ':' => advance
  | some _ => failNext .expectedColon

/-- Reads the end of a list. -/
def endList : Reader Unit := do
  match ← peekPastBlanks with
  | none => failNext (.ended .list)
  | some ']' => advance
  | some ',' =>
    advance
    match ← peekPastBlanks with
    | some ']' => failNext .trailingComma
    | _ => failNext .trailingCharacters
  | some _ => failNext .trailingCharacters

/-- Reads the end of an object. -/
def endObject : Reader Unit := do
  match ← peekPastBlanks with
  | none => failNext (.ended .object)
  | some '\x7d' => advance
  | some ',' => failNext .trailingComma
  | some _ => failNext .trailingCharacters

/-! ## Lists and maps -/

/-- Reads the elements of a list. -/
def readElements {α : Type} (element : Reader α) : (fuel : Nat) → Bool → Array α → Reader (Array α)
  | 0, _, _ => failNext (.ended .list)
  | fuel + 1, first, elements => do
    if ← nextElement first then
      let value ← element
      readElements element fuel false (elements.push value)
    else return elements

/-- Reads a list. -/
def readList {α : Type} (element : Reader α) : Reader (Array α) := do
  match ← peekPastBlanks with
  | none => failNext (.ended .value)
  | some '[' =>
    advance
    let elements ← readElements element (← read) true #[]
    endList
    return elements
  | some _ => refuse "a sequence"

/-- Reads the entries of a map into a collection. -/
def readEntries {α σ : Type} (insert : σ → String → α → σ) (value : Reader α) :
    (fuel : Nat) → Bool → σ → Reader σ
  | 0, _, _ => failNext (.ended .object)
  | fuel + 1, first, collected => do
    if ← nextKey first then
      advance
      let key ← readQuoted
      readColon
      let entry ← value
      readEntries insert value fuel false (insert collected key entry)
    else return collected

/-- Reads a map into a collection. -/
def readMap {α σ : Type} (empty : σ) (insert : σ → String → α → σ) (value : Reader α) :
    Reader σ := do
  match ← peekPastBlanks with
  | none => failNext (.ended .value)
  | some '\x7b' =>
    advance
    let collected ← readEntries insert value (← read) true empty
    endObject
    return collected
  | some _ => refuse "a map"

/-! ## Records -/

/-- A field of a record that is being drafted. -/
structure Field (Draft : Type) where
  name : String
  /-- Whether a record written as a list can end before this field. -/
  optional : Bool
  isSet : Draft → Bool
  read : Draft → Reader Draft

/-- How a record is written. -/
structure Shape (Draft Record : Type) where
  name : String
  start : Draft
  fields : List (Field Draft)
  /-- The record of a draft, or the name of a field that is missing. -/
  finish : Draft → Except String Record

namespace Shape

variable {Draft Record : Type} (shape : Shape Draft Record)

/-- What is wanted where a record can stand. -/
def wanted : String := "struct " ++ shape.name

/-- What is wanted where a record is written as a list. -/
def wantedElements : String :=
  shape.wanted ++ " with " ++ toString shape.fields.length ++
    if shape.fields.length = 1 then " element" else " elements"

/-- The record of a draft, if no field is missing. -/
def record (draft : Draft) : Except Problem Record :=
  match shape.finish draft with
  | .ok record => .ok record
  | .error name => .error (.missingField name)

/-- Reads the fields of an object into a draft, up to its end or to a field that cannot be. -/
def readObjectFields : (fuel : Nat) → Bool → Draft → Reader (Except Problem Record)
  | 0, _, _ => failNext (.ended .object)
  | fuel + 1, first, draft => do
    if ← nextKey first then
      advance
      let key ← readQuoted
      match shape.fields.find? (·.name == key) with
      | some field =>
        if field.isSet draft then return .error (.duplicateField field.name)
        else
          readColon
          let draft ← field.read draft
          readObjectFields fuel false draft
      | none =>
        readColon
        skipValue
        readObjectFields fuel false draft
    else return shape.record draft

/-- Reads fields from a list into a draft, from the field with an index on. -/
def readListFields : List (Field Draft) → (index : Nat) → Draft → Reader (Except Problem Record)
  | [], _, draft => return shape.record draft
  | field :: fields, index, draft => do
    if ← nextElement (index = 0) then
      let draft ← field.read draft
      readListFields fields (index + 1) draft
    else if field.optional then readListFields fields (index + 1) draft
    else return .error (.wrongLength index shape.wantedElements)

end Shape

/-- The place up to which a list is read that is refused. -/
def settleList (cursor : Cursor) : Cursor :=
  let cursor := cursor.skipBlanks
  match cursor.rest with
  | ']' :: _ => cursor.advance
  | ',' :: _ => cursor.advance.skipBlanks
  | _ => cursor

/-- The place up to which an object is read that is refused. -/
def settleObject (cursor : Cursor) : Cursor :=
  let cursor := cursor.skipBlanks
  match cursor.rest with
  | '\x7d' :: _ => cursor.advance
  | _ => cursor

/-- Reads a record. -/
def readRecord {Draft Record : Type} (shape : Shape Draft Record) : Reader Record := do
  match ← peekPastBlanks with
  | none => failNext (.ended .value)
  | some '[' =>
    advance
    match ← shape.readListFields shape.fields 0 shape.start with
    | .ok record =>
      endList
      return record
    | .error problem =>
      modify settleList
      fail problem
  | some '\x7b' =>
    advance
    match ← shape.readObjectFields (← read) true shape.start with
    | .ok record =>
      endObject
      return record
    | .error problem =>
      modify settleObject
      fail problem
  | some _ => refuse shape.wanted

end JavaFacts.Json
