import JavaFacts.Yaml.Document
import JavaFacts.Yaml.Resolution

/-!
# Reading values of a known shape from YAML

A decoder goes through the events of a document and knows which value it wants. What does not fit is
reported with the place and the path of the value; a fault of the text itself is only met where the
events end.
-/

namespace JavaFacts.Yaml

/-! ## Faults -/

/-- The way to a value within a document. -/
inductive Path where
  | root
  | element (parent : Path) (index : Nat)
  | entry (parent : Path) (key : String)
  /-- The value of a key that is not a scalar. -/
  | unknown (parent : Path)
deriving DecidableEq, Repr, Inhabited

namespace Path

mutual

def describe : Path → String
  | root => "."
  | element parent index => parent.describe ++ "[" ++ toString index ++ "]"
  | entry parent key => parent.describeBefore ++ key
  | unknown parent => parent.describeBefore ++ "?"

/-- The way to the parent of an entry. -/
def describeBefore : Path → String
  | root => ""
  | element parent index => parent.describe ++ "[" ++ toString index ++ "]."
  | entry parent key => parent.describeBefore ++ key ++ "."
  | unknown parent => parent.describeBefore ++ "?."

end

end Path

/-- Why a value does not fit. -/
inductive Mismatch where
  | wrongType (found : Found) (wanted : String)
  | wrongValue (found : Found) (wanted : String)
  | unknownVariant (name : String) (known : List String)
  | duplicateField (name : String)
deriving Repr, Inhabited

/-- The names that can be chosen from. -/
def describeChoice (names : List String) : String :=
  match names.map fun name => "`" ++ name ++ "`" with
  | [] => "there are no variants"
  | [only] => "expected " ++ only
  | [first, second] => "expected " ++ first ++ " or " ++ second
  | names => "expected one of " ++ String.intercalate ", " names

def Mismatch.describe : Mismatch → String
  | wrongType found wanted => "invalid type: " ++ found.describe ++ ", expected " ++ wanted
  | wrongValue found wanted => "invalid value: " ++ found.describe ++ ", expected " ++ wanted
  | unknownVariant name known => "unknown variant `" ++ name ++ "`, " ++ describeChoice known
  | duplicateField name => "duplicate field `" ++ name ++ "`"

/-- Why no value can be read. -/
inductive DecodeFault where
  | unreadable (fault : LoadFault)
  | ended
  | manyDocuments
  | mismatch (reason : Mismatch) (place : Option (Mark × Path))
deriving Repr, Inhabited

namespace DecodeFault

/-- The place after a description, unless it is the beginning of the text. -/
def placed (mark : Mark) : String := if mark.isOrigin then "" else " at " ++ mark.describe

def message : DecodeFault → String
  | unreadable (.text fault) => fault.message
  | unreadable (.unknownAnchor mark) => "unknown anchor" ++ placed mark
  | ended => "EOF while parsing a value"
  | manyDocuments => "deserializing from YAML containing more than one document is not supported"
  | mismatch reason none => reason.describe
  | mismatch reason (some (mark, path)) =>
    (if path == .root then "" else path.describe ++ ": ") ++ reason.describe ++ placed mark

/-- The fault at a place, unless it has one already. -/
def located (mark : Mark) (path : Path) : DecodeFault → DecodeFault
  | mismatch reason none => .mismatch reason (some (mark, path))
  | fault => fault

end DecodeFault

/-! ## Decoders -/

/-- A decoder of a value, which knows the number of the next event. -/
abbrev Decode := ReaderT Document (StateT Nat (Except DecodeFault))

/-- The next event. -/
def peekEvent : Decode (NodeEvent × Mark) := do
  let document ← read
  match document.events[(← get)]? with
  | some event => return event
  | none =>
    match document.fault with
    | some fault => throw (.unreadable fault)
    | none => throw .ended

/-- Passes over an event. -/
def advance : Decode Unit := modify (· + 1)

/-- Reads an event. -/
def nextEvent : Decode (NodeEvent × Mark) := do
  let event ← peekEvent
  advance
  return event

/-- Gives a place to faults that have none. -/
def located {α : Type} (mark : Mark) (path : Path) (decode : Decode α) : Decode α :=
  fun document position =>
    match decode document position with
    | .ok result => .ok result
    | .error fault => .error (fault.located mark path)

/-- Decodes the node of an anchor. -/
def jump {α : Type} (number : Nat) (decode : Decode α) : Decode α := fun document position =>
  match document.targets.lookup number with
  | some target => do
    let (value, _) ← decode document target
    return (value, position)
  | none => .error .ended

/-- Decodes a value that may be given by an alias. -/
def throughAlias {α : Type} (decode : Decode α) : Decode α := do
  match ← peekEvent with
  | (.reference number, _) =>
    advance
    jump number decode
  | _ => decode

/-- Decodes a value that may be given by an alias, whose place then counts. -/
def throughPlacedAlias {α : Type} (path : Path) (decode : Decode α) : Decode α := do
  match ← peekEvent with
  | (.reference number, mark) =>
    advance
    located mark path (jump number decode)
  | _ => decode

/-- Stops with a mismatch. -/
def mismatch {α : Type} (reason : Mismatch) : Decode α := throw (.mismatch reason none)

/-- Refuses an event that begins another value than the wanted one. -/
def refuseEvent {α : Type} (wanted : String) : NodeEvent → Decode α
  | .scalar scalar =>
    match scalar.found with
    | .ok found => mismatch (.wrongType found wanted)
    | .error typed => mismatch (.wrongValue (.text scalar.text) typed)
  | .sequenceStart _ => mismatch (.wrongType .sequence wanted)
  | .mappingStart _ => mismatch (.wrongType .mapping wanted)
  | _ => throw .ended

/-! ## Scalars -/

/-- Decodes a text. Every scalar can be read as one. -/
def decodeText (wanted : String) (path : Path) : Decode String :=
  throughPlacedAlias path do
    let (event, mark) ← nextEvent
    located mark path do
      match event with
      | .scalar scalar => return scalar.text
      | event => refuseEvent wanted event

/-- Whether a scalar can be read as a truth value. -/
def Scalar.mayBeBool (scalar : Scalar) : Bool :=
  match scalar.style with
  | .plain => true
  | .literal => scalar.tag.bind scalarTag? == some .bool
  | _ => false

/-- Decodes a truth value. -/
def decodeBool (path : Path) : Decode Bool :=
  throughPlacedAlias path do
    let (event, mark) ← nextEvent
    located mark path do
      match event with
      | .scalar scalar =>
        match if scalar.mayBeBool then bool? scalar.text else none with
        | some truth => return truth
        | none => refuseEvent "a boolean" event
      | event => refuseEvent "a boolean" event

/-- Decodes a value that can be left out. -/
def decodeOption {α : Type} (decode : Decode α) : Decode (Option α) :=
  throughAlias do
    let (event, _) ← peekEvent
    let given ← match event with
      | .scalar scalar =>
        if scalar.style != .plain then pure true
        else
          match scalar.tag with
          | some tag =>
            if scalarTag? tag == some .null then
              if isNull scalar.text then pure false
              else mismatch (.wrongValue (.text scalar.text) "null")
            else pure true
          | none => pure (!scalar.text.isEmpty && !isNull scalar.text)
      | .nothing => pure false
      | _ => pure true
    if given then return some (← decode)
    else
      advance
      return none

/-! ## Variants -/

/-- Decodes the empty value of a variant that is named by a tag. -/
def decodeEmpty (path : Path) : Decode Unit := do
  let (event, mark) ← nextEvent
  located mark path do
    match event with
    | .scalar scalar =>
      if scalar.style == .plain && (scalar.text.isEmpty || isNull scalar.text) then pure ()
      else mismatch (.wrongValue (.text scalar.text) "null")
    | event => refuseEvent "unit" event

/-- The variant with a name. -/
def chooseVariant {α : Type} (variants : List (String × α)) (name : String) : Decode α :=
  match variants.lookup name with
  | some variant => pure variant
  | none => mismatch (.unknownVariant name (variants.map Prod.fst))

/-- Decodes a variant. It is named by a scalar, or by the tag of an empty value. -/
def decodeVariant {α : Type} (variants : List (String × α)) (path : Path) : Decode α :=
  throughPlacedAlias path do
    let (event, mark) ← peekEvent
    let tagged := fun (name : String) => do
      let variant ← chooseVariant variants name
      decodeEmpty path
      return variant
    let untagged := fun (found : Found) =>
      located mark path (mismatch (.wrongType found "a YAML tag starting with '!'"))
    match event with
    | .scalar scalar =>
      match scalar.tag.bind Tag.ownName? with
      | some name => tagged name
      | none =>
        advance
        located mark path (chooseVariant variants scalar.text)
    | .sequenceStart tag =>
      match tag.bind Tag.ownName? with
      | some name => tagged name
      | none => untagged .sequence
    | .mappingStart tag =>
      match tag.bind Tag.ownName? with
      | some name => tagged name
      | none => untagged .mapping
    | _ => throw .ended

/-! ## Collections -/

/-- Whether an event stands for a collection without elements. -/
def NodeEvent.isEmptyCollection : NodeEvent → Bool
  | .nothing => true
  | .scalar content => content.text.isEmpty && content.style == .plain
  | _ => false

/-- How many rounds a loop over the events can take. -/
def eventRounds : Decode Nat := return (← read).events.size + 1

/-- Decodes the elements of a sequence up to its end. -/
def decodeElements {α : Type} (element : Path → Decode α) (path : Path) :
    (fuel : Nat) → Array α → Decode (Array α)
  | 0, elements => return elements
  | fuel + 1, elements => do
    match ← peekEvent with
    | (.sequenceEnd, _) =>
      advance
      return elements
    | _ =>
      let value ← element (.element path elements.size)
      decodeElements element path fuel (elements.push value)

/-- Decodes a sequence. -/
def decodeSequence {α : Type} (element : Path → Decode α) (path : Path) : Decode (Array α) :=
  throughPlacedAlias path do
    let (event, mark) ← nextEvent
    located mark path do
      match event with
      | .sequenceStart _ => decodeElements element path (← eventRounds) #[]
      | event => if event.isEmptyCollection then return #[] else refuseEvent "a sequence" event

/-- Passes over a node and over what is left of so many collections around it. -/
def skipNodes : (fuel : Nat) → (depth : Nat) → Decode Unit
  | 0, _ => pure ()
  | fuel + 1, depth => do
    let (event, _) ← nextEvent
    let depth := match event with
      | .sequenceStart _ => depth + 1
      | .mappingStart _ => depth + 1
      | .sequenceEnd => depth - 1
      | .mappingEnd => depth - 1
      | _ => depth
    if depth = 0 then pure () else skipNodes fuel depth

/-- Passes over a node. -/
def skipNode : Decode Unit := do skipNodes (← eventRounds) 0

/-- A field of a record that is being drafted. -/
structure Field (Draft : Type) where
  name : String
  isSet : Draft → Bool
  decode : Path → Draft → Decode Draft

/-- Decodes the fields of a mapping into a draft up to its end. -/
def decodeFields {Draft : Type} (fields : List (Field Draft)) (path : Path) :
    (fuel : Nat) → Draft → Decode Draft
  | 0, draft => return draft
  | fuel + 1, draft => do
    let (event, _) ← peekEvent
    if event == .mappingEnd then
      advance
      return draft
    else
      let key ← decodeText "field identifier" path
      let valuePath := match event with
        | .scalar scalar => Path.entry path scalar.text
        | _ => Path.unknown path
      match fields.find? (·.name == key) with
      | some field =>
        if field.isSet draft then mismatch (.duplicateField field.name)
        else
          let draft ← field.decode valuePath draft
          decodeFields fields path fuel draft
      | none =>
        skipNode
        decodeFields fields path fuel draft

/-- Decodes a record. -/
def decodeRecord {Draft : Type} (wanted : String) (fields : List (Field Draft)) (start : Draft)
    (path : Path) : Decode Draft :=
  throughPlacedAlias path do
    let (event, mark) ← nextEvent
    located mark path do
      match event with
      | .mappingStart _ => decodeFields fields path (← eventRounds) start
      | event => if event.isEmptyCollection then return start else refuseEvent wanted event

/-- Decodes a text that holds a single document. -/
def decodeWhole {α : Type} (decode : Path → Decode α) (text : String) : Except DecodeFault α := do
  let (document, more) := Document.ofText text
  let (value, _) ← ((decode .root).run document).run 0
  match document.fault with
  | some fault => throw (.unreadable fault)
  | none => if more then throw .manyDocuments else return value

end JavaFacts.Yaml
