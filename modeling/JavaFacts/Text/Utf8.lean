/-!
# Bytes as text

Bytes are text if they are well-formed UTF-8. If they are not, the fault is the first place at which
no character can be read: either the bytes end within a character, or a number of bytes there cannot
begin or continue one. Bytes that are no text can still be shown: they are cut into pieces of text and
broken pieces, and each broken piece is shown as one replacement character.
-/

namespace JavaFacts.Text

/-- Why bytes are no text. -/
inductive Utf8Fault where
  /-- The bytes end within the character that begins at this offset. -/
  | incomplete (offset : Nat)
  /-- So many bytes from this offset on are not part of any character. -/
  | invalid (length offset : Nat)
deriving DecidableEq, Repr, Inhabited

namespace Utf8Fault

/-- The fault in words. -/
def message : Utf8Fault → String
  | incomplete offset => "incomplete utf-8 byte sequence from index " ++ toString offset
  | invalid length offset =>
    "invalid utf-8 sequence of " ++ toString length ++ " bytes from index " ++ toString offset

end Utf8Fault

namespace Utf8

/-- How a character can go on after its first byte. -/
structure Continuation where
  /-- The least and the greatest second byte. -/
  least : UInt8
  greatest : UInt8
  /-- The number of bytes after the second one. -/
  further : Nat

/-- How a character can go on after a first byte that is not ASCII. -/
def continuation? (first : UInt8) : Option Continuation :=
  if first < 0xC2 then none
  else if first < 0xE0 then some ⟨0x80, 0xBF, 0⟩
  else if first = 0xE0 then some ⟨0xA0, 0xBF, 1⟩
  else if first = 0xED then some ⟨0x80, 0x9F, 1⟩
  else if first < 0xF0 then some ⟨0x80, 0xBF, 1⟩
  else if first = 0xF0 then some ⟨0x90, 0xBF, 2⟩
  else if first < 0xF4 then some ⟨0x80, 0xBF, 2⟩
  else if first = 0xF4 then some ⟨0x80, 0x8F, 2⟩
  else none

/-- The length of the part of a character that was read, as far as it goes wrong. -/
inductive Shortfall where
  | complete (rest : List UInt8)
  | ended
  | broken (length : Nat)

/-- Reads further bytes of a character of which `length` have been read. -/
def readFurther : (count length : Nat) → List UInt8 → Shortfall
  | 0, _, rest => .complete rest
  | _ + 1, _, [] => .ended
  | count + 1, length, byte :: rest =>
    if byte < 0x80 || 0xBF < byte then .broken length else readFurther count (length + 1) rest

/-- Reads a character after its first byte. -/
def readAfter (continuation : Continuation) : List UInt8 → Shortfall
  | [] => .ended
  | byte :: rest =>
    if byte < continuation.least || continuation.greatest < byte then .broken 1
    else readFurther continuation.further 2 rest

/-- The first fault in bytes that begin at an offset, if there is one. -/
def fault? : (fuel offset : Nat) → List UInt8 → Option Utf8Fault
  | 0, _, _ => none
  | _, _, [] => none
  | fuel + 1, offset, first :: rest =>
    if first < 0x80 then fault? fuel (offset + 1) rest
    else
      match continuation? first with
      | none => some (.invalid 1 offset)
      | some continuation =>
        match readAfter continuation rest with
        | .complete later => fault? fuel (offset + 2 + continuation.further) later
        | .ended => some (.incomplete offset)
        | .broken length => some (.invalid length offset)

/-- The text of bytes. -/
def decode (bytes : ByteArray) : Except Utf8Fault String :=
  match String.fromUTF8? bytes with
  | some text => .ok text
  | none =>
    .error ((fault? (bytes.size + 1) 0 bytes.data.toList).getD (.incomplete bytes.size))

/-- The bytes of a text. -/
def encode (text : String) : List UInt8 := text.toUTF8.data.toList

/-- The text that has these bytes, if there is one. -/
def textOf? (bytes : List UInt8) : Option String := String.fromUTF8? ⟨bytes.toArray⟩

theorem textOf?_eq_some_iff {bytes : List UInt8} {text : String} :
    textOf? bytes = some text ↔ bytes = encode text := by
  rw [textOf?, String.fromUTF8?]
  constructor
  · intro isText
    split at isText
    · cases isText
      rfl
    · cases isText
  · rintro rfl
    exact dif_pos text.isValidUTF8

/-! ## Showing bytes -/

/-- A part of bytes. -/
inductive Piece where
  | text (content : String)
  /-- Bytes that begin a character at most. -/
  | broken (bytes : List UInt8)
deriving Repr, Inhabited

/-- Cuts bytes into pieces, up to a number of broken ones. -/
def piecesUpTo : (count : Nat) → List UInt8 → List Piece
  | 0, _ => []
  | count + 1, bytes =>
    match decode ⟨bytes.toArray⟩ with
    | .ok text => [.text text]
    | .error (.incomplete offset) =>
      [.text ((textOf? (bytes.take offset)).getD ""), .broken (bytes.drop offset)]
    | .error (.invalid length offset) =>
      .text ((textOf? (bytes.take offset)).getD "") ::
        .broken ((bytes.drop offset).take length) ::
          piecesUpTo count (bytes.drop (offset + length))

/-- The pieces of bytes. Every broken piece has a byte of its own. -/
def pieces (bytes : List UInt8) : List Piece := piecesUpTo (bytes.length + 1) bytes

/-- A piece as it is shown. -/
def Piece.shown : Piece → String
  | .text content => content
  | .broken _ => "\uFFFD"

/-- Bytes as they are shown. -/
def shown (bytes : List UInt8) : String := String.join ((pieces bytes).map Piece.shown)

theorem decode_of_textOf? {bytes : List UInt8} {text : String}
    (isText : textOf? bytes = some text) : decode ⟨bytes.toArray⟩ = .ok text := by
  rw [decode]
  simp only [textOf?] at isText
  rw [isText]

/-- A text is shown as it is. -/
theorem shown_encode (text : String) : shown (encode text) = text := by
  have isText := decode_of_textOf? (textOf?_eq_some_iff.mpr (rfl : encode text = encode text))
  simp [shown, pieces, piecesUpTo, isText, Piece.shown, String.join]

end Utf8

end JavaFacts.Text
