import JavaFacts.Json.Cursor

/-!
# Reading texts

A text of JSON stands between quotes. Control characters cannot stand in it. A backslash begins an
escape: of a single letter, or of the number of a character in four hexadecimal digits, where a
character beyond the first 65536 takes two of these, a leading and a trailing surrogate.
-/

namespace JavaFacts.Json

/-- The value of a hexadecimal digit. -/
def hexadecimalDigit? (character : Char) : Option Nat :=
  if '0' ≤ character && character ≤ '9' then some (character.toNat - '0'.toNat)
  else if 'a' ≤ character && character ≤ 'f' then some (character.toNat - 'a'.toNat + 10)
  else if 'A' ≤ character && character ≤ 'F' then some (character.toNat - 'A'.toNat + 10)
  else none

/-- The place after so many bytes, if the text is that long. -/
def afterBytes? : (count : Nat) → List Char → Position → Option Position
  | 0, _, position => some position
  | _ + 1, [], _ => none
  | count + 1, character :: rest, position =>
    if character.utf8Size ≤ count + 1 then
      afterBytes? (count + 1 - character.utf8Size) rest (position.after character)
    else some ⟨position.line, position.column + (count + 1)⟩
termination_by count rest => (rest.length, count)

/-- The number that the four hexadecimal digits at the beginning of a text stand for. -/
def fourDigits? : List Char → Option Nat
  | first :: second :: third :: fourth :: _ => do
    let first ← hexadecimalDigit? first
    let second ← hexadecimalDigit? second
    let third ← hexadecimalDigit? third
    let fourth ← hexadecimalDigit? fourth
    return ((first * 16 + second) * 16 + third) * 16 + fourth
  | _ => none

/-- Reads four hexadecimal digits. -/
def readFourDigits : Reader Nat := do
  let cursor ← get
  match fourDigits? cursor.rest with
  | some number =>
    set (⟨cursor.rest.drop 4, ⟨cursor.position.line, cursor.position.column + 4⟩⟩ : Cursor)
    return number
  | none =>
    match afterBytes? 4 cursor.rest cursor.position with
    | some position => failAt .invalidEscape position
    | none => failAt (.ended .text) (cursor.rest.foldl Position.after cursor.position)

/-- Whether a number is that of a leading surrogate. -/
def isLeadingSurrogate (number : Nat) : Bool := 0xD800 ≤ number && number ≤ 0xDBFF

/-- Whether a number is that of a trailing surrogate. -/
def isTrailingSurrogate (number : Nat) : Bool := 0xDC00 ≤ number && number ≤ 0xDFFF

/-- Reads the next character, which has to be this one, within an escape. -/
def readInEscape (wanted : Char) : Reader Unit := do
  match ← peek with
  | none => fail (.ended .text)
  | some character => if character = wanted then advance else failNext .endOfEscape

/-- Reads the character whose number follows. -/
def readNumbered : Reader Char := do
  let number ← readFourDigits
  if isTrailingSurrogate number then fail .loneSurrogate
  else if isLeadingSurrogate number then do
    readInEscape '\\'
    readInEscape 'u'
    let trailing ← readFourDigits
    if isTrailingSurrogate trailing then
      return Char.ofNat (0x10000 + (number - 0xD800) * 0x400 + (trailing - 0xDC00))
    else fail .loneSurrogate
  else return Char.ofNat number

/-- The character that a letter stands for after a backslash. -/
def escaped? : Char → Option Char
  | '\"' => some '\"'
  | '\\' => some '\\'
  | '/' => some '/'
  | 'b' => some '\x08'
  | 'f' => some '\x0c'
  | 'n' => some '\n'
  | 'r' => some '\r'
  | 't' => some '\t'
  | _ => none

/-- Reads what follows a backslash. -/
def readEscape : Reader Char := do
  match ← peek with
  | none => fail (.ended .text)
  | some 'u' =>
    advance
    readNumbered
  | some letter =>
    match escaped? letter with
    | some character =>
      advance
      return character
    | none => failNext .invalidEscape

/-- Reads the characters of a text up to its closing quote. -/
def readCharacters : (fuel : Nat) → String → Reader String
  | 0, _ => fail (.ended .text)
  | fuel + 1, read => do
    match ← peek with
    | none => fail (.ended .text)
    | some '\"' =>
      advance
      return read
    | some '\\' =>
      advance
      let character ← readEscape
      readCharacters fuel (read.push character)
    | some character =>
      if character.toNat < 0x20 then failNext .controlCharacter
      else
        advance
        readCharacters fuel (read.push character)

/-- Reads a text after its opening quote. -/
def readQuoted : Reader String := do readCharacters (← read) ""

/-! ## Texts that are passed over

The numbers of their characters are not checked to be characters. -/

/-- Passes over what follows a backslash. -/
def skipEscape : Reader Unit := do
  match ← peek with
  | none => fail (.ended .text)
  | some 'u' =>
    advance
    discard readFourDigits
  | some letter => if (escaped? letter).isSome then advance else failNext .invalidEscape

/-- Passes over the characters of a text up to its closing quote. -/
def skipCharacters : (fuel : Nat) → Reader Unit
  | 0 => fail (.ended .text)
  | fuel + 1 => do
    match ← peek with
    | none => fail (.ended .text)
    | some '\"' => advance
    | some '\\' =>
      advance
      skipEscape
      skipCharacters fuel
    | some character =>
      if character.toNat < 0x20 then fail .controlCharacter
      else
        advance
        skipCharacters fuel

/-- Passes over a text after its opening quote. -/
def skipQuoted : Reader Unit := do skipCharacters (← read)

end JavaFacts.Json
