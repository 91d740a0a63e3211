import JavaFacts.Yaml.Cursor

/-!
# Scalars of YAML

A scalar is plain, quoted, or a block of indented lines. In plain and quoted scalars line ends are
folded; in a block they are kept, or folded where both lines begin with a character that is not blank.
-/

namespace JavaFacts.Yaml

/-! ## Blanks within scalars -/

/-- Blanks between two words of a scalar: those within a line, or the line ends among them. -/
structure Gap where
  blanks : String
  /-- Whether there is a line end. -/
  broken : Bool
  first : String
  further : String
deriving Repr, Inhabited

namespace Gap

/-- No blanks. -/
def none : Gap := ⟨"", false, "", ""⟩

/-- No blanks after a line end that was escaped. -/
def escapedBreak : Gap := ⟨"", true, "", ""⟩

/-- What the blanks are read as. -/
def text (gap : Gap) : String := if gap.broken then folded gap.first gap.further else gap.blanks

end Gap

/-- Reads blanks and line ends. In a plain scalar, a tab cannot stand before the indentation. -/
def readGap (indentation : Option (Nat × Mark)) : (fuel : Nat) → Gap → Scan Gap
  | 0, gap => return gap
  | fuel + 1, gap => do
    need 1
    match ← peek with
    | some character =>
      if isBlank character then
        if let some (least, start) := indentation then
          if gap.broken && (← here).column < least && character == '\t' then
            fail .plainScalar start .tabAgainstIndentation
        skip
        readGap indentation fuel
          (if gap.broken then gap else { gap with blanks := gap.blanks.push character })
      else if isBreak character then
        let lineEnd ← readBreak
        readGap indentation fuel
          (if gap.broken then { gap with further := gap.further ++ lineEnd }
            else ⟨"", true, lineEnd, gap.further⟩)
      else return gap
    | Option.none => return gap

/-! ## Plain scalars -/

/-- A plain scalar. -/
structure PlainScalar where
  text : String
  stop : Mark
  /-- Whether line ends follow it. -/
  broken : Bool
deriving Repr, Inhabited

/-- Whether a character ends a plain scalar within brackets. -/
def isFlowIndicator (character : Char) : Bool :=
  character == ',' || character == '[' || character == ']' || character == '\x7b' ||
    character == '\x7d'

/-- Reads a word of a plain scalar. -/
def readPlainWord (start : Mark) (flow : Bool) : (fuel : Nat) → String → Scan String
  | 0, word => return word
  | fuel + 1, word => do
    need 2
    match ← peek with
    | none => return word
    | some character =>
      let next ← peekAt 1
      if isBlank character || isBreak character then return word
      else if flow && character == ':' && (next.any isFlowIndicator || next == some '?') then
        fail .plainScalar start .unexpectedColon
      else if character == ':' && endsWord next then return word
      else if flow && isFlowIndicator character then return word
      else
        skip
        readPlainWord start flow fuel (word.push character)

/-- Reads a plain scalar of which some words have been read. -/
def readPlainFrom (start : Mark) (flow : Bool) (indentation : Nat) :
    (fuel : Nat) → PlainScalar → Gap → Scan PlainScalar
  | 0, scalar, _ => return scalar
  | fuel + 1, scalar, gap => do
    need 4
    if (← get).atAnyDocumentMark || (← peek) == some '#' then
      return { scalar with broken := gap.broken }
    let word ← readPlainWord start flow (← rounds) ""
    if word.isEmpty then return { scalar with broken := gap.broken }
    let scalar : PlainScalar := ⟨scalar.text ++ gap.text ++ word, ← here, false⟩
    let gap ← readGap (some (indentation, start)) (← rounds) .none
    if gap.blanks.isEmpty && !gap.broken then return scalar
    else if !flow && (← here).column < indentation then
      return { scalar with broken := gap.broken }
    else readPlainFrom start flow indentation fuel scalar gap

/-- Reads a plain scalar. Outside of brackets, its lines are indented. -/
def readPlain (flow : Bool) (indentation : Nat) : Scan PlainScalar := do
  let start ← here
  readPlainFrom start flow indentation (← rounds) ⟨"", start, false⟩ .none

/-! ## Quoted scalars -/

/-- What an escape stands for. -/
inductive Escape where
  | character (character : Char)
  /-- The number of a character in so many hexadecimal digits follows. -/
  | numbered (digits : Nat)
deriving DecidableEq, Repr, Inhabited

/-- The escape of a letter after a backslash. -/
def escape? : Char → Option Escape
  | '0' => some (.character '\x00')
  | 'a' => some (.character '\x07')
  | 'b' => some (.character '\x08')
  | 't' => some (.character '\t')
  | '\t' => some (.character '\t')
  | 'n' => some (.character '\n')
  | 'v' => some (.character '\x0b')
  | 'f' => some (.character '\x0c')
  | 'r' => some (.character '\r')
  | 'e' => some (.character '\x1b')
  | ' ' => some (.character ' ')
  | '\"' => some (.character '\"')
  | '/' => some (.character '/')
  | '\\' => some (.character '\\')
  | 'N' => some (.character '\u0085')
  | '_' => some (.character '\u00a0')
  | 'L' => some (.character '\u2028')
  | 'P' => some (.character '\u2029')
  | 'x' => some (.numbered 2)
  | 'u' => some (.numbered 4)
  | 'U' => some (.numbered 8)
  | _ => none

/-- The number that hexadecimal digits stand for. -/
def hexadecimalNumber? (digits : List Char) : Option Nat :=
  digits.foldlM (fun number digit => (hexadecimal? digit).map (number * 16 + ·)) 0

/-- Reads the character whose number follows. -/
def readNumbered (start : Mark) (count : Nat) : Scan Char := do
  need count
  let digits := (← get).rest.take count
  match hexadecimalNumber? digits with
  | some number =>
    if digits.length < count then fail .escape start .noHexadecimal
    else if 0x10FFFF < number || (0xD800 ≤ number && number ≤ 0xDFFF) then
      fail .escape start .noCharacter
    else
      modify (·.skipMany count)
      return Char.ofNat number
  | none => fail .escape start .noHexadecimal

/-- Reads an escape from its backslash on. -/
def readEscape (start : Mark) : Scan Char := do
  match (← peekAt 1).bind escape? with
  | none => fail .escape start .unknownEscape
  | some (.character character) =>
    modify (·.skipMany 2)
    return character
  | some (.numbered digits) =>
    modify (·.skipMany 2)
    readNumbered start digits

/-- Reads a word of a quoted scalar; tells whether it ends with an escaped line end. -/
def readQuotedWord (single : Bool) (start : Mark) : (fuel : Nat) → String → Scan (String × Bool)
  | 0, word => return (word, false)
  | fuel + 1, word => do
    need 2
    let quote := if single then '\'' else '\"'
    match ← peek with
    | none => return (word, false)
    | some character =>
      let next ← peekAt 1
      if isBlank character || isBreak character then return (word, false)
      else if single && character == quote && next == some quote then
        modify (·.skipMany 2)
        readQuotedWord single start fuel (word.push quote)
      else if character == quote then return (word, false)
      else if !single && character == '\\' && next.any isBreak then
        need 3
        skip
        discard readBreak
        return (word, true)
      else if !single && character == '\\' then
        let escaped ← readEscape start
        readQuotedWord single start fuel (word.push escaped)
      else
        skip
        readQuotedWord single start fuel (word.push character)

/-- Reads a quoted scalar of which some words have been read, up to its closing quote. -/
def readQuotedFrom (single : Bool) (start : Mark) : (fuel : Nat) → String → Scan String
  | 0, text => return text
  | fuel + 1, text => do
    need 4
    if (← get).atAnyDocumentMark then fail .quotedScalar start .documentInScalar
    else if (← peek).isNone then fail .quotedScalar start .endInScalar
    let (word, escapedBreak) ← readQuotedWord single start (← rounds) ""
    need 1
    if (← peek) == some (if single then '\'' else '\"') then
      skip
      return text ++ word
    let gap ← readGap none (← rounds) (if escapedBreak then .escapedBreak else .none)
    readQuotedFrom single start fuel (text ++ word ++ gap.text)

/-- Reads a quoted scalar. -/
def readQuoted (single : Bool) : Scan String := do
  let start ← here
  skip
  readQuotedFrom single start (← rounds) ""

/-! ## Blocks -/

/-- Which line ends are kept at the end of a block. -/
inductive Chomping where
  | strip
  | clip
  | keep
deriving DecidableEq, Repr, Inhabited

/-- Reads the mark for the end of a block, if there is one. -/
def readChomping : Scan (Option Chomping) := do
  need 1
  match ← peek with
  | some '+' =>
    skip
    return some .keep
  | some '-' =>
    skip
    return some .strip
  | _ => return none

/-- Reads the indentation of a block, if it is given. -/
def readIndentation (start : Mark) : Scan (Option Nat) := do
  need 1
  match ← peek with
  | some character =>
    if character == '0' then fail .blockScalar start .zeroIndentation
    else if character.isDigit then
      skip
      return some (character.toNat - '0'.toNat)
    else return none
  | none => return none

/-- Reads the marks of a block, in either order. -/
def readBlockMarks (start : Mark) : Scan (Chomping × Option Nat) := do
  match ← readChomping with
  | some chomping => return (chomping, ← readIndentation start)
  | none =>
    match ← readIndentation start with
    | some indentation => return ((← readChomping).getD .clip, some indentation)
    | none => return (.clip, none)

/-- Passes over blanks up to the indentation; if that is not known, over all blanks. -/
def skipIndentation (indentation : Option Nat) : Scan Unit := do
  let column := (← here).column
  let blanks := (← get).rest.takeWhile (· == ' ')
  match indentation with
  | some indentation => modify (·.skipMany (min blanks.length (indentation - column)))
  | none => modify (·.skipMany blanks.length)
  need 1

/-- Lines of a block that are empty. -/
structure EmptyLines where
  breaks : String
  stop : Mark
  /-- The greatest number of blanks in one of them and in the line that follows. -/
  deepest : Nat
deriving Repr, Inhabited

/-- Reads empty lines, and the indentation of the line that follows. -/
def readEmptyLines (start : Mark) (indentation : Option Nat) :
    (fuel : Nat) → EmptyLines → Scan EmptyLines
  | 0, lines => return lines
  | fuel + 1, lines => do
    skipIndentation indentation
    let column := (← here).column
    let lines := { lines with deepest := max lines.deepest column }
    let isShort := match indentation with
      | some indentation => decide (column < indentation)
      | none => true
    match ← peek with
    | some character =>
      if isShort && character == '\t' then fail .blockScalar start .tabInIndentation
      else if isBreak character then
        let lineEnd ← readBreak
        readEmptyLines start indentation fuel
          { lines with breaks := lines.breaks ++ lineEnd, stop := ← here }
      else return lines
    | none => return lines

/-- A block of which some lines have been read. -/
structure Block where
  text : String
  stop : Mark
  /-- The end of the last line. -/
  lineEnd : String
  /-- Whether the last line begins with a blank. -/
  blank : Bool
  /-- The ends of empty lines after it. -/
  breaks : String
deriving Repr, Inhabited

/-- Reads the lines of a block. -/
def readBlockLines (literal : Bool) (start : Mark) (indentation : Nat) :
    (fuel : Nat) → Block → Scan Block
  | 0, block => return block
  | fuel + 1, block => do
    need 1
    match ← peek with
    | none => return block
    | some character =>
      if (← here).column != indentation then return block
      else
        let blank := isBlank character
        let joint :=
          if !literal && block.lineEnd == "\n" && !block.blank && !blank then
            if block.breaks.isEmpty then " " else ""
          else block.lineEnd
        let line ← readWhile fun character => !isBreak character
        let lineEnd ← readBreak
        let empty ← readEmptyLines start (some indentation) (← rounds) ⟨"", ← here, 0⟩
        readBlockLines literal start indentation fuel
          ⟨block.text ++ joint ++ block.breaks ++ line, empty.stop, lineEnd, blank, empty.breaks⟩

/-- Reads a block. Its lines are indented more than those around it, by at least one blank. -/
def readBlock (literal : Bool) (around : Int) : Scan (String × Mark) := do
  let start ← here
  skip
  let (chomping, given) ← readBlockMarks start
  skipRestOfLine .blockScalar start
  let known := given.map fun increment => (max around 0).toNat + increment
  let empty ← readEmptyLines start known (← rounds) ⟨"", ← here, 0⟩
  let indentation := known.getD (max (max empty.deepest (around + 1).toNat) 1)
  let block ← readBlockLines literal start indentation (← rounds)
    ⟨"", empty.stop, "", false, empty.breaks⟩
  let text := match chomping with
    | .strip => block.text
    | .clip => block.text ++ block.lineEnd
    | .keep => block.text ++ block.lineEnd ++ block.breaks
  return (text, block.stop)

end JavaFacts.Yaml
