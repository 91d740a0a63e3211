import JavaFacts.Grammar.Basic
import JavaFacts.Text.IdentifierCodes

/-!
# Tokens

The lexicon of the language, in order of preference: of two tokens that read the same text equally
well, the earlier one wins.
-/

namespace JavaFacts.Grammar.Java

open JavaFacts.Text
open Regex Pattern

/-! ## Numbers -/

/-- Decimal digits. -/
def digits : Pattern := plus (range '0' '9')

/-- Decimal digits in runs, with one underscore between two runs. -/
def digitRuns : Pattern := separated (oneChar "_") digits

/-- Zero, or a decimal number without leading zeros, in which underscores may divide the digits. -/
def wholeNumber : Pattern :=
  oneOf [oneChar "0",
    inOrder [range '1' '9',
      optional (inOrder [optional (oneChar "_"), separated (plus (oneChar "_")) digits])]]

/-- One hexadecimal digit. -/
def hexDigit : Pattern := oneOf [range 'A' 'F', range 'a' 'f', range '0' '9']

/-- Hexadecimal digits in runs, with one underscore between two runs. -/
def hexRuns : Pattern := separated (oneChar "_") (plus hexDigit)

/-- The mark of a long integer. -/
def longMark : Pattern := optional (oneChar "lL")

/-- The mark of a single or double floating-point number. -/
def floatMark : Pattern := oneChar "fFdD"

/-- The decimal exponent of a floating-point number. -/
def exponent : Pattern := inOrder [oneChar "eE", optional (oneChar "-+"), digitRuns]

def decimalInteger : Pattern := inOrder [wholeNumber, longMark]

def hexInteger : Pattern := inOrder [oneOf [text "0x", text "0X"], hexRuns, longMark]

def octalInteger : Pattern :=
  inOrder [oneOf [text "0o", text "0O", text "0"],
    separated (oneChar "_") (plus (range '0' '7')), longMark]

def binaryInteger : Pattern :=
  inOrder [oneOf [text "0b", text "0B"], separated (oneChar "_") (plus (oneChar "01")), longMark]

def decimalFloat : Pattern :=
  oneOf [
    inOrder [digitRuns, text ".", optional digitRuns, optional exponent, optional floatMark],
    inOrder [text ".", digitRuns, optional exponent, optional floatMark],
    inOrder [wholeNumber, exponent, optional floatMark],
    inOrder [wholeNumber, optional exponent, floatMark]]

def hexFloat : Pattern :=
  inOrder [oneOf [text "0x", text "0X"],
    oneOf [inOrder [hexRuns, optional (text ".")],
      inOrder [optional hexRuns, text ".", hexRuns]],
    optional (inOrder [oneChar "pP", optional (oneChar "-+"), wholeNumber, optional floatMark])]

/-! ## Characters and strings -/

def characterLiteral : Pattern :=
  inOrder [text "'",
    plus (oneOf [otherChar "\\'\n", inOrder [text "\\", otherChar ""]]), text "'"]

/-- Text between the quotes of a string, up to the next quote or backslash. -/
def plainRun : Pattern := plus (otherChar "\"\\")

/-- A quote inside a text block, with the text that follows it. -/
def quotedRun : Pattern :=
  inOrder [text "\"", star (oneOf [otherChar "\"\\", text "\\\""])]

/-- A backslash before a character that it does not escape. -/
def keptBackslash : Pattern := inOrder [text "\\", otherChar "bfnrts'\"\\"]

def escapeSequence : Pattern :=
  inOrder [text "\\",
    oneOf [otherChar "xu01234567",
      inOrder [range '0' '7', optional (range '0' '7'), optional (range '0' '7')],
      inOrder [text "x", times 2 hexDigit],
      inOrder [text "u", times 4 hexDigit],
      inOrder [text "u\x7b", plus hexDigit, text "\x7d"]]]

/-! ## Names and comments -/

def identifier : Pattern :=
  inOrder [.one (identifierStarts ∪ CodePoints.ofText "_$"),
    star (.one (identifierParts ∪ CodePoints.ofText "\u00A2_$"))]

def lineComment : Pattern := inOrder [text "//", star (otherChar "\n")]

def blockComment : Pattern :=
  inOrder [text "/*", star (otherChar "*"), plus (oneChar "*"),
    star (inOrder [otherChar "/*", star (otherChar "*"), plus (oneChar "*")]), text "/"]

/-! ## The lexicon -/

open Token in
/-- The literals, and the tokens inside strings. -/
def literalTokens : List Token := [
  kind "decimal_integer_literal" decimalInteger,
  kind "hex_integer_literal" hexInteger,
  kind "octal_integer_literal" octalInteger,
  kind "binary_integer_literal" binaryInteger,
  kind "decimal_floating_point_literal" decimalFloat,
  kind "hex_floating_point_literal" hexFloat,
  keyword "true" "true", keyword "false" "false",
  kind "character_literal" characterLiteral,
  literal "\"", literal "\"\"\"",
  ((kind "string_fragment" plainRun).withPrecedence 1).immediately,
  part "plain_run" plainRun, part "quoted_run" quotedRun,
  literal "\\\x7b", literal "\x7d",
  (part "kept_backslash" keptBackslash).immediately,
  (kind "escape_sequence" escapeSequence).immediately,
  keyword "null_literal" "null"]

open Token in
/-- Operators and brackets, with the words that stand among them. -/
def operatorTokens : List Token := [
  literal "(", literal ")", literal "&", literal "=", literal "+=", literal "-=", literal "*=",
  literal "/=", literal "&=", literal "|=", literal "^=", literal "%=", literal "<<=",
  literal ">>=", literal ">>>=", literal ">", literal "<", literal ">=", literal "<=",
  literal "==", literal "!=", literal "&&", literal "||", literal "+", literal "-", literal "*",
  literal "/", literal "|", literal "^", literal "%", literal "<<", literal ">>", literal ">>>",
  literal "instanceof", literal "final", literal "->", literal ",", literal "?", literal ":",
  literal "!", literal "~", literal "++", literal "--", literal "new", literal "[", literal "]",
  literal ".", literal "class", literal "::", literal "extends"]

open Token in
/-- The words and marks of statements and modules. -/
def statementTokens : List Token := [
  literal "switch", literal "\x7b", literal "case", literal "default",
  keyword "underscore_pattern" "_", literal "when", literal ";", literal "assert", literal "do",
  literal "while", literal "break", literal "continue", literal "return", literal "yield",
  literal "synchronized", literal "throw", literal "try", literal "catch", literal "finally",
  literal "if", literal "else", literal "for", literal "@", literal "open", literal "module",
  literal "requires", literal "transitive", literal "static", literal "exports", literal "to",
  literal "opens", literal "uses", literal "provides", literal "with", literal "package",
  literal "import", literal "enum"]

open Token in
/-- The words of declarations and types. -/
def declarationTokens : List Token := [
  literal "public", literal "protected", literal "private", literal "abstract", literal "strictfp",
  literal "native", literal "transient", literal "volatile", literal "sealed",
  literal "non-sealed", literal "implements", literal "permits", literal "record",
  literal "@interface", literal "interface", literal "byte", literal "short", literal "int",
  literal "long", literal "char", literal "float", literal "double",
  keyword "boolean_type" "boolean", keyword "void_type" "void", literal "...", literal "throws",
  keyword "this" "this", keyword "super" "super"]

open Token in
/-- Identifiers and comments, which any other token of the same text comes before. -/
def nameTokens : List Token := [
  kind "identifier" identifier,
  kind "line_comment" lineComment,
  kind "block_comment" blockComment]

/-- The lexicon of the language. -/
def tokens : List Token :=
  literalTokens ++ operatorTokens ++ statementTokens ++ declarationTokens ++ nameTokens

end JavaFacts.Grammar.Java
