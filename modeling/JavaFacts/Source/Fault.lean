import JavaFacts.Syntax.Span
import JavaFacts.Text.Quoted
import JavaFacts.Text.Utf8

/-!
# What can go wrong with a source

A source can be unreadable, it can fail to parse, and a tree of it can be defective: its names can be
no names, and its spans can lie outside the text. The grammar may not be there to begin with. Each is
a cause of its own; the words for it are given in one place.
-/

namespace JavaFacts

open JavaFacts.Text

/-- What keeps a text from being parsed. -/
inductive SyntaxProblem where
  /-- A token of this kind is missing. -/
  | missing (kind : String)
  /-- This text cannot be read. -/
  | unexpected (excerpt : String)
  | endOfInput
  /-- The tree has an error that was not found. -/
  | unknown
  | described (text : String)
deriving DecidableEq, Repr, Inhabited

namespace SyntaxProblem

def message : SyntaxProblem → String
  | missing kind => "missing `" ++ kind ++ "`"
  | unexpected excerpt => "unexpected `" ++ excerpt ++ "`"
  | endOfInput => "unexpected end of input"
  | unknown => "syntax error"
  | described text => text

end SyntaxProblem

/-- A place in the text where it cannot be parsed. -/
structure SyntaxFault where
  line : Nat
  problem : SyntaxProblem
deriving DecidableEq, Repr, Inhabited

/-- What is wrong with a tree. -/
inductive TreeDefect where
  /-- The declaration that starts here has a name that is no plain name. -/
  | declarationName (start : Nat) (name : String)
  /-- The invocation that starts here has a name that is no plain name. -/
  | invocationName (start : Nat) (name : String)
  /-- Local variables of this method are declared by a node of another kind. -/
  | notFragment (method kind : String)
  /-- The span does not lie in a text of this many bytes, or cuts a character. -/
  | outside (span : Span) (size : Nat)
  /-- A node of this kind that starts here lacks a field. -/
  | missingField (kind : String) (start : Nat) (field : String)
  /-- The text of a node of this kind is no text. -/
  | notText (kind : String) (fault : Utf8Fault)
  /-- The node that starts here has fewer children than it was planned with. -/
  | lostChildren (start : Nat)
  /-- Nothing came of a node of this kind. -/
  | vanished (kind : String)
  | described (text : String)
deriving DecidableEq, Repr, Inhabited

namespace TreeDefect

def message : TreeDefect → String
  | declarationName start name =>
    "method declaration at byte " ++ toString start ++ " has invalid name " ++ Quoted.encode name
  | invocationName start name =>
    "method invocation at byte " ++ toString start ++ " has invalid name " ++ Quoted.encode name
  | notFragment method kind =>
    "variable declaration in `" ++ method ++ "` holds a " ++ kind ++ " instead of a fragment"
  | outside span size =>
    "span " ++ span.describe ++ " is outside the source (" ++ toString size ++ " bytes)"
  | missingField kind start field =>
    kind ++ " at byte " ++ toString start ++ " has no `" ++ field ++ "`"
  | notText kind fault => kind ++ " is not valid UTF-8: " ++ fault.message
  | lostChildren start => "node at byte " ++ toString start ++ " lost its children"
  | vanished kind => kind ++ " lowered to nothing"
  | described text => text

end TreeDefect

/-- Why a file cannot be read. -/
inductive FileFault where
  | notFound
  | denied
  | isDirectory
  | notDirectory
  | linkLoop
  | longName
  /-- The name holds the character with number zero. -/
  | zeroInName
  | notText
  | described (text : String)
deriving DecidableEq, Repr, Inhabited

namespace FileFault

def message : FileFault → String
  | notFound => "No such file or directory (os error 2)"
  | denied => "Permission denied (os error 13)"
  | isDirectory => "Is a directory (os error 21)"
  | notDirectory => "Not a directory (os error 20)"
  | linkLoop => "Too many levels of symbolic links (os error 40)"
  | longName => "File name too long (os error 36)"
  | zeroInName => "file name contained an unexpected NUL byte"
  | notText => "stream did not contain valid UTF-8"
  | described text => text

end FileFault

/-- Why no facts can be drawn from a source. -/
inductive SourceFault where
  | syntaxFault (fault : SyntaxFault)
  | malformed (defect : TreeDefect)
  | unreadable (path : String) (fault : FileFault)
  /-- The grammar cannot be loaded, for a reason in these words. -/
  | noGrammar (reason : String)
deriving DecidableEq, Repr, Inhabited

namespace SourceFault

/-- The whole fault in words. -/
def message : SourceFault → String
  | syntaxFault fault =>
    "parse error at line " ++ toString fault.line ++ ": " ++ fault.problem.message
  | malformed defect => "malformed syntax tree: " ++ defect.message
  | unreadable path fault => "cannot read " ++ path ++ ": " ++ fault.message
  | noGrammar reason => "grammar setup failed: " ++ reason

/-- Whether the fault lies in the text of the source, not in what is around it. -/
def isInText : SourceFault → Bool
  | syntaxFault _ => true
  | malformed _ => true
  | unreadable _ _ => false
  | noGrammar _ => false

/-- The words of the fault that caused this one, if there is one. -/
def cause? : SourceFault → Option String
  | unreadable _ fault => some fault.message
  | noGrammar reason => some reason
  | _ => none

end SourceFault

end JavaFacts
