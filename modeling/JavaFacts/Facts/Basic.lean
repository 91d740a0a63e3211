/-!
# Facts about methods

The facts that are drawn from a source: the methods that it declares, the calls that it makes, and
for every receiver the names of the methods that are called on it.
-/

namespace JavaFacts

/-- A declared method. -/
structure Declaration where
  name : String
  startLine : Nat
  endLine : Nat
  /-- The local variables that its body declares directly. -/
  variableNames : List String
deriving DecidableEq, Repr, Inhabited

/-- A call of a method. -/
structure Call where
  name : String
  startLine : Nat
  argumentCount : Nat
  /-- The arguments as they are written. -/
  argumentTexts : List String
deriving DecidableEq, Repr, Inhabited

/-! ## Receivers -/

/-- The names of the methods called on each receiver, receivers in the order of their first call. -/
structure ReceiverCalls where
  entries : Array (String × Array String)
deriving DecidableEq, Repr, Inhabited

namespace ReceiverCalls

def empty : ReceiverCalls := ⟨#[]⟩

/-- The place of a receiver. -/
def indexOf? (calls : ReceiverCalls) (receiver : String) : Option Nat :=
  calls.entries.findIdx? fun entry => entry.1 == receiver

/-- The names of the methods called on a receiver. -/
def get (calls : ReceiverCalls) (receiver : String) : Array String :=
  match calls.indexOf? receiver with
  | some index => (calls.entries.getD index default).2
  | none => #[]

/-- Adds a call on a receiver; a new receiver comes last. -/
def add (calls : ReceiverCalls) (receiver name : String) : ReceiverCalls :=
  match calls.indexOf? receiver with
  | some index => ⟨calls.entries.modify index fun (known, names) => (known, names.push name)⟩
  | none => ⟨calls.entries.push (receiver, #[name])⟩

/-- Sets the names of a receiver; a new receiver comes last. -/
def insert (calls : ReceiverCalls) (receiver : String) (names : Array String) : ReceiverCalls :=
  match calls.indexOf? receiver with
  | some index => ⟨calls.entries.modify index fun (known, _) => (known, names)⟩
  | none => ⟨calls.entries.push (receiver, names)⟩

/-- Whether two collections hold the same receivers with the same names, in any order. -/
def sameEntries (left right : ReceiverCalls) : Bool :=
  left.entries.size == right.entries.size &&
    left.entries.all fun (receiver, names) =>
      match right.indexOf? receiver with
      | some index => (right.entries.getD index default).2 == names
      | none => false

end ReceiverCalls

/-! ## All facts -/

/-- The facts drawn from a source, in the order of the text. -/
structure Facts where
  declarations : Array Declaration
  calls : Array Call
  receivers : ReceiverCalls
deriving DecidableEq, Repr, Inhabited

namespace Facts

def empty : Facts := ⟨#[], #[], .empty⟩

def isEmpty (facts : Facts) : Bool :=
  facts.declarations.isEmpty && facts.calls.isEmpty && facts.receivers.entries.isEmpty

/-- The first declaration of a method with a name. -/
def declaration? (facts : Facts) (name : String) : Option Declaration :=
  facts.declarations.find? (·.name == name)

/-- The calls of methods with a name. -/
def callsNamed (facts : Facts) (name : String) : Array Call := facts.calls.filter (·.name == name)

/-- The names of the methods called on a receiver. -/
def callsOn (facts : Facts) (receiver : String) : Array String := facts.receivers.get receiver

/-- Whether two collections hold the same facts, where the order of receivers does not matter. -/
def same (left right : Facts) : Bool :=
  left.declarations == right.declarations && left.calls == right.calls &&
    left.receivers.sameEntries right.receivers

end Facts

/-! ## Facts in words -/

/-- A declaration in words, a line for each fact. -/
def Declaration.describe (declaration : Declaration) : String :=
  "Method Declaration: " ++ declaration.name ++ "\nStart Line: " ++
    toString declaration.startLine ++ "\nEnd Line: " ++ toString declaration.endLine ++
    "\nVariables declared in method : " ++
    (if declaration.variableNames.isEmpty then "No Variables"
      else String.intercalate ", " declaration.variableNames) ++ "\n"

/-- A call in words, a line for each fact. -/
def Call.describe (call : Call) : String :=
  "Method Signature: " ++ call.name ++ "\nStart Line: " ++ toString call.startLine ++
    "\nNumber of parameters: " ++ toString call.argumentCount ++ "\nParameters list: " ++
    String.intercalate ", " call.argumentTexts ++ "\n"

end JavaFacts
