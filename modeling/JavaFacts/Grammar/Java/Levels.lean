/-!
# Precedence levels

The levels at which the operators and constructs of the language group, from the loosest to the
tightest.
-/

namespace JavaFacts.Grammar.Java.Level

def assignment : Int := 1

def declaration : Int := 2

def elementValue : Int := 2

def ternary : Int := 3

def disjunction : Int := 4

def conjunction : Int := 5

def bitOr : Int := 6

def bitXor : Int := 7

def bitAnd : Int := 8

def equality : Int := 9

def generic : Int := 10

def comparison : Int := 10

def shift : Int := 11

def sum : Int := 12

def product : Int := 13

def cast : Int := 14

def unary : Int := 15

def classLiteral : Int := 17

end JavaFacts.Grammar.Java.Level
