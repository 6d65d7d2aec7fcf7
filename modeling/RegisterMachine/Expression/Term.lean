import RegisterMachine.Bytes

/-! The terms and statements of compile-time expressions. -/

namespace RegisterMachine.Expression

inductive Comparison where
  | equal
  | unequal
  | less
  | greater
  | atMost
  | atLeast
  deriving DecidableEq, Repr

inductive Operator where
  | add
  | subtract
  | multiply
  | divide
  | floorDivide
  | remainder
  | bitAnd
  | bitOr
  | bitXor
  | shiftLeft
  | shiftRight
  | compare (comparison : Comparison)
  | contains
  | lacks
  deriving DecidableEq, Repr

/-- The operators that stop at their first operand if it settles the value. -/
inductive Connective where
  | conjunction
  | disjunction
  deriving DecidableEq, Repr

inductive Sign where
  | negative
  | positive
  | complement
  | negation
  deriving DecidableEq, Repr

/-- How an argument is given: by its place, by a name, or with others in a collection. -/
inductive Passing where
  | placed
  | named (name : Bytes)
  | spread
  | spreadNamed
  deriving DecidableEq, Repr

/-- A parameter of a function. A star takes what is left of the placed arguments, or only ends the
parameters that take them; two stars take what is left of the named ones. -/
inductive Parameter (α : Type) where
  | required (name : Bytes)
  | optional (name : Bytes) (value : α)
  | star (name : Option Bytes)
  | doubleStar (name : Bytes)

inductive Clause (α : Type) where
  | each (target collection : α)
  | only (condition : α)

/-- A term. The number of a function or comprehension tells it from the others of its text. A bound
of a slice may be left out. -/
inductive Term where
  | name (name : Bytes)
  | integer (n : Nat)
  | real (x : Float)
  | string (text : Bytes)
  | bytes (text : Bytes)
  | omitted
  | tuple (items : List Term)
  | list (items : List Term)
  | dictionary (entries : List (Term × Term))
  | listOf (number : Nat) (body : Term) (clauses : List (Clause Term))
  | dictionaryOf (number : Nat) (key value : Term) (clauses : List (Clause Term))
  | group (body : Term)
  | unary (sign : Sign) (operand : Term)
  | binary (operator : Operator) (left right : Term)
  | connective (connective : Connective) (left right : Term)
  | conditional (condition positive negative : Term)
  | call (function : Term) (arguments : List (Passing × Term))
  | index (collection key : Term)
  | slice (collection start stop step : Term)
  | attribute (object : Term) (name : Bytes)
  | function (number : Nat) (parameters : List (Parameter Term)) (body : Term)
  deriving Inhabited

inductive Statement where
  | assign (target value : Term)
  | update (target : Term) (operator : Operator) (value : Term)
  | evaluate (term : Term)
  | define (number : Nat) (name : Bytes) (parameters : List (Parameter Term)) (body : List Statement)
  | choose (condition : Term) (positive negative : List Statement)
  | each (target collection : Term) (body : List Statement)
  | loop (condition : Term) (body : List Statement)
  | result (value : Option Term)
  | leave
  | again
  | pass
  | load (names : List (Bytes × Bytes))

def Parameter.name? : Parameter α → Option Bytes
  | .required name => some name
  | .optional name _ => some name
  | .star name => name
  | .doubleStar name => some name

end RegisterMachine.Expression
