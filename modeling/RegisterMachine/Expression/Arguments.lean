import RegisterMachine.Expression.Interpolation

/-! The arguments of functions and methods. -/

namespace RegisterMachine.Expression

/-- The arguments of a call. Two that are named may have one name. -/
structure Arguments where
  placed : Array Value
  named : List (Bytes × Value)

namespace Arguments

def placed? (arguments : Arguments) (least most : Nat) : Option (Array Value) :=
  if arguments.named.isEmpty && least ≤ arguments.placed.size && arguments.placed.size ≤ most then
    some arguments.placed
  else none

def only? (arguments : Arguments) : Option Value :=
  match arguments.named, arguments.placed.toList with
  | [], [value] => some value
  | _, _ => none

/-- The value of each name of a list. The placed arguments come before the named ones, and none has
two values. -/
def arrange? (arguments : Arguments) (names : List Bytes) : Option (List (Option Value)) :=
  let placed := arguments.placed.toList
  let rest := names.drop placed.length
  let given := arguments.named.map Prod.fst
  if placed.length ≤ names.length && given.all rest.contains && decide given.Nodup then
    some (placed.map some ++ rest.map fun name => arguments.named.lookup name)
  else none

end Arguments

namespace Value

def text? : Value → Option Bytes
  | .string text => some text.toList
  | _ => none

def word? : Value → Option Int
  | .integer n => if -Int.pow 2 63 ≤ n ∧ n < Int.pow 2 63 then some n else none
  | _ => none

def boolean? : Value → Option Bool
  | .boolean b => some b
  | _ => none

def isCallable : Value → Bool
  | .builtin _ => true
  | .function _ => true
  | .method .. => true
  | _ => false

end Value

end RegisterMachine.Expression
