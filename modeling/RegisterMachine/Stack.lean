/-! The stack of operands and return addresses. -/

namespace RegisterMachine

/-- The values of a stack, its top first. A positive limit bounds its depth. -/
structure Stack where
  values : List Int32
  limit : Int
  deriving DecidableEq, Repr

namespace Stack

def empty (limit : Int) : Stack where
  values := []
  limit := limit

def depth (stack : Stack) : Nat :=
  stack.values.length

def isFull (stack : Stack) : Bool :=
  0 < stack.limit && stack.limit ≤ stack.depth

def push (stack : Stack) (value : Int32) : Stack :=
  { stack with values := value :: stack.values }

def top? (stack : Stack) : Option Int32 :=
  stack.values.head?

def pop? (stack : Stack) : Option (Int32 × Stack) :=
  match stack.values with
  | [] => none
  | value :: rest => some (value, { stack with values := rest })

def clear (stack : Stack) : Stack :=
  { stack with values := [] }

def toList (stack : Stack) : List Int32 :=
  stack.values.reverse

end Stack

end RegisterMachine
