import RegisterMachine.Text.Decimal

/-! The keywords of the assembly language, and what operands each takes. -/

namespace RegisterMachine

inductive Keyword where
  | mov | add | sub | mul | div | inc | dec | print | println | read | push | pop | cmp
  | jmp | je | jne | jg | jge | jl | jle | loop | call | ret
  deriving DecidableEq, Repr

inductive Category where
  | none
  | register
  | registerOrNumber
  | registerOrText
  | label
  | registerAndValue
  | registerAndLabel
  deriving DecidableEq, Repr

namespace Category

def all : List Category :=
  [none, register, registerOrNumber, registerOrText, label, registerAndValue, registerAndLabel]

def arity : Category → Nat
  | .none => 0
  | .registerAndValue | .registerAndLabel => 2
  | .register | .registerOrNumber | .registerOrText | .label => 1

def code (category : Category) : Nat :=
  all.idxOf category

/-- The number of operands for the number of a category. A number that names none counts as one
operand. -/
def arityOfCode (code : Int) : Nat :=
  match all.find? fun category => (category.code : Int) == code with
  | some category => category.arity
  | Option.none => 1

end Category

namespace Keyword

def all : List Keyword :=
  [mov, add, sub, mul, div, inc, dec, print, println, read, push, pop, cmp, jmp, je, jne, jg, jge,
    jl, jle, loop, call, ret]

def name : Keyword → Bytes
  | mov => utf8 "mov"
  | add => utf8 "add"
  | sub => utf8 "sub"
  | mul => utf8 "mul"
  | div => utf8 "div"
  | inc => utf8 "inc"
  | dec => utf8 "dec"
  | print => utf8 "print"
  | println => utf8 "println"
  | read => utf8 "read"
  | push => utf8 "push"
  | pop => utf8 "pop"
  | cmp => utf8 "cmp"
  | jmp => utf8 "jmp"
  | je => utf8 "je"
  | jne => utf8 "jne"
  | jg => utf8 "jg"
  | jge => utf8 "jge"
  | jl => utf8 "jl"
  | jle => utf8 "jle"
  | loop => utf8 "loop"
  | call => utf8 "call"
  | ret => utf8 "ret"

def category : Keyword → Category
  | ret => .none
  | inc | dec | read | pop => .register
  | push => .registerOrNumber
  | print | println => .registerOrText
  | jmp | je | jne | jg | jge | jl | jle | call => .label
  | mov | add | sub | mul | div | cmp => .registerAndValue
  | loop => .registerAndLabel

def ofName? (word : Bytes) : Option Keyword :=
  all.find? fun keyword => keyword.name == word

def code (keyword : Keyword) : Nat :=
  all.idxOf keyword

def ofCode? (code : Int) : Option Keyword :=
  all.find? fun keyword => (keyword.code : Int) == code

theorem mem_all (keyword : Keyword) : keyword ∈ all := by
  cases keyword <;> decide

theorem ofName?_name (keyword : Keyword) : ofName? keyword.name = some keyword := by
  cases keyword <;> decide

theorem ofCode?_code (keyword : Keyword) : ofCode? keyword.code = some keyword := by
  cases keyword <;> decide

theorem name_of_ofName? {word : Bytes} {keyword : Keyword} (h : ofName? word = some keyword) :
    keyword.name = word := by
  simpa using List.find?_some h

end Keyword

/-- The operation of an instruction: a keyword, or a number that belongs to none. -/
inductive Verb where
  | known (keyword : Keyword)
  | unknown (code : Int) (unassigned : Keyword.ofCode? code = none)
  deriving DecidableEq, Repr

namespace Verb

def ofCode (code : Int) : Verb :=
  match found : Keyword.ofCode? code with
  | some keyword => known keyword
  | none => unknown code found

def code : Verb → Int
  | known keyword => keyword.code
  | unknown code _ => code

def name : Verb → Bytes
  | known keyword => keyword.name
  | unknown code _ => utf8 "Verb(" ++ Text.Decimal.ofInt code ++ [byte ')']

def keyword? : Verb → Option Keyword
  | known keyword => some keyword
  | unknown _ _ => none

end Verb

end RegisterMachine
