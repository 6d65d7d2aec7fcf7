import RegisterMachine.Keyword

/-! The flags that record how the last result compares with zero. -/

namespace RegisterMachine

structure Flags where
  zero : Bool
  negative : Bool
  deriving DecidableEq, Repr

namespace Flags

def clear : Flags where
  zero := false
  negative := false

def ofResult (result : Int) : Flags where
  zero := result == 0
  negative := result < 0

def taken (flags : Flags) : Verb → Bool
  | .known .jmp | .known .call => true
  | .known .je => flags.zero
  | .known .jne => !flags.zero
  | .known .jg => !flags.zero && !flags.negative
  | .known .jge => flags.zero || !flags.negative
  | .known .jl => !flags.zero && flags.negative
  | .known .jle => flags.zero || flags.negative
  | _ => false

/-- One letter a flag, in upper case when it is set. -/
def render (flags : Flags) : Bytes :=
  [byte (if flags.zero then 'Z' else 'z'), byte (if flags.negative then 'N' else 'n')]

end Flags

end RegisterMachine
