import RegisterMachine.Bytes

/-! Ways in which a compile-time expression goes wrong. -/

namespace RegisterMachine.Expression

inductive Failure where
  | malformed
  | unresolved
  | failed
  deriving DecidableEq, Repr

def Failure.message : Failure → Bytes
  | .malformed => utf8 "expression is malformed"
  | .unresolved => utf8 "expression has an unresolved name"
  | .failed => utf8 "expression cannot be evaluated"

/-- What an expression breaks down on instead of failing in order: a place that memory or the text
does not have, or a range without a step. -/
inductive Breakdown where
  | bounds
  | zeroStep
  deriving DecidableEq, Repr

def Breakdown.message : Breakdown → Bytes
  | .bounds => utf8 "runtime error"
  | .zeroStep => utf8 "rangeLen: zero step"

end RegisterMachine.Expression
