import RegisterMachine.Expression.Failure
import RegisterMachine.Table

/-! What an assembler asks of the language that its expressions are written in. -/

namespace RegisterMachine

namespace Expression

/-- What an expression comes to: an integer or another value, a failure, or a breakdown. -/
inductive Outcome where
  | integer (n : Int)
  | other
  | refused (failure : Failure)
  | crashed (breakdown : Breakdown)
  deriving DecidableEq, Repr

structure Report where
  outcome : Outcome
  printed : List Bytes

end Expression

/-- A language of expressions. The constants around an expression are looked up by their names, and
nothing else of the table that holds them is seen. -/
class Evaluator where
  report : Table Int → Bytes → Expression.Report
  report_congr : ∀ {constants other : Table Int}, constants.get? = other.get? →
    ∀ text, report constants text = report other text

namespace Evaluator

variable [Evaluator]

def evaluated (constants : Table Int) (text : Bytes) : Expression.Outcome :=
  (report constants text).outcome

theorem evaluated_congr {constants other : Table Int} (same : constants.get? = other.get?)
    (text : Bytes) : evaluated constants text = evaluated other text := by
  rw [evaluated, report_congr same, evaluated]

end Evaluator

end RegisterMachine
