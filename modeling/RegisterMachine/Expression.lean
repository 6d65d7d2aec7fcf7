import RegisterMachine.Expression.Evaluation
import RegisterMachine.Expression.Evaluator
import RegisterMachine.Expression.Reading

/-! Compile-time expressions. The text of an expression is run as the assignment of a result, and
may go on with further statements. -/

namespace RegisterMachine.Expression

def resultName : Bytes :=
  utf8 "rc"

def assignment (text : Bytes) : Bytes :=
  resultName ++ byte '=' :: (text ++ [byte '\n'])

/-- Runs statements that bind global names, and looks for the result. An evaluation is never deeper
than the calls of each function of the text with all of the text in each of them. -/
def runStatements (constants : Table Int) (size : Nat) (globals : List Bytes)
    (statements : List Statement) : Report :=
  let bound := Nat.pow (8 * (size + 8)) 2
  let site : Site :=
    { constants, scope := [{ frame := 0, number := 0, names := globals }], active := [] }
  match (run bound site statements).run { Store.empty with frames := #[[]] } with
  | .error .failed store => { outcome := .refused .failed, printed := store.printed.reverse }
  | .error (.crashed on) store => { outcome := .crashed on, printed := store.printed.reverse }
  | .ok _ store =>
      let result := (store.frames.getD 0 []).lookup { block := 0, name := resultName }
      let outcome :=
        match result with
        | some (.integer n) => .integer n
        | _ => .other
      { outcome, printed := store.printed.reverse }

def report (constants : Table Int) (text : Bytes) : Report :=
  match Statement.read? (assignment text) with
  | none => { outcome := .refused .malformed, printed := [] }
  | some statements =>
      match Statement.resolve? (fun name => (constants.get? name).isSome) statements with
      | none => { outcome := .refused .unresolved, printed := [] }
      | some globals =>
          if Statement.haveLoops false statements then
            runStatements constants text.length globals statements
          else { outcome := .crashed .bounds, printed := [] }

end RegisterMachine.Expression
