import RegisterMachine.Expression

/-! The language of expressions as an evaluator. An expression sees the constants around it through
their look-ups alone, so in what order a table holds them makes no difference. -/

namespace RegisterMachine.Expression

theorem read_congr {constants other : Table Int} (same : constants.get? = other.get?)
    (scope : List Block) (active : List Nat) :
    Site.read ⟨constants, scope, active⟩ = Site.read ⟨other, scope, active⟩ := by
  funext name
  simp only [Site.read, Site.block?, same]

/-- Whether all that is done up to a depth is the same among two tables of constants. -/
structure SameUpTo (constants other : Table Int) (bound : Nat) : Prop where
  evaluate : ∀ scope active,
    evaluate bound ⟨constants, scope, active⟩ = evaluate bound ⟨other, scope, active⟩
  define : ∀ scope active,
    define bound ⟨constants, scope, active⟩ = define bound ⟨other, scope, active⟩
  comprehend : ∀ outer inner active,
    comprehend bound ⟨constants, outer, active⟩ ⟨constants, inner, active⟩ =
      comprehend bound ⟨other, outer, active⟩ ⟨other, inner, active⟩
  assign : ∀ scope active,
    assign bound ⟨constants, scope, active⟩ = assign bound ⟨other, scope, active⟩
  assignAll : ∀ scope active,
    assignAll bound ⟨constants, scope, active⟩ = assignAll bound ⟨other, scope, active⟩
  call : call bound constants = call bound other
  update : ∀ scope active,
    update bound ⟨constants, scope, active⟩ = update bound ⟨other, scope, active⟩
  perform : ∀ scope active,
    perform bound ⟨constants, scope, active⟩ = perform bound ⟨other, scope, active⟩
  run : ∀ scope active,
    run bound ⟨constants, scope, active⟩ = run bound ⟨other, scope, active⟩

theorem sameUpTo {constants other : Table Int} (same : constants.get? = other.get?) (bound : Nat) :
    SameUpTo constants other bound := by
  have reads := read_congr same
  -- The recursion of all nine functions is on the depth.
  induction bound with
  | zero =>
      constructor
      all_goals
        intros
        rfl
  | succ bound induction =>
      constructor
      case evaluate =>
        intro scope active
        funext term
        simp only [Expression.evaluate, reads, induction.evaluate, induction.define,
          induction.comprehend, induction.call, Site.within]
      case define =>
        intro scope active
        funext number name parameters body
        simp only [Expression.define, induction.evaluate]
      case comprehend =>
        intro outer inner active
        funext clauses yield
        simp only [Expression.comprehend, induction.evaluate, induction.comprehend,
          induction.assign]
      case assign =>
        intro scope active
        funext target value
        simp only [Expression.assign, induction.evaluate, induction.assign, induction.assignAll,
          Site.write, Site.block?]
      case assignAll =>
        intro scope active
        funext targets value
        simp only [Expression.assignAll, induction.assign]
      case call =>
        funext active callee arguments
        simp only [Expression.call, induction.call, induction.evaluate, induction.run]
      case update =>
        intro scope active
        funext target operator term
        simp only [Expression.update, reads, induction.evaluate, induction.update, Site.write,
          Site.block?]
      case perform =>
        intro scope active
        funext statement
        simp only [Expression.perform, induction.evaluate, induction.define, induction.assign,
          induction.update, induction.run, Site.write, Site.block?]
      case run =>
        intro scope active
        funext statements
        cases statements with
        | nil => rfl
        | cons statement rest => simp only [Expression.run, induction.perform, induction.run]

theorem report_congr {constants other : Table Int} (same : constants.get? = other.get?)
    (text : Bytes) : report constants text = report other text := by
  have runs := fun size globals => (sameUpTo same (Nat.pow (8 * (size + 8)) 2)).run
    [{ frame := 0, number := 0, names := globals }] []
  simp only [report, runStatements, same, runs]

instance evaluator : Evaluator where
  report := report
  report_congr := report_congr

end RegisterMachine.Expression
