import RegisterMachine.Proofs.Assembler.Clause

/-! Why a line is not added. The reason depends on the words of the line, the texts that equates of the
draft stand for and the labels that the line would declare again; registers, places and the number of
the line have no part in it. -/

namespace RegisterMachine.Assembler.Draft

/-- Why there is no result. -/
def stop? {α : Type} : Except Stop α → Option Stop
  | .error stop => some stop
  | .ok _ => none

section Results

variable {α β γ δ : Type}

@[simp] theorem stop?_ok (value : α) : stop? (.ok value) = none := rfl

@[simp] theorem stop?_error (stop : Stop) : stop? (.error stop : Except Stop α) = some stop := rfl

theorem stop?_eq_some_iff {result : Except Stop α} {stop : Stop} :
    stop? result = some stop ↔ result = .error stop := by
  cases result with
  | error other => simp
  | ok value => simp

theorem stop?_eq_none_iff {result : Except Stop α} :
    stop? result = none ↔ ∃ value, result = .ok value := by
  cases result with
  | error other => simp
  | ok value => simp

theorem stop?_bind {first : Except Stop α} {second : Except Stop β} {next : α → Except Stop γ}
    {other : β → Except Stop δ} (here : stop? first = stop? second)
    (behind : ∀ value result, first = .ok value → second = .ok result →
      stop? (next value) = stop? (other result)) :
    stop? (first >>= next) = stop? (second >>= other) := by
  cases first with
  | error stop =>
      obtain rfl : second = .error stop := stop?_eq_some_iff.mp here.symm
      rfl
  | ok value =>
      obtain ⟨result, rfl⟩ := stop?_eq_none_iff.mp here.symm
      exact behind value result rfl rfl

end Results

section Words

variable {draft other : Draft}

theorem stop?_register (draft other : Draft) (word : Bytes) :
    stop? (draft.register word) = stop? (other.register word) := by
  unfold register
  split
  · rfl
  · rfl

theorem stop?_registerThen (draft other : Draft) (word : Bytes)
    (build otherBuild : Int → Instruction) :
    stop? (do
        let (draft, register) ← draft.register word
        return (draft, build register) : Except Stop (Draft × Instruction)) =
      stop? (do
        let (draft, register) ← other.register word
        return (draft, otherBuild register) : Except Stop (Draft × Instruction)) := by
  apply stop?_bind (stop?_register draft other word)
  intro value result _ _
  rfl

theorem substitute_of_texts (texts : draft.equates.get? = other.equates.get?) :
    draft.substitute = other.substitute := by
  funext word
  rw [substitute, texts, substitute]

theorem value_of_texts [Evaluator] (texts : draft.equates.get? = other.equates.get?) :
    draft.value = other.value := by
  have constants : draft.constants.get? = other.constants.get? := by
    funext name
    rw [get?_constants, get?_constants, texts]
  funext word
  simp only [value, expression, Evaluator.evaluated_congr constants]

/-- Operands are refused for themselves and for the equates that they are evaluated under. -/
theorem stop?_instruction [Evaluator] (texts : draft.equates.get? = other.equates.get?)
    (keyword : Keyword)
    (operands : List Bytes) :
    stop? (draft.instruction keyword operands) = stop? (other.instruction keyword operands) := by
  rcases operands with _ | ⟨first, _ | ⟨second, _ | ⟨third, rest⟩⟩⟩
  · cases category : keyword.category with
    | _ => simp only [Draft.instruction, category, stop?_ok]
  · cases category : keyword.category with
    | register =>
        simp only [Draft.instruction, category]
        exact stop?_registerThen draft other first _ _
    | registerOrNumber =>
        simp only [Draft.instruction, category]
        split
        · rw [value_of_texts texts]
          exact stop?_bind rfl fun _ _ _ _ => rfl
        · exact stop?_registerThen draft other first _ _
    | registerOrText =>
        simp only [Draft.instruction, category]
        split
        · cases Text.unquote? first with
          | none => rfl
          | some text => rfl
        · exact stop?_registerThen draft other first _ _
    | label =>
        simp only [Draft.instruction, category]
        exact stop?_bind rfl fun _ _ _ _ => rfl
    | _ => simp only [Draft.instruction, category]
  · cases category : keyword.category with
    | registerAndValue =>
        simp only [Draft.instruction, category]
        apply stop?_bind (stop?_register draft other first)
        rintro ⟨next, index⟩ ⟨otherNext, otherIndex⟩ found otherFound
        obtain ⟨_, rfl, _⟩ := register_eq_ok_iff.mp found
        obtain ⟨_, rfl, _⟩ := register_eq_ok_iff.mp otherFound
        simp only
        split
        · have values : Draft.value { draft with registers := interned draft.registers [first] } =
              Draft.value { other with registers := interned other.registers [first] } :=
            value_of_texts texts
          rw [values]
          exact stop?_bind rfl fun _ _ _ _ => rfl
        · exact stop?_registerThen _ _ second _ _
    | registerAndLabel =>
        simp only [Draft.instruction, category]
        apply stop?_bind (stop?_register draft other first)
        intro _ _ _ _
        exact stop?_bind rfl fun _ _ _ _ => rfl
    | _ => simp only [Draft.instruction, category]
  · cases category : keyword.category with
    | _ => simp only [Draft.instruction, category]

theorem stop?_command [Evaluator] (texts : draft.equates.get? = other.equates.get?)
    (number otherNumber : Int)
    (line otherLine word : Bytes) (operands : List Bytes) :
    stop? (draft.command number line word operands) =
      stop? (other.command otherNumber otherLine word operands) := by
  unfold Draft.command
  cases Keyword.ofName? word with
  | none => rfl
  | some keyword =>
      apply stop?_bind (stop?_instruction texts keyword operands)
      intro _ _ _ _
      rfl

/-- Whether two drafts agree on which of the labels that words declare are there already. -/
def AgreeOn (draft other : Draft) (words : List Bytes) : Prop :=
  ∀ label, declaration label ∈ words →
    draft.labels.contains label = other.labels.contains label

theorem AgreeOn.declared {label : Bytes} {words : List Bytes}
    (agree : AgreeOn draft other words) :
    AgreeOn (draft.labelled [label]) (other.labelled [label]) words := by
  intro name member
  simp only [labelled, Table.contains, get?_declared, List.mem_singleton]
  split
  · rfl
  · exact agree name member

/-- Drafts that agree on the labels of some words declare the same ones, or stop at the same one. -/
theorem declare_alike {words : List Bytes} (agree : AgreeOn draft other words) :
    (∃ stop, draft.declare words = .error stop ∧ other.declare words = .error stop) ∨
      ∃ labels rest, draft.declare words = .ok (draft.labelled labels, rest) ∧
        other.declare words = .ok (other.labelled labels, rest) := by
  induction words generalizing draft other with
  | nil => exact .inr ⟨[], [], rfl, rfl⟩
  | cons word rest induction =>
      by_cases ends : isDeclaration word = true
      · have same : draft.labels.contains word.dropLast = other.labels.contains word.dropLast := by
          apply agree
          rw [← eq_declaration ends]
          exact List.mem_cons_self
        simp only [declare, ends, ↓reduceIte, same]
        split
        · exact .inl ⟨_, rfl, rfl⟩
        split
        · exact .inl ⟨_, rfl, rfl⟩
        -- The label is declared in both, and the words behind it are looked at next.
        have later : AgreeOn draft other rest := fun label member =>
          agree label (List.mem_cons_of_mem word member)
        rcases induction later.declared with stopped | ⟨labels, behind, here, there⟩
        · exact .inl stopped
        · exact .inr ⟨word.dropLast :: labels, behind, here, there⟩
      · simp only [declare, ends, Bool.false_eq_true, ↓reduceIte]
        exact .inr ⟨[], word :: rest, rfl, rfl⟩

theorem stop?_statement [Evaluator] (texts : draft.equates.get? = other.equates.get?)
    (number otherNumber : Int)
    (line otherLine : Bytes) {words : List Bytes} (agree : AgreeOn draft other words) :
    stop? (draft.statement number line words) =
      stop? (other.statement otherNumber otherLine words) := by
  rcases declare_alike agree with ⟨stop, here, there⟩ | ⟨labels, rest, here, there⟩
  · simp only [statement, here, there, stop?_error]
  · cases rest with
    | nil => simp only [statement, here, there, stop?_ok]
    | cons word operands =>
        simp only [statement, here, there]
        have labelled : (draft.labelled labels).equates.get? =
            (other.labelled labels).equates.get? := texts
        exact stop?_command labelled _ _ _ _ _ _

theorem stop?_equate (texts : draft.equates.get? = other.equates.get?) (words : List Bytes) :
    stop? (draft.equate words) = stop? (other.equate words) := by
  have contains : draft.equates.contains = other.equates.contains := by
    funext name
    rw [Table.contains, texts, Table.contains]
  unfold equate
  rw [contains]
  split
  · split
    · rfl
    · split
      · rfl
      · rfl
  · rfl

/-- Drafts whose equates stand for the same texts stop at the same words for the same reason, where
they agree on the labels among these words. -/
theorem stop?_addLine [Evaluator] (texts : draft.equates.get? = other.equates.get?)
    (number otherNumber : Int) {line otherLine : Bytes}
    (same : Source.words line = Source.words otherLine)
    (agree : ∀ words, Source.words line = .ok words →
      AgreeOn draft other (words.map draft.substitute)) :
    stop? (draft.addLine number line) = stop? (other.addLine otherNumber otherLine) := by
  unfold Draft.addLine
  rw [← same, ← substitute_of_texts texts]
  cases split : Source.words line with
  | error unfinished =>
      cases unfinished with
      | string => rfl
      | expression => rfl
  | ok words =>
      cases words with
      | nil => rfl
      | cons first rest =>
          simp only
          split
          · exact stop?_equate texts rest
          · exact stop?_statement texts _ _ _ _ (agree _ split)

end Words

end RegisterMachine.Assembler.Draft
