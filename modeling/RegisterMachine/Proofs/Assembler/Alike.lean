import RegisterMachine.Proofs.Assembler.Stops
import RegisterMachine.Proofs.Assembler.Transcript

/-! Drafts that lines do the same to. They may hold their equates in another order, and differ in what
their places tell about lines. -/

namespace RegisterMachine.Assembler

/-- Drafts whose equates stand for the same texts and whose places are the same in a view. -/
structure Draft.Alike {β : Type} (view : Opcode → β) (draft other : Draft) : Prop where
  texts : draft.equates.get? = other.equates.get?
  registers : draft.registers = other.registers
  labels : draft.labels = other.labels
  places : draft.opcodes.toList.map view = other.opcodes.toList.map view

/-- Drafts that are alike, or the same reason why there is none. -/
inductive AlikeResults {β : Type} (view : Opcode → β) :
    Except Stop Draft → Except Stop Draft → Prop
  | taken {draft other : Draft} (alike : draft.Alike view other) :
      AlikeResults view (.ok draft) (.ok other)
  | stopped (stop : Stop) : AlikeResults view (.error stop) (.error stop)

section Texts

variable {equates other : Table Bytes}

theorem denotes_of_texts [Evaluator] (texts : equates.get? = other.get?) :
    Denotes equates = Denotes other := by
  have values : (Draft.start equates).value = (Draft.start other).value :=
    Draft.value_of_texts texts
  funext word value
  rw [Denotes, values, Denotes]

theorem define_of_texts (texts : equates.get? = other.get?) (clause : Clause) :
    (clause.define equates).get? = (clause.define other).get? := by
  cases clause with
  | equate name text =>
      funext word
      rw [Clause.define, Clause.define, Table.get?_insert, Table.get?_insert, texts]
  | statement labels command => exact texts

/-- A line is read by its words and by the texts that equates stand for. -/
theorem Clause.Reads.of_texts [Evaluator] {line otherLine : Bytes} {clause : Clause}
    (reads : clause.Reads (Denotes equates) equates line) (texts : equates.get? = other.get?)
    (same : Source.words line = Source.words otherLine) :
    clause.Reads (Denotes other) other otherLine := by
  have replaces : replaced equates = replaced other := by
    funext word
    rw [replaced_eq, texts, ← replaced_eq]
  cases reads with
  | equate split identifier => exact .equate (same.symm.trans split) identifier
  | statement split ordinary leading identifiers phrase =>
      rw [replaces] at leading
      rw [denotes_of_texts texts] at phrase
      exact .statement (same.symm.trans split) ordinary leading identifiers phrase

end Texts

namespace Draft

variable {β : Type} {view : Opcode → β} {draft other : Draft}

theorem Alike.refl (draft : Draft) : draft.Alike view draft :=
  ⟨rfl, rfl, rfl, rfl⟩

theorem Alike.size (alike : draft.Alike view other) : draft.opcodes.size = other.opcodes.size := by
  have lengths := congrArg List.length alike.places
  simpa using lengths

theorem Alike.agreeOn (alike : draft.Alike view other) (words : List Bytes) :
    AgreeOn draft other words := by
  intro label _
  rw [alike.labels]

theorem Alike.admits (alike : draft.Alike view other) {clause : Clause}
    (admits : draft.Admits clause) : other.Admits clause := by
  cases clause with
  | equate name text => rwa [Admits, ← alike.texts]
  | statement labels command => rwa [Admits, HasRoom, ← alike.labels]

variable {number otherNumber : Int} {line otherLine : Bytes}

theorem Alike.after (alike : draft.Alike view other)
    (unseen : ∀ instruction, view ⟨number, line, instruction⟩ =
      view ⟨otherNumber, otherLine, instruction⟩) (clause : Clause) :
    (draft.after number line clause).Alike view (other.after otherNumber otherLine clause) where
  texts := by
    rw [equates_after, equates_after]
    exact define_of_texts alike.texts clause
  registers := by rw [registers_after, registers_after, alike.registers]
  labels := by rw [labels_after, labels_after, alike.labels, alike.size]
  places := by
    rw [opcodes_after, opcodes_after, List.map_append, List.map_append, alike.places,
      alike.registers, List.map_map, List.map_map]
    congr 1
    apply List.map_congr_left
    intro command _
    exact unseen _

variable [Evaluator]

/-- Words do the same to drafts that are alike, in lines that cannot be told apart. -/
theorem Alike.statement (alike : draft.Alike view other)
    (unseen : ∀ instruction, view ⟨number, line, instruction⟩ =
      view ⟨otherNumber, otherLine, instruction⟩) (words : List Bytes) :
    AlikeResults view (draft.statement number line words)
      (other.statement otherNumber otherLine words) := by
  have stops := stop?_statement alike.texts number otherNumber line otherLine (alike.agreeOn words)
  cases result : draft.statement number line words with
  | error stop =>
      rw [result, stop?_error] at stops
      rw [stop?_eq_some_iff.mp stops.symm]
      exact .stopped stop
  | ok next =>
      obtain ⟨labels, rest, command, split, identifiers, phrase, admitted, rfl⟩ :=
        statement_eq_ok_iff.mp result
      rw [denotes_of_texts alike.texts] at phrase
      have there : other.statement otherNumber otherLine words =
          .ok (other.after otherNumber otherLine (.statement labels command)) :=
        statement_eq_ok_iff.mpr ⟨labels, rest, command, split, identifiers, phrase,
          alike.admits admitted, rfl⟩
      rw [there]
      exact .taken (alike.after unseen _)

theorem Alike.addLine (alike : draft.Alike view other)
    (unseen : ∀ instruction, view ⟨number, line, instruction⟩ =
      view ⟨otherNumber, otherLine, instruction⟩)
    (same : Source.words line = Source.words otherLine) :
    AlikeResults view (draft.addLine number line) (other.addLine otherNumber otherLine) := by
  have stops := stop?_addLine alike.texts number otherNumber same fun words _ =>
    alike.agreeOn (words.map draft.substitute)
  cases result : draft.addLine number line with
  | error stop =>
      rw [result, stop?_error] at stops
      rw [stop?_eq_some_iff.mp stops.symm]
      exact .stopped stop
  | ok next =>
      obtain ⟨clause, reads, admitted, rfl⟩ := addLine_eq_ok_iff.mp result
      have there : other.addLine otherNumber otherLine =
          .ok (other.after otherNumber otherLine clause) :=
        addLine_eq_ok_iff.mpr ⟨clause, reads.of_texts alike.texts same, alike.admits admitted, rfl⟩
      rw [there]
      exact .taken (alike.after unseen clause)

end Draft

end RegisterMachine.Assembler
