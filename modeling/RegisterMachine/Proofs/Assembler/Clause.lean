import RegisterMachine.Proofs.Assembler.Command
import RegisterMachine.Proofs.Table

/-! The clauses of a source, one a line: an equate, or labels with perhaps a command behind them. A
draft takes a line exactly when the line is read as a clause that repeats no name, and what a clause
adds to a draft depends on nothing else. -/

namespace RegisterMachine.Assembler

/-- A label with the colon that declares it. -/
def declaration (label : Bytes) : Bytes :=
  label ++ [byte ':']

/-- What a word says where equates are in force. A string says what it is; any other word gives way to
the text that an equate has for it, and this text is not looked at again. -/
def replaced (equates : Table Bytes) (word : Bytes) : Bytes :=
  if word.head? = some (byte '"') then word
  else (equates.entries.find? fun entry => word == entry.1).elim word Prod.snd

theorem lookup_eq_find? (entries : List (Bytes × Bytes)) (word : Bytes) :
    entries.lookup word = (entries.find? fun entry => word == entry.1).map Prod.snd := by
  induction entries with
  | nil => rfl
  | cons entry rest induction =>
      rw [List.lookup_cons, List.find?_cons]
      cases word == entry.1 with
      | true => rfl
      | false => exact induction

theorem replaced_eq (equates : Table Bytes) (word : Bytes) :
    replaced equates word =
      if word.head? = some (byte '"') then word else (equates.get? word).getD word := by
  rw [replaced, Table.get?, lookup_eq_find?]
  cases equates.entries.find? fun entry => word == entry.1 with
  | none => rfl
  | some entry => rfl

theorem isQuoted_iff {word : Bytes} :
    Draft.isQuoted word = true ↔ word.head? = some (byte '"') := by
  cases word with
  | nil => simp [Draft.isQuoted]
  | cons b rest => simp [Draft.isQuoted]

/-- A draft replaces words by its equates. -/
theorem Draft.substitute_eq_replaced (draft : Draft) :
    draft.substitute = replaced draft.equates := by
  funext word
  simp only [substitute, replaced_eq, isQuoted_iff]

/-- What a line says. -/
inductive Clause where
  | equate (name text : Bytes)
  | statement (labels : List Bytes) (command : Option Command)
  deriving DecidableEq, Repr

namespace Clause

def labels : Clause → List Bytes
  | equate .. => []
  | statement labels _ => labels

def command? : Clause → Option Command
  | equate .. => none
  | statement _ command => command

/-- The equates in force behind a clause. -/
def define (equates : Table Bytes) : Clause → Table Bytes
  | equate name text => equates.insert name text
  | statement .. => equates

/-- The words behind the labels of a line: none, or a keyword with its operands. -/
inductive Phrase (literal : Bytes → Int32 → Prop) : List Bytes → Option Command → Prop
  | nothing : Phrase literal [] none
  | command {keyword : Keyword} {operands : List Bytes} {command : Command}
      (reads : Command.Reads literal keyword operands command) :
      Phrase literal (keyword.name :: operands) (some command)

/-- The clause that a line is read as where equates are in force. -/
inductive Reads (literal : Bytes → Int32 → Prop) (equates : Table Bytes) (line : Bytes) :
    Clause → Prop
  | equate {name text : Bytes}
      (split : Source.words line = .ok [Draft.equateWord, name, text])
      (identifier : Bytes.isIdentifier name = true) : Reads literal equates line (.equate name text)
  | statement {words labels rest : List Bytes} {command : Option Command}
      (split : Source.words line = .ok words)
      (ordinary : words.head? ≠ some Draft.equateWord)
      (leading : words.map (replaced equates) = labels.map declaration ++ rest)
      (identifiers : ∀ label ∈ labels, Bytes.isIdentifier label = true)
      (phrase : Phrase literal rest command) :
      Reads literal equates line (.statement labels command)

theorem Reads.mono {literal other : Bytes → Int32 → Prop} {equates : Table Bytes} {line : Bytes}
    {clause : Clause} (reads : Reads literal equates line clause)
    (implied : ∀ words, Source.words line = .ok words →
      ∀ word ∈ words.map (replaced equates), ∀ value,
        literal word value → other word value) :
    Reads other equates line clause := by
  cases reads with
  | equate split identifier => exact .equate split identifier
  | statement split ordinary leading identifiers phrase =>
      refine .statement split ordinary leading identifiers ?_
      cases phrase with
      | nothing => exact .nothing
      | command reads =>
          refine .command (reads.mono fun word member => implied _ split word ?_)
          rw [leading]
          exact List.mem_append_right _ (List.mem_cons_of_mem _ member)

end Clause

def declared (table : Table Int) (address : Int) (labels : List Bytes) : Table Int :=
  labels.foldl (fun table label => table.insert label address) table

theorem get?_declared (table : Table Int) (address : Int) (labels : List Bytes) (name : Bytes) :
    (declared table address labels).get? name =
      if name ∈ labels then some address else table.get? name := by
  induction labels generalizing table with
  | nil => rfl
  | cons label rest induction =>
      have step : declared table address (label :: rest) =
          declared (table.insert label address) address rest := rfl
      rw [step, induction, Table.get?_insert]
      by_cases later : name ∈ rest
      · simp [later]
      · by_cases same : name = label <;> simp [later, same]

namespace Draft

/-- The constants of expressions are the equates whose texts are numbers. -/
theorem get?_constants (draft : Draft) (name : Bytes) :
    draft.constants.get? name =
      (draft.equates.get? name).bind fun text => (Text.Decimal.read 64 text).toOption := by
  rw [← Table.get?_ofList_filterMap, constants]
  congr 3
  funext entry
  cases Text.Decimal.read 64 entry.2 with
  | error refusal => rfl
  | ok n => rfl

/-- Whether no label of a list is declared twice, or by the draft already. -/
def HasRoom (draft : Draft) (labels : List Bytes) : Prop :=
  labels.Nodup ∧ ∀ label ∈ labels, draft.labels.get? label = none

/-- Whether a clause gives no name a second meaning. -/
def Admits (draft : Draft) : Clause → Prop
  | .equate name _ => draft.equates.get? name = none
  | .statement labels _ => draft.HasRoom labels

theorem admits_iff {draft : Draft} {clause : Clause} :
    draft.Admits clause ↔
      (∀ name text, clause = .equate name text → draft.equates.get? name = none) ∧
        draft.HasRoom clause.labels := by
  cases clause <;> simp [Admits, HasRoom, Clause.labels]

def labelled (draft : Draft) (labels : List Bytes) : Draft :=
  { draft with labels := declared draft.labels draft.opcodes.size labels }

def extended (draft : Draft) (lineNumber : Int) (line : Bytes) (command : Command) : Draft :=
  { draft with
    registers := interned draft.registers command.names
    opcodes := draft.opcodes.push
      { lineNumber, line,
        instruction := some (command.resolve (interned draft.registers command.names)) } }

def after (draft : Draft) (lineNumber : Int) (line : Bytes) : Clause → Draft
  | .equate name text => { draft with equates := draft.equates.insert name text }
  | .statement labels none => draft.labelled labels
  | .statement labels (some command) => (draft.labelled labels).extended lineNumber line command

@[simp] theorem equates_after (draft : Draft) (lineNumber : Int) (line : Bytes)
    (clause : Clause) :
    (draft.after lineNumber line clause).equates = clause.define draft.equates := by
  match clause with
  | .equate name text => rfl
  | .statement labels none => rfl
  | .statement labels (some command) => rfl

theorem isDeclaration_declaration (label : Bytes) : isDeclaration (declaration label) = true := by
  simp [isDeclaration, declaration]

theorem dropLast_declaration (label : Bytes) : (declaration label).dropLast = label := by
  simp [declaration]

theorem eq_declaration {word : Bytes} (ends : isDeclaration word = true) :
    word = declaration word.dropLast := by
  simp only [isDeclaration, beq_iff_eq] at ends
  obtain ⟨front, rfl⟩ := List.getLast?_eq_some_iff.mp ends
  simp [declaration]

theorem isDeclaration_name (keyword : Keyword) : isDeclaration keyword.name = false := by
  cases keyword <;> decide

theorem isDeclaration_of_phrase {literal : Bytes → Int32 → Prop} {rest : List Bytes}
    {command : Option Command} (phrase : Clause.Phrase literal rest command) {word : Bytes}
    (first : rest.head? = some word) : isDeclaration word = false := by
  cases phrase with
  | nothing => cases first
  | command reads =>
      obtain rfl := Option.some.inj first
      exact isDeclaration_name _

theorem declare_of_not_isDeclaration (draft : Draft) {words : List Bytes}
    (ordinary : ∀ word, words.head? = some word → isDeclaration word = false) :
    draft.declare words = .ok (draft, words) := by
  cases words with
  | nil => rfl
  | cons word rest =>
      have ends := ordinary word rfl
      simp only [declare, ends, Bool.false_eq_true, ↓reduceIte]

theorem declare_labels {labels rest : List Bytes} (draft : Draft)
    (identifiers : ∀ label ∈ labels, Bytes.isIdentifier label = true)
    (nodup : labels.Nodup) (fresh : ∀ label ∈ labels, draft.labels.get? label = none)
    (ordinary : ∀ word, rest.head? = some word → isDeclaration word = false) :
    draft.declare (labels.map declaration ++ rest) = .ok (draft.labelled labels, rest) := by
  induction labels generalizing draft with
  | nil => exact declare_of_not_isDeclaration draft ordinary
  | cons label others induction =>
      obtain ⟨notAgain, othersNodup⟩ := List.nodup_cons.mp nodup
      have free := fresh label List.mem_cons_self
      have stillFresh : ∀ other ∈ others,
          (draft.labels.insert label draft.opcodes.size).get? other = none := by
        intro other member
        have different : other ≠ label := fun same => notAgain (same ▸ member)
        rw [Table.get?_insert_of_ne _ _ different]
        exact fresh other (List.mem_cons_of_mem label member)
      simp only [List.map_cons, List.cons_append, declare, isDeclaration_declaration, ↓reduceIte,
        dropLast_declaration, identifiers label List.mem_cons_self, Bool.not_true,
        Bool.false_eq_true, Table.contains_eq_false_iff.mpr free]
      exact induction _ (fun other member => identifiers other (List.mem_cons_of_mem label member))
        othersNodup stillFresh

theorem labels_of_declare {words rest : List Bytes} {draft next : Draft}
    (accepted : draft.declare words = .ok (next, rest)) :
    ∃ labels, words = labels.map declaration ++ rest ∧
      (∀ label ∈ labels, Bytes.isIdentifier label = true) ∧
      labels.Nodup ∧ (∀ label ∈ labels, draft.labels.get? label = none) ∧
      next = draft.labelled labels := by
  induction words generalizing draft with
  | nil =>
      obtain ⟨rfl, rfl⟩ := Prod.mk.inj (Except.ok.inj accepted)
      exact ⟨[], rfl, by simp, by simp, by simp, rfl⟩
  | cons word others induction =>
      simp only [declare] at accepted
      split at accepted
      · rename_i ends
        split at accepted
        · cases accepted
        split at accepted
        · cases accepted
        rename_i identifier repeated
        obtain ⟨labels, split, identifiers, nodup, fresh, rfl⟩ := induction accepted
        have free : draft.labels.get? word.dropLast = none := by
          simpa [Table.contains_eq_false_iff] using repeated
        have notAgain : word.dropLast ∉ labels := by
          intro member
          have taken := fresh _ member
          rw [Table.get?_insert_self] at taken
          contradiction
        refine ⟨word.dropLast :: labels, ?_, ?_, ?_, ?_, rfl⟩
        · rw [List.map_cons, List.cons_append, ← split, ← eq_declaration ends]
        · intro label member
          rcases List.mem_cons.mp member with rfl | later
          · simpa using identifier
          · exact identifiers label later
        · exact List.nodup_cons.mpr ⟨notAgain, nodup⟩
        · intro label member
          rcases List.mem_cons.mp member with rfl | later
          · exact free
          · have different : label ≠ word.dropLast := fun same => notAgain (same ▸ later)
            rw [← Table.get?_insert_of_ne draft.labels (draft.opcodes.size : Int) different]
            exact fresh label later
      · obtain ⟨rfl, rfl⟩ := Prod.mk.inj (Except.ok.inj accepted)
        exact ⟨[], rfl, by simp, by simp, by simp, rfl⟩

theorem command_eq_ok_iff [Evaluator] {draft next : Draft} {lineNumber : Int} {line word : Bytes}
    {operands : List Bytes} :
    draft.command lineNumber line word operands = .ok next ↔
      ∃ command, Clause.Phrase (Denotes draft.equates) (word :: operands) (some command) ∧
        next = draft.extended lineNumber line command := by
  constructor
  · intro accepted
    unfold Draft.command at accepted
    split at accepted
    · cases accepted
    · rename_i keyword found
      obtain ⟨⟨known, instruction⟩, read, built⟩ := bind_eq_ok_iff.mp accepted
      obtain ⟨command, reads, rfl, rfl⟩ := reads_of_instruction read
      obtain rfl := Except.ok.inj built
      refine ⟨command, ?_, rfl⟩
      rw [← Keyword.name_of_ofName? found]
      exact .command reads
  · rintro ⟨command, phrase, rfl⟩
    cases phrase with
    | command reads =>
        simp only [Draft.command, Keyword.ofName?_name]
        exact bind_eq_ok_iff.mpr ⟨_, instruction_of_reads reads, rfl⟩

theorem statement_eq_ok_iff [Evaluator] {draft next : Draft} {lineNumber : Int} {line : Bytes}
    {words : List Bytes} :
    draft.statement lineNumber line words = .ok next ↔
      ∃ labels rest command, words = labels.map declaration ++ rest ∧
        (∀ label ∈ labels, Bytes.isIdentifier label = true) ∧
        Clause.Phrase (Denotes draft.equates) rest command ∧
        draft.Admits (.statement labels command) ∧
        next = draft.after lineNumber line (.statement labels command) := by
  constructor
  · intro accepted
    unfold Draft.statement at accepted
    split at accepted
    · cases accepted
    · rename_i labelled found
      obtain ⟨labels, split, identifiers, nodup, fresh, rfl⟩ := labels_of_declare found
      obtain rfl := Except.ok.inj accepted
      exact ⟨labels, [], none, split, identifiers, .nothing, ⟨nodup, fresh⟩, rfl⟩
    · rename_i labelled word rest found
      obtain ⟨labels, split, identifiers, nodup, fresh, rfl⟩ := labels_of_declare found
      obtain ⟨command, phrase, rfl⟩ := command_eq_ok_iff.mp accepted
      exact ⟨labels, word :: rest, some command, split, identifiers, phrase, ⟨nodup, fresh⟩, rfl⟩
  · rintro ⟨labels, rest, command, rfl, identifiers, phrase, ⟨nodup, fresh⟩, rfl⟩
    have found := declare_labels draft identifiers nodup fresh
      fun word => isDeclaration_of_phrase phrase
    cases phrase with
    | nothing =>
        simp only [Draft.statement, found]
        rfl
    | command reads =>
        simp only [Draft.statement, found]
        exact command_eq_ok_iff.mpr ⟨_, .command reads, rfl⟩

theorem equate_eq_ok_iff {draft next : Draft} {words : List Bytes} :
    draft.equate words = .ok next ↔
      ∃ name text, words = [name, text] ∧ Bytes.isIdentifier name = true ∧
        draft.Admits (.equate name text) ∧
        next = { draft with equates := draft.equates.insert name text } := by
  constructor
  · intro accepted
    unfold Draft.equate at accepted
    split at accepted
    · rename_i name text
      split at accepted
      · cases accepted
      split at accepted
      · cases accepted
      rename_i identifier repeated
      obtain rfl := Except.ok.inj accepted
      refine ⟨name, text, rfl, by simpa using identifier, ?_, rfl⟩
      simpa [Admits, Table.contains_eq_false_iff] using repeated
    · cases accepted
  · rintro ⟨name, text, rfl, identifier, fresh, rfl⟩
    simp only [Draft.equate, identifier, Bool.not_true, Bool.false_eq_true, ↓reduceIte,
      Table.contains_eq_false_iff.mpr fresh]

/-- A draft takes a line exactly when it is read as a clause that the draft admits. -/
theorem addLine_eq_ok_iff [Evaluator] {draft next : Draft} {lineNumber : Int} {line : Bytes} :
    draft.addLine lineNumber line = .ok next ↔
      ∃ clause, Clause.Reads (Denotes draft.equates) draft.equates line clause ∧
        draft.Admits clause ∧ next = draft.after lineNumber line clause := by
  constructor
  · intro accepted
    unfold Draft.addLine at accepted
    split at accepted
    · cases accepted
    · cases accepted
    · rename_i split
      obtain rfl := Except.ok.inj accepted
      refine ⟨.statement [] none, .statement split (by simp) rfl (by simp) .nothing, ?_, rfl⟩
      simp [Admits, HasRoom]
    · rename_i first rest split
      split at accepted
      · rename_i same
        subst same
        obtain ⟨name, text, rfl, identifier, fresh, rfl⟩ := equate_eq_ok_iff.mp accepted
        exact ⟨.equate name text, .equate split identifier, fresh, rfl⟩
      · rename_i different
        obtain ⟨labels, words, command, leading, identifiers, phrase, admitted, rfl⟩ :=
          statement_eq_ok_iff.mp accepted
        rw [substitute_eq_replaced] at leading
        have ordinary : (first :: rest).head? ≠ some equateWord := by simpa using different
        exact ⟨.statement labels command,
          .statement split ordinary leading identifiers phrase, admitted, rfl⟩
  · rintro ⟨clause, reads, admitted, rfl⟩
    cases reads with
    | equate split identifier =>
        simp only [Draft.addLine, split, ↓reduceIte]
        exact equate_eq_ok_iff.mpr ⟨_, _, rfl, identifier, admitted, rfl⟩
    | statement split ordinary leading identifiers phrase =>
        rename_i words labels rest command
        cases words with
        | nil =>
            obtain ⟨rfl, rfl⟩ : labels = [] ∧ rest = [] := by simpa using leading
            cases phrase with
            | nothing => simp only [Draft.addLine, split]; rfl
        | cons first others =>
            have different : first ≠ equateWord := by simpa using ordinary
            simp only [Draft.addLine, split, different, ↓reduceIte, substitute_eq_replaced]
            exact statement_eq_ok_iff.mpr
              ⟨labels, rest, command, leading, identifiers, phrase, admitted, rfl⟩

end Draft

end RegisterMachine.Assembler
