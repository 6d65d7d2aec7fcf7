import Mathlib.Data.List.Basic
import Mathlib.Data.List.Induction
import RegisterMachine.Assembler.Draft
import RegisterMachine.Proofs.Text.Decimal

/-! Commands with their registers by name, and the words they are read from. A draft makes an
instruction of exactly the words that are read as a command, and numbers the registers of the command
behind those it knows. -/

namespace RegisterMachine.Assembler

theorem bind_eq_ok_iff {ε α β : Type} {first : Except ε α} {next : α → Except ε β} {result : β} :
    (first >>= next) = .ok result ↔ ∃ value, first = .ok value ∧ next value = .ok result := by
  cases first <;> simp [Bind.bind, Except.bind]

theorem exists_of_isOk {ε α : Type} {result : Except ε α} (isOk : result.isOk = true) :
    ∃ value, result = .ok value := by
  cases result with
  | error problem => cases isOk
  | ok value => exact ⟨value, rfl⟩

theorem exists_of_toOption {ε α β : Type} {result : Except ε α} {view : α → β} {seen : β}
    (looked : result.toOption.map view = some seen) :
    ∃ value, result = .ok value ∧ view value = seen := by
  cases result with
  | error problem => cases looked
  | ok value => exact ⟨value, rfl, Option.some.inj looked⟩

/-- A command whose registers still have their names. -/
inductive Command where
  | bare (keyword : Keyword)
  | register (keyword : Keyword) (name : Bytes)
  | number (keyword : Keyword) (value : Int32)
  | text (keyword : Keyword) (text : Bytes)
  | label (keyword : Keyword) (label : Bytes)
  | registers (keyword : Keyword) (target source : Bytes)
  | registerNumber (keyword : Keyword) (target : Bytes) (value : Int32)
  | registerLabel (keyword : Keyword) (counter label : Bytes)
  deriving DecidableEq, Repr

namespace Command

def keyword : Command → Keyword
  | bare keyword | register keyword _ | number keyword _ | text keyword _ | label keyword _
  | registers keyword _ _ | registerNumber keyword _ _ | registerLabel keyword _ _ => keyword

/-- The registers a command names, in the order it names them. -/
def names : Command → List Bytes
  | register _ name => [name]
  | registers _ target source => [target, source]
  | registerNumber _ target _ => [target]
  | registerLabel _ counter _ => [counter]
  | bare .. | number .. | text .. | label .. => []

def target? : Command → Option Bytes
  | label _ name | registerLabel _ _ name => some name
  | _ => none

/-- The instruction of a command where registers are numbered by their place in a list. -/
def resolve (known : List Bytes) : Command → Instruction
  | bare keyword => .bare (.known keyword)
  | register keyword name => .register (.known keyword) (known.idxOf name)
  | number keyword value => .number (.known keyword) value
  | text keyword content => .text (.known keyword) content
  | label keyword name => .label (.known keyword) name
  | registers keyword target source =>
      .registers (.known keyword) (known.idxOf target) (known.idxOf source)
  | registerNumber keyword target value =>
      .registerNumber (.known keyword) (known.idxOf target) value
  | registerLabel keyword counter name =>
      .registerLabel (.known keyword) (known.idxOf counter) name

/-- The operands that a keyword takes by its category, and the command they make up with it. What
stands for a number is left open. -/
inductive Reads (literal : Bytes → Int32 → Prop) : Keyword → List Bytes → Command → Prop
  | bare {keyword : Keyword} (category : keyword.category = .none) :
      Reads literal keyword [] (.bare keyword)
  | register {keyword : Keyword} {name : Bytes}
      (category : keyword.category = .register ∨ keyword.category = .registerOrNumber ∨
        keyword.category = .registerOrText)
      (identifier : Bytes.isIdentifier name = true) :
      Reads literal keyword [name] (.register keyword name)
  | number {keyword : Keyword} {word : Bytes} {value : Int32}
      (category : keyword.category = .registerOrNumber) (stands : literal word value) :
      Reads literal keyword [word] (.number keyword value)
  | text {keyword : Keyword} {word text : Bytes}
      (category : keyword.category = .registerOrText) (quoted : Draft.isQuoted word = true)
      (stands : Text.unquote? word = some text) :
      Reads literal keyword [word] (.text keyword text)
  | label {keyword : Keyword} {name : Bytes} (category : keyword.category = .label)
      (identifier : Bytes.isIdentifier name = true) :
      Reads literal keyword [name] (.label keyword name)
  | registers {keyword : Keyword} {target source : Bytes}
      (category : keyword.category = .registerAndValue)
      (identifier : Bytes.isIdentifier target = true)
      (sourceIdentifier : Bytes.isIdentifier source = true) :
      Reads literal keyword [target, source] (.registers keyword target source)
  | registerNumber {keyword : Keyword} {target word : Bytes} {value : Int32}
      (category : keyword.category = .registerAndValue)
      (identifier : Bytes.isIdentifier target = true) (stands : literal word value) :
      Reads literal keyword [target, word] (.registerNumber keyword target value)
  | registerLabel {keyword : Keyword} {counter label : Bytes}
      (category : keyword.category = .registerAndLabel)
      (identifier : Bytes.isIdentifier counter = true)
      (labelIdentifier : Bytes.isIdentifier label = true) :
      Reads literal keyword [counter, label] (.registerLabel keyword counter label)

theorem Reads.mono {literal other : Bytes → Int32 → Prop} {keyword : Keyword}
    {operands : List Bytes} {command : Command} (reads : Reads literal keyword operands command)
    (implied : ∀ word ∈ operands, ∀ value, literal word value → other word value) :
    Reads other keyword operands command := by
  cases reads with
  | bare category => exact .bare category
  | register category identifier => exact .register category identifier
  | number category stands => exact .number category (implied _ (by simp) _ stands)
  | text category quoted stands => exact .text category quoted stands
  | label category identifier => exact .label category identifier
  | registers category identifier source => exact .registers category identifier source
  | registerNumber category identifier stands =>
      exact .registerNumber category identifier (implied _ (by simp) _ stands)
  | registerLabel category identifier label => exact .registerLabel category identifier label

end Command

/-- The registers of a list with the names that are new to it behind them. -/
def interned (known names : List Bytes) : List Bytes :=
  names.foldl (fun known name => if name ∈ known then known else known ++ [name]) known

@[simp] theorem interned_nil (known : List Bytes) : interned known [] = known := rfl

theorem interned_append (known first second : List Bytes) :
    interned known (first ++ second) = interned (interned known first) second :=
  List.foldl_append

theorem interned_cons (known : List Bytes) (name : Bytes) (rest : List Bytes) :
    interned known (name :: rest) = interned (interned known [name]) rest := rfl

theorem interned_singleton (known : List Bytes) (name : Bytes) :
    interned known [name] = if name ∈ known then known else known ++ [name] := rfl

theorem prefix_interned (known names : List Bytes) : known <+: interned known names := by
  induction names generalizing known with
  | nil => exact List.prefix_rfl
  | cons name rest induction =>
      have step : known <+: interned known [name] := by
        rw [interned_singleton]
        split
        · exact List.prefix_rfl
        · exact List.prefix_append known [name]
      exact step.trans (induction (interned known [name]))

theorem mem_interned {known names : List Bytes} {name : Bytes} :
    name ∈ interned known names ↔ name ∈ known ∨ name ∈ names := by
  induction names generalizing known with
  | nil => simp
  | cons first rest induction =>
      rw [interned_cons, induction, interned_singleton]
      split
      · rename_i member
        constructor
        · rintro (inKnown | inRest)
          · exact .inl inKnown
          · exact .inr (List.mem_cons_of_mem first inRest)
        · rintro (inKnown | inNames)
          · exact .inl inKnown
          · rcases List.mem_cons.mp inNames with rfl | inRest
            · exact .inl member
            · exact .inr inRest
      · simp [or_assoc]

theorem nodup_interned {known : List Bytes} (nodup : known.Nodup) (names : List Bytes) :
    (interned known names).Nodup := by
  induction names generalizing known with
  | nil => exact nodup
  | cons name rest induction =>
      rw [interned_cons, interned_singleton]
      apply induction
      split
      · exact nodup
      · rename_i absent
        rw [List.nodup_append]
        refine ⟨nodup, by simp, ?_⟩
        intro other inKnown new isName same
        rw [List.mem_singleton] at isName
        exact absent (isName ▸ same ▸ inKnown)

/-- Names that are interned into nothing stand in the order of their first occurrence. -/
theorem interned_nil_eq_eraseDups (names : List Bytes) : interned [] names = names.eraseDups := by
  induction names using List.reverseRecOn with
  | nil => rfl
  | append_singleton front name induction =>
      rw [interned_append, induction, interned_singleton, List.eraseDups_append]
      by_cases member : name ∈ front
      · simp [member, List.removeAll]
      · simp [member, List.removeAll, List.eraseDups_cons]

theorem idxOf_of_prefix {known others : List Bytes} (longer : known <+: others) {name : Bytes}
    (member : name ∈ known) : others.idxOf name = known.idxOf name := by
  obtain ⟨rest, rfl⟩ := longer
  exact List.idxOf_append_of_mem member

/-- The second of two names may be new, which does not move the first. -/
theorem idxOf_interned_pair (known : List Bytes) (first second : Bytes) :
    (interned known [first, second]).idxOf first = (interned known [first]).idxOf first :=
  idxOf_of_prefix (prefix_interned (interned known [first]) [second])
    (mem_interned.mpr (.inr (List.mem_singleton.mpr rfl)))

namespace Command

/-- More registers behind those that are known do not change an instruction. -/
theorem resolve_of_prefix {known others : List Bytes} (longer : known <+: others)
    {command : Command} (member : ∀ name ∈ command.names, name ∈ known) :
    command.resolve others = command.resolve known := by
  cases command with
  | register keyword name =>
      simp only [resolve, idxOf_of_prefix longer (member name (by simp [names]))]
  | registers keyword target source =>
      simp only [resolve, idxOf_of_prefix longer (member target (by simp [names])),
        idxOf_of_prefix longer (member source (by simp [names]))]
  | registerNumber keyword target value =>
      simp only [resolve, idxOf_of_prefix longer (member target (by simp [names]))]
  | registerLabel keyword counter label =>
      simp only [resolve, idxOf_of_prefix longer (member counter (by simp [names]))]
  | _ => rfl

theorem resolve_target? (known : List Bytes) (command : Command) :
    (command.resolve known).target? = command.target? := by
  cases command <;> rfl

end Command

/-- A word that is taken for a number, and the number it comes to where equates are in force. -/
def Denotes [Evaluator] (equates : Table Bytes) (word : Bytes) (value : Int32) : Prop :=
  Draft.isLiteral word = true ∧ (Draft.start equates).value word = .ok value

namespace Draft

theorem not_isDigit_of_isIdentifierStart {b : UInt8} (start : Bytes.isIdentifierStart b = true) :
    Bytes.isDigit b = false ∧ b ≠ byte '-' ∧ b ≠ byte '+' ∧ b ≠ byte '$' ∧ b ≠ byte '"' := by
  have all : ∀ n < 256, Bytes.isIdentifierStart n.toUInt8 = true →
      Bytes.isDigit n.toUInt8 = false ∧ n.toUInt8 ≠ byte '-' ∧ n.toUInt8 ≠ byte '+' ∧
        n.toUInt8 ≠ byte '$' ∧ n.toUInt8 ≠ byte '"' := by
    decide +kernel
  have found := all b.toNat b.toNat_lt
  simp only [Nat.toUInt8, UInt8.ofNat_toNat] at found
  exact found start

theorem isLiteral_of_isIdentifier {word : Bytes} (identifier : Bytes.isIdentifier word = true) :
    isLiteral word = false := by
  cases word with
  | nil => simp [Bytes.isIdentifier] at identifier
  | cons first rest =>
      simp only [Bytes.isIdentifier, Bool.and_eq_true] at identifier
      obtain ⟨digit, minus, plus, dollar, _⟩ := not_isDigit_of_isIdentifierStart identifier.1
      have unmarked : Source.startsExpression (first :: rest) = false := by
        cases rest <;> simp [Source.startsExpression, dollar]
      cases found : Text.Decimal.read 32 (first :: rest) with
      | error refusal => simp [isLiteral, unmarked, found, Except.isOk, Except.toBool]
      | ok n =>
          have numeral := ((Text.Decimal.read_eq_ok_iff (by decide)).mp found).1
          rcases numeral.digit_or_sign List.mem_cons_self with isDigit | isPlus | isMinus
          · rw [digit] at isDigit
            contradiction
          · exact absurd isPlus plus
          · exact absurd isMinus minus

theorem isQuoted_of_isIdentifier {word : Bytes} (identifier : Bytes.isIdentifier word = true) :
    isQuoted word = false := by
  cases word with
  | nil => rfl
  | cons first rest =>
      simp only [Bytes.isIdentifier, Bool.and_eq_true] at identifier
      obtain ⟨_, _, _, _, quote⟩ := not_isDigit_of_isIdentifierStart identifier.1
      simpa [isQuoted] using quote

theorem intern_eq (draft : Draft) (name : Bytes) :
    draft.intern name =
      ({ draft with registers := interned draft.registers [name] },
        ((interned draft.registers [name]).idxOf name : Int)) := by
  rw [interned_singleton, intern]
  by_cases member : name ∈ draft.registers
  · rw [if_pos member]
    cases found : draft.registers.idxOf? name with
    | none => exact absurd member (List.idxOf?_eq_none_iff.mp found)
    | some index =>
        have place : draft.registers.idxOf name = index := by
          rw [List.idxOf_eq_getD_idxOf?, found]
          rfl
        rw [place]
  · rw [if_neg member, List.idxOf?_eq_none_iff.mpr member,
      List.idxOf_append_of_notMem member]
    simp

theorem register_eq_ok_iff {draft next : Draft} {word : Bytes} {index : Int} :
    draft.register word = .ok (next, index) ↔
      Bytes.isIdentifier word = true ∧
        next = { draft with registers := interned draft.registers [word] } ∧
        index = next.registers.idxOf word := by
  unfold register
  split
  · rename_i identifier
    rw [intern_eq]
    constructor
    · rintro ⟨⟩
      exact ⟨identifier, rfl, rfl⟩
    · rintro ⟨_, rfl, rfl⟩
      rfl
  · rename_i identifier
    simp [identifier]

theorem target_eq_ok_iff {word label : Bytes} :
    target word = .ok label ↔ Bytes.isIdentifier word = true ∧ label = word := by
  unfold target
  split
  · rename_i identifier
    simp [identifier, eq_comm]
  · rename_i identifier
    simp [identifier]

/-- A command of one register, as the categories that take one have it. -/
theorem register_then_eq_ok_iff {draft next : Draft} {word : Bytes} {instruction : Instruction}
    {build : Int → Instruction} :
    (do
      let (draft, register) ← draft.register word
      return (draft, build register) : Except Stop (Draft × Instruction)) =
        .ok (next, instruction) ↔
      Bytes.isIdentifier word = true ∧
        next = { draft with registers := interned draft.registers [word] } ∧
        instruction = build (next.registers.idxOf word) := by
  rw [bind_eq_ok_iff]
  constructor
  · rintro ⟨⟨interned, index⟩, found, built⟩
    obtain ⟨identifier, rfl, rfl⟩ := register_eq_ok_iff.mp found
    obtain ⟨rfl, rfl⟩ := Prod.mk.inj (Except.ok.inj built)
    exact ⟨identifier, rfl, rfl⟩
  · rintro ⟨identifier, rfl, rfl⟩
    exact ⟨_, register_eq_ok_iff.mpr ⟨identifier, rfl, rfl⟩, rfl⟩

variable [Evaluator]

theorem reads_of_instruction {draft next : Draft} {keyword : Keyword} {operands : List Bytes}
    {instruction : Instruction}
    (accepted : draft.instruction keyword operands = .ok (next, instruction)) :
    ∃ command, Command.Reads (Denotes draft.equates) keyword operands command ∧
      next = { draft with registers := interned draft.registers command.names } ∧
      instruction = command.resolve next.registers := by
  unfold Draft.instruction at accepted
  simp only at accepted
  split at accepted
  · rename_i category
    obtain ⟨rfl, rfl⟩ := Prod.mk.inj (Except.ok.inj accepted)
    exact ⟨.bare keyword, .bare category, rfl, rfl⟩
  · rename_i word category
    obtain ⟨identifier, rfl, rfl⟩ := register_then_eq_ok_iff.mp accepted
    exact ⟨.register keyword word, .register (.inl category) identifier, rfl, rfl⟩
  · rename_i word category
    split at accepted
    · rename_i literal
      obtain ⟨value, found, built⟩ := bind_eq_ok_iff.mp accepted
      obtain ⟨rfl, rfl⟩ := Prod.mk.inj (Except.ok.inj built)
      exact ⟨.number keyword value, .number category ⟨literal, found⟩, rfl, rfl⟩
    · obtain ⟨identifier, rfl, rfl⟩ := register_then_eq_ok_iff.mp accepted
      exact ⟨.register keyword word, .register (.inr (.inl category)) identifier, rfl, rfl⟩
  · rename_i word category
    split at accepted
    · rename_i quoted
      split at accepted
      · rename_i text found
        obtain ⟨rfl, rfl⟩ := Prod.mk.inj (Except.ok.inj accepted)
        exact ⟨.text keyword text, .text category quoted found, rfl, rfl⟩
      · cases accepted
    · obtain ⟨identifier, rfl, rfl⟩ := register_then_eq_ok_iff.mp accepted
      exact ⟨.register keyword word, .register (.inr (.inr category)) identifier, rfl, rfl⟩
  · rename_i word category
    obtain ⟨label, found, built⟩ := bind_eq_ok_iff.mp accepted
    obtain ⟨identifier, rfl⟩ := target_eq_ok_iff.mp found
    obtain ⟨rfl, rfl⟩ := Prod.mk.inj (Except.ok.inj built)
    exact ⟨.label keyword label, .label category identifier, rfl, rfl⟩
  · rename_i first second category
    obtain ⟨⟨known, index⟩, found, rest⟩ := bind_eq_ok_iff.mp accepted
    obtain ⟨identifier, rfl, rfl⟩ := register_eq_ok_iff.mp found
    simp only at rest
    split at rest
    · rename_i literal
      obtain ⟨value, stands, built⟩ := bind_eq_ok_iff.mp rest
      obtain ⟨rfl, rfl⟩ := Prod.mk.inj (Except.ok.inj built)
      exact ⟨.registerNumber keyword first value,
        .registerNumber category identifier ⟨literal, stands⟩, rfl, rfl⟩
    · obtain ⟨sourceIdentifier, rfl, rfl⟩ := register_then_eq_ok_iff.mp rest
      refine ⟨.registers keyword first second,
        .registers category identifier sourceIdentifier, rfl, ?_⟩
      rw [← idxOf_interned_pair]
      rfl
  · rename_i first second category
    obtain ⟨⟨known, index⟩, found, rest⟩ := bind_eq_ok_iff.mp accepted
    obtain ⟨identifier, rfl, rfl⟩ := register_eq_ok_iff.mp found
    obtain ⟨label, labelFound, built⟩ := bind_eq_ok_iff.mp rest
    obtain ⟨labelIdentifier, rfl⟩ := target_eq_ok_iff.mp labelFound
    obtain ⟨rfl, rfl⟩ := Prod.mk.inj (Except.ok.inj built)
    exact ⟨.registerLabel keyword first label,
      .registerLabel category identifier labelIdentifier, rfl, rfl⟩
  · split at accepted <;> cases accepted

theorem instruction_of_reads {draft : Draft} {keyword : Keyword} {operands : List Bytes}
    {command : Command} (reads : Command.Reads (Denotes draft.equates) keyword operands command) :
    draft.instruction keyword operands =
      .ok ({ draft with registers := interned draft.registers command.names },
        command.resolve (interned draft.registers command.names)) := by
  cases reads with
  | bare category => simp only [Draft.instruction, category]; rfl
  | register category identifier =>
      rcases category with category | category | category
      · simp only [Draft.instruction, category]
        exact register_then_eq_ok_iff.mpr ⟨identifier, rfl, rfl⟩
      · simp only [Draft.instruction, category, isLiteral_of_isIdentifier identifier]
        exact register_then_eq_ok_iff.mpr ⟨identifier, rfl, rfl⟩
      · simp only [Draft.instruction, category, isQuoted_of_isIdentifier identifier]
        exact register_then_eq_ok_iff.mpr ⟨identifier, rfl, rfl⟩
  | number category stands =>
      simp only [Draft.instruction, category, stands.1, ↓reduceIte]
      exact bind_eq_ok_iff.mpr ⟨_, stands.2, rfl⟩
  | text category quoted stands =>
      simp only [Draft.instruction, category, quoted, ↓reduceIte, stands]
      rfl
  | label category identifier =>
      simp only [Draft.instruction, category]
      exact bind_eq_ok_iff.mpr ⟨_, target_eq_ok_iff.mpr ⟨identifier, rfl⟩, rfl⟩
  | registers category identifier sourceIdentifier =>
      rename_i first second
      simp only [Draft.instruction, category]
      refine bind_eq_ok_iff.mpr ⟨_, register_eq_ok_iff.mpr ⟨identifier, rfl, rfl⟩, ?_⟩
      simp only [isLiteral_of_isIdentifier sourceIdentifier, Bool.false_eq_true, ↓reduceIte]
      refine register_then_eq_ok_iff.mpr ⟨sourceIdentifier, rfl, ?_⟩
      rw [← idxOf_interned_pair]
      rfl
  | registerNumber category identifier stands =>
      simp only [Draft.instruction, category]
      refine bind_eq_ok_iff.mpr ⟨_, register_eq_ok_iff.mpr ⟨identifier, rfl, rfl⟩, ?_⟩
      simp only [stands.1, ↓reduceIte]
      exact bind_eq_ok_iff.mpr ⟨_, stands.2, rfl⟩
  | registerLabel category identifier labelIdentifier =>
      simp only [Draft.instruction, category]
      refine bind_eq_ok_iff.mpr ⟨_, register_eq_ok_iff.mpr ⟨identifier, rfl, rfl⟩, ?_⟩
      exact bind_eq_ok_iff.mpr ⟨_, target_eq_ok_iff.mpr ⟨labelIdentifier, rfl⟩, rfl⟩

end Draft

end RegisterMachine.Assembler
