import RegisterMachine.Proofs.Machine.InstructionTable

/-! What a fault leaves behind. An instruction at fault has changed nothing but the console, unless it
is a call or a loop whose label is missing: those look for it only after they have pushed or counted. -/

namespace RegisterMachine.Machine

section Faults

variable {machine after : Machine} {instruction : Instruction}

theorem jumpIf_of_missing {label : Bytes} (missing : machine.address? label = none) :
    machine.jumpIf true label = (machine, .error (.labelMissing label)) := by
  rw [address?] at missing
  simp only [jumpIf, missing, ↓reduceIte]
  rfl

theorem Torn.perform (torn : machine.Torn instruction after) :
    ∃ label, machine.perform instruction = (after, .error (.labelMissing label)) := by
  cases torn with
  | @call label room missing =>
      refine ⟨label, ?_⟩
      simp only [Machine.perform, push, room, Bool.false_eq_true, ↓reduceIte, proceed]
      apply jumpIf_of_missing
      exact missing
  | @loop counter value label found positive missing =>
      refine ⟨label, ?_⟩
      simp only [Machine.perform, withRegister, found, ↓reduceIte, positive, decide_true]
      apply jumpIf_of_missing
      exact missing

/-- The number on the stack is one too many, or the counter is one less than it was. -/
theorem Torn.changes (torn : machine.Torn instruction after) :
    ¬ (after.registers = machine.registers ∧ after.stack = machine.stack) := by
  intro ⟨registers, stack⟩
  cases torn with
  | call room missing =>
      have depth := congrArg Stack.depth stack
      simp [Stack.depth, Stack.push] at depth
  | @loop counter value label found positive missing =>
      have held : (machine.store counter (value - 1)).register? counter = some value := by
        rw [← found, register?, registers, register?]
      have same : value = value - 1 :=
        Option.some.inj (held.symm.trans (register?_setRegister machine found _))
      have counted := toInt_predecessor value
      rw [← same] at counted
      split at counted
      · omega
      · omega

theorem Torn.counters (torn : machine.Torn instruction after) :
    after.ip = machine.ip ∧ after.ticks = machine.ticks := by
  cases torn with
  | call => exact ⟨rfl, rfl⟩
  | loop => exact ⟨rfl, rfl⟩

theorem kept_or_torn {cause : FaultCause}
    (performed : machine.perform instruction = (after, .error cause)) :
    (∃ console, after = { machine with console }) ∨ machine.Torn instruction after := by
  have accounts := accounts_perform machine instruction
  rw [performed] at accounts
  cases accounts with
  | refused reason => exact .inl ⟨_, rfl⟩
  | torn torn => exact .inr torn

end Faults

/-- An instruction at fault keeps the instruction pointer and the ticks. It keeps the registers, the
stack and the flags as well, except for a call that finds room on the stack and a loop whose counter
stays positive, if their label is missing: these always fail, and leave what they have done so far. -/
theorem fault_keeps_state_iff {machine after : Machine} {instruction : Instruction} {fault : Fault}
    (failed : machine.execute instruction = (after, some fault)) :
    (after.ip = machine.ip ∧ after.ticks = machine.ticks) ∧
    (after.registers = machine.registers ∧ after.stack = machine.stack ∧
        after.flags = machine.flags ↔ ∀ torn, ¬ machine.Torn instruction torn) ∧
    (∀ torn, machine.Torn instruction torn → after = torn) ∧
    ((∀ label, instruction.target? = some label → (machine.address? label).isSome = true) →
      after.registers = machine.registers ∧ after.stack = machine.stack ∧
        after.flags = machine.flags) := by
  obtain ⟨cause, performed⟩ := perform_of_fault failed
  have only : ∀ torn, machine.Torn instruction torn → after = torn := by
    intro torn isTorn
    obtain ⟨label, torn⟩ := isTorn.perform
    exact (Prod.mk.inj (performed.symm.trans torn)).1
  rcases kept_or_torn performed with ⟨console, rfl⟩ | torn
  · refine ⟨⟨rfl, rfl⟩, ?_, only, fun _ => ⟨rfl, rfl, rfl⟩⟩
    refine iff_of_true ⟨rfl, rfl, rfl⟩ fun torn isTorn => isTorn.changes ?_
    rw [← only torn isTorn]
    exact ⟨rfl, rfl⟩
  · refine ⟨torn.counters, ?_, only, ?_⟩
    · refine iff_of_false ?_ fun none => none after torn
      intro ⟨registers, stack, _⟩
      exact torn.changes ⟨registers, stack⟩
    · intro bound
      obtain ⟨label, named, missing⟩ := torn.missing
      have isBound := bound label named
      rw [missing] at isBound
      cases isBound

/-- A machine that has been reset, with one register and no label. -/
def unlabelled : Machine :=
  (Machine.new (some { opcodes := #[], registers := [utf8 "a"], labels := Table.empty })).reset.1

/-- A call of a missing label leaves its return address on the stack. -/
theorem fault_of_call_leaves_address :
    ∃ after fault,
      unlabelled.execute (.label (.known .call) (utf8 "nowhere")) = (after, some fault) ∧
      fault.cause = .labelMissing (utf8 "nowhere") ∧ unlabelled.stack.values = [] ∧
      after.stack.values = [1] :=
  ⟨_, _, rfl, rfl, rfl, rfl⟩

/-- A loop to a missing label leaves its counter counted down, and the flags set by that. -/
theorem fault_keeps_state_iff_loop :
    ∃ machine after : Machine, ∃ fault,
      machine.execute (.registerLabel (.known .loop) 0 (utf8 "nowhere")) = (after, some fault) ∧
      after.ip = machine.ip ∧ machine.register? 0 = some 5 ∧ after.register? 0 = some 4 ∧
      machine.flags.zero = true ∧ after.flags.zero = false := by
  generalize start : ({ unlabelled with
    registers := #[5], flags := { zero := true, negative := false } } : Machine) = machine
  have torn : machine.Torn (.registerLabel (.known .loop) 0 (utf8 "nowhere"))
      (machine.store 0 (5 - 1)) := by
    subst start
    exact .loop rfl (by decide) (by decide)
  obtain ⟨after, fault, failed⟩ : ∃ after fault,
      machine.execute (.registerLabel (.known .loop) 0 (utf8 "nowhere")) = (after, some fault) := by
    obtain ⟨label, performed⟩ := torn.perform
    exact ⟨_, _, by simp only [execute, performed]; rfl⟩
  obtain ⟨⟨ip, _⟩, _, only, _⟩ := fault_keeps_state_iff failed
  refine ⟨machine, after, fault, failed, ip, ?_⟩
  rw [only _ torn]
  subst start
  exact ⟨rfl, rfl, rfl, rfl⟩

end RegisterMachine.Machine
