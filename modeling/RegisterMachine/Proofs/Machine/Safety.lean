import RegisterMachine.Expression.Lookups
import RegisterMachine.Proofs.Assembler.WellFormed
import RegisterMachine.Proofs.Machine.Tick

/-! Safety of runs. A program that passes the check of a reset is never at fault for a register or a
label, and a fault leaves all but the console as it was. -/

namespace RegisterMachine

theorem Program.mem_of_opcode? {program : Program} {address : Int} {opcode : Opcode}
    (found : program.opcode? address = some opcode) : opcode ∈ program.opcodes.toList := by
  rw [Program.opcode?] at found
  split at found
  · exact List.mem_of_getElem? (by rwa [Array.getElem?_toList])
  · cases found

theorem Program.flaw?_of_defect? {program : Program} (valid : program.defect? = none)
    {opcode : Opcode} (member : opcode ∈ program.opcodes.toList) : program.flaw? opcode = none := by
  obtain ⟨address, found⟩ := List.mem_iff_getElem?.mp member
  have entry : (opcode, address) ∈ program.opcodes.toList.zipIdx :=
    List.mk_mem_zipIdx_iff_getElem?.mpr found
  rw [Program.defect?, List.findSome?_eq_none_iff] at valid
  exact Option.map_eq_none_iff.mp (valid _ entry)

theorem Program.flaw?_eq_none_iff {program : Program} {opcode : Opcode} :
    program.flaw? opcode = none ↔
      ∃ instruction, opcode.instruction = some instruction ∧
        (∀ register ∈ instruction.registerList, program.hasRegister register = true) ∧
        ∀ name, instruction.target? = some name → program.labels.contains name = true := by
  unfold Program.flaw?
  cases opcode.instruction with
  | none => simp
  | some instruction =>
      simp only [Option.some.injEq, exists_eq_left', ← List.all_eq_true]
      cases registers : instruction.registerList.all program.hasRegister with
      | false => simp
      | true =>
          cases target : instruction.target? with
          | none => simp
          | some name => simp

namespace Machine

/-- A machine with a program that has been checked, and registers for it. -/
structure IsReady (machine : Machine) (program : Program) : Prop where
  loaded : machine.program = some program
  valid : program.defect? = none
  size : machine.registers.size = program.registers.length

theorem eq_of_reset {machine ready : Machine} (reset : machine.reset = (ready, none)) :
    ready =
      { machine with
        program := some (machine.program.getD Program.empty)
        ip := 0
        registers := Array.replicate (machine.program.getD Program.empty).registers.length 0
        stack := machine.stack.clear
        flags := Flags.clear
        ticks := 0 } := by
  unfold Machine.reset at reset
  simp only at reset
  split at reset
  · cases reset
  · exact (Prod.mk.inj reset).1.symm

theorem isReady_of_reset {machine ready : Machine} (reset : machine.reset = (ready, none)) :
    ready.IsReady (machine.program.getD Program.empty) := by
  unfold Machine.reset at reset
  simp only at reset
  split at reset
  · cases reset
  · rename_i valid
    obtain ⟨rfl, _⟩ := Prod.mk.inj reset
    exact ⟨rfl, valid, Array.size_replicate⟩

theorem register?_isSome {machine : Machine} {program : Program} (ready : machine.IsReady program)
    {register : Int} (known : program.hasRegister register = true) :
    (machine.register? register).isSome = true := by
  simp only [Program.hasRegister, Bool.and_eq_true, decide_eq_true_eq, ← ready.size] at known
  obtain ⟨lower, upper⟩ := known
  have inside : register.toNat < machine.registers.size := by omega
  rw [register?, if_pos lower, Array.getElem?_eq_getElem inside]
  rfl

theorem mem_of_place? {machine : Machine} {program : Program} (ready : machine.IsReady program)
    {opcode : Opcode} (found : machine.place? = some opcode) : opcode ∈ program.opcodes.toList := by
  rw [place?, ready.loaded, Option.bind_some] at found
  exact Program.mem_of_opcode? found

/-- Where control has not left a program there is a place to execute. -/
theorem place?_of_running {machine : Machine} {program : Program}
    (ready : machine.IsReady program) (running : machine.isDone = false) :
    ∃ opcode, machine.place? = some opcode := by
  simp only [isDone, ready.loaded, Bool.or_eq_false_iff, decide_eq_false_iff_not] at running
  have lower : 0 ≤ machine.ip.toInt := by
    have := running.1
    rw [Int64.lt_iff_toInt_lt] at this
    exact Int.not_lt.mp this
  have upper : machine.ip.toInt.toNat < program.opcodes.size := by
    have := running.2
    rw [Program.size] at this
    omega
  rw [place?, ready.loaded, Option.bind_some, Program.opcode?, if_pos lower]
  exact ⟨_, Array.getElem?_eq_getElem upper⟩

/-- The check of the reset has gone over every place of the program. -/
theorem IsReady.resolves {machine : Machine} {program : Program} (ready : machine.IsReady program)
    {opcode : Opcode} (found : machine.place? = some opcode) :
    ∃ instruction, opcode.instruction = some instruction ∧
      machine.Resolves program instruction := by
  have member := mem_of_place? ready found
  obtain ⟨instruction, holds, registers, label⟩ :=
    Program.flaw?_eq_none_iff.mp (Program.flaw?_of_defect? ready.valid member)
  refine ⟨instruction, holds, ready.loaded, ?_, label⟩
  intro register named
  exact register?_isSome ready (registers register named)

theorem IsReady.resolves_instruction {machine : Machine} {program : Program}
    (ready : machine.IsReady program) {instruction : Instruction}
    (found : machine.instruction? = some instruction) :
    machine.Resolves program instruction ∧ instruction ∈ program.instructions := by
  obtain ⟨opcode, place, holds⟩ := Option.bind_eq_some_iff.mp found
  obtain ⟨again, same, resolves⟩ := ready.resolves place
  obtain rfl := Option.some.inj (holds.symm.trans same)
  exact ⟨resolves, List.mem_filterMap.mpr ⟨opcode, mem_of_place? ready place, holds⟩⟩

theorem tick_of_place {machine : Machine} {program : Program} (ready : machine.IsReady program)
    {opcode : Opcode} (found : machine.place? = some opcode) :
    ∃ instruction ∈ program.instructions,
      (∃ after next, machine.Keeps after ∧
        machine.tick = ({ after with ip := next, ticks := after.ticks + 1 }, none)) ∨
      ∃ console fault, machine.tick = ({ machine with console }, some (.fault fault)) ∧
        fault.address = machine.ip ∧ machine.Expected instruction fault.cause := by
  obtain ⟨instruction, holds, resolves⟩ := ready.resolves found
  refine ⟨instruction, List.mem_filterMap.mpr ⟨opcode, mem_of_place? ready found, holds⟩, ?_⟩
  have here : machine.instruction? = some instruction := by
    rw [instruction?, found, Option.bind_some, holds]
  have safe := isSafe_perform resolves
  generalize performed : machine.perform instruction = effect at safe
  cases safe with
  | ok keeps => exact .inl ⟨_, _, keeps, tick_of_ok here performed⟩
  | error expected => exact .inr ⟨_, _, tick_of_error here performed, rfl, expected⟩

theorem IsReady.tick {machine after : Machine} {program : Program}
    (ready : machine.IsReady program) (step : machine.tick = (after, none)) :
    after.IsReady program := by
  cases found : machine.place? with
  | none =>
      -- Where there is no place, a tick does not succeed.
      rw [Machine.tick, found] at step
      cases step
  | some opcode =>
      obtain ⟨_, _, ⟨between, next, keeps, ticked⟩ | ⟨_, _, ticked, _⟩⟩ := tick_of_place ready found
      · obtain ⟨rfl, _⟩ := Prod.mk.inj (step.symm.trans ticked)
        exact ⟨keeps.program.trans ready.loaded, ready.valid, keeps.size.trans ready.size⟩
      · cases step.symm.trans ticked

theorem IsReady.ticks {machine state : Machine} {program : Program} {count : Nat}
    (ready : machine.IsReady program) (ticks : machine.Ticks count state) :
    state.IsReady program := by
  induction ticks with
  | zero => exact ready
  | succ earlier step induction => exact induction.tick step

/-- Every instruction of an assembled program is one that its verb accepts. -/
theorem accepted_of_parse [Evaluator] {assembler : Assembler} {source : Bytes} {program : Program}
    (assembled : (assembler.parse source).2 = .ok program) {instruction : Instruction}
    (member : instruction ∈ program.instructions) : instruction.Accepted := by
  obtain ⟨_, transcript, _, reads, _, linked, describes⟩ :=
    Assembler.transcript_of_assemble assembled
  obtain ⟨opcode, inProgram, holds⟩ := List.mem_filterMap.mp member
  obtain ⟨found, same, accepted⟩ := (describes.wellFormed reads linked).accepted opcode inProgram
  obtain rfl := Option.some.inj (holds.symm.trans same)
  exact accepted

theorem label_bounds_of_parse [Evaluator] {assembler : Assembler} {source : Bytes}
    {program : Program}
    (assembled : (assembler.parse source).2 = .ok program) {label : Bytes} {address : Int}
    (bound : program.label? label = some address) : 0 ≤ address ∧ address ≤ program.size := by
  obtain ⟨_, transcript, _, reads, _, linked, describes⟩ :=
    Assembler.transcript_of_assemble assembled
  exact ((describes.wellFormed reads linked).labelNames label address bound).2

/-- A run from a reset has as many registers as its program, and its next instruction, where there is
one, fails only for the stack, the operands, the console or an instruction that no verb accepts. A
fault changes nothing but the console. -/
theorem tick_safe [Evaluator] {machine ready state : Machine} {program : Program} {count : Nat}
    (reset : machine.reset = (ready, none)) (loaded : ready.program = some program)
    (ticks : ready.Ticks count state) :
    state.registers.size = program.registers.length ∧
      (state.isDone = false → ∀ after halt, state.tick = (after, some halt) →
        ∃ fault, halt = .fault fault ∧ fault.address = state.ip ∧
          (fault.cause = .stackEmpty ∨ (fault.cause = .stackFull ∧ 0 < state.stack.limit) ∨
            fault.cause = .divideByZero ∨ (∃ input, fault.cause = .input input) ∨
            fault.cause = .output ∨ fault.cause = .instruction) ∧
          (after.ip = state.ip ∧ after.ticks = state.ticks ∧
            after.registers = state.registers ∧ after.stack = state.stack ∧
            after.flags = state.flags) ∧
          ∀ assembler source, (Assembler.parse assembler source).2 = .ok program →
            fault.cause ≠ .instruction) := by
  have isReady := isReady_of_reset reset
  obtain rfl := Option.some.inj (isReady.loaded.symm.trans loaded)
  have stateReady := isReady.ticks ticks
  refine ⟨stateReady.size, fun running after halt halted => ?_⟩
  obtain ⟨opcode, found⟩ := place?_of_running stateReady running
  obtain ⟨instruction, member, ⟨_, _, _, ticked⟩ | ⟨console, fault, ticked, address, expected⟩⟩ :=
    tick_of_place stateReady found
  · cases halted.symm.trans ticked
  · obtain ⟨rfl, same⟩ := Prod.mk.inj (halted.symm.trans ticked)
    refine ⟨fault, Option.some.inj same, address, ?_, ⟨rfl, rfl, rfl, rfl, rfl⟩, ?_⟩
    · generalize fault.cause = cause at expected
      cases expected with
      | stackEmpty => simp
      | stackFull limited => simp [limited]
      | divideByZero => simp
      | input fault => simp
      | output => simp
      | instruction unfit => simp
    · intro assembler source assembled isInstruction
      rw [isInstruction] at expected
      cases expected with
      | instruction unfit => exact unfit (accepted_of_parse assembled member)

/-- The second instruction divides by zero, after the first has stored a result. -/
theorem tick_safe_division :
    ∃ machine ready state after : Machine, ∃ fault, machine.reset = (ready, none) ∧
      ready.Ticks 1 state ∧ state.tick = (after, some (.fault fault)) ∧
      fault.address = state.ip ∧ fault.cause = .divideByZero ∧
      after.registers = state.registers ∧ state.registers = #[-1] := by
  obtain ⟨machine, ready, state, after, program, fault, reset, loaded, ticks, running, halted, facts⟩ :
      ∃ machine ready state after : Machine, ∃ program fault,
        machine.reset = (ready, none) ∧ ready.program = some program ∧ ready.Ticks 1 state ∧
        state.isDone = false ∧ state.tick = (after, some (.fault fault)) ∧
        fault.cause = .divideByZero ∧ state.registers = #[-1] :=
    ⟨Machine.new (some
      { opcodes := #[⟨1, utf8 "dec a", some (.register (.known .dec) 0)⟩,
          ⟨2, utf8 "div a, 0", some (.registerNumber (.known .div) 0 0)⟩]
        registers := [utf8 "a"]
        labels := Table.empty }),
      _, _, _, _, _, rfl, rfl, .succ .zero rfl, rfl, rfl, rfl, rfl⟩
  obtain ⟨found, same, address, _, ⟨_, _, kept, _⟩, _⟩ :=
    (tick_safe reset loaded ticks).2 running after (.fault fault) halted
  obtain rfl := Halt.fault.inj same
  exact ⟨machine, ready, state, after, fault, reset, ticks, halted, address, facts.1, kept, facts.2⟩

end Machine

end RegisterMachine
