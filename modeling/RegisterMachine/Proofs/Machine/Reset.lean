import RegisterMachine.Proofs.Console.Words
import RegisterMachine.Proofs.Machine.Consoles
import RegisterMachine.Proofs.Machine.Safety

/-! What a reset leaves of the past of a machine. Whatever a machine has been through, behind a reset
it runs as one that is new: only its console and the limit of its stack carry over. -/

namespace RegisterMachine

namespace Console

/-- Consoles with one output and the same input: the same stream, or texts that have the same
words. -/
def Continues (first second : Console) : Prop :=
  first.output = second.output ∧ (first.stream? = second.stream? ∨ first.SameWords second)

theorem readNumber_of_stream? {first second : Console} (same : first.stream? = second.stream?) :
    first.readNumber.2 = second.readNumber.2 ∧
      first.readNumber.1.stream? = second.readNumber.1.stream? := by
  cases found : first.stream? with
  | none =>
      rw [readNumber_of_readWord (readWord_of_stream?_eq_none found),
        readNumber_of_readWord (readWord_of_stream?_eq_none (same.symm.trans found))]
      exact ⟨rfl, same⟩
  | some stream =>
      obtain ⟨after, read, behind, _⟩ := readWord_of_stream? found
      obtain ⟨afterOther, readOther, behindOther, _⟩ :=
        readWord_of_stream? (same.symm.trans found)
      rw [readNumber_of_readWord read, readNumber_of_readWord readOther]
      exact ⟨rfl, behind.trans behindOther.symm⟩

theorem answersAlike_continues : AnswersAlike Continues where
  readNumber first second same := by
    obtain ⟨output, input⟩ := same
    have outputs : first.readNumber.1.output = second.readNumber.1.output := by
      rw [output_readNumber, output_readNumber, output]
    rcases input with stream | words
    · obtain ⟨answer, behind⟩ := readNumber_of_stream? stream
      exact ⟨answer, outputs, .inl behind⟩
    · obtain ⟨answer, behind⟩ := words.readNumber
      exact ⟨answer, outputs, .inr behind⟩
  write first second same text newline := by
    obtain ⟨output, input⟩ := same
    obtain ⟨accepted, outputs⟩ := write_of_output output text newline
    refine ⟨accepted, outputs, ?_⟩
    rcases input with stream | words
    · left
      rw [stream?_write, stream?_write, stream]
    · right
      exact words.write text newline

theorem Continues.delivered {first second : Console} (same : first.Continues second) :
    first.delivered = second.delivered := by
  rw [Console.delivered, same.1]
  rfl

theorem continues_connect {first second : Console} (output : first.output = second.output)
    (reader : Reader) : (first.connect reader).Continues (second.connect reader) := by
  refine ⟨output, .inl ?_⟩
  rw [stream?_connect, stream?_connect]

end Console

namespace Machine

def fresh (program : Option Program) (limit : Int) (console : Console) : Machine :=
  { Machine.new program with stack := Stack.empty limit, console }

def equip (machine : Machine) (reader : Reader) (output : Option Sink) : Machine :=
  { machine with console := (machine.console.setOutput output).connect reader }

theorem defect_reset (machine : Machine) :
    machine.reset.2 = (machine.program.getD Program.empty).defect? := by
  unfold reset
  simp only
  split
  · rename_i defect found
    exact found.symm
  · rename_i valid
    exact valid.symm

theorem reset_of_defect {machine failed : Machine} {defect : Program.Defect}
    (reset : machine.reset = (failed, some defect)) :
    failed = { machine with program := some (machine.program.getD Program.empty) } := by
  unfold Machine.reset at reset
  simp only at reset
  split at reset
  · exact (Prod.mk.inj reset).1.symm
  · cases reset

/-- A reset makes twins of machines that have the same program, the same limit and alike consoles,
whatever else they hold. -/
theorem twins_of_reset {alike : Console → Console → Prop} {machine other ready : Machine}
    (program : other.program.getD Program.empty = machine.program.getD Program.empty)
    (limit : other.stack.limit = machine.stack.limit)
    (same : alike machine.console other.console) (reset : machine.reset = (ready, none)) :
    ∃ start, other.reset = (start, none) ∧ ready.Twins alike start := by
  have valid : other.reset.2 = none := by
    rw [defect_reset, program, ← defect_reset, reset]
  have resetOther : other.reset = (other.reset.1, none) := Prod.ext rfl valid
  refine ⟨other.reset.1, resetOther, other.verbose, other.console, ?_⟩
  rw [eq_of_reset reset, eq_of_reset resetOther, program, Stack.clear, Stack.clear, limit]
  exact ⟨same, rfl⟩

theorem IsReady.keeps_tick {machine : Machine} {program : Program}
    (ready : machine.IsReady program) : machine.Keeps machine.tick.1 := by
  cases found : machine.place? with
  | none =>
      simp only [Machine.tick, found]
      exact .refl machine
  | some opcode =>
      obtain ⟨_, _, ⟨after, next, keeps, ticked⟩ | ⟨console, fault, ticked, _⟩⟩ :=
        tick_of_place ready found
      · rw [ticked]
        exact ⟨keeps.program, keeps.size, keeps.limit⟩
      · rw [ticked]
        exact ⟨rfl, rfl, rfl⟩

theorem IsReady.of_keeps {machine after : Machine} {program : Program}
    (ready : machine.IsReady program) (keeps : machine.Keeps after) : after.IsReady program :=
  ⟨keeps.program.trans ready.loaded, ready.valid, keeps.size.trans ready.size⟩

theorem IsReady.keeps_onward {machine : Machine} {program : Program}
    (ready : machine.IsReady program) (count : Nat) : machine.Keeps (machine.onward count) := by
  induction count with
  | zero => exact .refl machine
  | succ count induction => exact induction.trans (ready.of_keeps induction).keeps_tick

theorem runsLike_of_reset {machine other ready : Machine}
    (program : other.program.getD Program.empty = machine.program.getD Program.empty)
    (limit : other.stack.limit = machine.stack.limit)
    (same : machine.console.Continues other.console) (reset : machine.reset = (ready, none)) :
    ∃ start, other.reset = (start, none) ∧ ready.RunsLike start := by
  obtain ⟨start, resetOther, twins⟩ := twins_of_reset program limit same reset
  refine ⟨start, resetOther, twins.runsLike Console.answersAlike_continues ?_⟩
  intro first second continues
  exact continues.delivered

/-- Nothing of the past of a machine shows behind a reset. It succeeds exactly for a program without
defects, and then the machine runs as a new one does with the same limit before a console that goes
on in the same way; if it fails, only the program has been put in. In particular a machine that is
given the same input and output again runs the same way again, however far it has run before. -/
theorem reset_erases_history (machine : Machine) (program : Option Program) :
    ({ machine with program }.reset.2 = none ↔
      (program.getD Program.empty).defect? = none) ∧
    (∀ ready, { machine with program }.reset = (ready, none) →
      ∀ console, machine.console.Continues console →
        ∃ start, (fresh program machine.stack.limit console).reset = (start, none) ∧
          ready.RunsLike start) ∧
    (∀ failed defect, { machine with program }.reset = (failed, some defect) →
      failed.ip = machine.ip ∧ failed.ticks = machine.ticks ∧
        failed.registers = machine.registers ∧ failed.stack = machine.stack ∧
        failed.flags = machine.flags) ∧
    ∀ ready reader output, ({ machine with program }.equip reader output).reset = (ready, none) →
      ∀ count, ∃ again, ((ready.onward count).equip reader output).reset = (again, none) ∧
        ready.RunsLike again := by
  refine ⟨?_, ?_, ?_, ?_⟩
  · rw [defect_reset]
  · intro ready reset console continues
    refine runsLike_of_reset ?_ ?_ ?_ reset
    · rfl
    · rfl
    · exact continues
  · intro failed defect reset
    rw [reset_of_defect reset]
    exact ⟨rfl, rfl, rfl, rfl, rfl⟩
  · intro ready reader output reset count
    have isReady := isReady_of_reset reset
    have keeps := isReady.keeps_onward count
    have loaded : (ready.onward count).program = some (program.getD Program.empty) :=
      keeps.program.trans isReady.loaded
    have limit : (ready.onward count).stack.limit = machine.stack.limit := by
      rw [keeps.limit, eq_of_reset reset]
      rfl
    refine runsLike_of_reset ?_ ?_ ?_ reset
    · exact congrArg (fun held => held.getD Program.empty) loaded
    · exact limit
    · apply Console.continues_connect
      rfl

/-- Reads a number and prints it. -/
def echo : Program where
  opcodes := #[
    ⟨1, utf8 "read a", some (.register (.known .read) 0)⟩,
    ⟨2, utf8 "println a", some (.register (.known .println) 0)⟩]
  registers := [utf8 "a"]
  labels := Table.ofList []

/-- A machine that has stopped somewhere, with the rest of its input in the buffer. -/
def halfway : Machine where
  verbose := true
  program := none
  ip := 9
  registers := #[7, 8]
  stack := { values := [3, 2, 1], limit := 4 }
  flags := { zero := true, negative := true }
  console :=
    { readers := #[Reader.make ⟨[], .finished⟩ .distinct]
      input := some 0
      attached := some (0, { held := utf8 " 5", trouble := none })
      output := some (.plain Drain.unlimited) }
  ticks := 40

/-- A new console before the number that is left there. -/
def newConsole : Console :=
  (Console.empty.setOutput (some (.plain Drain.unlimited))).connect
    (Reader.make (Feed.ofBytes (utf8 "5")) .selfBuffered)

theorem reset_erases_history_halfway :
    ∃ ready start,
      { halfway with program := some echo }.reset = (ready, none) ∧
      (fresh (some echo) 4 newConsole).reset = (start, none) ∧ ready.RunsLike start ∧
      (ready.onward 2).console.delivered = utf8 "5\n" := by
  obtain ⟨succeeds, runs, _, _⟩ := reset_erases_history halfway (some echo)
  have valid := succeeds.mpr (by decide +kernel)
  have held : halfway.console.Delivers (utf8 " 5") :=
    ⟨{ intake := ⟨utf8 " 5", none⟩, feed := ⟨[], .finished⟩ }, rfl, [], ⟨rfl, by simp, rfl⟩, rfl,
      .inl rfl⟩
  have given : newConsole.Delivers (utf8 "5") :=
    Console.delivers_connect _ (Feed.gives_ofBytes (utf8 "5")) .selfBuffered
  have words : Text.tokens (Text.Utf8.decode (utf8 " 5")) =
      Text.tokens (Text.Utf8.decode (utf8 "5")) := by decide +kernel
  have continues : halfway.console.Continues newConsole := ⟨rfl, .inr ⟨_, _, held, given, words⟩⟩
  obtain ⟨start, reset, runsLike⟩ := runs _ (Prod.ext rfl valid) newConsole continues
  refine ⟨_, start, Prod.ext rfl valid, reset, runsLike, ?_⟩
  decide +kernel

end Machine

end RegisterMachine
