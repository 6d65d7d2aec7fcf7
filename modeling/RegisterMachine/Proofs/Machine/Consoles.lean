import RegisterMachine.Proofs.Machine.Tick

/-! Machines before different consoles. If the consoles give the same answers for ever, nothing else
tells the machines apart: they take the same steps and meet the same faults. Only printing asks an
output for an answer, so that instructions which print nothing need alike inputs only. -/

namespace RegisterMachine

namespace Console

/-- Consoles that are alike read the same numbers, and are alike behind them. -/
def ReadsAlike (alike : Console → Console → Prop) : Prop :=
  ∀ first second, alike first second →
    first.readNumber.2 = second.readNumber.2 ∧ alike first.readNumber.1 second.readNumber.1

/-- Consoles that are alike give the same answers, and are alike behind them. -/
structure AnswersAlike (alike : Console → Console → Prop) : Prop where
  readNumber : ReadsAlike alike
  write : ∀ first second, alike first second → ∀ text newline,
    (first.write text newline).2 = (second.write text newline).2 ∧
      alike (first.write text newline).1 (second.write text newline).1

end Console

namespace Machine

/-- Machines that differ at most in what they tell about their work and in their consoles, which are
alike. -/
def Twins (alike : Console → Console → Prop) (first second : Machine) : Prop :=
  ∃ verbose console, alike first.console console ∧ second = { first with verbose, console }

theorem perform_of_speech? {machine : Machine} {instruction : Instruction} {text : Bytes}
    {newline : Bool} (speaks : machine.speech? instruction = some (text, newline)) :
    machine.perform instruction = machine.write text newline := by
  rw [perform_eq_carryOut, task_of_speech? speaks, carryOut]

namespace Effect

/-- Effects that lead to twins and go on in the same way. -/
def Twins (alike : Console → Console → Prop) (first second : Effect) : Prop :=
  first.1.Twins alike second.1 ∧ first.2 = second.2

/-- Effects in which no text was refused. -/
def SilentTwins (alike : Console → Console → Prop) (first second : Effect) : Prop :=
  Effect.Twins alike first second ∧ first.2 ≠ .error .output

end Effect

section Operations

variable {alike : Console → Console → Prop} {first second : Machine}

theorem Twins.following (twins : first.Twins alike second) :
    second.following = first.following := by
  obtain ⟨_, _, _, rfl⟩ := twins
  rfl

theorem Twins.instruction? (twins : first.Twins alike second) :
    second.instruction? = first.instruction? := by
  obtain ⟨_, _, _, rfl⟩ := twins
  rfl

theorem Twins.speech? (twins : first.Twins alike second) (instruction : Instruction) :
    second.speech? instruction = first.speech? instruction := by
  obtain ⟨_, _, _, rfl⟩ := twins
  rfl

theorem Twins.isDone (twins : first.Twins alike second) : second.isDone = first.isDone := by
  obtain ⟨_, _, _, rfl⟩ := twins
  rfl

theorem Twins.silent_proceed (twins : first.Twins alike second) :
    Effect.SilentTwins alike first.proceed second.proceed :=
  ⟨⟨twins, congrArg Except.ok twins.following.symm⟩, by simp [proceed]⟩

theorem Twins.silent_ok (twins : first.Twins alike second) (next : Int64) :
    Effect.SilentTwins alike (first, .ok next) (second, .ok next) :=
  ⟨⟨twins, rfl⟩, by simp⟩

theorem Twins.silent_fail (twins : first.Twins alike second) {cause : FaultCause}
    (other : cause ≠ .output) :
    Effect.SilentTwins alike (first.fail cause) (second.fail cause) :=
  ⟨⟨twins, rfl⟩, by simpa [fail] using other⟩

theorem Twins.setRegister (twins : first.Twins alike second) (register : Int) (value : Int32) :
    (first.setRegister register value).Twins alike (second.setRegister register value) := by
  obtain ⟨verbose, console, same, rfl⟩ := twins
  exact ⟨verbose, console, same, rfl⟩

theorem Twins.store (twins : first.Twins alike second) (register : Int) (result : Int32) :
    (first.store register result).Twins alike (second.store register result) := by
  obtain ⟨verbose, console, same, rfl⟩ := twins
  exact ⟨verbose, console, same, rfl⟩

theorem silent_push (twins : first.Twins alike second) (value : Int32) :
    Effect.SilentTwins alike (first.push value) (second.push value) := by
  obtain ⟨verbose, console, same, rfl⟩ := twins
  simp only [push]
  split
  · apply Twins.silent_fail _ (by simp)
    exact ⟨verbose, console, same, rfl⟩
  · apply Twins.silent_proceed
    exact ⟨verbose, console, same, rfl⟩

theorem silent_popThen (twins : first.Twins alike second) {use : Machine → Int32 → Effect}
    (uses : ∀ {first second : Machine}, first.Twins alike second → ∀ value,
      Effect.SilentTwins alike (use first value) (use second value)) :
    Effect.SilentTwins alike (first.popThen use) (second.popThen use) := by
  obtain ⟨verbose, console, same, rfl⟩ := twins
  simp only [popThen]
  split
  · apply uses
    exact ⟨verbose, console, same, rfl⟩
  · apply Twins.silent_fail _ (by simp)
    exact ⟨verbose, console, same, rfl⟩

theorem silent_jumpIf (twins : first.Twins alike second) (condition : Bool) (label : Bytes) :
    Effect.SilentTwins alike (first.jumpIf condition label) (second.jumpIf condition label) := by
  obtain ⟨verbose, console, same, rfl⟩ := twins
  simp only [jumpIf]
  split
  · split
    · apply Twins.silent_ok
      exact ⟨verbose, console, same, rfl⟩
    · apply Twins.silent_fail _ (by simp)
      exact ⟨verbose, console, same, rfl⟩
  · apply Twins.silent_proceed
    exact ⟨verbose, console, same, rfl⟩

theorem Twins.task (twins : first.Twins alike second) (instruction : Instruction) :
    second.task instruction = first.task instruction := by
  obtain ⟨_, _, _, rfl⟩ := twins
  rfl

theorem silent_compare (twins : first.Twins alike second) (left right : Int32) :
    Effect.SilentTwins alike (first.carryOut (.compare left right))
      (second.carryOut (.compare left right)) := by
  obtain ⟨verbose, console, same, rfl⟩ := twins
  apply Twins.silent_proceed
  exact ⟨verbose, console, same, rfl⟩

theorem silent_call (twins : first.Twins alike second) (label : Bytes) :
    Effect.SilentTwins alike (first.carryOut (.call label)) (second.carryOut (.call label)) := by
  obtain ⟨verbose, console, same, rfl⟩ := twins
  simp only [carryOut]
  split
  · apply Twins.silent_fail _ (by simp)
    exact ⟨verbose, console, same, rfl⟩
  · apply silent_jumpIf
    exact ⟨verbose, console, same, rfl⟩

theorem Twins.reset (twins : first.Twins alike second) :
    first.reset.1.Twins alike second.reset.1 ∧ first.reset.2 = second.reset.2 := by
  obtain ⟨verbose, console, same, rfl⟩ := twins
  simp only [Machine.reset]
  split
  · exact ⟨⟨verbose, console, same, rfl⟩, rfl⟩
  · exact ⟨⟨verbose, console, same, rfl⟩, rfl⟩

end Operations

section Silence

variable {alike : Console → Console → Prop} {first second : Machine}
  (reads : Console.ReadsAlike alike)

include reads

theorem silent_read (twins : first.Twins alike second) (register : Int) :
    Effect.SilentTwins alike (first.read register) (second.read register) := by
  obtain ⟨verbose, console, same, rfl⟩ := twins
  obtain ⟨answer, behind⟩ := reads _ _ same
  simp only [read]
  generalize first.console.readNumber = effect at *
  generalize console.readNumber = other at *
  obtain ⟨after, outcome⟩ := effect
  obtain ⟨afterOther, outcomeOther⟩ := other
  obtain rfl : outcome = outcomeOther := answer
  have twins : Twins alike { first with console := after }
      { first with verbose, console := afterOther } := ⟨verbose, afterOther, behind, rfl⟩
  cases outcome with
  | ok value => exact (twins.setRegister register value).silent_proceed
  | error fault => exact twins.silent_fail (by simp)

/-- An instruction that prints nothing has the same effect on machines whose inputs are alike, and no
text is refused. -/
theorem silent_perform (twins : first.Twins alike second) {instruction : Instruction}
    (silent : first.speech? instruction = none) :
    Effect.SilentTwins alike (first.perform instruction) (second.perform instruction) := by
  have asks := first.asks_task instruction
  rw [perform_eq_carryOut, perform_eq_carryOut, twins.task]
  generalize first.task instruction = task at asks
  cases asks with
  | absent | unfit | divided => exact twins.silent_fail (by simp)
  | moved => exact (twins.setRegister _ _).silent_proceed
  | compared => exact silent_compare twins _ _
  | recorded => exact (twins.store _ _).silent_proceed
  | pushed => exact silent_push twins _
  | popped =>
      refine silent_popThen twins fun twins top => ?_
      exact (twins.setRegister _ top).silent_proceed
  | returned => exact silent_popThen twins fun twins value => twins.silent_ok value.toInt64
  | read => exact silent_read reads twins _
  | written _ speaks => cases silent.symm.trans speaks
  | jumped => exact silent_jumpIf twins _ _
  | called => exact silent_call twins _
  | looped => exact silent_jumpIf (twins.store _ _) _ _

end Silence

section Ticking

variable {alike behind : Console → Console → Prop} {first second : Machine}

theorem Twins.format (twins : first.Twins alike second) (instruction : Instruction) :
    second.format instruction = first.format instruction := by
  obtain ⟨_, _, _, rfl⟩ := twins
  rfl

/-- Machines whose instruction has twin effects are twins behind it, with the same outcome. -/
theorem Twins.tick_of_effect (twins : first.Twins alike second) {instruction : Instruction}
    (found : first.instruction? = some instruction)
    (effects : Effect.Twins behind (first.perform instruction) (second.perform instruction)) :
    first.tick.1.Twins behind second.tick.1 ∧ first.tick.2 = second.tick.2 := by
  have foundOther := twins.instruction?.trans found
  have format := twins.format instruction
  obtain ⟨_, _, _, rfl⟩ := twins
  generalize performed : first.perform instruction = effect at effects
  generalize performedOther : perform _ instruction = other at effects
  obtain ⟨after, outcome⟩ := effect
  obtain ⟨afterOther, outcomeOther⟩ := other
  obtain ⟨twins, same⟩ := effects
  obtain rfl : outcome = outcomeOther := same
  cases outcome with
  | ok next =>
      rw [tick_of_ok found performed, tick_of_ok foundOther performedOther]
      obtain ⟨verbose, console, alike, rfl⟩ : after.Twins behind afterOther := twins
      exact ⟨⟨verbose, console, alike, rfl⟩, rfl⟩
  | error cause =>
      rw [tick_of_error found performed, tick_of_error foundOther performedOther, format]
      exact ⟨twins, rfl⟩

theorem Twins.tick_of_instruction?_eq_none (twins : first.Twins alike second)
    (missing : first.instruction? = none) :
    first.tick.1.Twins alike second.tick.1 ∧ first.tick.2 = second.tick.2 := by
  obtain ⟨verbose, console, same, rfl⟩ := twins
  have place : place? { first with verbose, console } = first.place? := rfl
  simp only [Machine.tick, place]
  cases found : first.place? with
  | none => exact ⟨⟨verbose, console, same, rfl⟩, rfl⟩
  | some opcode =>
      obtain ⟨lineNumber, line, held⟩ := opcode
      rw [Machine.instruction?, found, Option.bind_some] at missing
      obtain rfl : held = none := missing
      exact ⟨⟨verbose, console, same, rfl⟩, rfl⟩

end Ticking

section Answers

variable {alike : Console → Console → Prop} {first second : Machine}
  (answers : Console.AnswersAlike alike)

include answers

theorem twins_write (twins : first.Twins alike second) (text : Bytes) (newline : Bool) :
    Effect.Twins alike (first.write text newline) (second.write text newline) := by
  obtain ⟨verbose, console, same, rfl⟩ := twins
  obtain ⟨accepted, behind⟩ := answers.write _ _ same text newline
  simp only [write]
  generalize first.console.write text newline = effect at *
  generalize console.write text newline = other at *
  obtain ⟨after, isAccepted⟩ := effect
  obtain ⟨afterOther, isAcceptedOther⟩ := other
  obtain rfl : isAccepted = isAcceptedOther := accepted
  cases isAccepted with
  | true => exact ⟨⟨verbose, afterOther, behind, rfl⟩, rfl⟩
  | false => exact ⟨⟨verbose, afterOther, behind, rfl⟩, rfl⟩

/-- An instruction has the same effect on twins. -/
theorem twins_perform (twins : first.Twins alike second) (instruction : Instruction) :
    Effect.Twins alike (first.perform instruction) (second.perform instruction) := by
  cases speaks : first.speech? instruction with
  | none => exact (silent_perform answers.readNumber twins speaks).1
  | some said =>
      obtain ⟨text, newline⟩ := said
      rw [perform_of_speech? speaks, perform_of_speech? ((twins.speech? instruction).trans speaks)]
      exact twins_write answers twins text newline

theorem Twins.tick (twins : first.Twins alike second) :
    first.tick.1.Twins alike second.tick.1 ∧ first.tick.2 = second.tick.2 := by
  cases found : first.instruction? with
  | none => exact twins.tick_of_instruction?_eq_none found
  | some instruction => exact twins.tick_of_effect found (twins_perform answers twins instruction)

theorem Twins.onward (twins : first.Twins alike second) (count : Nat) :
    (first.onward count).Twins alike (second.onward count) := by
  induction count with
  | zero => exact twins
  | succ count induction => exact (induction.tick answers).1

end Answers

structure LooksLike (first second : Machine) : Prop where
  ip : first.ip = second.ip
  ticks : first.ticks = second.ticks
  registers : first.registers = second.registers
  stack : first.stack = second.stack
  flags : first.flags = second.flags
  delivered : first.console.delivered = second.console.delivered

/-- Machines that look the same behind every number of ticks, failed ones included, with the same
outcome of the next tick, and whose runs with any budget end alike. -/
structure RunsLike (first second : Machine) : Prop where
  onward : ∀ count, (first.onward count).LooksLike (second.onward count)
  tick : ∀ count, (first.onward count).tick.2 = (second.onward count).tick.2
  runFor : ∀ budget, (first.runFor budget).1.LooksLike (second.runFor budget).1 ∧
    (first.runFor budget).2 = (second.runFor budget).2

theorem onward_add (machine : Machine) (first second : Nat) :
    (machine.onward first).onward second = machine.onward (first + second) := by
  induction second with
  | zero => rfl
  | succ second induction => exact congrArg (fun machine => machine.tick.1) induction

theorem onward_tick (machine : Machine) (count : Nat) :
    machine.tick.1.onward count = machine.onward (count + 1) := by
  rw [Nat.add_comm]
  exact onward_add machine 1 count

theorem runsLike_of_onward {first second : Machine}
    (looks : ∀ count, (first.onward count).LooksLike (second.onward count))
    (ticks : ∀ count, (first.onward count).tick.2 = (second.onward count).tick.2)
    (isDone : ∀ count, (first.onward count).isDone = (second.onward count).isDone) :
    first.RunsLike second := by
  refine ⟨looks, ticks, fun budget => ?_⟩
  induction budget generalizing first second with
  | zero =>
      have same : first.isDone = second.isDone := isDone 0
      simp only [Machine.runFor, same]
      exact ⟨looks 0, trivial⟩
  | succ budget induction =>
      have same : first.isDone = second.isDone := isDone 0
      have halts : first.tick.2 = second.tick.2 := ticks 0
      have behind : first.tick.1.LooksLike second.tick.1 := looks 1
      have later := @induction first.tick.1 second.tick.1
      simp only [onward_tick] at later
      have run := later (fun count => looks (count + 1)) (fun count => ticks (count + 1))
        (fun count => isDone (count + 1))
      simp only [Machine.runFor, same]
      split
      · exact ⟨looks 0, rfl⟩
      · generalize first.tick = result at *
        generalize second.tick = other at *
        obtain ⟨after, halt⟩ := result
        obtain ⟨afterOther, haltOther⟩ := other
        obtain rfl : halt = haltOther := halts
        cases halt with
        | none => exact run
        | some halt => exact ⟨behind, rfl⟩

/-- Twins run alike if their consoles answer alike and show what has been delivered. -/
theorem Twins.runsLike {alike : Console → Console → Prop} {first second : Machine}
    (answers : Console.AnswersAlike alike)
    (shows : ∀ first second, alike first second → first.delivered = second.delivered)
    (twins : first.Twins alike second) : first.RunsLike second := by
  apply runsLike_of_onward
  · intro count
    obtain ⟨_, console, same, equal⟩ := twins.onward answers count
    rw [equal]
    exact ⟨rfl, rfl, rfl, rfl, rfl, shows _ _ same⟩
  · intro count
    exact ((twins.onward answers count).tick answers).2
  · intro count
    exact (twins.onward answers count).isDone.symm

end Machine

end RegisterMachine
