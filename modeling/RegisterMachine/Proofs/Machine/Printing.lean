import RegisterMachine.Proofs.Console.Outputs
import RegisterMachine.Proofs.Console.Words
import RegisterMachine.Proofs.Machine.Consoles

/-! What a machine prints and when it arrives. A buffer before the output cannot be seen: behind every
tick all that was printed has arrived, as far as the output has room for it, and the run goes on in the
same way. -/

namespace RegisterMachine

namespace Console

/-- A text as it is written. -/
def line (text : Bytes) (newline : Bool) : Bytes :=
  if newline then text ++ [byte '\n'] else text

/-- Consoles that have each an output of its own and are equal otherwise. -/
def Split (first second : Sink) (console other : Console) : Prop :=
  console.output = some first ∧ other = console.setOutput (some second)

theorem readNumber_setOutput (console : Console) (output : Option Sink) :
    (console.setOutput output).readNumber =
      (console.readNumber.1.setOutput output, console.readNumber.2) := by
  have same : (console.setOutput output).stream? = console.stream? := rfl
  cases found : console.stream? with
  | none =>
      rw [readNumber_of_readWord (readWord_of_stream?_eq_none found),
        readNumber_of_readWord (readWord_of_stream?_eq_none (same.trans found))]
  | some stream =>
      obtain ⟨input, isInput, known⟩ := Option.bind_eq_some_iff.mp found
      obtain ⟨reader, isReader, isStream⟩ := Option.map_eq_some_iff.mp known
      have read := readWord_eq isInput isReader isStream.symm
      have readOther := @readWord_eq (console.setOutput output) stream input reader isInput isReader
        isStream.symm
      rw [readNumber_of_readWord read, readNumber_of_readWord readOther]
      rfl

theorem readsAlike_split (first second : Sink) : ReadsAlike (Split first second) := by
  intro console other split
  obtain ⟨output, rfl⟩ := split
  rw [readNumber_setOutput]
  exact ⟨rfl, (output_readNumber console).trans output, rfl⟩

end Console

namespace Machine

open Console

/-- The text that the next tick prints. -/
def utterance (machine : Machine) : Bytes :=
  (machine.instruction?.bind machine.speech?).elim [] fun said => line said.1 said.2

/-- The texts that so many ticks print, one behind the other. -/
def printed (machine : Machine) : Nat → Bytes
  | 0 => []
  | count + 1 => machine.printed count ++ (machine.onward count).utterance

/-- Whether the next tick fails because its text is refused. -/
def IsRefused (machine : Machine) : Prop :=
  ∃ fault, machine.tick.2 = some (.fault fault) ∧ fault.cause = .output

/-- The texts that a machine prints arrive at once, as far as a budget has room for them. A tick fails
for its output exactly when they exceed the budget, and a number is only read when all have arrived. -/
structure DeliversWithin (budget : Option Nat) (machine : Machine) : Prop where
  delivered : ∀ count,
    (machine.onward count).console.delivered = within budget (machine.printed count)
  isRefused_iff : ∀ count,
    (machine.onward count).IsRefused ↔ ¬ Fits budget (machine.printed (count + 1))
  read : ∀ count register,
    (machine.onward count).instruction? = some (.register (.known .read) register) →
      (machine.onward count).console.delivered = machine.printed count

section Speech

variable {machine : Machine} {instruction : Instruction}

theorem utterance_of_silent (found : machine.instruction? = some instruction)
    (silent : machine.speech? instruction = none) : machine.utterance = [] := by
  simp only [utterance, found, Option.bind_some, silent, Option.elim_none]

theorem utterance_of_speech? {text : Bytes} {newline : Bool}
    (found : machine.instruction? = some instruction)
    (speaks : machine.speech? instruction = some (text, newline)) :
    machine.utterance = line text newline := by
  simp only [utterance, found, Option.bind_some, speaks, Option.elim_some]

theorem isRefused_iff (found : machine.instruction? = some instruction) :
    machine.IsRefused ↔ (machine.perform instruction).2 = .error .output := by
  generalize performed : machine.perform instruction = effect
  obtain ⟨after, outcome⟩ := effect
  cases outcome with
  | ok next => simp [IsRefused, tick_of_ok found performed]
  | error cause => simp [IsRefused, tick_of_error found performed]

theorem not_isRefused_of_instruction?_eq_none (missing : machine.instruction? = none) :
    ¬ machine.IsRefused := by
  obtain ⟨halt, ticked, noFault⟩ := tick_of_instruction?_eq_none missing
  rintro ⟨fault, refused, _⟩
  rw [ticked] at refused
  exact noFault fault (Option.some.inj refused)

theorem write_of_put {sink after : Sink} {accepted : Bool} {text : Bytes} {newline : Bool}
    (output : machine.console.output = some sink)
    (put : sink.put (line text newline) = (after, accepted)) :
    machine.write text newline =
      if accepted then
        { machine with console := machine.console.setOutput (some after) }.proceed
      else { machine with console := machine.console.setOutput (some after) }.fail .output := by
  have written : machine.console.write text newline =
      (machine.console.setOutput (some after), accepted) := by
    simp only [Console.write, output]
    rw [← line, put]
    rfl
  simp only [write, written]
  cases accepted with
  | true => rfl
  | false => rfl

end Speech

/-- Two machines with outputs of their own: either both outputs have taken all of `said`, or both are
closed and the next text is refused again. -/
inductive Paired (budget : Option Nat) (said : Bytes) (first second : Machine) : Prop
  | printing {sink other : Sink} (twins : first.Twins (Split sink other) second)
      (fits : Fits budget said) (isOpen : sink.Open budget said)
      (otherOpen : other.Open budget said) : Paired budget said first second
  | jammed {sink other : Sink} {instruction : Instruction} {text : Bytes} {newline : Bool}
      (twins : first.Twins (Split sink other) second) (exceeds : ¬ Fits budget said)
      (closed : sink.Closed (within budget said)) (otherClosed : other.Closed (within budget said))
      (found : first.instruction? = some instruction)
      (speaks : first.speech? instruction = some (text, newline))
      (filled : line text newline ≠ []) : Paired budget said first second

section Pairs

variable {budget : Option Nat} {said : Bytes} {first second : Machine} {sink other : Sink}

theorem twins_write_of_put {after afterOther : Sink} {accepted : Bool} {text : Bytes}
    {newline : Bool} (twins : first.Twins (Split sink other) second)
    (put : sink.put (line text newline) = (after, accepted))
    (putOther : other.put (line text newline) = (afterOther, accepted)) :
    Effect.Twins (Split after afterOther) (first.write text newline)
      (second.write text newline) := by
  obtain ⟨verbose, console, ⟨output, rfl⟩, rfl⟩ := twins
  rw [write_of_put output put, write_of_put rfl putOther]
  cases accepted with
  | true => exact ⟨⟨verbose, _, ⟨rfl, rfl⟩, rfl⟩, rfl⟩
  | false => exact ⟨⟨verbose, _, ⟨rfl, rfl⟩, rfl⟩, rfl⟩

/-- What a tick makes of a pair. -/
structure Paired.Ticks (budget : Option Nat) (said : Bytes) (first second : Machine) : Prop where
  behind : Paired budget said first.tick.1 second.tick.1
  outcome : first.tick.2 = second.tick.2
  isRefused_iff : first.IsRefused ↔ ¬ Fits budget said

theorem paired_ticks_of_accepted {instruction : Instruction} {text : Bytes} {newline : Bool}
    {after afterOther : Sink} (twins : first.Twins (Split sink other) second)
    (found : first.instruction? = some instruction)
    (speaks : first.speech? instruction = some (text, newline))
    (put : sink.put (line text newline) = (after, true))
    (putOther : other.put (line text newline) = (afterOther, true)) (fits : Fits budget said)
    (still : after.Open budget said) (stillOther : afterOther.Open budget said) :
    Paired.Ticks budget said first second := by
  have written := twins_write_of_put twins put putOther
  have performed := perform_of_speech? speaks
  have performedOther := perform_of_speech? ((twins.speech? instruction).trans speaks)
  rw [← performed, ← performedOther] at written
  obtain ⟨behind, outcome⟩ := twins.tick_of_effect found written
  refine ⟨.printing behind fits still stillOther, outcome, ?_⟩
  obtain ⟨_, _, ⟨output, _⟩, _⟩ := twins
  rw [isRefused_iff found, performed, write_of_put output put]
  simp [proceed, fits]

theorem paired_ticks_of_refused {instruction : Instruction} {text : Bytes} {newline : Bool}
    {after afterOther : Sink} (twins : first.Twins (Split sink other) second)
    (found : first.instruction? = some instruction)
    (speaks : first.speech? instruction = some (text, newline)) (filled : line text newline ≠ [])
    (put : sink.put (line text newline) = (after, false))
    (putOther : other.put (line text newline) = (afterOther, false)) (exceeds : ¬ Fits budget said)
    (closed : after.Closed (within budget said))
    (closedOther : afterOther.Closed (within budget said)) :
    Paired.Ticks budget said first second := by
  have written := twins_write_of_put twins put putOther
  have performed := perform_of_speech? speaks
  have performedOther := perform_of_speech? ((twins.speech? instruction).trans speaks)
  rw [← performed, ← performedOther] at written
  obtain ⟨behind, outcome⟩ := twins.tick_of_effect found written
  obtain ⟨_, _, ⟨output, _⟩, _⟩ := twins
  rw [write_of_put output put] at performed
  have ticked := tick_of_error found performed
  have foundAgain : first.tick.1.instruction? = some instruction := by
    rw [ticked]
    exact found
  have speaksAgain : first.tick.1.speech? instruction = some (text, newline) := by
    rw [ticked]
    exact speaks
  refine ⟨.jammed behind exceeds closed closedOther foundAgain speaksAgain filled, outcome, ?_⟩
  rw [isRefused_iff found, performed]
  simp [fail, exceeds]

theorem Paired.tick (paired : Paired budget said first second) :
    Paired.Ticks budget (said ++ first.utterance) first second := by
  cases paired with
  | @printing sink other twins fits isOpen otherOpen =>
      cases found : first.instruction? with
      | none =>
          have silent : first.utterance = [] := by simp [utterance, found]
          obtain ⟨behind, outcome⟩ := twins.tick_of_instruction?_eq_none found
          rw [silent, List.append_nil]
          refine ⟨.printing behind fits isOpen otherOpen, outcome, ?_⟩
          simp [not_isRefused_of_instruction?_eq_none found, fits]
      | some instruction =>
          cases speaks : first.speech? instruction with
          | none =>
              obtain ⟨effects, quiet⟩ := silent_perform (readsAlike_split sink other) twins speaks
              obtain ⟨behind, outcome⟩ := twins.tick_of_effect found effects
              rw [utterance_of_silent found speaks, List.append_nil]
              refine ⟨.printing behind fits isOpen otherOpen, outcome, ?_⟩
              simp [isRefused_iff found, quiet, fits]
          | some pair =>
              obtain ⟨text, newline⟩ := pair
              rw [utterance_of_speech? found speaks]
              have answer := isOpen.put fits (line text newline)
              have answerOther := otherOpen.put fits (line text newline)
              generalize put : sink.put (line text newline) = result at answer
              generalize putOther : other.put (line text newline) = resultOther at answerOther
              cases answer with
              | accepted fitsAll still =>
                  cases answerOther with
                  | accepted _ stillOther =>
                      exact paired_ticks_of_accepted twins found speaks put putOther fitsAll still
                        stillOther
                  | refused exceeds => exact absurd fitsAll exceeds
              | refused exceeds closed =>
                  have filled : line text newline ≠ [] := by
                    intro empty
                    rw [empty, List.append_nil] at exceeds
                    exact exceeds fits
                  cases answerOther with
                  | accepted fitsAll => exact absurd fitsAll exceeds
                  | refused _ closedOther =>
                      exact paired_ticks_of_refused twins found speaks filled put putOther exceeds
                        closed closedOther
  | jammed twins exceeds closed otherClosed found speaks filled =>
      obtain ⟨after, put, closed⟩ := closed.put filled
      obtain ⟨afterOther, putOther, closedOther⟩ := otherClosed.put filled
      rw [utterance_of_speech? found speaks]
      rw [← within_append_of_not_fits exceeds] at closed closedOther
      refine paired_ticks_of_refused twins found speaks filled put putOther ?_ closed closedOther
      exact fun fits => exceeds fits.of_append

theorem Paired.onward (paired : Paired budget [] first second) (count : Nat) :
    Paired budget (first.printed count) (first.onward count) (second.onward count) := by
  induction count with
  | zero => exact paired
  | succ count induction => exact induction.tick.behind

theorem Paired.twins (paired : Paired budget said first second) :
    ∃ sink other, first.Twins (Split sink other) second ∧
      sink.drain.delivered = within budget said ∧ other.drain.delivered = within budget said := by
  cases paired with
  | printing twins fits isOpen otherOpen =>
      exact ⟨_, _, twins, isOpen.delivered, otherOpen.delivered⟩
  | jammed twins exceeds closed otherClosed =>
      exact ⟨_, _, twins, closed.delivered, otherClosed.delivered⟩

theorem Paired.delivered (paired : Paired budget said first second) :
    first.console.delivered = within budget said ∧
      second.console.delivered = within budget said := by
  obtain ⟨sink, other, ⟨_, _, ⟨output, rfl⟩, rfl⟩, arrived, arrivedOther⟩ := paired.twins
  refine ⟨?_, arrivedOther⟩
  rw [Console.delivered, output]
  exact arrived

theorem Paired.looksLike (paired : Paired budget said first second) : first.LooksLike second := by
  have delivered := paired.delivered.1.trans paired.delivered.2.symm
  obtain ⟨_, _, ⟨_, _, _, rfl⟩, _, _⟩ := paired.twins
  exact ⟨rfl, rfl, rfl, rfl, rfl, delivered⟩

theorem Paired.runsLike (paired : Paired budget [] first second) : first.RunsLike second := by
  apply runsLike_of_onward
  · intro count
    exact (paired.onward count).looksLike
  · intro count
    exact (paired.onward count).tick.outcome
  · intro count
    obtain ⟨_, _, twins, _, _⟩ := (paired.onward count).twins
    exact twins.isDone.symm

theorem Paired.printed_eq (paired : Paired budget [] first second) (count : Nat) :
    second.printed count = first.printed count := by
  induction count with
  | zero => rfl
  | succ count induction =>
      obtain ⟨_, _, twins, _, _⟩ := (paired.onward count).twins
      have spoken : (second.onward count).speech? = (first.onward count).speech? :=
        funext twins.speech?
      rw [printed, induction, printed, utterance, twins.instruction?, spoken, utterance]

/-- A pair that does not print has room for more. -/
theorem Paired.fits_of_silent (paired : Paired budget said first second)
    {instruction : Instruction} (found : first.instruction? = some instruction)
    (silent : first.speech? instruction = none) : Fits budget said := by
  cases paired with
  | printing twins fits => exact fits
  | jammed twins exceeds closed otherClosed known speaks =>
      obtain rfl := Option.some.inj (found.symm.trans known)
      cases silent.symm.trans speaks

theorem Paired.deliversWithin (paired : Paired budget [] first second) :
    first.DeliversWithin budget ∧ second.DeliversWithin budget := by
  have silent : ∀ (machine : Machine) register,
      machine.speech? (.register (.known .read) register) = none := fun _ _ => rfl
  constructor
  · refine ⟨fun count => (paired.onward count).delivered.1, fun count => ?_, ?_⟩
    · exact (paired.onward count).tick.isRefused_iff
    · intro count register found
      rw [(paired.onward count).delivered.1]
      exact within_of_fits ((paired.onward count).fits_of_silent found (silent _ register))
  · refine ⟨fun count => ?_, fun count => ?_, ?_⟩
    · rw [paired.printed_eq count]
      exact (paired.onward count).delivered.2
    · have ticks := (paired.onward count).tick
      rw [paired.printed_eq, IsRefused, ← ticks.outcome]
      exact ticks.isRefused_iff
    · intro count register found
      obtain ⟨_, _, twins, _, _⟩ := (paired.onward count).twins
      rw [(paired.onward count).delivered.2, paired.printed_eq count]
      exact within_of_fits ((paired.onward count).fits_of_silent
        (twins.instruction?.symm.trans found) (silent _ register))

end Pairs

def printingTo (machine : Machine) (sink : Sink) : Machine :=
  { machine with console := machine.console.setOutput (some sink) }

theorem paired_reset (machine : Machine) (budget : Option Nat) :
    Paired budget [] (machine.printingTo (.plain ⟨[], budget⟩)).reset.1
        (machine.printingTo (.buffered [] false ⟨[], budget⟩)).reset.1 ∧
      (machine.printingTo (.plain ⟨[], budget⟩)).reset.2 =
        (machine.printingTo (.buffered [] false ⟨[], budget⟩)).reset.2 := by
  have holds : Drain.Holds ⟨[], budget⟩ budget [] := by
    refine ⟨?_, ?_⟩
    · simp
    · cases budget with
      | none => rfl
      | some room => simp [Drain.delivered, within]
  have twins : (machine.printingTo (.plain ⟨[], budget⟩)).Twins
      (Split (.plain ⟨[], budget⟩) (.buffered [] false ⟨[], budget⟩))
      (machine.printingTo (.buffered [] false ⟨[], budget⟩)) :=
    ⟨machine.verbose, _, ⟨rfl, rfl⟩, rfl⟩
  obtain ⟨behind, defect⟩ := twins.reset
  exact ⟨.printing behind (by simp [Fits]) (.plain holds) (.buffered holds), defect⟩

/-- A buffer before the output is not seen, and no text is late. From a reset on, a machine that prints
to an output with a budget and one that prints to such an output through a buffer run alike, and both
deliver their texts within the budget. -/
theorem buffer_is_not_seen (machine : Machine) (budget : Option Nat) :
    (machine.printingTo (.plain ⟨[], budget⟩)).reset.2 =
        (machine.printingTo (.buffered [] false ⟨[], budget⟩)).reset.2 ∧
      (machine.printingTo (.plain ⟨[], budget⟩)).reset.1.RunsLike
        (machine.printingTo (.buffered [] false ⟨[], budget⟩)).reset.1 ∧
      (machine.printingTo (.plain ⟨[], budget⟩)).reset.1.DeliversWithin budget ∧
      (machine.printingTo (.buffered [] false ⟨[], budget⟩)).reset.1.DeliversWithin budget := by
  obtain ⟨paired, defect⟩ := paired_reset machine budget
  exact ⟨defect, paired.runsLike, paired.deliversWithin⟩

/-- Prints two texts, the second with a newline. -/
def greeting : Program where
  opcodes := #[
    ⟨1, utf8 "print \"ab\"", some (.text (.known .print) (utf8 "ab"))⟩,
    ⟨2, utf8 "println \"cd\"", some (.text (.known .println) (utf8 "cd"))⟩]
  registers := []
  labels := Table.ofList []

/-- Behind a buffer, an output with room for three bytes gets the first text and one byte of the second,
whose tick fails. -/
theorem buffer_is_not_seen_greeting :
    ∃ ready,
      ready = ((Machine.new (some greeting)).printingTo (.buffered [] false ⟨[], some 3⟩)).reset.1 ∧
      ready.printed 2 = utf8 "abcd\n" ∧ (ready.onward 1).IsRefused ∧
      (ready.onward 2).console.delivered = utf8 "abc" := by
  obtain ⟨_, _, _, within⟩ := buffer_is_not_seen (Machine.new (some greeting)) (some 3)
  have printed : ((Machine.new (some greeting)).printingTo
      (.buffered [] false ⟨[], some 3⟩)).reset.1.printed 2 = utf8 "abcd\n" := by
    decide +kernel
  refine ⟨_, rfl, printed, ?_, ?_⟩
  · rw [within.isRefused_iff, printed]
    intro fits
    exact absurd (fits 3 rfl) (by decide)
  · rw [within.delivered, printed]
    decide

end Machine

end RegisterMachine
