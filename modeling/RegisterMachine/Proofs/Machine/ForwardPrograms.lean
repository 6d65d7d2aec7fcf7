import RegisterMachine.Expression.Lookups
import RegisterMachine.Proofs.Machine.InstructionTable
import RegisterMachine.Proofs.Machine.Reset
import RegisterMachine.Proofs.Machine.Run

/-! Programs that only go forward. Where there is no return and every label stands behind the
instructions that name it, each instruction takes control further on, so the ticks never overtake
the instruction pointer and a run ends before they have outnumbered the places of the program. -/

namespace RegisterMachine

namespace Program

/-- A program without returns, in which labels stand behind the instructions that name them. -/
structure IsForward (program : Program) : Prop where
  noReturn : ∀ instruction ∈ program.instructions, instruction.verb ≠ .known .ret
  ahead : ∀ address instruction label target, program.instruction? address = some instruction →
    instruction.target? = some label → program.label? label = some target → address < target

/-- A program of which no instruction can send control elsewhere than behind it. -/
def IsStraight (program : Program) : Prop :=
  ∀ instruction ∈ program.instructions, instruction.isTransfer = false

theorem lt_size_of_instruction? {program : Program} {address : Int} {instruction : Instruction}
    (found : program.instruction? address = some instruction) :
    0 ≤ address ∧ address < program.size := by
  obtain ⟨opcode, place, _⟩ := Option.bind_eq_some_iff.mp found
  rw [opcode?] at place
  split at place
  · obtain ⟨inside, _⟩ := Array.getElem?_eq_some_iff.mp place
    rw [size]
    omega
  · cases place

end Program

namespace Machine

/-- A machine in a forward program that has not ticked more often than control has gone places. -/
structure Proceeds (machine : Machine) (program : Program) : Prop where
  ready : machine.IsReady program
  behind : (machine.ticks : Int) ≤ machine.ip.toInt
  within : machine.ip.toInt ≤ program.size

section Forward

variable {assembler : Assembler} {source : Bytes} {program : Program} {machine after : Machine}

theorem IsReady.counters_of_failure (ready : machine.IsReady program) {halt : Halt}
    (failed : machine.tick.2 = some halt) :
    machine.tick.1.ip = machine.ip ∧ machine.tick.1.ticks = machine.ticks := by
  cases found : machine.place? with
  | none =>
      rw [Machine.tick, found]
      exact ⟨rfl, rfl⟩
  | some opcode =>
      obtain ⟨_, _, ⟨_, _, _, ticked⟩ | ⟨_, _, ticked, _⟩⟩ := tick_of_place ready found
      · rw [ticked] at failed
        cases failed
      · rw [ticked]
        exact ⟨rfl, rfl⟩

theorem Proceeds.eq_size_of_isDone (proceeds : machine.Proceeds program)
    (isDone : machine.isDone = true) : machine.ip.toInt = program.size := by
  have behind := proceeds.behind
  have within := proceeds.within
  simp only [Machine.isDone, proceeds.ready.loaded, Bool.or_eq_true, decide_eq_true_eq] at isDone
  rcases isDone with negative | beyond
  · have below : machine.ip.toInt < 0 := Int64.lt_iff_toInt_lt.mp negative
    omega
  · omega

variable [Evaluator] (assembled : (assembler.parse source).2 = .ok program)
  (fits : program.size < 9223372036854775808)

include assembled fits

theorem IsReady.obeys (ready : machine.IsReady program) (step : machine.tick = (after, none)) :
    ∃ instruction, program.instruction? machine.ip.toInt = some instruction ∧
      machine.Obeys instruction after ∧
      machine.following.toInt = machine.ip.toInt + 1 ∧ machine.ip.toInt < program.size := by
  have accepted (instruction) (member : instruction ∈ program.instructions) :
      instruction.Accepted := accepted_of_parse assembled member
  obtain ⟨instruction, here, obeys⟩ := obeys_of_tick ready.loaded accepted step
  obtain ⟨_, inside⟩ := Program.lt_size_of_instruction? here
  refine ⟨instruction, here, obeys, ?_, inside⟩
  apply toInt_following_of_lt
  omega

variable (isForward : program.IsForward)

include isForward

/-- A tick takes control further on, and no further than behind the last place. -/
theorem IsReady.goes_on (ready : machine.IsReady program) (step : machine.tick = (after, none)) :
    machine.ip.toInt < after.ip.toInt ∧ after.ip.toInt ≤ program.size := by
  obtain ⟨instruction, here, obeys, following, inside⟩ := ready.obeys assembled fits step
  have noReturn := isForward.noReturn instruction (Program.mem_instructions here)
  rcases obeys.ip.on_or_away noReturn with ⟨_, next⟩ | ⟨_, label, target, named, bound, next⟩
  · rw [next, following]
    omega
  · rw [address?, ready.loaded, Option.bind_some] at bound
    obtain ⟨lower, upper⟩ := label_bounds_of_parse assembled bound
    have ahead := isForward.ahead _ instruction label target here named bound
    have address : (Int64.ofInt target).toInt = target := by
      apply Int64.toInt_ofInt_of_le
      · change -9223372036854775808 ≤ target
        omega
      · change target < 9223372036854775808
        omega
    rw [next, address]
    exact ⟨ahead, upper⟩

theorem Proceeds.tick (proceeds : machine.Proceeds program) :
    machine.tick.1.Proceeds program := by
  have ready := proceeds.ready.of_keeps proceeds.ready.keeps_tick
  have behind := proceeds.behind
  have within := proceeds.within
  cases ended : machine.tick.2 with
  | none =>
      have step : machine.tick = (machine.tick.1, none) := Prod.ext rfl ended
      obtain ⟨further, inside⟩ := proceeds.ready.goes_on assembled fits isForward step
      have counted := (reworks_of_tick step).1
      exact ⟨ready, by omega, inside⟩
  | some halt =>
      obtain ⟨ip, ticks⟩ := proceeds.ready.counters_of_failure ended
      rw [← ip, ← ticks] at behind
      rw [← ip] at within
      exact ⟨ready, behind, within⟩

theorem Proceeds.onward (proceeds : machine.Proceeds program) (count : Nat) :
    (machine.onward count).Proceeds program := by
  induction count with
  | zero => exact proceeds
  | succ count induction => exact induction.tick assembled fits isForward

theorem Proceeds.ip_le (proceeds : machine.Proceeds program) (count : Nat) :
    machine.ip.toInt ≤ (machine.onward count).ip.toInt := by
  induction count with
  | zero => exact Int.le_refl _
  | succ count induction =>
      have ready := (proceeds.onward assembled fits isForward count).ready
      apply Int.le_trans induction
      cases ended : (machine.onward count).tick.2 with
      | none =>
          have step : (machine.onward count).tick = (_, none) := Prod.ext rfl ended
          exact Int.le_of_lt (ready.goes_on assembled fits isForward step).1
      | some halt =>
          have stays := (ready.counters_of_failure ended).1
          exact Int.le_of_eq (congrArg Int64.toInt stays.symm)

/-- Behind an instruction that has gone through, control is further on for good. -/
theorem Proceeds.ip_lt (proceeds : machine.Proceeds program) {earlier later : Nat}
    (before : earlier < later) (succeeds : (machine.onward earlier).tick.2 = none) :
    (machine.onward earlier).ip < (machine.onward later).ip := by
  have there := proceeds.onward assembled fits isForward earlier
  have next := proceeds.onward assembled fits isForward (earlier + 1)
  have further := (there.ready.goes_on assembled fits isForward (Prod.ext rfl succeeds)).1
  have stays := next.ip_le assembled fits isForward (later - (earlier + 1))
  rw [onward_add, Nat.add_sub_cancel' before] at stays
  rw [Int64.lt_iff_toInt_lt]
  exact Int.lt_of_lt_of_le further stays

theorem Proceeds.ends (proceeds : machine.Proceeds program) (start : machine.ticks = 0) :
    (∃ count state, count ≤ program.size ∧ machine.Runs count state .done) ∨
      ∃ count state fault, count < program.size ∧
        machine.Runs count state (.halted (.fault fault)) := by
  rcases proceeds.ready.runs_or_ticks program.size with ends | ends | ⟨state, ticks, running⟩
  · exact .inl ends
  · exact .inr ends
  · -- As many ticks as there are places have taken control behind them all.
    exfalso
    have there := proceeds.onward assembled fits isForward program.size
    rw [← ticks.eq_onward] at there
    have counted := ticks.ticks_eq
    have behind := there.behind
    simp only [Machine.isDone, there.ready.loaded, Bool.or_eq_false_iff,
      decide_eq_false_iff_not] at running
    omega

/-- Without any transfer of control, the ticks keep up with the instruction pointer. -/
theorem Proceeds.keeps_pace (isStraight : program.IsStraight)
    (proceeds : machine.Proceeds program) (start : machine.ip.toInt = machine.ticks)
    (count : Nat) : (machine.onward count).ip.toInt = (machine.onward count).ticks := by
  induction count with
  | zero => exact start
  | succ count induction =>
      have ready := (proceeds.onward assembled fits isForward count).ready
      rw [Machine.onward]
      cases ended : (machine.onward count).tick.2 with
      | none =>
          have step : (machine.onward count).tick = (_, none) := Prod.ext rfl ended
          obtain ⟨instruction, here, obeys, following, _⟩ := ready.obeys assembled fits step
          have plain := isStraight instruction (Program.mem_instructions here)
          have next := obeys.ip.eq_following plain
          rw [next, following, obeys.ticks]
          omega
      | some halt =>
          obtain ⟨ip, ticks⟩ := ready.counters_of_failure ended
          rw [ip, ticks]
          exact induction

end Forward

theorem proceeds_of_reset {machine ready : Machine} {program : Program}
    (loaded : machine.program = some program) (reset : machine.reset = (ready, none)) :
    ready.Proceeds program ∧ ready.ip = 0 ∧ ready.ticks = 0 := by
  have isReady := isReady_of_reset reset
  rw [loaded, Option.getD_some] at isReady
  have isStart := eq_of_reset reset
  have ip : ready.ip = 0 := by rw [isStart]
  have ticks : ready.ticks = 0 := by rw [isStart]
  refine ⟨⟨isReady, ?_, ?_⟩, ip, ticks⟩
  · rw [ip, ticks]
    exact Int.le_refl 0
  · rw [ip]
    exact Int.natCast_nonneg _

/-- An assembled program that only goes forward, with places that all have addresses, comes to its
end or to a fault within as many instructions as it has places, and none of these is executed twice.
The ticks are never more than the address of control, and the same if nothing transfers control. -/
theorem forward_program_ends [Evaluator] {assembler : Assembler} {source : Bytes}
    {program : Program}
    {machine : Machine} (assembled : (assembler.parse source).2 = .ok program)
    (fits : program.size < 9223372036854775808) (isForward : program.IsForward)
    (loaded : machine.program = some program) :
    ∃ ready, machine.reset = (ready, none) ∧
      (∀ count, ((ready.onward count).ticks : Int) ≤ (ready.onward count).ip.toInt ∧
        (ready.onward count).ip.toInt ≤ program.size) ∧
      (∀ earlier later, earlier < later → (ready.onward earlier).tick.2 = none →
        (ready.onward earlier).ip < (ready.onward later).ip) ∧
      ((∃ count state, count ≤ program.size ∧ ready.Runs count state .done) ∨
        ∃ count state fault, count < program.size ∧
          ready.Runs count state (.halted (.fault fault))) ∧
      (program.IsStraight →
        (∀ count, (ready.onward count).ip.toInt = (ready.onward count).ticks) ∧
        ∀ count state, ready.Runs count state .done →
          state.ip.toInt = program.size ∧ state.ticks = program.size) := by
  have valid : machine.reset.2 = none := by
    obtain ⟨_, _, _, _, _, linked, describes⟩ := Assembler.transcript_of_assemble assembled
    rw [defect_reset, loaded, Option.getD_some, describes.defect?_eq_none linked]
  have reset : machine.reset = (machine.reset.1, none) := Prod.ext rfl valid
  obtain ⟨proceeds, ip, ticks⟩ := proceeds_of_reset loaded reset
  refine ⟨machine.reset.1, reset, ?_, ?_, proceeds.ends assembled fits isForward ticks, ?_⟩
  · intro count
    have there := proceeds.onward assembled fits isForward count
    exact ⟨there.behind, there.within⟩
  · intro earlier later before succeeds
    exact proceeds.ip_lt assembled fits isForward before succeeds
  · intro isStraight
    have pace := proceeds.keeps_pace assembled fits isForward isStraight (by rw [ip, ticks]; rfl)
    refine ⟨pace, ?_⟩
    intro count state run
    obtain ⟨ran, isDone⟩ := runs_done_iff.mp run
    obtain rfl := ran.eq_onward
    have there := proceeds.onward assembled fits isForward count
    have final := there.eq_size_of_isDone isDone
    have same := pace count
    exact ⟨final, by omega⟩

/-- Jumps, a call and a loop that all go forward, the last to the end of the program. -/
theorem forward_program_ends_ladder :
    ∃ program ready,
      (Assembler.fresh.parse (utf8
        "inc a\ncmp a, 1\nje up\ndec a\nup: call on\non: loop a, end\npop a\nend:")).2 =
          .ok program ∧
      program.IsForward ∧ program.size = 7 ∧
      (fresh (some program) 1 Console.empty).reset = (ready, none) ∧
      ∀ count, ((ready.onward count).ticks : Int) ≤ (ready.onward count).ip.toInt ∧
        (ready.onward count).ip.toInt ≤ 7 := by
  obtain ⟨program, assembled, facts⟩ : ∃ program,
      (Assembler.fresh.parse (utf8
        "inc a\ncmp a, 1\nje up\ndec a\nup: call on\non: loop a, end\npop a\nend:")).2 =
          .ok program ∧
        (program.size, program.instructions.all fun instruction =>
            instruction.verb ≠ .known .ret,
          (List.range 7).all fun address =>
            (((program.instruction? address).bind Instruction.target?).bind program.label?).all
              fun target => (address : Int) < target) = (7, true, true) :=
    Assembler.exists_of_toOption (by decide +kernel)
  simp only [Prod.mk.injEq, List.all_eq_true, List.mem_range, decide_eq_true_eq] at facts
  obtain ⟨size, noReturn, ahead⟩ := facts
  have isForward : program.IsForward := by
    refine ⟨noReturn, ?_⟩
    intro address instruction label target found named bound
    obtain ⟨lower, upper⟩ := Program.lt_size_of_instruction? found
    obtain ⟨place, rfl⟩ := Int.eq_ofNat_of_zero_le lower
    have later := ahead place (by omega)
    rw [found, Option.bind_some, named, Option.bind_some, bound, Option.all_some] at later
    exact of_decide_eq_true later
  have loaded : (fresh (some program) 1 Console.empty).program = some program := rfl
  obtain ⟨ready, reset, within, _⟩ :=
    forward_program_ends assembled (by omega) isForward loaded
  rw [size] at within
  exact ⟨program, ready, assembled, isForward, size, reset, within⟩

end Machine

end RegisterMachine
