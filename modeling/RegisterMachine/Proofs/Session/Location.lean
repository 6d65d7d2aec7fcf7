import RegisterMachine.Expression.Lookups
import RegisterMachine.Proofs.Session.StepLimit

/-! Where the errors of a session point. A session that is broken off stands at an instruction of its
program, and its error names the line of the source that this instruction was assembled from. -/

namespace RegisterMachine

namespace Program

/-- Where the line numbers of a program increase, no two of its addresses have a line in common. -/
theorem eq_of_lineNumber {program : Program} {first second : Int} {opcode other : Opcode}
    (increasing : (program.opcodes.toList.map Opcode.lineNumber).Pairwise (· < ·))
    (found : program.opcode? first = some opcode)
    (foundOther : program.opcode? second = some other)
    (same : opcode.lineNumber = other.lineNumber) : first = second := by
  rw [opcode?] at found foundOther
  split at found
  · rename_i lower
    split at foundOther
    · rename_i lowerOther
      rw [← Array.getElem?_toList] at found foundOther
      have place : (program.opcodes.toList.map Opcode.lineNumber)[first.toNat]? =
          some opcode.lineNumber := by
        rw [List.getElem?_map, found, Option.map_some]
      have placeOther : (program.opcodes.toList.map Opcode.lineNumber)[second.toNat]? =
          some opcode.lineNumber := by
        rw [List.getElem?_map, foundOther, Option.map_some, same]
      obtain ⟨inside, _⟩ := List.getElem?_eq_some_iff.mp place
      have distinct := increasing.imp fun less => Int.ne_of_lt less
      have index := (List.getElem?_inj inside distinct).mp (place.trans placeOther.symm)
      omega
    · cases foundOther
  · cases found

end Program

namespace Assembler

open Grammar

variable [Evaluator]

/-- The place of a program that a line of its source was assembled to: it has the number and the text
of the line, and the instruction that the command on the line stands for. -/
structure AssembledFrom (predefined : Table Bytes) (lines : List Bytes)
    (program : Program)
    (count : Nat) (opcode : Opcode) : Prop where
  number : opcode.lineNumber = count + 1
  text : lines[count]? = some opcode.line
  reads : ∃ labels command,
    Clause.Reads (Denotes (equatesAt predefined lines count)) (equatesAt predefined lines count)
        opcode.line (.statement labels (some command)) ∧
      opcode.instruction = some (command.resolve program.registers)

theorem Transcript.Describes.assembledFrom {transcript : Transcript} {program : Program}
    {predefined : Table Bytes} (describes : transcript.Describes program)
    (reads : transcript.Reads Denotes predefined) {opcode : Opcode}
    (member : opcode ∈ program.opcodes.toList) :
    ∃ count, AssembledFrom predefined transcript.lines program count opcode := by
  rw [describes.opcodes] at member
  obtain ⟨count, line, clause, command, found, isCommand, rfl⟩ :=
    Transcript.entry_of_mem_opcodes member
  refine ⟨count, by simp, Transcript.lines_getElem? found, ?_⟩
  cases clause with
  | equate name text => cases isCommand
  | statement labels held =>
      obtain rfl : held = some command := isCommand
      exact ⟨labels, command, (reads.clauseAt found).1, rfl⟩

end Assembler

namespace Session

/-- An error of a session that stands at a place of its program: the error has the line of this place,
and a fault its address. -/
structure RuntimeError.PointsAt (error : RuntimeError) (session : Session) (program : Program)
    (opcode : Opcode) : Prop where
  loaded : session.program = some program
  place : program.opcode? session.machine.ip.toInt = some opcode
  line : error.lineNumber = opcode.lineNumber
  reason : error.reason = .stepLimit ∨
    ∃ fault, error.reason = .fault fault ∧ fault.address = session.machine.ip

section Errors

variable {session : Session} {program : Program} {opcode : Opcode}

theorem RuntimeError.PointsAt.lineNumber? {error : RuntimeError}
    (points : error.PointsAt session program opcode) :
    session.lineNumber? = some error.lineNumber := by
  simp only [Session.lineNumber?, points.loaded, points.place, points.line]

theorem pointsAt_blame {reason : Reason} (loaded : session.program = some program)
    (place : program.opcode? session.machine.ip.toInt = some opcode)
    (known : reason = .stepLimit ∨
      ∃ fault, reason = .fault fault ∧ fault.address = session.machine.ip) :
    (session.blame reason).PointsAt session program opcode where
  loaded := loaded
  place := place
  line := by simp only [blame, Session.lineNumber?, loaded, place, Option.getD_some]
  reason := known

/-- A tick ends the run, or leads to a session that is ready, or fails at the place it started from. -/
theorem IsReady.tick_cases (ready : session.IsReady program) :
    session.tick = (session, .done) ∨
      (∃ next, next.IsReady program ∧ session.tick = (next, .stepped)) ∨
      ∃ after error opcode, session.tick = (after, .failed error) ∧
        error.PointsAt after program opcode := by
  cases isDone : session.machine.isDone with
  | true => exact .inl (ready.tick_of_isDone isDone)
  | false =>
      obtain ⟨opcode, place⟩ := Machine.place?_of_running ready.machine isDone
      rw [Machine.place?, ready.machine.loaded, Option.bind_some] at place
      by_cases allows : session.Allows 1
      · rcases ready.machine.tick_cases isDone with ⟨state, step⟩ | ⟨state, fault, failed⟩
        · exact .inr (.inl ⟨_, ready.step step, ready.tick_of_step allows step⟩)
        · refine .inr (.inr ⟨_, _, opcode, ready.tick_of_fault allows isDone failed, ?_⟩)
          have address : fault.address = session.machine.ip := by
            obtain ⟨_, _, _, _, rfl⟩ := Machine.tick_eq_fault_iff.mp failed
            rfl
          -- An instruction at fault leaves the instruction pointer where it is.
          obtain ⟨⟨_, _, _, _, rfl⟩, _⟩ := Machine.reworks_of_fault failed
          exact pointsAt_blame ready.loaded place (.inr ⟨fault, rfl, address⟩)
      · refine .inr (.inr ⟨_, _, opcode, ready.tick_of_exhausted isDone allows, ?_⟩)
        exact pointsAt_blame ready.loaded place (.inl rfl)

theorem IsReady.runFor_cases (ready : session.IsReady program) (budget : Nat) :
    (session.runFor budget).2 = .unfinished ∨ (session.runFor budget).2 = .done ∨
      ∃ error opcode, (session.runFor budget).2 = .failed error ∧
        error.PointsAt (session.runFor budget).1 program opcode := by
  induction budget generalizing session with
  | zero => exact .inl rfl
  | succ budget induction =>
      rcases ready.tick_cases with done | ⟨next, nextReady, stepped⟩ |
        ⟨after, error, opcode, failed, points⟩
      · rw [runFor, done]
        exact .inr (.inl rfl)
      · rw [runFor, stepped]
        exact induction nextReady
      · rw [runFor, failed]
        exact .inr (.inr ⟨error, opcode, rfl, points⟩)

end Errors

/-- A run of an assembled program never crashes, and an error it ends with points at the place where
control is: it has the number of the one line that the instruction there was assembled from, a fault
has the address of the instruction, and the session stays at this line. -/
theorem runtimeError_at_line [Evaluator] {assembler : Assembler} {source : Bytes}
    {program : Program}
    {session ready after : Session} {budget : Nat} {outcome : Outcome}
    (assembled : (assembler.parse source).2 = .ok program)
    (loaded : session.program = some program) (reset : session.reset = (ready, none))
    (ended : ready.runFor budget = (after, outcome)) :
    outcome ≠ .crashed ∧
    ∀ error, outcome = .failed error → ∃ (count : Nat) (opcode : Opcode),
      count < (Source.lines source).length ∧ error.lineNumber = count + 1 ∧
      program.opcode? after.machine.ip.toInt = some opcode ∧
      Assembler.AssembledFrom assembler.predefined (Source.lines source) program count opcode ∧
      (∀ address other, program.opcode? address = some other →
        other.lineNumber = error.lineNumber → address = after.machine.ip.toInt) ∧
      after.lineNumber? = some error.lineNumber ∧
      (error.reason = .stepLimit ∨
        ∃ fault, error.reason = .fault fault ∧ fault.address = after.machine.ip) := by
  obtain ⟨_, transcript, lines, reads, _, linked, describes⟩ :=
    Assembler.transcript_of_assemble assembled
  have isReady := (isReady_of_reset loaded reset).1
  have ends := isReady.runFor_cases budget
  rw [ended] at ends
  rcases ends with rfl | rfl | ⟨error, opcode, rfl, points⟩
  · simp
  · simp
  · refine ⟨by simp, fun same isError => ?_⟩
    obtain rfl := Outcome.failed.inj isError
    obtain ⟨count, origin⟩ := describes.assembledFrom reads (Program.mem_of_opcode? points.place)
    rw [lines] at origin
    refine ⟨count, opcode, ?_, points.line.trans origin.number, points.place, origin, ?_,
      points.lineNumber?, points.reason⟩
    · exact (List.getElem?_eq_some_iff.mp origin.text).1
    · intro address other found line
      have increasing := (describes.wellFormed reads linked).increasing
      exact Program.eq_of_lineNumber increasing found points.place (line.trans points.line)

/-- A comment, an equate, an empty line and a line with two labels lie before a division by zero, which
is the last of seven lines and the instruction at address three. -/
def divisionOnLineSeven : Bytes :=
  utf8 "; divides\n.equ none 0\n\nfirst: again: mov a, none\njmp divide\nret\ndivide: div b, a"

theorem runtimeError_at_line_seven :
    ∃ program ready after error opcode,
      (Assembler.fresh.parse divisionOnLineSeven).2 = .ok program ∧
      ({ new with program := some program } : Session).reset = (ready, none) ∧
      ready.runFor 5 = (after, .failed error) ∧ error.lineNumber = 7 ∧
      after.machine.ip = 3 ∧ after.lineNumber? = some 7 ∧
      Assembler.AssembledFrom Assembler.fresh.predefined (Source.lines divisionOnLineSeven)
        program 6 opcode := by
  have isOk : (Assembler.fresh.parse divisionOnLineSeven).2.isOk = true := by decide +kernel
  obtain ⟨program, assembled⟩ := Assembler.exists_of_isOk isOk
  have facts : (Assembler.fresh.parse divisionOnLineSeven).2.toOption.map (fun program =>
      let reset := ({ new with program := some program } : Session).reset
      (reset.2, (reset.1.runFor 5).1.machine.ip, (reset.1.runFor 5).1.lineNumber?,
        (reset.1.runFor 5).2 matches .failed _)) = some (none, 3, some 7, true) := by
    decide +kernel
  rw [assembled, Except.toOption, Option.map_some, Option.some_inj] at facts
  generalize restart : ({ new with program := some program } : Session).reset = restarted at facts
  obtain ⟨ready, defect⟩ := restarted
  generalize ended : ready.runFor 5 = result
  obtain ⟨after, outcome⟩ := result
  simp only [ended, Prod.mk.injEq] at facts
  obtain ⟨rfl, three, seven, fails⟩ := facts
  cases outcome with
  | failed error =>
      obtain ⟨count, opcode, _, line, _, origin, _, stays, _⟩ :=
        (runtimeError_at_line assembled rfl restart ended).2 error rfl
      have isSeven : error.lineNumber = 7 := Option.some.inj (stays.symm.trans seven)
      obtain rfl : count = 6 := by omega
      exact ⟨program, ready, after, error, opcode, assembled, restart, ended, isSeven, three,
        seven, origin⟩
  | _ => cases fails

end Session

end RegisterMachine
