import RegisterMachine.Proofs.Console.Words
import RegisterMachine.Proofs.Machine.Consoles
import RegisterMachine.Session

/-! What a run sees of its input. Two inputs whose texts have the same words cannot be told apart by any
program, whatever blanks lie between the words and whatever pieces the inputs arrive in. -/

namespace RegisterMachine

namespace Console

/-- Consoles with one output, before texts that have the same words. -/
def SameTokens (first second : Console) : Prop :=
  first.output = second.output ∧ first.SameWords second

theorem answersAlike_sameTokens : AnswersAlike SameTokens where
  readNumber first second same := by
    obtain ⟨output, words⟩ := same
    obtain ⟨answer, behind⟩ := words.readNumber
    refine ⟨answer, ?_, behind⟩
    rw [output_readNumber, output_readNumber, output]
  write first second same text newline := by
    obtain ⟨output, words⟩ := same
    obtain ⟨accepted, kept⟩ := write_of_output output text newline
    exact ⟨accepted, kept, words.write text newline⟩

end Console

theorem Machine.Twins.looksLike {first second : Machine}
    (twins : first.Twins Console.SameTokens second) : first.LooksLike second := by
  obtain ⟨_, console, same, rfl⟩ := twins
  refine ⟨rfl, rfl, rfl, rfl, rfl, ?_⟩
  rw [Console.delivered, same.1]
  rfl

namespace Session

def connect (session : Session) (reader : Reader) : Session :=
  { session with
    machine := { session.machine with console := session.machine.console.connect reader } }

/-- The session behind so many ticks, which may have failed. -/
def onward (session : Session) : Nat → Session
  | 0 => session
  | count + 1 => (session.onward count).tick.1

/-- Sessions that differ at most in the consoles of their machines, which are alike. -/
def Twins (alike : Console → Console → Prop) (first second : Session) : Prop :=
  ∃ machine, first.machine.Twins alike machine ∧ second = { first with machine }

section Pairs

variable {alike : Console → Console → Prop} {first second : Session}

theorem Twins.machine (twins : first.Twins alike second) :
    first.machine.Twins alike second.machine := by
  obtain ⟨machine, machines, rfl⟩ := twins
  exact machines

theorem Twins.reset (twins : first.Twins alike second) :
    first.reset.1.Twins alike second.reset.1 ∧ first.reset.2 = second.reset.2 := by
  obtain ⟨machine, ⟨verbose, console, same, rfl⟩, rfl⟩ := twins
  have loaded : first.loaded.Twins alike { first.loaded with console } :=
    ⟨first.verbose, console, same, rfl⟩
  obtain ⟨behind, defect⟩ := loaded.reset
  exact ⟨⟨_, behind, rfl⟩, defect⟩

theorem Twins.verbose (twins : first.Twins alike second) : first.verbose = second.verbose := by
  obtain ⟨machine, _, rfl⟩ := twins
  rfl

theorem Twins.ticks (twins : first.Twins alike second) :
    first.machine.ticks = second.machine.ticks := by
  obtain ⟨machine, ⟨_, _, _, rfl⟩, rfl⟩ := twins
  rfl

theorem Twins.resetNotes (twins : first.Twins alike second) :
    first.resetNotes = second.resetNotes := by
  have defect := twins.reset.2
  obtain ⟨machine, ⟨verbose, console, same, rfl⟩, rfl⟩ := twins
  have loaded : first.loaded.resetNotes =
      (loaded { first with machine := { first.machine with verbose, console } }).resetNotes := rfl
  simp only [Session.resetNotes, loaded]
  generalize first.reset = result at *
  generalize Session.reset { first with machine := { first.machine with verbose, console } } =
    other at *
  obtain ⟨after, outcome⟩ := result
  obtain ⟨afterOther, outcomeOther⟩ := other
  obtain rfl : outcome = outcomeOther := defect
  cases outcome with
  | none => rfl
  | some defect => rfl

theorem Twins.tickNotes (twins : first.Twins alike second) :
    first.tickNotes = second.tickNotes := by
  obtain ⟨machine, ⟨verbose, console, same, rfl⟩, rfl⟩ := twins
  rfl

variable (answers : Console.AnswersAlike alike)

include answers

theorem Twins.tick (twins : first.Twins alike second) :
    first.tick.1.Twins alike second.tick.1 ∧ first.tick.2 = second.tick.2 := by
  obtain ⟨machine, ⟨talks, console, same, rfl⟩, rfl⟩ := twins
  have line : lineNumber? { first with machine := { first.machine with verbose := talks, console } } =
      first.lineNumber? := rfl
  have exhausted :
      isExhausted { first with machine := { first.machine with verbose := talks, console } } =
        first.isExhausted := rfl
  have verbose : Machine.Twins alike { first.machine with verbose := first.verbose }
      { first.machine with verbose := first.verbose, console } :=
    ⟨first.verbose, console, same, rfl⟩
  have isDone : Machine.isDone { first.machine with verbose := first.verbose, console } =
      Machine.isDone { first.machine with verbose := first.verbose } := rfl
  obtain ⟨behind, halt⟩ := verbose.tick answers
  simp only [Session.tick, line, exhausted, isDone]
  cases first.lineNumber? with
  | none => exact ⟨⟨_, verbose, rfl⟩, rfl⟩
  | some lineNumber =>
      simp only
      split
      · exact ⟨⟨_, verbose, rfl⟩, rfl⟩
      · split
        · exact ⟨⟨_, verbose, rfl⟩, rfl⟩
        · generalize Machine.tick { first.machine with verbose := first.verbose } = result at *
          generalize Machine.tick { first.machine with verbose := first.verbose, console } =
            other at *
          obtain ⟨after, outcome⟩ := result
          obtain ⟨afterOther, outcomeOther⟩ := other
          obtain rfl : outcome = outcomeOther := halt
          match outcome with
          | none => exact ⟨⟨_, behind, rfl⟩, rfl⟩
          | some .noInstruction => exact ⟨⟨_, behind, rfl⟩, rfl⟩
          | some (.fault fault) => exact ⟨⟨_, behind, rfl⟩, rfl⟩
          | some .crash => exact ⟨⟨_, behind, rfl⟩, rfl⟩

theorem Twins.onward (twins : first.Twins alike second) (count : Nat) :
    (first.onward count).Twins alike (second.onward count) := by
  induction count with
  | zero => exact twins
  | succ count induction => exact (induction.tick answers).1

theorem Twins.runFor (twins : first.Twins alike second) (budget : Nat) :
    (first.runFor budget).1.Twins alike (second.runFor budget).1 ∧
      (first.runFor budget).2 = (second.runFor budget).2 := by
  induction budget generalizing first second with
  | zero => exact ⟨twins, rfl⟩
  | succ budget induction =>
      obtain ⟨behind, event⟩ := twins.tick answers
      simp only [Session.runFor]
      generalize first.tick = result at *
      generalize second.tick = other at *
      obtain ⟨after, outcome⟩ := result
      obtain ⟨afterOther, outcomeOther⟩ := other
      obtain rfl : outcome = outcomeOther := event
      cases outcome with
      | stepped => exact induction behind
      | done | failed error | crashed => exact ⟨behind, rfl⟩

theorem Twins.runNotes (twins : first.Twins alike second) (budget : Nat) :
    first.runNotes budget = second.runNotes budget := by
  induction budget generalizing first second with
  | zero => rfl
  | succ budget induction =>
      obtain ⟨behind, event⟩ := twins.tick answers
      simp only [Session.runNotes, twins.tickNotes]
      generalize first.tick = result at *
      generalize second.tick = other at *
      obtain ⟨after, outcome⟩ := result
      obtain ⟨afterOther, outcomeOther⟩ := other
      obtain rfl : outcome = outcomeOther := event
      cases outcome with
      | stepped => exact congrArg _ (induction behind)
      | done =>
          have verbose : after.verbose = afterOther.verbose := behind.verbose
          have ticks : after.machine.ticks = afterOther.machine.ticks := behind.ticks
          simp only [verbose, ticks]
      | failed error | crashed => rfl

end Pairs

theorem twins_connect (session : Session) {first second : Feed} {text other : Bytes}
    (gives : first.Gives text) (givesOther : second.Gives other)
    (same : Text.tokens (Text.Utf8.decode text) = Text.tokens (Text.Utf8.decode other))
    (identity otherIdentity : Identity) :
    (session.connect (Reader.make first identity)).Twins Console.SameTokens
      (session.connect (Reader.make second otherIdentity)) := by
  refine ⟨_, ⟨session.machine.verbose,
    session.machine.console.connect (Reader.make second otherIdentity),
    ⟨rfl, text, other, ?_, ?_, same⟩, rfl⟩, rfl⟩
  · exact Console.delivers_connect _ gives identity
  · exact Console.delivers_connect _ givesOther otherIdentity

/-- A run sees of its input only the words. If two texts have the same words, then the runs on inputs
that give them, in pieces of any kind, look the same behind every tick and meet the same error at it,
and they come to the same end. -/
theorem input_seen_as_tokens {session ready : Session} {first second : Feed} {text other : Bytes}
    {identity otherIdentity : Identity} (gives : first.Gives text)
    (givesOther : second.Gives other)
    (same : Text.tokens (Text.Utf8.decode text) = Text.tokens (Text.Utf8.decode other))
    (reset : (session.connect (Reader.make first identity)).reset = (ready, none)) :
    ∃ readyOther,
      (session.connect (Reader.make second otherIdentity)).reset = (readyOther, none) ∧
      ∀ count,
        ((ready.machine.onward count).LooksLike (readyOther.machine.onward count) ∧
          (ready.machine.onward count).tick.2 = (readyOther.machine.onward count).tick.2) ∧
        ((ready.onward count).machine.LooksLike (readyOther.onward count).machine ∧
          (ready.onward count).tick.2 = (readyOther.onward count).tick.2) ∧
        (ready.runFor count).1.machine.LooksLike (readyOther.runFor count).1.machine ∧
          (ready.runFor count).2 = (readyOther.runFor count).2 := by
  have answers := Console.answersAlike_sameTokens
  have twins := session.twins_connect gives givesOther same identity otherIdentity
  obtain ⟨twinsReady, defect⟩ := twins.reset
  rw [reset] at twinsReady defect
  generalize (session.connect (Reader.make second otherIdentity)).reset = result at *
  obtain ⟨readyOther, otherDefect⟩ := result
  obtain rfl : none = otherDefect := defect
  refine ⟨readyOther, rfl, fun count => ⟨?_, ?_, ?_⟩⟩
  · have onward := twinsReady.machine.onward answers count
    exact ⟨onward.looksLike, (onward.tick answers).2⟩
  · have onward := twinsReady.onward answers count
    exact ⟨onward.machine.looksLike, (onward.tick answers).2⟩
  · obtain ⟨behind, outcome⟩ := twinsReady.runFor answers count
    exact ⟨behind.machine.looksLike, outcome⟩

/-- Prints the sum of two numbers. -/
def sum : Program where
  opcodes := #[
    ⟨1, utf8 "read a", some (.register (.known .read) 0)⟩,
    ⟨2, utf8 "read b", some (.register (.known .read) 1)⟩,
    ⟨3, utf8 "add a, b", some (.registers (.known .add) 0 1)⟩,
    ⟨4, utf8 "println a", some (.register (.known .println) 0)⟩]
  registers := [utf8 "a", utf8 "b"]
  labels := Table.ofList []

/-- Twelve, a byte that is no number, and minus seven, all at once. -/
def plainInput : Bytes :=
  utf8 "12 " ++ [0xFF] ++ utf8 " -7"

/-- The same words with another stray byte, between blanks of other kinds, in pieces that cut through
words and characters. -/
def cutInput : Feed where
  pieces := [utf8 "\t1", utf8 "2", [0xE2], [0x80, 0x83, 0xFE], utf8 "\n", utf8 "\r-", utf8 "7\n"]
  ending := .finished

/-- Both runs fail at the second word, go on behind it, and print the same sum. -/
theorem input_seen_as_tokens_sum :
    ∃ session ready readyOther : Session, session.program = some sum ∧
      (session.connect (Reader.make (Feed.ofBytes plainInput) .distinct)).reset = (ready, none) ∧
      (session.connect (Reader.make cutInput .selfBuffered)).reset = (readyOther, none) ∧
      (∃ error, (ready.onward 1).tick.2 = .failed error ∧
        (readyOther.onward 1).tick.2 = .failed error) ∧
      (readyOther.onward 5).machine.console.delivered = utf8 "5\n" := by
  have same : Text.tokens (Text.Utf8.decode plainInput) =
      Text.tokens (Text.Utf8.decode cutInput.pieces.flatten) := by
    decide +kernel
  have gives : cutInput.Gives cutInput.pieces.flatten := ⟨rfl, by decide, rfl⟩
  generalize start : ({ new with
    program := some sum
    machine :=
      { Machine.new none with
        console := Console.empty.setOutput (some (.plain Drain.unlimited)) } } : Session) = session
  generalize restart :
    (session.connect (Reader.make (Feed.ofBytes plainInput) .distinct)).reset.1 = ready
  have facts :
      (session.connect (Reader.make (Feed.ofBytes plainInput) .distinct)).reset.2 = none ∧
      ((ready.onward 1).tick.2 matches .failed _) = true ∧
      (ready.onward 5).machine.console.delivered = utf8 "5\n" := by
    subst restart start
    decide +kernel
  obtain ⟨valid, fails, printed⟩ := facts
  have loaded : session.program = some sum := by
    subst start
    rfl
  have reset : (session.connect (Reader.make (Feed.ofBytes plainInput) .distinct)).reset =
      (ready, none) := Prod.ext restart valid
  obtain ⟨readyOther, resetOther, runs⟩ :=
    input_seen_as_tokens (Feed.gives_ofBytes plainInput) gives same reset
  obtain ⟨_, ⟨_, sameError⟩, _⟩ := runs 1
  obtain ⟨_, ⟨looksLike, _⟩, _⟩ := runs 5
  refine ⟨session, ready, readyOther, loaded, reset, resetOther, ?_,
    looksLike.delivered.symm.trans printed⟩
  cases event : (ready.onward 1).tick.2 with
  | failed error => exact ⟨error, rfl, sameError.symm.trans event⟩
  | _ =>
      rw [event] at fails
      cases fails

end Session

end RegisterMachine
