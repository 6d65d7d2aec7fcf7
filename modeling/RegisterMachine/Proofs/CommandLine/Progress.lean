import RegisterMachine.CommandLine
import RegisterMachine.Proofs.Session.InputTokens

/-! What is seen of a command from outside: its output, its log and its exit code. Jobs whose sessions
differ in the blanks of their inputs only cannot be told apart. -/

namespace RegisterMachine.CommandLine

/-- What a command has shown so far. -/
structure Report where
  output : Bytes
  notes : List Bytes
  code? : Option Nat
  deriving DecidableEq

def Report.after (output : Bytes) (notes : List Bytes) (report : Report) : Report :=
  { report with output := output ++ report.output, notes := notes ++ report.notes }

def Progress.code? : Progress → Option Nat
  | .exited code => some code
  | .running _ => none

namespace Stretch

/-- Lets a command run on, so many ticks at a time and so many times. -/
def onward (stride : Nat) : Nat → Stretch → Stretch
  | 0, stretch => stretch
  | count + 1, stretch =>
      match stretch.progress with
      | .exited _ => stretch
      | .running job => ((job.runFor stride).onward stride count).after stretch.output stretch.notes

def report (stride count : Nat) (stretch : Stretch) : Report :=
  let reached := stretch.onward stride count
  { output := reached.output, notes := reached.notes, code? := reached.progress.code? }

theorem report_after (stride count : Nat) (output : Bytes) (notes : List Bytes) (stretch : Stretch) :
    (stretch.after output notes).report stride count =
      (stretch.report stride count).after output notes := by
  obtain ⟨shown, noted, progress⟩ := stretch
  cases count with
  | zero => rfl
  | succ count =>
      cases progress with
      | exited code => rfl
      | running job =>
          simp only [report, onward, after, Report.after, List.append_assoc]

end Stretch

/-- Commands that go on alike: with one exit code, or with one script on inputs of the same words. -/
inductive Progress.Alike : Progress → Progress → Prop
  | exited (code : Nat) : Alike (.exited code) (.exited code)
  | running (script : Bytes) {first second : Session}
      (twins : first.Twins Console.SameTokens second) :
      Alike (.running { script, session := first }) (.running { script, session := second })

theorem Progress.Alike.code? {first second : Progress} (alike : first.Alike second) :
    first.code? = second.code? := by
  cases alike with
  | exited code => rfl
  | running script twins => rfl

namespace Stretch

structure Alike (first second : Stretch) : Prop where
  output : first.output = second.output
  notes : first.notes = second.notes
  progress : first.progress.Alike second.progress

theorem alike_exit (code : Nat) : (exit code).Alike (exit code) :=
  ⟨rfl, rfl, .exited code⟩

theorem alike_fatal (subject message : Bytes) :
    (fatal subject message).Alike (fatal subject message) :=
  ⟨rfl, rfl, .exited failureCode⟩

theorem Alike.after {first second : Stretch} (alike : first.Alike second) (output : Bytes)
    (notes : List Bytes) : (first.after output notes).Alike (second.after output notes) where
  output := congrArg (output ++ ·) alike.output
  notes := congrArg (notes ++ ·) alike.notes
  progress := alike.progress

end Stretch

section Sessions

variable {first second : Session}

theorem alike_runFor (twins : first.Twins Console.SameTokens second) (script : Bytes)
    (budget : Nat) :
    (Job.runFor budget { script, session := first }).Alike
      (Job.runFor budget { script, session := second }) := by
  have answers := Console.answersAlike_sameTokens
  have delivered := twins.machine.looksLike.delivered
  obtain ⟨behind, outcome⟩ := twins.runFor answers budget
  simp only [Job.runFor, twins.verbose, twins.runNotes answers, delivered,
    behind.machine.looksLike.delivered, outcome]
  cases (second.runFor budget).2 with
  | done => exact (Stretch.alike_exit 0).after _ _
  | failed error => exact (Stretch.alike_fatal script error.message).after _ _
  | crashed => exact (Stretch.alike_exit misuseCode).after _ _
  | unfinished => exact ⟨rfl, rfl, .running script behind⟩

theorem alike_begin (twins : first.Twins Console.SameTokens second) (script : Bytes) :
    (begin script first).Alike (begin script second) := by
  obtain ⟨behind, defect⟩ := twins.reset
  simp only [begin, twins.resetNotes]
  generalize first.reset = result at *
  generalize second.reset = other at *
  obtain ⟨ready, outcome⟩ := result
  obtain ⟨readyOther, outcomeOther⟩ := other
  obtain rfl : outcome = outcomeOther := defect
  cases outcome with
  | none => exact ⟨rfl, rfl, .running script behind⟩
  | some defect => exact (Stretch.alike_fatal script _).after _ _

end Sessions

theorem Stretch.Alike.onward {first second : Stretch} (alike : first.Alike second)
    (stride count : Nat) : (first.onward stride count).Alike (second.onward stride count) := by
  induction count generalizing first second with
  | zero => exact alike
  | succ count induction =>
      obtain ⟨output, notes, progress⟩ := first
      obtain ⟨_, _, progressOther⟩ := second
      obtain ⟨rfl, rfl, same⟩ := alike
      cases same with
      | exited code => exact ⟨rfl, rfl, .exited code⟩
      | running script twins => exact (induction (alike_runFor twins script stride)).after _ _

theorem Stretch.Alike.report {first second : Stretch} (alike : first.Alike second)
    (stride count : Nat) : first.report stride count = second.report stride count := by
  obtain ⟨output, notes, progress⟩ := alike.onward stride count
  simp only [Stretch.report, output, notes, progress.code?]

end RegisterMachine.CommandLine
