import RegisterMachine.Bytes

/-! Outputs, plain or behind a buffer. -/

namespace RegisterMachine

/-- Where output goes in the end: the texts that have arrived, the last first, and how many bytes there
is still room for. -/
structure Drain where
  texts : List Bytes
  room : Option Nat
  deriving DecidableEq, Repr

namespace Drain

def unlimited : Drain where
  texts := []
  room := none

def limited (room : Nat) : Drain where
  texts := []
  room := some room

def delivered (drain : Drain) : Bytes :=
  drain.texts.reverse.flatten

/-- Takes a text, or what fits of it. The answer is whether all of it fitted. -/
def write (drain : Drain) (text : Bytes) : Drain × Bool :=
  match drain.room with
  | none => ({ drain with texts := text :: drain.texts }, true)
  | some room =>
      ({ texts := text.take room :: drain.texts, room := some (room - text.length) },
        text.length ≤ room)

@[simp] theorem delivered_write_unlimited (drain : Drain) (text : Bytes) (h : drain.room = none) :
    (drain.write text).1.delivered = drain.delivered ++ text := by
  simp [write, delivered, h]

@[simp] theorem delivered_write_limited (drain : Drain) (text : Bytes) (room : Nat)
    (h : drain.room = some room) :
    (drain.write text).1.delivered = drain.delivered ++ text.take room := by
  simp [write, delivered, h]

end Drain

/-- An output: without a buffer, behind a buffer that may have failed, or one that never lets itself
be flushed. -/
inductive Sink where
  | plain (drain : Drain)
  | buffered (held : Bytes) (failed : Bool) (drain : Drain)
  | unflushable (drain : Drain)
  deriving DecidableEq, Repr

namespace Sink

def capacity : Nat := 4096

def drain : Sink → Drain
  | plain drain | buffered _ _ drain | unflushable drain => drain

def spill (text : Bytes) (drain : Drain) : Sink × Bool :=
  if capacity < text.length then
    match drain.write (text.take capacity) with
    | (drain, true) => spill (text.drop capacity) drain
    | (drain, false) => (.buffered [] true drain, false)
  else (.buffered text false drain, true)
termination_by text.length
decreasing_by
  simp only [capacity, List.length_drop] at *
  omega

def write (text : Bytes) : Sink → Sink × Bool
  | plain drain =>
      let (drain, accepted) := drain.write text
      (plain drain, accepted)
  | buffered held false drain => spill (held ++ text) drain
  | buffered held true drain => (buffered held true drain, false)
  | unflushable drain =>
      let (drain, accepted) := drain.write text
      (unflushable drain, accepted)

def flush : Sink → Sink × Bool
  | plain drain => (plain drain, true)
  | buffered held false drain =>
      match drain.write held with
      | (drain, true) => (buffered [] false drain, true)
      | (drain, false) => (buffered [] true drain, false)
  | buffered held true drain => (buffered held true drain, false)
  | unflushable drain => (unflushable drain, false)

def put (sink : Sink) (text : Bytes) : Sink × Bool :=
  match sink.write text with
  | (sink, true) => sink.flush
  | (sink, false) => (sink, false)

end Sink

end RegisterMachine
