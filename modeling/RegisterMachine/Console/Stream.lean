import RegisterMachine.Console.Feed
import RegisterMachine.Text.Blank
import RegisterMachine.Text.Utf8

/-! Words read from an input through a buffer. -/

namespace RegisterMachine

/-- A buffer before an input: bytes received and not yet read, and the trouble met after them. -/
structure Intake where
  held : Bytes
  trouble : Option Trouble
  deriving DecidableEq, Repr

namespace Intake

def empty : Intake where
  held := []
  trouble := none

def capacity : Nat := 4096

/-- How often in a row an input may give nothing before it counts as stalled. -/
def patience : Nat := 100

end Intake

structure Stream where
  intake : Intake
  feed : Feed
  deriving DecidableEq, Repr

namespace Stream

def ofFeed (feed : Feed) : Stream where
  intake := Intake.empty
  feed := feed

def remaining (stream : Stream) : Nat :=
  stream.intake.held.length + stream.feed.remaining

def fill : Nat → Stream → Stream
  | 0, stream => { stream with intake := { stream.intake with trouble := some .stalled } }
  | patience + 1, stream =>
      match stream.feed.request (Intake.capacity - stream.intake.held.length) with
      | (.error trouble, feed) =>
          { intake := { stream.intake with trouble := some trouble }, feed }
      | (.ok [], feed) => fill patience { stream with feed }
      | (.ok (b :: rest), feed) =>
          { intake := { stream.intake with held := stream.intake.held ++ b :: rest }, feed }

def settle : Nat → Stream → Stream
  | 0, stream => stream
  | rounds + 1, stream =>
      if Text.Utf8.isPartial stream.intake.held && stream.intake.trouble.isNone then
        settle rounds (stream.fill Intake.patience)
      else stream

/-- The longest character has four bytes, so this many rounds complete any. -/
def rounds : Nat := 4

/-- The next character, or the trouble instead of one, which is then forgotten. -/
def next (stream : Stream) : Except Trouble Char × Stream :=
  let stream := stream.settle rounds
  match Text.Utf8.next? stream.intake.held with
  | some (piece, rest) =>
      (.ok piece.char, { stream with intake := { stream.intake with held := rest } })
  | none =>
      (.error (stream.intake.trouble.getD .finished),
        { stream with intake := { stream.intake with trouble := none } })

theorem remaining_fill (patience : Nat) (stream : Stream) :
    (stream.fill patience).remaining = stream.remaining := by
  fun_induction fill patience stream with
  | case1 => rfl
  | case2 patience stream trouble feed requested =>
      rw [Feed.remaining_of_request_error requested]
      rfl
  | case3 patience stream feed requested ih =>
      rw [ih]
      have same := Feed.remaining_of_request requested
      simpa [remaining] using same
  | case4 patience stream b rest feed requested =>
      have same := Feed.remaining_of_request requested
      simp only [remaining, List.length_append]
      omega

theorem remaining_settle (rounds : Nat) (stream : Stream) :
    (stream.settle rounds).remaining = stream.remaining := by
  fun_induction settle rounds stream with
  | case1 => rfl
  | case2 rounds stream _ ih => rw [ih, remaining_fill]
  | case3 => rfl

theorem remaining_of_next {stream after : Stream} {c : Char}
    (h : stream.next = (.ok c, after)) : after.remaining < stream.remaining := by
  unfold next at h
  have same := remaining_settle rounds stream
  simp only at h
  split at h
  · rename_i piece rest found
    have shorter := Text.Utf8.length_of_next? found
    obtain ⟨-, rfl⟩ := by simpa using h
    simp only [remaining] at same ⊢
    omega
  · simp at h

/-- Reads on with the characters `done` of a word, in reverse. The blank behind the word is read too,
unless it is to be kept for later. -/
def wordOnto (keepsBlank : Bool) (done : List Char) (stream : Stream) :
    Except Trouble (List Char) × Stream :=
  match _read : stream.next with
  | (.ok c, after) =>
      if !Text.isBlank c then wordOnto keepsBlank (c :: done) after
      else if done.isEmpty then wordOnto keepsBlank [] after
      else (.ok done.reverse, if keepsBlank then stream.settle rounds else after)
  | (.error .finished, after) => (.ok done.reverse, after)
  | (.error trouble, after) => (.error trouble, after)
termination_by stream.remaining
decreasing_by
  all_goals exact remaining_of_next _read

/-- The next word of an input and the blank behind it. At the end of the input the word is empty. -/
def word (stream : Stream) : Except Trouble (List Char) × Stream :=
  wordOnto false [] stream

def token (stream : Stream) : Except Trouble (List Char) × Stream :=
  wordOnto true [] stream

end Stream

end RegisterMachine
