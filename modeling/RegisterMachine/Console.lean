import RegisterMachine.Console.Sink
import RegisterMachine.Console.Stream
import RegisterMachine.Text.Decimal
import RegisterMachine.Text.Quoted

/-! The console of a machine: numbers are read from one of several readers, texts are written to an
output. -/

namespace RegisterMachine

/-- How a reader is told from others: by what it is, not at all from those of its kind, or by what it
is with a buffer of its own. -/
inductive Identity where
  | distinct
  | alike (kind : Nat)
  | selfBuffered
  deriving DecidableEq, Repr

def Identity.kind? : Identity → Option Nat
  | alike kind => some kind
  | distinct | selfBuffered => none

structure Reader where
  feed : Feed
  identity : Identity
  intake : Intake
  deriving DecidableEq, Repr

def Reader.make (feed : Feed) (identity : Identity) : Reader where
  feed := feed
  identity := identity
  intake := Intake.empty

def Reader.ofStream (stream : Stream) : Reader where
  feed := stream.feed
  identity := .selfBuffered
  intake := stream.intake

inductive InputFault where
  | exhausted
  | interrupted (trouble : Trouble)
  | malformed (word : Bytes) (refusal : Text.Decimal.Refusal)
  deriving DecidableEq, Repr

def InputFault.message : InputFault → Bytes
  | .exhausted => utf8 "input exhausted"
  | .interrupted trouble => utf8 "input exhausted\n" ++ trouble.message
  | .malformed word refusal =>
      utf8 "input not an integer\nstrconv.ParseInt: parsing " ++ Text.quote word ++ utf8 ": " ++
        refusal.message

/-- The readers there are, the one in use, and the one the present buffer belongs to. -/
structure Console where
  readers : Array Reader
  input : Option Nat
  attached : Option (Nat × Intake)
  output : Option Sink
  deriving DecidableEq, Repr

namespace Console

def empty : Console where
  readers := #[]
  input := none
  attached := none
  output := none

def rewind (console : Console) : Console :=
  { console with attached := none }

/-- Puts a reader to use, without a look at the buffer. -/
def assignInput (console : Console) (input : Option Nat) : Console :=
  { console with input }

def setInput (console : Console) (input : Option Nat) : Console :=
  (console.assignInput input).rewind

def connect (console : Console) (reader : Reader) : Console :=
  { console with readers := console.readers.push reader }.setInput (some console.readers.size)

def setOutput (console : Console) (output : Option Sink) : Console :=
  { console with output }

def kind? (console : Console) (reader : Nat) : Option Nat :=
  console.readers[reader]?.bind fun reader => reader.identity.kind?

def serves (console : Console) (owner reader : Nat) : Bool :=
  owner == reader || ((console.kind? owner).isSome && console.kind? owner == console.kind? reader)

def current (console : Console) (input : Nat) : Nat × Intake :=
  match console.attached with
  | some (owner, intake) =>
      if console.serves owner input then (owner, intake) else (input, Intake.empty)
  | none => (input, Intake.empty)

/-- Reads a word. A reader with a buffer of its own keeps what it holds. -/
def readWord (console : Console) : Console × Except InputFault Bytes :=
  match console.input with
  | none => (console, .error .exhausted)
  | some input =>
      let (source, intake) := console.current input
      match console.readers[source]? with
      | none => (console, .error .exhausted)
      | some reader =>
          let owns := reader.identity == .selfBuffered
          let (outcome, stream) :=
            Stream.word { intake := if owns then reader.intake else intake, feed := reader.feed }
          let reader :=
            { reader with
              feed := stream.feed, intake := if owns then stream.intake else reader.intake }
          let console :=
            { console with
              readers := console.readers.setIfInBounds source reader
              attached := some (source, if owns then Intake.empty else stream.intake) }
          match outcome with
          | .ok [] => (console, .error .exhausted)
          | .ok word => (console, .ok (Text.Utf8.encodeAll word))
          | .error trouble => (console, .error (.interrupted trouble))

def readNumber (console : Console) : Console × Except InputFault Int32 :=
  match console.readWord with
  | (console, .error fault) => (console, .error fault)
  | (console, .ok word) =>
      match Text.Decimal.read 32 word with
      | .ok n => (console, .ok (Int32.ofInt n))
      | .error refusal => (console, .error (.malformed word refusal))

/-- Writes a text, with a newline if asked to. Without an output the text is lost. -/
def write (console : Console) (text : Bytes) (newline : Bool) : Console × Bool :=
  match console.output with
  | none => (console, true)
  | some sink =>
      let (sink, accepted) := sink.put (if newline then text ++ [byte '\n'] else text)
      ({ console with output := some sink }, accepted)

def delivered (console : Console) : Bytes :=
  match console.output with
  | none => []
  | some sink => sink.drain.delivered

end Console

end RegisterMachine
