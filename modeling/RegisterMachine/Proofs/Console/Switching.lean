import Mathlib.Data.List.Forall2
import Mathlib.Data.List.ReduceOption
import RegisterMachine.Proofs.Console.Consumption

/-! Switching between inputs. However a console is moved from reader to reader, what it reads belongs to
the reader in use, and no reader gives a byte twice. -/

namespace RegisterMachine

open Text Utf8

/-- The answers to the first reads of a stream that nothing else reads from. -/
def Stream.numbers : Nat → Stream → List (Except InputFault Int32)
  | 0, _ => []
  | count + 1, stream =>
      (Console.answer stream.word.1).bind Console.numberOf :: numbers count stream.word.2

/-- Reads of a stream that delivers a text answer its words, one after the other. -/
theorem Stream.Delivers.numbers {stream : Stream} {text : Bytes} (delivers : stream.Delivers text)
    {count place : Nat} {answer : Except InputFault Int32}
    (answered : (stream.numbers count)[place]? = some answer) :
    answer = Console.number ((tokens (decode text)).drop place) := by
  induction count generalizing stream text place with
  | zero => simp [Stream.numbers] at answered
  | succ count induction =>
      obtain ⟨after, rest, read, behind, others⟩ := delivers.word
      rw [Stream.numbers, read] at answered
      cases place with
      | zero => exact (Option.some.inj answered).symm.trans (Console.number_tokens (decode text))
      | succ place =>
          rw [List.getElem?_cons_succ] at answered
          rw [induction behind answered, others, List.drop_tail]

namespace Console

/-- What can be asked of the input of a console. -/
inductive Command where
  | setInput (input : Option Nat)
  | assignInput (input : Option Nat)
  | rewind
  | read

def obey (console : Console) : Command → Console
  | .setInput input => console.setInput input
  | .assignInput input => console.assignInput input
  | .rewind => console.rewind
  | .read => console.readNumber.1

/-- Whether a reader that is put to use without a look at the buffer can be told from the one the
buffer belongs to. -/
def Permits (console : Console) : Command → Prop
  | .assignInput (some input) =>
      console.kind? input = none ∨
        ∀ buffered ∈ console.attached, console.kind? buffered.1 ≠ console.kind? input
  | _ => True

instance (console : Console) : (command : Command) → Decidable (console.Permits command)
  | .assignInput (some input) =>
      inferInstanceAs (Decidable (console.kind? input = none ∨
        ∀ buffered ∈ console.attached, console.kind? buffered.1 ≠ console.kind? input))
  | .assignInput none | .setInput _ | .rewind | .read => .isTrue trivial

def IsPermitted (console : Console) : List Command → Prop
  | [] => True
  | command :: commands => console.Permits command ∧ (console.obey command).IsPermitted commands

instance (console : Console) : (commands : List Command) → Decidable (console.IsPermitted commands)
  | [] => .isTrue trivial
  | command :: commands =>
      have := instDecidableIsPermitted (console.obey command) commands
      inferInstanceAs (Decidable (_ ∧ _))

/-- A read: the reader in use, and what came of it. -/
structure Exchange where
  input : Option Nat
  answer : Except InputFault Int32
  deriving DecidableEq

def exchange? (console : Console) : Command → Option Exchange
  | .read => some { input := console.input, answer := console.readNumber.2 }
  | _ => none

def exchanges (console : Console) : List Command → List Exchange
  | [] => []
  | command :: commands =>
      (console.exchange? command).toList ++ (console.obey command).exchanges commands

/-- The answers to the reads of one reader. -/
def answersTo (place : Nat) (exchanges : List Exchange) : List (Except InputFault Int32) :=
  (exchanges.filter fun exchange => exchange.input == some place).map Exchange.answer

/-- A stretch of the data of a reader. -/
structure Span where
  reader : Nat
  start : Nat
  stop : Nat
  deriving DecidableEq

def Span.cut (span : Span) (data : Nat → Bytes) : Bytes :=
  (data span.reader).extract span.start span.stop

/-- Whether a stretch of data ends before another one of the same reader starts. -/
def Span.Precedes (earlier later : Span) : Prop :=
  earlier.reader = later.reader → earlier.stop ≤ later.start

/-- Where the word of a read comes from: a stretch of the data of the reader in use that has no blank
in it, or nowhere, if no word was found. -/
inductive Exchange.TakenFrom (data : Nat → Bytes) : Exchange → Option Span → Prop
  | word {span : Span} (filled : span.start < span.stop)
      (inside : span.stop ≤ (data span.reader).length)
      (solid : ∀ c ∈ decode (span.cut data), isBlank c = false) :
      TakenFrom data
        { input := some span.reader, answer := numberOf (encodeAll (decode (span.cut data))) }
        (some span)
  | exhausted {input : Option Nat} : TakenFrom data { input, answer := .error .exhausted } none
  | interrupted {input : Option Nat} {trouble : Trouble} :
      TakenFrom data { input, answer := .error (.interrupted trouble) } none

/-- What is buffered of a reader that has no buffer of its own. -/
def bufferOf (console : Console) (place : Nat) : Intake :=
  match console.attached with
  | some (owner, intake) => if owner = place then intake else Intake.empty
  | none => Intake.empty

def left? (console : Console) (place : Nat) : Option Stream :=
  console.readers[place]?.map fun reader =>
    { intake := if reader.identity == .selfBuffered then reader.intake else console.bufferOf place
      feed := reader.feed }

def left (console : Console) (place : Nat) : Bytes :=
  (console.left? place).elim [] Stream.bytes

def identity? (console : Console) (place : Nat) : Option Identity :=
  console.readers[place]?.map Reader.identity

/-- Whether a buffer that serves the reader in use belongs to it. -/
def Steady (console : Console) : Prop :=
  ∀ owner intake input, console.attached = some (owner, intake) → console.input = some input →
    console.serves owner input = true → owner = input

/-- Whether a reader is left as it was, except that what is buffered of it may have been dropped. -/
structure Spares (before after : Console) (place : Nat) : Prop where
  reader : after.readers[place]? = before.readers[place]?
  buffer : after.bufferOf place = before.bufferOf place ∨ after.bufferOf place = Intake.empty

section Spared

variable {before after : Console} {place : Nat}

theorem Spares.left (spares : before.Spares after place) :
    after.left place <:+ before.left place := by
  rw [Console.left, Console.left, left?, left?, spares.reader]
  cases before.readers[place]? with
  | none => exact List.suffix_rfl
  | some reader =>
      simp only [Option.map_some, Option.elim_some, Stream.bytes]
      rcases spares.buffer with same | dropped
      · simp only [same, List.suffix_refl]
      · rw [dropped]
        split
        · exact List.suffix_rfl
        · exact List.suffix_append _ _

theorem Spares.identity? (spares : before.Spares after place) :
    after.identity? place = before.identity? place := by
  rw [Console.identity?, Console.identity?, spares.reader]

theorem Spares.left?_of_selfBuffered (spares : before.Spares after place)
    (owns : before.identity? place = some .selfBuffered) :
    after.left? place = before.left? place := by
  obtain ⟨reader, found, isOwner⟩ := Option.map_eq_some_iff.mp owns
  rw [left?, left?, spares.reader, found]
  simp [isOwner]

theorem spares_replace {console : Console} {input : Nat} (other : place ≠ input) (reader : Reader)
    (intake : Intake) : console.Spares (console.replace input reader intake) place := by
  refine ⟨Array.getElem?_setIfInBounds_ne other.symm, .inr ?_⟩
  simp only [bufferOf, replace, if_neg other.symm]

end Spared

/-- A read that takes a word from what is left of the reader in use, and spares all others. -/
structure TakesWord (console : Console) (place : Nat) (stream : Stream) (after : Console) : Prop where
  input : console.input = some place
  left : console.left? place = some stream
  read : console.readNumber = (after, (answer stream.word.1).bind numberOf)
  behind : after.left? place = some stream.word.2
  identity : after.identity? place = console.identity? place
  others : ∀ other, other ≠ place → console.Spares after other
  attached : ∃ intake, after.attached = some (place, intake)
  inputAfter : after.input = console.input

section Reading

variable {console : Console} {input : Nat}

theorem Steady.current (steady : console.Steady) (isInput : console.input = some input) :
    console.current input = (input, console.bufferOf input) := by
  cases attached : console.attached with
  | none => simp only [Console.current, bufferOf, attached]
  | some buffered =>
      obtain ⟨owner, intake⟩ := buffered
      simp only [Console.current, bufferOf, attached]
      by_cases serves : console.serves owner input = true
      · obtain rfl := steady owner intake input attached isInput serves
        simp [serves]
      · have other : owner ≠ input := by
          rintro rfl
          simp [Console.serves] at serves
        simp [serves, other]

theorem Steady.stream? (steady : console.Steady) :
    console.stream? = console.input.bind console.left? := by
  cases isInput : console.input with
  | none => rw [Console.stream?, isInput, Option.bind_none, Option.bind_none]
  | some input =>
      rw [Console.stream?, isInput, Option.bind_some, Option.bind_some, steady.current isInput]
      rfl

theorem Steady.takesWord {stream : Stream} (steady : console.Steady)
    (isInput : console.input = some input) (isLeft : console.left? input = some stream) :
    ∃ after, console.TakesWord input stream after := by
  have current := steady.current isInput
  obtain ⟨reader, isReader, isStream⟩ := Option.map_eq_some_iff.mp isLeft
  have found : console.readers[(console.current input).1]? = some reader := by
    rw [current]
    exact isReader
  have read := readWord_eq isInput found rfl
  rw [current, isStream] at read
  refine ⟨_, isInput, isLeft, readNumber_of_readWord read, ?_, ?_, fun place other => ?_,
    ⟨_, rfl⟩, rfl⟩
  · rw [left?, getElem?_replace isReader, Option.map_some]
    simp only [Reader.behind, bufferOf, replace, ↓reduceIte]
    split
    · rfl
    · rfl
  · rw [identity?, getElem?_replace isReader, identity?, isReader]
    rfl
  · exact spares_replace other _ _

/-- A read takes a word from the reader in use, or finds none and leaves the console as it is. -/
theorem Steady.read_cases (steady : console.Steady) :
    console.readNumber = (console, .error .exhausted) ∨
      ∃ input stream after, console.TakesWord input stream after := by
  cases found : console.input.bind console.left? with
  | none =>
      have missing := steady.stream?.trans found
      exact .inl (readNumber_of_readWord (readWord_of_stream?_eq_none missing))
  | some stream =>
      obtain ⟨input, isInput, isLeft⟩ := Option.bind_eq_some_iff.mp found
      exact .inr ⟨input, stream, steady.takesWord isInput isLeft⟩

theorem readNumber_of_input_eq_none (unused : console.input = none) :
    console.readNumber = (console, .error .exhausted) := by
  have missing : console.stream? = none := by rw [Console.stream?, unused, Option.bind_none]
  exact readNumber_of_readWord (readWord_of_stream?_eq_none missing)

end Reading

section Steps

variable {console : Console} {command : Command}

/-- A command spares every reader, unless it is a read that takes a word. -/
theorem Steady.obey_cases (steady : console.Steady) (command : Command) :
    (∀ place, console.Spares (console.obey command) place) ∨
      command = .read ∧ ∃ input stream, console.TakesWord input stream (console.obey command) := by
  cases command with
  | setInput input => exact .inl fun _ => ⟨rfl, .inr rfl⟩
  | assignInput input => exact .inl fun _ => ⟨rfl, .inl rfl⟩
  | rewind => exact .inl fun _ => ⟨rfl, .inr rfl⟩
  | read =>
      rcases steady.read_cases with unread | ⟨input, stream, after, takes⟩
      · refine .inl fun _ => ?_
        rw [Console.obey, unread]
        exact ⟨rfl, .inl rfl⟩
      · refine .inr ⟨rfl, input, stream, ?_⟩
        rw [Console.obey, takes.read]
        exact takes

theorem Steady.left_obey (steady : console.Steady) (command : Command) (place : Nat) :
    (console.obey command).left place <:+ console.left place := by
  rcases steady.obey_cases command with spares | ⟨_, input, stream, takes⟩
  · exact (spares place).left
  · by_cases other : place = input
    · subst other
      rw [left, left, takes.left, takes.behind]
      exact stream.bytes_wordOnto false []
    · exact (takes.others place other).left

theorem Steady.identity?_obey (steady : console.Steady) (command : Command) (place : Nat) :
    (console.obey command).identity? place = console.identity? place := by
  rcases steady.obey_cases command with spares | ⟨_, input, stream, takes⟩
  · exact (spares place).identity?
  · by_cases other : place = input
    · subst other
      exact takes.identity
    · exact (takes.others place other).identity?

theorem steady_assignInput {assigned : Option Nat}
    (permits : console.Permits (.assignInput assigned)) : (console.assignInput assigned).Steady := by
  intro owner intake input attached isInput serves
  obtain rfl : assigned = some input := isInput
  have served : console.serves owner input = true := serves
  simp only [Console.serves, Bool.or_eq_true, Bool.and_eq_true, beq_iff_eq] at served
  rcases served with same | ⟨isKind, same⟩
  · exact same
  · rcases permits with comparable | unlike
    · rw [same, comparable] at isKind
      cases isKind
    · exact absurd same (unlike _ attached)

/-- Permitted commands keep a console steady. -/
theorem Steady.obey (steady : console.Steady) (permits : console.Permits command) :
    (console.obey command).Steady := by
  cases command with
  | setInput input => exact fun _ _ _ attached => nomatch attached
  | rewind => exact fun _ _ _ attached => nomatch attached
  | assignInput assigned => exact steady_assignInput permits
  | read =>
      rw [Console.obey]
      rcases steady.read_cases with unread | ⟨place, stream, after, takes⟩
      · rw [unread]
        exact steady
      · rw [takes.read]
        intro owner intake input attached isInput _
        obtain ⟨buffered, attachedTo⟩ := takes.attached
        have isOwner : (place, buffered) = (owner, intake) :=
          Option.some.inj (attachedTo.symm.trans attached)
        have isPlace : some place = some input := by
          rw [← takes.input, ← takes.inputAfter, isInput]
        exact (Prod.mk.inj isOwner).1.symm.trans (Option.some.inj isPlace)

end Steps

section Runs

variable {console : Console} {data : Nat → Bytes}

/-- How much of the data of a reader is gone. -/
def offset (console : Console) (data : Nat → Bytes) (place : Nat) : Nat :=
  (data place).length - (console.left place).length

theorem Steady.offset_obey (steady : console.Steady) (command : Command) (place : Nat) :
    console.offset data place ≤ (console.obey command).offset data place := by
  have shorter := (steady.left_obey command place).length_le
  simp only [offset]
  omega

/-- The word of a read lies behind what was gone before it, and is gone after it. -/
theorem TakesWord.takenFrom {input : Nat} {stream : Stream} {after : Console}
    (takes : console.TakesWord input stream after) (within : console.left input <:+ data input) :
    ∃ span?, Exchange.TakenFrom data ⟨console.input, console.readNumber.2⟩ span? ∧
      ∀ span ∈ span?, console.offset data span.reader ≤ span.start ∧
        span.stop ≤ after.offset data span.reader := by
  rw [takes.read, takes.input]
  rcases stream.word_cases with
    ended | ⟨trouble, failed⟩ | ⟨lead, token, tail, bytes, filled, solid, found⟩
  · rw [ended]
    exact ⟨none, .exhausted, by simp⟩
  · rw [failed]
    exact ⟨none, .interrupted, by simp⟩
  · rw [found]
    obtain ⟨gone, isData⟩ := within
    rw [Console.left, takes.left, Option.elim_some, bytes] at isData
    let span : Span :=
      { reader := input
        start := (gone ++ lead).length
        stop := (gone ++ lead).length + token.length }
    have cut : span.cut data = token := by
      rw [Span.cut, ← isData]
      simp [span]
    refine ⟨some span, ?_, ?_⟩
    · have taken : Exchange.TakenFrom data
          ⟨some span.reader, numberOf (encodeAll (decode (span.cut data)))⟩ (some span) := by
        refine .word ?_ ?_ ?_
        · have := List.length_pos_iff.mpr filled
          simp only [span]
          omega
        · simp only [span, ← isData, List.length_append]
          omega
        · rw [cut]
          exact solid
      rw [cut] at taken
      exact taken
    · intro other isSpan
      obtain rfl : span = other := Option.some.inj isSpan
      simp only [span, offset, Console.left, takes.left, takes.behind, Option.elim_some, bytes, ← isData,
        List.length_append]
      omega

theorem Steady.takenFrom (steady : console.Steady)
    (within : ∀ place, console.left place <:+ data place) :
    ∃ span?, Exchange.TakenFrom data ⟨console.input, console.readNumber.2⟩ span? ∧
      ∀ span ∈ span?, console.offset data span.reader ≤ span.start ∧
        span.stop ≤ (console.obey .read).offset data span.reader := by
  rcases steady.read_cases with unread | ⟨input, stream, after, takes⟩
  · rw [unread]
    exact ⟨none, .exhausted, by simp⟩
  · have reached : console.obey .read = after := congrArg Prod.fst takes.read
    rw [reached]
    exact takes.takenFrom (within input)

/-- In a run, the words of each reader lie one behind the other, all of them behind what was gone at
the start. -/
theorem Steady.spans {commands : List Command} (steady : console.Steady)
    (permitted : console.IsPermitted commands)
    (within : ∀ place, console.left place <:+ data place) :
    ∃ spans, List.Forall₂ (Exchange.TakenFrom data) (console.exchanges commands) spans ∧
      spans.reduceOption.Pairwise Span.Precedes ∧
      ∀ span ∈ spans.reduceOption, console.offset data span.reader ≤ span.start := by
  induction commands generalizing console with
  | nil => exact ⟨[], .nil, .nil, by simp⟩
  | cons command commands induction =>
      obtain ⟨permits, permitted⟩ := permitted
      have withinNext (place : Nat) : (console.obey command).left place <:+ data place :=
        (steady.left_obey command place).trans (within place)
      obtain ⟨spans, taken, ordered, behind⟩ :=
        induction (steady.obey permits) permitted withinNext
      have behindNow : ∀ span ∈ spans.reduceOption,
          console.offset data span.reader ≤ span.start := fun span member =>
        Nat.le_trans (steady.offset_obey command span.reader) (behind span member)
      cases command with
      | setInput | assignInput | rewind => exact ⟨spans, taken, ordered, behindNow⟩
      | read =>
          obtain ⟨span?, takenNow, bounds⟩ := steady.takenFrom within
          refine ⟨span? :: spans, .cons takenNow taken, ?_⟩
          cases span? with
          | none => exact ⟨ordered, behindNow⟩
          | some span =>
              obtain ⟨start, stop⟩ := bounds span rfl
              rw [List.reduceOption_cons_of_some]
              refine ⟨.cons ?_ ordered, ?_⟩
              · intro later member same
                rw [same] at stop
                exact Nat.le_trans stop (behind later member)
              · intro later member
                rcases List.mem_cons.mp member with rfl | member
                · exact start
                · exact behindNow later member

theorem answersTo_cons (place : Nat) (exchange : Exchange) (exchanges : List Exchange) :
    answersTo place (exchange :: exchanges) =
      if exchange.input = some place then exchange.answer :: answersTo place exchanges
      else answersTo place exchanges := by
  by_cases isInput : exchange.input = some place
  · simp [answersTo, isInput]
  · simp [answersTo, isInput]

/-- What a reader with a buffer of its own answers does not depend on what is done in between. -/
theorem Steady.answersTo {commands : List Command} {place : Nat} {stream : Stream}
    (steady : console.Steady) (permitted : console.IsPermitted commands)
    (owns : console.identity? place = some .selfBuffered)
    (isLeft : console.left? place = some stream) :
    ∃ count, Console.answersTo place (console.exchanges commands) = stream.numbers count := by
  induction commands generalizing console stream with
  | nil => exact ⟨0, rfl⟩
  | cons command commands induction =>
      obtain ⟨permits, permitted⟩ := permitted
      have steadyNext := steady.obey permits
      have ownsNext := (steady.identity?_obey command place).trans owns
      have isLeftNext (spares : console.Spares (console.obey command) place) :
          (console.obey command).left? place = some stream :=
        (spares.left?_of_selfBuffered owns).trans isLeft
      cases command with
      | setInput | rewind =>
          exact induction steadyNext permitted ownsNext (isLeftNext ⟨rfl, .inr rfl⟩)
      | assignInput => exact induction steadyNext permitted ownsNext (isLeftNext ⟨rfl, .inl rfl⟩)
      | read =>
          rw [exchanges, exchange?, Option.toList_some, List.singleton_append, answersTo_cons]
          by_cases isInput : console.input = some place
          · obtain ⟨after, takes⟩ := steady.takesWord isInput isLeft
            have behind : (console.obey .read).left? place = some stream.word.2 := by
              rw [Console.obey, takes.read]
              exact takes.behind
            obtain ⟨count, later⟩ := induction steadyNext permitted ownsNext behind
            refine ⟨count + 1, ?_⟩
            rw [if_pos isInput, later, takes.read]
            rfl
          · rw [if_neg isInput]
            refine induction steadyNext permitted ownsNext (isLeftNext ?_)
            rcases steady.obey_cases .read with spares | ⟨_, other, _, takes⟩
            · exact spares place
            · refine takes.others place ?_
              rintro rfl
              exact isInput takes.input

end Runs

/-- Inputs are never mixed, repeated or reordered. From a console that has nothing buffered on, each
word that is read comes from the reader in use, and those of one reader from stretches of its data that
follow each other. A reader with a buffer of its own answers with its words, one after the other,
whatever is read in between. With no reader in use, a read finds nothing and changes nothing. -/
theorem inputs_never_mix (console : Console) (commands : List Command)
    (unbuffered : console.attached = none) (permitted : console.IsPermitted commands) :
    (∃ spans, List.Forall₂ (Exchange.TakenFrom console.left) (console.exchanges commands) spans ∧
        spans.reduceOption.Pairwise Span.Precedes) ∧
      (∀ place stream, console.identity? place = some .selfBuffered →
        console.left? place = some stream →
        (∃ count, answersTo place (console.exchanges commands) = stream.numbers count) ∧
          ∀ text, stream.Delivers text → ∀ count answer,
            (answersTo place (console.exchanges commands))[count]? = some answer →
              answer = number ((tokens (decode text)).drop count)) ∧
      ∀ other : Console, other.input = none → other.readNumber = (other, .error .exhausted) := by
  have steady : console.Steady := by
    intro owner intake input attached
    rw [unbuffered] at attached
    cases attached
  refine ⟨?_, ?_, fun _ => readNumber_of_input_eq_none⟩
  · obtain ⟨spans, taken, ordered, _⟩ := steady.spans permitted fun _ => List.suffix_rfl
    exact ⟨spans, taken, ordered⟩
  · intro place stream owns isLeft
    obtain ⟨total, answers⟩ := steady.answersTo permitted owns isLeft
    refine ⟨⟨total, answers⟩, fun text delivers count answer answered => ?_⟩
    rw [answers] at answered
    exact delivers.numbers answered

/-- Two readers that cannot be told from each other, one that can, and one with a buffer of its own. -/
def fourReaders : Console where
  readers := #[
    Reader.make (Feed.ofBytes (utf8 "1 2")) (.alike 0),
    Reader.make ⟨[utf8 "3", utf8 "4 5"], .broken⟩ (.alike 0),
    Reader.make (Feed.ofBytes (utf8 "x 6")) .distinct,
    Reader.make (Feed.ofBytes (utf8 "7 8 9")) .selfBuffered]
  input := some 0
  attached := none
  output := none

/-- Goes through all of them and comes back to the last. -/
def roundTrip : List Command :=
  [.read, .assignInput (some 2), .read, .assignInput (some 1), .read, .assignInput (some 3), .read,
    .assignInput none, .read, .setInput (some 0), .read, .rewind, .assignInput (some 3), .read]

theorem inputs_never_mix_roundTrip :
    fourReaders.IsPermitted roundTrip ∧
      fourReaders.exchanges roundTrip =
        [⟨some 0, .ok 1⟩, ⟨some 2, .error (.malformed (utf8 "x") .malformed)⟩, ⟨some 1, .ok 34⟩,
          ⟨some 3, .ok 7⟩, ⟨none, .error .exhausted⟩, ⟨some 0, .error .exhausted⟩, ⟨some 3, .ok 8⟩] ∧
      ∃ spans, List.Forall₂ (Exchange.TakenFrom fourReaders.left) (fourReaders.exchanges roundTrip)
        spans ∧ spans.reduceOption.Pairwise Span.Precedes := by
  have permitted : fourReaders.IsPermitted roundTrip := by decide +kernel
  obtain ⟨taken, _, _⟩ := inputs_never_mix fourReaders roundTrip rfl permitted
  exact ⟨permitted, by decide +kernel, taken⟩

end Console

end RegisterMachine
