import RegisterMachine.Console
import RegisterMachine.Proofs.Text.Utf8

/-! The words of an input. However the bytes of an input arrive, a console reads the words of the text
that they make up, one after the other. -/

namespace RegisterMachine

namespace Text

/-- The words of a text, which lie between its blanks. -/
def tokens (text : List Char) : List (List Char) :=
  (text.splitOnP isBlank).filter fun word => !word.isEmpty

@[simp] theorem tokens_nil : tokens [] = [] := rfl

theorem nil_not_mem_tokens (text : List Char) : [] ∉ tokens text := by
  simp [tokens]

theorem tokens_append_blank (first : List Char) {c : Char} (blank : isBlank c = true)
    (rest : List Char) : tokens (first ++ c :: rest) = tokens first ++ tokens rest := by
  rw [tokens, List.splitOnP_append_cons first rest blank, List.filter_append, tokens, tokens]

theorem tokens_of_solid {word : List Char} (solid : ∀ c ∈ word, isBlank c = false)
    (filled : word ≠ []) : tokens word = [word] := by
  rw [tokens, List.splitOnP_eq_singleton solid]
  simp [filled]

theorem tokens_of_last {word : List Char} (solid : ∀ c ∈ word, isBlank c = false) :
    (tokens word).headD [] = word ∧ (tokens word).tail = [] := by
  by_cases filled : word = []
  · subst filled
    exact ⟨rfl, rfl⟩
  · rw [tokens_of_solid solid filled]
    exact ⟨rfl, rfl⟩

end Text

namespace Feed

/-- An input that gives a text in pieces, none of them empty, and then ends. -/
structure Gives (feed : Feed) (text : Bytes) : Prop where
  ending : feed.ending = .finished
  filled : [] ∉ feed.pieces
  bytes : feed.pieces.flatten = text

theorem gives_ofBytes (text : Bytes) : (ofBytes text).Gives text := by
  refine ⟨rfl, ?_, ?_⟩
  · cases text <;> simp [ofBytes]
  · cases text <;> simp [ofBytes]

variable {feed : Feed} {text : Bytes}

theorem Gives.request_nil (gives : feed.Gives []) (space : Nat) :
    feed.request space = (.error .finished, feed) := by
  obtain ⟨pieces, ending⟩ := feed
  obtain ⟨rfl, filled, bytes⟩ := gives
  cases pieces with
  | nil => rfl
  | cons piece rest =>
      have empty : piece = [] := List.flatten_eq_nil_iff.mp bytes piece List.mem_cons_self
      rw [empty] at filled
      exact absurd List.mem_cons_self filled

/-- An input that has bytes left gives some of them to whoever has room for one. -/
theorem Gives.request (gives : feed.Gives text) (left : text ≠ []) {space : Nat}
    (room : 0 < space) :
    ∃ b more after rest, feed.request space = (.ok (b :: more), after) ∧ after.Gives rest ∧
      b :: more ++ rest = text := by
  obtain ⟨pieces, ending⟩ := feed
  obtain ⟨isEnding, filled, rfl⟩ := gives
  cases pieces with
  | nil => exact absurd rfl left
  | cons piece others =>
      rw [List.mem_cons, not_or] at filled
      cases piece with
      | nil => exact absurd rfl filled.1
      | cons b more =>
          by_cases fits : (b :: more).length ≤ space
          · refine ⟨b, more, ⟨others, ending⟩, others.flatten, ?_, ⟨isEnding, filled.2, rfl⟩, rfl⟩
            simp only [Feed.request, fits, ↓reduceIte]
          · obtain ⟨less, rfl⟩ := Nat.exists_eq_succ_of_ne_zero (Nat.ne_of_gt room)
            refine ⟨b, more.take less, ⟨more.drop less :: others, ending⟩,
              more.drop less ++ others.flatten, ?_, ⟨isEnding, ?_, rfl⟩, ?_⟩
            · simp only [Feed.request, fits, ↓reduceIte, List.take_succ_cons, List.drop_succ_cons]
            · simp only [List.mem_cons, not_or, filled.2, not_false_eq_true, and_true]
              intro empty
              have short := List.drop_eq_nil_iff.mp empty.symm
              simp only [List.length_cons] at fits
              omega
            · rw [List.cons_append, ← List.append_assoc, List.take_append_drop]
              rfl

end Feed

namespace Stream

open Text Utf8

/-- A stream with a text before it, part of it held and the rest still to come. -/
def Delivers (stream : Stream) (text : Bytes) : Prop :=
  ∃ rest, stream.feed.Gives rest ∧ stream.intake.held ++ rest = text ∧
    (stream.intake.trouble = none ∨ stream.intake.trouble = some .finished ∧ rest = [])

/-- Whether the first piece of what a stream holds is the first piece of all it delivers. -/
def IsSettled (stream : Stream) : Prop :=
  isPartial stream.intake.held = false ∨ stream.intake.trouble ≠ none

section Buffers

variable {stream : Stream} {text : Bytes}

theorem delivers_of_gives {feed : Feed} (gives : feed.Gives text) :
    Delivers { intake := Intake.empty, feed } text :=
  ⟨text, gives, rfl, .inl rfl⟩

theorem Delivers.fill (delivers : stream.Delivers text) (calm : stream.intake.trouble = none)
    (room : stream.intake.held.length < Intake.capacity) (patience : Nat) :
    (stream.fill (patience + 1)).Delivers text := by
  obtain ⟨rest, gives, bytes, _⟩ := delivers
  by_cases left : rest = []
  · subst left
    have asked := gives.request_nil (Intake.capacity - stream.intake.held.length)
    simp only [Stream.fill, asked]
    exact ⟨[], gives, bytes, .inr ⟨rfl, rfl⟩⟩
  · obtain ⟨b, more, after, behind, asked, givesAfter, rfl⟩ :=
      gives.request left (Nat.sub_pos_of_lt room)
    simp only [Stream.fill, asked]
    refine ⟨behind, givesAfter, ?_, .inl calm⟩
    rw [← bytes, List.append_assoc]

theorem settle_of_isSettled (settled : stream.IsSettled) (rounds : Nat) :
    stream.settle rounds = stream := by
  cases rounds with
  | zero => rfl
  | succ rounds =>
      rw [settle, if_neg]
      rcases settled with whole | troubled
      · simp [whole]
      · simp [troubled]

theorem settle_of_not_isSettled (unsettled : ¬ stream.IsSettled) (rounds : Nat) :
    stream.settle (rounds + 1) = (stream.fill Intake.patience).settle rounds := by
  simp only [IsSettled, not_or, Bool.not_eq_false, Decidable.not_not] at unsettled
  rw [settle, if_pos (by simp [unsettled.1, unsettled.2])]

theorem fill_progress (patience : Nat) (stream : Stream) :
    (stream.fill patience).intake.trouble ≠ none ∨
      stream.intake.held.length < (stream.fill patience).intake.held.length := by
  fun_induction Stream.fill patience stream with
  | case1 stream => exact .inl (by simp)
  | case2 patience stream trouble feed asked => exact .inl (by simp)
  | case3 patience stream feed asked induction => exact induction
  | case4 patience stream b rest feed asked => exact .inr (by simp)

/-- Each round adds a byte to the three at most that can be part of a character, or is the last. -/
theorem isSettled_settle {rounds : Nat} (enough : 4 ≤ stream.intake.held.length + rounds) :
    (stream.settle rounds).IsSettled := by
  induction rounds generalizing stream with
  | zero =>
      refine .inl (Bool.eq_false_iff.mpr fun unsettled => ?_)
      have short : stream.intake.held.length < 4 := length_of_isPartial unsettled
      omega
  | succ rounds induction =>
      by_cases settled : stream.IsSettled
      · rw [settle_of_isSettled settled]
        exact settled
      · rw [settle_of_not_isSettled settled]
        rcases stream.fill_progress Intake.patience with troubled | longer
        · have isSettled : (stream.fill Intake.patience).IsSettled := .inr troubled
          rw [settle_of_isSettled isSettled]
          exact isSettled
        · exact induction (by omega)

theorem Delivers.settle (delivers : stream.Delivers text) (rounds : Nat) :
    (stream.settle rounds).Delivers text := by
  induction rounds generalizing stream with
  | zero => exact delivers
  | succ rounds induction =>
      by_cases settled : stream.IsSettled
      · rw [settle_of_isSettled settled]
        exact delivers
      · rw [settle_of_not_isSettled settled]
        simp only [IsSettled, not_or, Bool.not_eq_false, Decidable.not_not] at settled
        obtain ⟨unsettled, calm⟩ := settled
        have short := length_of_isPartial unsettled
        have room : stream.intake.held.length < Intake.capacity := by
          rw [Intake.capacity]
          omega
        exact induction (delivers.fill calm room 99)

/-- What a settled stream holds first is what it delivers first. -/
theorem Delivers.next?_held (delivers : stream.Delivers text) (settled : stream.IsSettled)
    {piece : Piece} {rest : Bytes} (found : next? text = some (piece, rest)) :
    ∃ held, next? stream.intake.held = some (piece, held) ∧
      Delivers { stream with intake := { stream.intake with held } } rest := by
  obtain ⟨behind, gives, rfl, trouble⟩ := delivers
  rcases settled with whole | troubled
  · cases known : next? stream.intake.held with
    | none =>
        rw [next?_eq_none known] at whole
        cases whole
    | some result =>
        obtain ⟨first, held⟩ := result
        have again := next?_append whole known behind
        obtain ⟨rfl, rfl⟩ := Prod.mk.inj (Option.some.inj (again.symm.trans found))
        exact ⟨held, rfl, behind, gives, rfl, trouble⟩
  · obtain ⟨_, rfl⟩ := trouble.resolve_left troubled
    rw [List.append_nil] at found
    exact ⟨rest, found, [], gives, List.append_nil rest, trouble⟩

theorem isSettled_settle_rounds (stream : Stream) : (stream.settle rounds).IsSettled :=
  isSettled_settle (by rw [rounds]; omega)

theorem Delivers.settled (delivers : stream.Delivers text) :
    (stream.settle rounds).Delivers text ∧ (stream.settle rounds).IsSettled :=
  ⟨delivers.settle rounds, isSettled_settle_rounds stream⟩

theorem Delivers.next {piece : Piece} {rest : Bytes} (delivers : stream.Delivers text)
    (found : next? text = some (piece, rest)) :
    ∃ after, stream.next = (.ok piece.char, after) ∧ after.Delivers rest := by
  obtain ⟨again, settled⟩ := delivers.settled
  obtain ⟨held, known, behind⟩ := again.next?_held settled found
  exact ⟨_, by simp only [Stream.next, known], behind⟩

theorem Delivers.next_nil (delivers : stream.Delivers []) :
    ∃ after, stream.next = (.error .finished, after) ∧ after.Delivers [] := by
  obtain ⟨⟨rest, gives, bytes, trouble⟩, settled⟩ := delivers.settled
  obtain ⟨empty, rfl⟩ := List.append_eq_nil_iff.mp bytes
  rcases settled with whole | troubled
  · rw [empty] at whole
    cases whole
  · obtain ⟨isFinished, _⟩ := trouble.resolve_left troubled
    refine ⟨{ (stream.settle rounds) with intake := ⟨[], none⟩ }, ?_,
      [], gives, rfl, .inl rfl⟩
    simp only [Stream.next, empty, next?, isFinished, Option.getD_some]

end Buffers

section Words

variable {stream after : Stream} {keepsBlank : Bool} {done : List Char}

theorem wordOnto_of_ok {c : Char} (read : stream.next = (.ok c, after)) :
    stream.wordOnto keepsBlank done =
      if !isBlank c then after.wordOnto keepsBlank (c :: done)
      else if done.isEmpty then after.wordOnto keepsBlank []
      else (.ok done.reverse, if keepsBlank then stream.settle rounds else after) := by
  rw [wordOnto.eq_def keepsBlank done stream]
  split
  · rename_i found
    obtain ⟨same, rfl⟩ := Prod.mk.inj (read.symm.trans found)
    obtain rfl := Except.ok.inj same
    rfl
  · simp_all
  · simp_all

theorem wordOnto_of_finished (read : stream.next = (.error .finished, after)) :
    stream.wordOnto keepsBlank done = (.ok done.reverse, after) := by
  rw [wordOnto]
  split
  · simp_all
  · simp_all
  · simp_all

theorem wordOnto_of_trouble {trouble : Trouble} (read : stream.next = (.error trouble, after))
    (unfinished : trouble ≠ .finished) :
    stream.wordOnto keepsBlank done = (.error trouble, after) := by
  rw [wordOnto]
  split
  · simp_all
  · simp_all
  · simp_all

end Words

/-- Behind the characters `done` of a word, a stream reads this word to its end. What it delivers then
has the other words. -/
theorem Delivers.wordOnto {stream : Stream} {text : Bytes} {done : List Char}
    (delivers : stream.Delivers text) (solid : ∀ c ∈ done, isBlank c = false) :
    ∃ after rest,
      stream.wordOnto false done =
        (.ok ((tokens (done.reverse ++ decode text)).headD []), after) ∧
      after.Delivers rest ∧ tokens (decode rest) = (tokens (done.reverse ++ decode text)).tail := by
  have solidWord : ∀ c ∈ done.reverse, isBlank c = false := by simpa using solid
  cases found : next? text with
  | none =>
      obtain rfl := next?_eq_none found
      obtain ⟨after, read, behind⟩ := delivers.next_nil
      obtain ⟨head, tail⟩ := tokens_of_last solidWord
      refine ⟨after, [], ?_, behind, ?_⟩
      · rw [wordOnto_of_finished read, decode_nil, List.append_nil, head]
      · rw [decode_nil, List.append_nil, tail, tokens_nil]
  | some result =>
      obtain ⟨piece, rest⟩ := result
      have shorter := length_of_next? found
      obtain ⟨after, read, behind⟩ := delivers.next found
      rw [decode_of_next? found, wordOnto_of_ok read]
      cases blank : isBlank piece.char with
      | false =>
          have solidLonger : ∀ c ∈ piece.char :: done, isBlank c = false := by
            simpa [blank] using solid
          have later := behind.wordOnto solidLonger
          rwa [List.reverse_cons, List.append_assoc] at later
      | true =>
          rw [tokens_append_blank _ blank]
          by_cases filled : done = []
          · subst filled
            exact behind.wordOnto solid
          · rw [tokens_of_solid solidWord (by simpa using filled)]
            refine ⟨after, rest, ?_, behind, rfl⟩
            simp [filled]
termination_by text.length

/-- The word that a stream reads is the first of the text, and none at its end. -/
theorem Delivers.word {stream : Stream} {text : Bytes} (delivers : stream.Delivers text) :
    ∃ after rest, stream.word = (.ok ((tokens (decode text)).headD []), after) ∧
      after.Delivers rest ∧ tokens (decode rest) = (tokens (decode text)).tail := by
  have solid : ∀ c ∈ [], isBlank c = false := by simp
  exact delivers.wordOnto solid

end Stream

/-- A reader behind a word. If it has a buffer of its own, this buffer holds what is left. -/
def Reader.behind (reader : Reader) (left : Stream) : Reader :=
  { reader with
    feed := left.feed
    intake := if reader.identity == .selfBuffered then left.intake else reader.intake }

@[simp] theorem Reader.identity_behind (reader : Reader) (left : Stream) :
    (reader.behind left).identity = reader.identity := rfl

namespace Console

open Text Utf8

/-- What a console reads from next, with what is held of it. -/
def stream? (console : Console) : Option Stream :=
  console.input.bind fun input =>
    console.readers[(console.current input).1]?.map fun reader =>
      { intake :=
          if reader.identity == .selfBuffered then reader.intake else (console.current input).2
        feed := reader.feed }

def answer : Except Trouble (List Char) → Except InputFault Bytes
  | .ok [] => .error .exhausted
  | .ok word => .ok (encodeAll word)
  | .error trouble => .error (.interrupted trouble)

theorem serves_current (console : Console) (input : Nat) :
    console.serves (console.current input).1 input = true := by
  unfold current
  split
  · split
    · rename_i serves
      exact serves
    · simp [serves]
  · simp [serves]

/-- A console whose reader at a place has been replaced, and whose buffer belongs to it. -/
def replace (console : Console) (place : Nat) (reader : Reader) (intake : Intake) : Console :=
  { console with
    readers := console.readers.setIfInBounds place reader
    attached := some (place, intake) }

section Replacement

variable {console : Console} {place input : Nat} {reader other : Reader}

theorem getElem?_replace (found : console.readers[place]? = some reader) (intake : Intake) :
    (console.replace place other intake).readers[place]? = some other := by
  obtain ⟨inside, _⟩ := Array.getElem?_eq_some_iff.mp found
  exact Array.getElem?_setIfInBounds_self_of_lt inside

theorem kind?_replace (found : console.readers[place]? = some reader)
    (same : other.identity = reader.identity) (intake : Intake) (number : Nat) :
    (console.replace place other intake).kind? number = console.kind? number := by
  by_cases here : place = number
  · subst here
    rw [kind?, getElem?_replace found, kind?, found, Option.bind_some, Option.bind_some, same]
  · rw [kind?, replace, Array.getElem?_setIfInBounds_ne here, kind?]

theorem current_replace (found : console.readers[place]? = some reader)
    (same : other.identity = reader.identity) (intake : Intake)
    (serves : console.serves place input = true) :
    (console.replace place other intake).current input = (place, intake) := by
  have again : (console.replace place other intake).serves place input = true := by
    simpa only [Console.serves, kind?_replace found same] using serves
  exact if_pos again

theorem stream?_replace (isInput : console.input = some input)
    (found : console.readers[place]? = some reader) (same : other.identity = reader.identity)
    (intake : Intake) (serves : console.serves place input = true) :
    (console.replace place other intake).stream? =
      some { intake := if other.identity == .selfBuffered then other.intake else intake
             feed := other.feed } := by
  have known : (console.replace place other intake).input = some input := isInput
  rw [stream?, known, Option.bind_some, current_replace found same _ serves,
    getElem?_replace found, Option.map_some]

end Replacement

theorem readWord_eq {console : Console} {stream : Stream} {input : Nat} {reader : Reader}
    (isInput : console.input = some input)
    (isReader : console.readers[(console.current input).1]? = some reader)
    (isStream : stream =
      { intake :=
          if reader.identity == .selfBuffered then reader.intake else (console.current input).2
        feed := reader.feed }) :
    console.readWord =
      (console.replace (console.current input).1 (reader.behind stream.word.2)
        (if reader.identity == .selfBuffered then Intake.empty else stream.word.2.intake),
        answer stream.word.1) := by
  simp only [readWord, replace, isInput, isReader, ← isStream]
  generalize stream.word = outcome
  obtain ⟨read, left⟩ := outcome
  match read with
  | .ok [] => rfl
  | .ok (_ :: _) => rfl
  | .error _ => rfl

/-- A console reads a word from its stream, goes on with what is left of it, and leaves its output. -/
theorem readWord_of_stream? {console : Console} {stream : Stream}
    (found : console.stream? = some stream) :
    ∃ after, console.readWord = (after, answer stream.word.1) ∧
      after.stream? = some stream.word.2 ∧ after.output = console.output := by
  obtain ⟨input, isInput, known⟩ := Option.bind_eq_some_iff.mp found
  obtain ⟨reader, isReader, isStream⟩ := Option.map_eq_some_iff.mp known
  refine ⟨_, readWord_eq isInput isReader isStream.symm, ?_, rfl⟩
  rw [stream?_replace isInput isReader (reader.identity_behind _) _ (console.serves_current input)]
  simp only [Reader.behind]
  split
  · rfl
  · rfl

theorem readWord_of_stream?_eq_none {console : Console} (missing : console.stream? = none) :
    console.readWord = (console, .error .exhausted) := by
  cases input : console.input with
  | none => simp only [readWord, input]
  | some reader =>
      simp only [stream?, input, Option.bind_some, Option.map_eq_none_iff] at missing
      simp only [readWord, input, missing]

def numberOf (word : Bytes) : Except InputFault Int32 :=
  match Text.Decimal.read 32 word with
  | .ok n => .ok (Int32.ofInt n)
  | .error refusal => .error (.malformed word refusal)

theorem readNumber_of_readWord {console after : Console} {answer : Except InputFault Bytes}
    (read : console.readWord = (after, answer)) :
    console.readNumber = (after, answer.bind numberOf) := by
  unfold readNumber
  rw [read]
  cases answer with
  | error fault => rfl
  | ok word =>
      simp only [Except.bind, numberOf]
      cases Text.Decimal.read 32 word with
      | ok n => rfl
      | error refusal => rfl

theorem output_readNumber (console : Console) : console.readNumber.1.output = console.output := by
  cases found : console.stream? with
  | none => rw [readNumber_of_readWord (readWord_of_stream?_eq_none found)]
  | some stream =>
      obtain ⟨after, read, _, output⟩ := readWord_of_stream? found
      rw [readNumber_of_readWord read, output]

theorem stream?_write (console : Console) (text : Bytes) (newline : Bool) :
    (console.write text newline).1.stream? = console.stream? := by
  unfold write
  split
  · rfl
  · rfl

theorem stream?_connect (console : Console) (reader : Reader) :
    (console.connect reader).stream? =
      some { intake := if reader.identity == .selfBuffered then reader.intake else Intake.empty
             feed := reader.feed } := by
  have added : (console.readers.push reader)[console.readers.size]? = some reader :=
    Array.getElem?_push_size
  simp only [stream?, connect, setInput, assignInput, rewind, current, Option.bind_some, added,
    Option.map_some]

def Delivers (console : Console) (text : Bytes) : Prop :=
  ∃ stream, console.stream? = some stream ∧ stream.Delivers text

theorem delivers_connect {feed : Feed} {text : Bytes} (console : Console) (gives : feed.Gives text)
    (identity : Identity) : (console.connect (Reader.make feed identity)).Delivers text := by
  refine ⟨_, console.stream?_connect _, ?_⟩
  cases identity with
  | distinct | alike kind | selfBuffered => exact Stream.delivers_of_gives gives

def number : List (List Char) → Except InputFault Int32
  | [] => .error .exhausted
  | word :: _ => numberOf (encodeAll word)

theorem number_tokens (text : List Char) :
    (answer (.ok ((tokens text).headD []))).bind numberOf = number (tokens text) := by
  have solid := nil_not_mem_tokens text
  match tokens text, solid with
  | [], _ => rfl
  | [] :: _, solid => simp at solid
  | (_ :: _) :: _, _ => rfl

theorem Delivers.readWord {console : Console} {text : Bytes} (delivers : console.Delivers text) :
    ∃ after rest, console.readWord = (after, answer (.ok ((tokens (decode text)).headD []))) ∧
      after.Delivers rest ∧ tokens (decode rest) = (tokens (decode text)).tail ∧
      after.output = console.output := by
  obtain ⟨stream, found, streams⟩ := delivers
  obtain ⟨left, rest, read, behind, others⟩ := streams.word
  obtain ⟨after, answered, kept, output⟩ := readWord_of_stream? found
  rw [read] at answered kept
  exact ⟨after, rest, answered, ⟨left, kept, behind⟩, others, output⟩

theorem Delivers.readNumber {console : Console} {text : Bytes} (delivers : console.Delivers text) :
    ∃ after rest, console.readNumber = (after, number (tokens (decode text))) ∧
      after.Delivers rest ∧ tokens (decode rest) = (tokens (decode text)).tail ∧
      after.output = console.output := by
  obtain ⟨after, rest, answered, behind⟩ := delivers.readWord
  refine ⟨after, rest, ?_, behind⟩
  rw [readNumber_of_readWord answered, number_tokens]

/-- The next word for a machine: the first of the text before its console. An input that stalls or
breaks off has no text, and its next word is whatever it comes to. -/
structure Offers (console : Console) (word : Bytes) : Prop where
  first : ∀ text, console.Delivers text →
    (tokens (decode text)).head?.map encodeAll = some word
  broken : (∀ text, ¬ console.Delivers text) → console.readWord.2 = .ok word

theorem answer_headD_eq_ok_iff {words : List (List Char)} (solid : [] ∉ words) {word : Bytes} :
    answer (.ok (words.headD [])) = .ok word ↔ words.head?.map encodeAll = some word := by
  match words, solid with
  | [], _ => simp [answer]
  | [] :: _, solid => simp at solid
  | (_ :: _) :: _, _ => simp [answer]

theorem readWord_eq_ok_iff {console : Console} {word : Bytes} :
    console.readWord.2 = .ok word ↔ console.Offers word := by
  constructor
  · intro read
    refine ⟨?_, fun _ => read⟩
    intro text delivers
    obtain ⟨after, rest, answered, _⟩ := delivers.readWord
    rw [answered] at read
    exact (answer_headD_eq_ok_iff (nil_not_mem_tokens _)).mp read
  · intro offers
    by_cases delivers : ∃ text, console.Delivers text
    · obtain ⟨text, delivers⟩ := delivers
      obtain ⟨after, rest, answered, _⟩ := delivers.readWord
      rw [answered]
      exact (answer_headD_eq_ok_iff (nil_not_mem_tokens _)).mpr (offers.first text delivers)
    · exact offers.broken (not_exists.mp delivers)

/-- A console behind a word. No reader has been touched but the one that the word is from. -/
structure ReadsOn (console after : Console) : Prop where
  input : after.input = console.input
  output : after.output = console.output
  others : ∀ input place, console.input = some input → place ≠ (console.current input).1 →
    after.readers[place]? = console.readers[place]?
  rest : ∀ text, console.Delivers text →
    ∃ rest, after.Delivers rest ∧ tokens (decode rest) = (tokens (decode text)).tail
  broken : (∀ text, ¬ console.Delivers text) → after = console.readWord.1

theorem readsOn_readWord (console : Console) : console.ReadsOn console.readWord.1 := by
  have rest : ∀ text, console.Delivers text →
      ∃ rest, console.readWord.1.Delivers rest ∧
        tokens (decode rest) = (tokens (decode text)).tail := by
    intro text delivers
    obtain ⟨after, rest, answered, behind, others, _⟩ := delivers.readWord
    rw [answered]
    exact ⟨rest, behind, others⟩
  cases found : console.stream? with
  | none =>
      rw [readWord_of_stream?_eq_none found] at rest ⊢
      exact ⟨rfl, rfl, fun _ _ _ _ => rfl, rest, fun _ => by
        rw [readWord_of_stream?_eq_none found]⟩
  | some stream =>
      obtain ⟨input, isInput, known⟩ := Option.bind_eq_some_iff.mp found
      obtain ⟨reader, isReader, isStream⟩ := Option.map_eq_some_iff.mp known
      have read := readWord_eq isInput isReader isStream.symm
      refine ⟨by rw [read]; rfl, by rw [read]; rfl, ?_, rest, fun _ => rfl⟩
      intro other place isOther apart
      obtain rfl := Option.some.inj (isInput.symm.trans isOther)
      rw [read]
      exact Array.getElem?_setIfInBounds_ne fun same => apart same.symm

theorem Delivers.write {console : Console} {text : Bytes} (delivers : console.Delivers text)
    (written : Bytes) (newline : Bool) : (console.write written newline).1.Delivers text := by
  obtain ⟨stream, found, streams⟩ := delivers
  exact ⟨stream, (console.stream?_write written newline).trans found, streams⟩

/-- Consoles before texts that have the same words. -/
def SameWords (first second : Console) : Prop :=
  ∃ text other, first.Delivers text ∧ second.Delivers other ∧
    tokens (decode text) = tokens (decode other)

theorem SameWords.readNumber {first second : Console} (same : first.SameWords second) :
    first.readNumber.2 = second.readNumber.2 ∧
      first.readNumber.1.SameWords second.readNumber.1 := by
  obtain ⟨text, other, delivers, delivered, words⟩ := same
  obtain ⟨after, rest, read, behind, others, _⟩ := delivers.readNumber
  obtain ⟨afterOther, restOther, readOther, behindOther, othersOther, _⟩ := delivered.readNumber
  rw [read, readOther, words]
  refine ⟨rfl, rest, restOther, behind, behindOther, ?_⟩
  rw [others, othersOther, words]

theorem SameWords.write {first second : Console} (same : first.SameWords second) (text : Bytes)
    (newline : Bool) :
    (first.write text newline).1.SameWords (second.write text newline).1 := by
  obtain ⟨read, other, delivers, delivered, words⟩ := same
  exact ⟨read, other, delivers.write text newline, delivered.write text newline, words⟩

theorem write_of_output {first second : Console} (same : first.output = second.output)
    (text : Bytes) (newline : Bool) :
    (first.write text newline).2 = (second.write text newline).2 ∧
      (first.write text newline).1.output = (second.write text newline).1.output := by
  simp only [write, same]
  cases second.output with
  | none => exact ⟨rfl, same⟩
  | some sink => exact ⟨rfl, rfl⟩

end Console

end RegisterMachine
