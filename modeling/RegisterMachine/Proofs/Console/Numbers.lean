import Mathlib.Data.List.Basic
import RegisterMachine.Proofs.Console.Words
import RegisterMachine.Proofs.Text.Decimal

/-! The numbers of an input. Each reading takes up the next word of the text, and in which pieces the
text arrives has no part in what it comes to. -/

namespace RegisterMachine.Console

open Text Utf8

/-- What a reading comes to at a word, or behind the last one. A word that is no decimal of 32 bits
is refused for the reason that decimals are. -/
inductive Answers : Option (List Char) → Except InputFault Int32 → Prop
  | number {word : List Char} {value : Int32}
      (numeral : Decimal.Numeral (encodeAll word) value.toInt) : Answers (some word) (.ok value)
  | outside {word : List Char} {n : Int} (numeral : Decimal.Numeral (encodeAll word) n)
      (large : n < -2147483648 ∨ 2147483648 ≤ n) :
      Answers (some word) (.error (.malformed (encodeAll word) .outOfRange))
  | noNumber {word : List Char} {refusal : Decimal.Refusal}
      (other : ∀ n, ¬ Decimal.Numeral (encodeAll word) n)
      (refused : Decimal.read 32 (encodeAll word) = .error refusal) :
      Answers (some word) (.error (.malformed (encodeAll word) refusal))
  | exhausted : Answers none (.error .exhausted)

/-- A word is read as a number exactly if it is a decimal of the number. -/
theorem numberOf_eq_ok_iff {word : Bytes} {value : Int32} :
    numberOf word = .ok value ↔ Decimal.Numeral word value.toInt := by
  have lower := value.le_toInt
  have upper := value.toInt_lt
  rw [numberOf]
  constructor
  · intro isNumber
    split at isNumber
    · rename_i n read
      obtain ⟨numeral, least, most⟩ := (Decimal.read_eq_ok_iff (by decide)).mp read
      obtain rfl := Except.ok.inj isNumber
      rwa [Int32.toInt_ofInt_of_le least most]
    · cases isNumber
  · intro numeral
    have read : Decimal.read 32 word = .ok value.toInt :=
      (Decimal.read_eq_ok_iff (by decide)).mpr ⟨numeral, lower, upper⟩
    simp only [read, Int32.ofInt_toInt]

theorem answers_numberOf (word : List Char) : Answers (some word) (numberOf (encodeAll word)) := by
  cases answer : numberOf (encodeAll word) with
  | ok value => exact .number (numberOf_eq_ok_iff.mp answer)
  | error fault =>
      unfold numberOf at answer
      cases read : Decimal.read 32 (encodeAll word) with
      | ok n => simp [read] at answer
      | error refusal =>
          obtain rfl : .malformed (encodeAll word) refusal = fault := by simpa [read] using answer
          by_cases decimal : ∃ n, Decimal.Numeral (encodeAll word) n
          · obtain ⟨n, numeral⟩ := decimal
            obtain rfl := Decimal.refusal_of_numeral numeral read
            refine .outside numeral (Decidable.byContradiction fun inside => ?_)
            have lower : -2147483648 ≤ n := by omega
            have upper : n < 2147483648 := by omega
            have accepted : Decimal.read 32 (encodeAll word) = .ok n :=
              (Decimal.read_eq_ok_iff (by decide)).mpr ⟨numeral, lower, upper⟩
            cases read.symm.trans accepted
          · exact .noNumber (not_exists.mp decimal) read

theorem answers_number (words : List (List Char)) : Answers words.head? (number words) := by
  cases words with
  | nil => exact .exhausted
  | cons word rest => exact answers_numberOf word

def behind (console : Console) : Nat → Console
  | 0 => console
  | count + 1 => (console.behind count).readNumber.1

def reading (console : Console) (count : Nat) : Except InputFault Int32 :=
  (console.behind count).readNumber.2

/-- Each reading leaves the text behind one more word. -/
theorem Delivers.behind {console : Console} {text : Bytes} (delivers : console.Delivers text)
    (count : Nat) :
    ∃ rest, (console.behind count).Delivers rest ∧
      tokens (decode rest) = (tokens (decode text)).drop count := by
  induction count with
  | zero => exact ⟨text, delivers, rfl⟩
  | succ count induction =>
      obtain ⟨rest, before, words⟩ := induction
      obtain ⟨after, left, read, later, others, _⟩ := before.readNumber
      refine ⟨left, ?_, ?_⟩
      · rwa [Console.behind, read]
      · rw [others, words, List.tail_drop]

theorem Delivers.reading {console : Console} {text : Bytes} (delivers : console.Delivers text)
    (count : Nat) : console.reading count = number ((tokens (decode text)).drop count) := by
  obtain ⟨rest, before, words⟩ := delivers.behind count
  obtain ⟨after, left, read, _⟩ := before.readNumber
  rw [Console.reading, read, words]

/-- Readings come to the words of a text in order and then to none for ever, in whatever pieces the
text arrives. -/
theorem reading_answers_word (console : Console) {feed : Feed} {text : Bytes}
    (gives : feed.Gives text) (identity : Identity) (count : Nat) :
    Answers (tokens (decode text))[count]?
        ((console.connect (Reader.make feed identity)).reading count) ∧
      ∀ (other : Feed) (otherIdentity : Identity) (otherConsole : Console), other.Gives text →
        (otherConsole.connect (Reader.make other otherIdentity)).reading count =
          (console.connect (Reader.make feed identity)).reading count := by
  have here := (console.delivers_connect gives identity).reading count
  constructor
  · rw [here, ← List.head?_drop]
    exact answers_number _
  · intro other otherIdentity otherConsole givesOther
    rw [here, (otherConsole.delivers_connect givesOther otherIdentity).reading count]

/-- Twelve and minus seven with a blank of three bytes between them, a word that is no number, and a
number too large. Pieces end inside of words and inside of the blank. -/
def scattered : Feed where
  pieces := [utf8 "\t1", utf8 "2", [0xE2], [0x80, 0x83], utf8 "-7 1", utf8 "x\n+4294967296"]
  ending := .finished

theorem reading_answers_word_scattered :
    (List.range 6).map (empty.connect (Reader.make scattered .distinct)).reading =
        [.ok 12, .ok (-7), .error (.malformed (utf8 "1x") .malformed),
          .error (.malformed (utf8 "+4294967296") .outOfRange), .error .exhausted,
          .error .exhausted] ∧
      ∀ count,
        Answers [['1', '2'], ['-', '7'], ['1', 'x'], "+4294967296".toList][count]?
            ((empty.connect (Reader.make scattered .distinct)).reading count) ∧
          (empty.connect (Reader.make (Feed.ofBytes scattered.pieces.flatten) .selfBuffered)).reading
              count =
            (empty.connect (Reader.make scattered .distinct)).reading count := by
  have gives : scattered.Gives scattered.pieces.flatten := ⟨rfl, by decide, rfl⟩
  have words : tokens (decode scattered.pieces.flatten) =
      [['1', '2'], ['-', '7'], ['1', 'x'], "+4294967296".toList] := by
    decide +kernel
  refine ⟨by decide +kernel, fun count => ?_⟩
  obtain ⟨answers, independent⟩ := reading_answers_word empty gives .distinct count
  rw [words] at answers
  exact ⟨answers, independent _ .selfBuffered empty (Feed.gives_ofBytes _)⟩

end RegisterMachine.Console
