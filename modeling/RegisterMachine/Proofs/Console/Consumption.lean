import RegisterMachine.Proofs.Console.Words

/-! What reading consumes. Whatever an input does, the bytes that a word is read from follow each other
in it, and nothing that has been read comes again. -/

namespace RegisterMachine

open Text Utf8

theorem Feed.bytes_of_request {feed after : Feed} {space : Nat} {bytes : Bytes}
    (asked : feed.request space = (.ok bytes, after)) :
    bytes ++ after.pieces.flatten = feed.pieces.flatten := by
  unfold request at asked
  split at asked
  · simp at asked
  · rename_i piece rest pieces
    split at asked
    · obtain ⟨rfl, rfl⟩ := by simpa using asked
      simp [pieces]
    · obtain ⟨rfl, rfl⟩ := by simpa using asked
      simp [pieces, ← List.append_assoc]

namespace Stream

/-- The bytes that a stream has still to give. -/
def bytes (stream : Stream) : Bytes :=
  stream.intake.held ++ stream.feed.pieces.flatten

theorem bytes_fill (patience : Nat) (stream : Stream) :
    (stream.fill patience).bytes = stream.bytes := by
  fun_induction Stream.fill patience stream with
  | case1 stream => rfl
  | case2 patience stream trouble feed asked =>
      rw [Feed.remaining_of_request_error asked]
      rfl
  | case3 patience stream feed asked induction =>
      rw [induction, bytes, bytes, ← Feed.bytes_of_request asked]
      rfl
  | case4 patience stream b rest feed asked =>
      rw [bytes, bytes, ← Feed.bytes_of_request asked, List.append_assoc]

theorem bytes_settle (rounds : Nat) (stream : Stream) :
    (stream.settle rounds).bytes = stream.bytes := by
  fun_induction Stream.settle rounds stream with
  | case1 => rfl
  | case2 rounds stream _ induction => rw [induction, bytes_fill]
  | case3 => rfl

section Characters

variable {stream after : Stream} {c : Char}

theorem next_eq_ok (read : stream.next = (.ok c, after)) :
    ∃ piece held, next? (stream.settle rounds).intake.held = some (piece, held) ∧
      piece.char = c ∧
      after = { (stream.settle rounds) with
        intake := { (stream.settle rounds).intake with held } } := by
  simp only [Stream.next] at read
  split at read
  · rename_i piece held found
    obtain ⟨same, rfl⟩ := Prod.mk.inj read
    exact ⟨piece, held, found, Except.ok.inj same, rfl⟩
  · cases (Prod.mk.inj read).1

theorem bytes_of_next_error {trouble : Trouble} (read : stream.next = (.error trouble, after)) :
    after.bytes = stream.bytes := by
  simp only [Stream.next] at read
  split at read
  · cases (Prod.mk.inj read).1
  · obtain ⟨_, rfl⟩ := Prod.mk.inj read
    exact bytes_settle rounds stream

/-- A character that has been read, with the bytes behind it. If the stream has met trouble, they are
all held. -/
structure Reads (stream : Stream) (piece : Piece) (after : Stream) : Prop where
  bytes : stream.bytes = piece.bytes ++ after.bytes
  held : stream.intake.trouble ≠ none →
    stream.intake.held = piece.bytes ++ after.intake.held ∧ after.intake.trouble ≠ none
  alone : ∀ part, part <+: after.bytes → (after.intake.trouble ≠ none → part <+: after.intake.held) →
    next? (piece.bytes ++ part) = some (piece, part)

theorem Reads.behind {piece : Piece} (reads : stream.Reads piece after) :
    after.bytes <:+ stream.bytes :=
  ⟨piece.bytes, reads.bytes.symm⟩

theorem reads_of_next (read : stream.next = (.ok c, after)) :
    ∃ piece, piece.char = c ∧ stream.Reads piece after := by
  obtain ⟨piece, held, found, isChar, rfl⟩ := next_eq_ok read
  refine ⟨piece, isChar, ?_, ?_, ?_⟩
  · rw [← bytes_settle rounds stream, bytes, bytes, ← bytes_of_next? found, List.append_assoc]
  · intro troubled
    have settled : stream.settle rounds = stream := settle_of_isSettled (.inr troubled) rounds
    rw [settled] at found ⊢
    exact ⟨(bytes_of_next? found).symm, troubled⟩
  · intro part within troubled
    rcases stream.isSettled_settle_rounds with whole | trouble
    · exact next?_of_isPrefix (next?_append whole found _) within
    · exact next?_of_isPrefix found (troubled trouble)

end Characters

/-- A word that has been read behind the characters `done`: blanks, the bytes of its other characters,
and what ends it. If the stream has met trouble, all these bytes are held. -/
structure Takes (stream : Stream) (done word : List Char) (after : Stream) (lead token : Bytes) :
    Prop where
  bytes : ∃ tail, stream.bytes = lead ++ token ++ tail ++ after.bytes
  held : stream.intake.trouble ≠ none → lead ++ token <+: stream.intake.held
  word : word = done.reverse ++ decode token
  solid : ∀ c ∈ decode token, isBlank c = false
  begun : done ≠ [] → lead = []

theorem takes_nothing {stream after : Stream} (behind : after.bytes <:+ stream.bytes)
    (done : List Char) : stream.Takes done done.reverse after [] [] where
  bytes := behind.imp fun _ bytes => bytes.symm
  held _ := List.nil_prefix
  word := by simp
  solid := by simp
  begun _ := rfl

theorem Takes.cons {stream middle after : Stream} {done word : List Char} {piece : Piece}
    {token : Bytes} (reads : stream.Reads piece middle) (solid : isBlank piece.char = false)
    (takes : middle.Takes (piece.char :: done) word after [] token) :
    stream.Takes done word after [] (piece.bytes ++ token) := by
  obtain ⟨tail, bytes⟩ := takes.bytes
  have found : next? (piece.bytes ++ token) = some (piece, token) := by
    apply reads.alone token
    · rw [bytes]
      exact ⟨tail ++ after.bytes, by simp⟩
    · exact takes.held
  have decoded := decode_of_next? found
  refine ⟨⟨tail, ?_⟩, ?_, ?_, ?_, fun _ => rfl⟩
  · rw [reads.bytes, bytes]
    simp
  · intro troubled
    obtain ⟨held, still⟩ := reads.held troubled
    rw [held]
    exact (List.prefix_append_right_inj piece.bytes).mpr (takes.held still)
  · rw [takes.word, decoded]
    simp
  · rw [decoded]
    simpa [solid] using takes.solid

theorem Takes.skip {stream middle after : Stream} {word : List Char} {piece : Piece}
    {lead token : Bytes} (reads : stream.Reads piece middle)
    (takes : middle.Takes [] word after lead token) :
    stream.Takes [] word after (piece.bytes ++ lead) token := by
  obtain ⟨tail, bytes⟩ := takes.bytes
  refine ⟨⟨tail, ?_⟩, ?_, takes.word, takes.solid, by simp⟩
  · rw [reads.bytes, bytes]
    simp
  · intro troubled
    obtain ⟨held, still⟩ := reads.held troubled
    rw [held, List.append_assoc]
    exact (List.prefix_append_right_inj piece.bytes).mpr (takes.held still)

theorem takes_of_wordOnto {stream after : Stream} {keepsBlank : Bool} {done word : List Char}
    (read : stream.wordOnto keepsBlank done = (.ok word, after)) :
    ∃ lead token, stream.Takes done word after lead token := by
  cases found : stream.next with
  | mk outcome middle =>
      cases outcome with
      | ok c =>
          have shorter := remaining_of_next found
          obtain ⟨piece, rfl, reads⟩ := reads_of_next found
          rw [wordOnto_of_ok found] at read
          cases blank : isBlank piece.char with
          | false =>
              rw [blank] at read
              obtain ⟨lead, token, takes⟩ := takes_of_wordOnto read
              obtain rfl := takes.begun (by simp)
              exact ⟨[], _, takes.cons reads blank⟩
          | true =>
              by_cases filled : done = []
              · subst filled
                rw [blank] at read
                obtain ⟨lead, token, takes⟩ := takes_of_wordOnto read
                exact ⟨_, token, takes.skip reads⟩
              · simp only [blank, Bool.not_true, Bool.false_eq_true, ↓reduceIte,
                  List.isEmpty_iff, filled, Prod.mk.injEq, Except.ok.injEq] at read
                obtain ⟨rfl, rfl⟩ := read
                cases keepsBlank with
                | true => exact ⟨[], [], takes_nothing ⟨[], bytes_settle rounds stream⟩ done⟩
                | false => exact ⟨[], [], takes_nothing reads.behind done⟩
      | error trouble =>
          by_cases finished : trouble = .finished
          · subst finished
            rw [wordOnto_of_finished found] at read
            obtain ⟨rfl, rfl⟩ := by simpa using read
            exact ⟨[], [], takes_nothing ⟨[], bytes_of_next_error found⟩ done⟩
          · rw [wordOnto_of_trouble found finished] at read
            cases (Prod.mk.inj read).1
termination_by stream.remaining

/-- A word that is read as an answer is decoded from bytes that follow each other in the stream, none of
them a blank. -/
theorem word_cases (stream : Stream) :
    Console.answer stream.word.1 = .error .exhausted ∨
      (∃ trouble, Console.answer stream.word.1 = .error (.interrupted trouble)) ∨
      ∃ lead token tail, stream.bytes = lead ++ token ++ tail ++ stream.word.2.bytes ∧
        token ≠ [] ∧ (∀ c ∈ decode token, isBlank c = false) ∧
        Console.answer stream.word.1 = .ok (encodeAll (decode token)) := by
  cases read : stream.word with
  | mk outcome after =>
      cases outcome with
      | error trouble => exact .inr (.inl ⟨trouble, rfl⟩)
      | ok word =>
          cases word with
          | nil => exact .inl rfl
          | cons c word =>
              obtain ⟨lead, token, takes⟩ := takes_of_wordOnto read
              obtain ⟨tail, bytes⟩ := takes.bytes
              have decoded : c :: word = decode token := takes.word
              have filled : token ≠ [] := by
                rintro rfl
                simp at decoded
              refine .inr (.inr ⟨lead, token, tail, bytes, filled, takes.solid, ?_⟩)
              rw [← decoded]
              rfl

/-- Reading drops bytes from the front only, also where it ends in trouble. -/
theorem bytes_wordOnto (stream : Stream) (keepsBlank : Bool) (done : List Char) :
    (stream.wordOnto keepsBlank done).2.bytes <:+ stream.bytes := by
  cases found : stream.next with
  | mk outcome middle =>
      cases outcome with
      | ok c =>
          have shorter := remaining_of_next found
          obtain ⟨piece, rfl, reads⟩ := reads_of_next found
          rw [wordOnto_of_ok found]
          split
          · exact (middle.bytes_wordOnto keepsBlank _).trans reads.behind
          · split
            · exact (middle.bytes_wordOnto keepsBlank _).trans reads.behind
            · cases keepsBlank with
              | true => exact ⟨[], bytes_settle rounds stream⟩
              | false => exact reads.behind
      | error trouble =>
          have same : middle.bytes <:+ stream.bytes := ⟨[], bytes_of_next_error found⟩
          by_cases finished : trouble = .finished
          · subst finished
            rw [wordOnto_of_finished found]
            exact same
          · rw [wordOnto_of_trouble found finished]
            exact same
termination_by stream.remaining

end Stream

end RegisterMachine
