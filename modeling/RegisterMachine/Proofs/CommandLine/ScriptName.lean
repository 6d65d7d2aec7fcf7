import RegisterMachine.Expression.Lookups
import RegisterMachine.Proofs.CommandLine.Progress

/-! A script that is named by the first word of the input. The command then does what it does with the
name as its argument and the rest of the input. -/

namespace RegisterMachine

open Text Utf8

namespace Stream

variable {stream : Stream} {rest : Bytes}

/-- Behind the characters `done` of a word, a stream reads the rest of this word and leaves what comes
after it. -/
theorem Delivers.wordOnto_word {done word : List Char}
    (delivers : stream.Delivers (encodeAll word ++ rest)) (solid : ∀ c ∈ word, isBlank c = false)
    (ends : ∀ c ∈ (decode rest).head?, isBlank c = true) (begun : word ≠ [] ∨ done ≠ []) :
    ∃ after, stream.wordOnto true done = (.ok (done.reverse ++ word), after) ∧
      after.Delivers rest := by
  induction word generalizing stream done with
  | nil =>
      have filled : done ≠ [] := begun.resolve_left fun filled => filled rfl
      rw [List.append_nil]
      cases found : next? rest with
      | none =>
          obtain rfl := next?_eq_none found
          obtain ⟨after, read, behind⟩ := delivers.next_nil
          exact ⟨after, wordOnto_of_finished read, behind⟩
      | some result =>
          obtain ⟨piece, behind⟩ := result
          have blank : isBlank piece.char = true :=
            ends piece.char (by rw [decode_of_next? found]; rfl)
          obtain ⟨after, read, _⟩ := delivers.next found
          refine ⟨stream.settle rounds, ?_, delivers.settle rounds⟩
          rw [wordOnto_of_ok read]
          simp [blank, filled]
  | cons c word induction =>
      obtain ⟨after, read, behind⟩ := delivers.next (next?_encodeAll_cons c word rest)
      obtain ⟨isSolid, solid⟩ := List.forall_mem_cons.mp solid
      obtain ⟨last, later, left⟩ := induction behind solid (.inr (List.cons_ne_nil c done))
      refine ⟨last, ?_, left⟩
      rw [wordOnto_of_ok read]
      simp only [Piece.char, isSolid, Bool.not_false, ↓reduceIte, later]
      simp

/-- The first word of an input is read from between the blanks around it, and the blank behind it is
left. -/
theorem Delivers.token {gap word : List Char}
    (delivers : stream.Delivers (encodeAll gap ++ (encodeAll word ++ rest)))
    (blank : ∀ c ∈ gap, isBlank c = true) (solid : ∀ c ∈ word, isBlank c = false)
    (filled : word ≠ []) (ends : ∀ c ∈ (decode rest).head?, isBlank c = true) :
    ∃ after, stream.token = (.ok word, after) ∧ after.Delivers rest := by
  induction gap generalizing stream with
  | nil =>
      have direct : stream.Delivers (encodeAll word ++ rest) := delivers
      exact direct.wordOnto_word solid ends (.inl filled)
  | cons c gap induction =>
      obtain ⟨after, read, behind⟩ := delivers.next (next?_encodeAll_cons c gap _)
      obtain ⟨isBlank, blank⟩ := List.forall_mem_cons.mp blank
      obtain ⟨last, later, left⟩ := induction behind blank
      refine ⟨last, ?_, left⟩
      rw [Stream.token, wordOnto_of_ok read]
      simp only [Piece.char, isBlank, Bool.not_true, Bool.false_eq_true, ↓reduceIte,
        List.isEmpty_nil]
      exact later

end Stream

namespace CommandLine

namespace Options

theorem shape_of_head_ne {word : Bytes} (plain : word.head? ≠ some (byte '-')) :
    shape word = .argument := by
  unfold shape
  split
  · rename_i dash second rest
    have other : dash ≠ byte '-' := by simpa using plain
    rw [if_pos other]
  · rfl

/-- An argument behind options that leave none is the only one. -/
theorem parseOnto_concat {options result : Options} {words : List Bytes} {word : Bytes}
    (parsed : parseOnto options words = .ok result) (unnamed : result.arguments = [])
    (plain : shape word = .argument) :
    parseOnto options (words ++ [word]) = .ok { result with arguments := [word] } := by
  fun_induction parseOnto options words with
  | case1 options =>
      obtain rfl := Except.ok.inj parsed
      simp only [List.nil_append, parseOnto, plain]
  | case2 options first rest isArgument =>
      obtain rfl := Except.ok.inj parsed
      cases unnamed
  | case3 options first rest isSeparator =>
      obtain rfl := Except.ok.inj parsed
      obtain rfl : rest = [] := unnamed
      simp only [List.cons_append, List.nil_append, parseOnto, isSeparator]
  | case4 | case6 | case9 | case10 => cases parsed
  | case5 options first rest name value isOption switch isSwitch on isOn induction =>
      simp only [List.cons_append, parseOnto, isOption, isSwitch, isOn]
      exact induction parsed
  | case7 options first rest name setting isSetting noSwitch value isOption induction =>
      simp only [List.cons_append, parseOnto, isOption, isSetting, noSwitch]
      exact induction parsed
  | case8 options first name setting isSetting noSwitch value rest isOption induction =>
      simp only [List.cons_append, parseOnto, isOption, isSetting, noSwitch]
      exact induction parsed

end Options

theorem head?_encodeAll_ne {name : List Char} (plain : name.head? ≠ some '-') :
    (encodeAll name).head? ≠ some (byte '-') := by
  intro dash
  obtain ⟨others, shown⟩ := List.head?_eq_some_iff.mp dash
  cases name with
  | nil => cases shown
  | cons c name =>
      have found := next?_encodeAll_cons c name []
      have isDash : next? (byte '-' :: others) = some (.character '-', others) :=
        next?_encode '-' others
      rw [List.append_nil, shown, isDash] at found
      simp only [Option.some.injEq, Prod.mk.injEq, Piece.character.injEq] at found
      exact plain (congrArg some found.1.symm)

theorem twins_session (settings : Settings) (program : Program) {first second : Stream}
    {text : Bytes} (delivers : first.Delivers text) (deliversToo : second.Delivers text) :
    (session settings program (Reader.ofStream first)).Twins Console.SameTokens
      (session settings program (Reader.ofStream second)) := by
  have same : (session settings program (Reader.ofStream first)).machine.console.SameTokens
      (session settings program (Reader.ofStream second)).machine.console :=
    ⟨rfl, text, text, ⟨first, Console.stream?_connect _ _, delivers⟩,
      ⟨second, Console.stream?_connect _ _, deliversToo⟩, rfl⟩
  exact ⟨_, ⟨false, _, same, rfl⟩, rfl⟩

section Reports

variable {m : Type → Type} [Monad m] [LawfulMonad m] {first second : Stream} {text : Bytes}

theorem report_launch (delivers : first.Delivers text) (deliversToo : second.Delivers text)
    (call : Call) (surroundings : Surroundings m) (options : Options) (settings : Settings)
    (script : Bytes) (program : Program) (stride count : Nat) :
    Stretch.report stride count <$>
        launch call surroundings options settings script (pure first) program =
      Stretch.report stride count <$>
        launch call surroundings options settings script (pure second) program := by
  unfold launch
  cases views? call settings program with
  | none => rfl
  | some views =>
      simp only
      split
      · rfl
      · split
        · simp only [pure_bind, map_pure]
          have twins := twins_session settings program delivers deliversToo
          exact congrArg pure (((alike_begin twins script).after views []).report stride count)
        · rfl

variable [Evaluator]

theorem report_assemble (delivers : first.Delivers text) (deliversToo : second.Delivers text)
    (call : Call) (surroundings : Surroundings m) (options : Options) (settings : Settings)
    (script : Bytes) (stride count : Nat) :
    Stretch.report stride count <$>
        assemble call surroundings options settings script (pure first) =
      Stretch.report stride count <$>
        assemble call surroundings options settings script (pure second) := by
  simp only [assemble, map_bind]
  refine bind_congr fun found => ?_
  match found with
  | .error fault => rfl
  | .ok .directory => rfl
  | .ok (.file source) =>
      simp only
      split
      · rfl
      · rfl
      · rename_i program _
        have launched := report_launch delivers deliversToo call surroundings options settings
          script program stride count
        have noted := congrArg
          (Report.after [] (settings.assembler.account settings.verbose source) <$> ·) launched
        simpa only [map_eq_pure_bind, bind_assoc, pure_bind, Stretch.report_after] using noted

/-- The name of the script may be given by the first word of the input as well as by an argument. The
command then shows the same at every moment, whatever files there are and however the bytes arrive: of
the input, it has read this word only. -/
theorem script_named_by_input (call : Call) (surroundings : Surroundings m) {options : Options}
    {gap name : List Char} {rest : Bytes} {feed other : Feed}
    (parsed : Options.parse call.arguments = .ok options) (unnamed : options.arguments = [])
    (blank : ∀ c ∈ gap, isBlank c = true) (solid : ∀ c ∈ name, isBlank c = false)
    (filled : name ≠ []) (plain : name.head? ≠ some '-')
    (ends : ∀ c ∈ (decode rest).head?, isBlank c = true)
    (gives : feed.Gives (encodeAll gap ++ (encodeAll name ++ rest))) (givesRest : other.Gives rest)
    (stride count : Nat) :
    Stretch.report stride count <$> start call { surroundings with input := pure feed } =
      Stretch.report stride count <$>
        start { call with arguments := call.arguments ++ [encodeAll name] }
          { surroundings with input := pure other } := by
  have parsedToo : Options.parse (call.arguments ++ [encodeAll name]) =
      .ok { options with arguments := [encodeAll name] } :=
    Options.parseOnto_concat parsed unnamed (Options.shape_of_head_ne (head?_encodeAll_ne plain))
  obtain ⟨left, read, behind⟩ :=
    (Stream.delivers_of_gives gives).token blank solid filled ends
  have token : (Stream.ofFeed feed).token = (.ok name, left) := read
  simp only [start, parsed, parsedToo, unnamed, List.length_nil, List.length_singleton, map_pure,
    pure_bind, map_bind, Nat.lt_irrefl, Nat.not_lt_zero, ↓reduceIte]
  refine bind_congr fun found => ?_
  cases found with
  | error stretch => rfl
  | ok settings =>
      cases name with
      | nil => exact absurd rfl filled
      | cons c name =>
          simp only [token]
          -- Neither the other arguments nor the input itself are looked at from here on.
          exact report_assemble behind (Stream.delivers_of_gives givesRest) call
            { surroundings with input := pure feed } options (options.apply settings) _ stride count

end Reports

/-- A call for a listing, without a script. -/
def listingCall : Call where
  name := utf8 "machine"
  arguments := [utf8 "-l"]
  expressionDetail := Expression.Failure.message
  documentDetail := []
  drawing _ := []

/-- There is one file, which prints a number that it has read. -/
def oneFile : Surroundings Id where
  find name := if name = utf8 "é" then .ok (.file (utf8 "read a\nprintln a")) else .error .absent
  input := ⟨[], .broken⟩

/-- The name of this file and two numbers, in pieces that cut through the name. -/
def namedFeed : Feed where
  pieces := [utf8 " \t" ++ [0xC3], [0xA9] ++ utf8 "\n4", utf8 "2 7"]
  ending := .finished

/-- The program prints the first number behind its name. -/
theorem script_named_by_input_echo :
    (start listingCall { oneFile with input := pure namedFeed }).run.report 8 1 =
      { output := utf8 "\tread a\n\tprintln a\n42\n", notes := [], code? := some 0 } := by
  have parsed : Options.parse listingCall.arguments =
      .ok { Options.default with listing := true } := rfl
  have gives : namedFeed.Gives
      (encodeAll [' ', '\t'] ++ (encodeAll ['é'] ++ utf8 "\n42 7")) := by
    refine ⟨rfl, ?_, ?_⟩ <;> decide
  have blank : ∀ c ∈ [' ', '\t'], isBlank c = true := List.all_eq_true.mp (by decide)
  have solid : ∀ c ∈ ['é'], isBlank c = false := List.forall_mem_singleton.mpr (by decide)
  have head : (decode (utf8 "\n42 7")).head? = some '\n' := by decide +kernel
  have ends : ∀ c ∈ (decode (utf8 "\n42 7")).head?, isBlank c = true := by
    intro c member
    rw [head] at member
    obtain rfl := Option.some.inj member
    decide
  have same := script_named_by_input listingCall oneFile parsed rfl blank solid (by decide)
    (by decide) ends gives (Feed.gives_ofBytes _) 8 1
  refine (congrArg Id.run same).trans ?_
  decide +kernel

end CommandLine

end RegisterMachine
