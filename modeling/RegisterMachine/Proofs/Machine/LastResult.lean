import RegisterMachine.Expression.Lookups
import RegisterMachine.Proofs.Machine.Safety
import RegisterMachine.Proofs.Machine.StackDiscipline

/-! The flags record the last result. Arithmetic sets them by the value it stores and a comparison by
the difference of its operands, which is not cut to 32 bits; no other instruction touches them. So a
conditional jump decides how two values that were compared are ordered. -/

namespace RegisterMachine

namespace Keyword

def setsFlags (keyword : Keyword) : Bool :=
  keyword.operation?.isSome

/-- What a conditional jump asks of two values that were compared. -/
def relation? : Keyword → Option (Int → Int → Bool)
  | .je => some fun left right => decide (left = right)
  | .jne => some fun left right => decide (left ≠ right)
  | .jl => some fun left right => decide (left < right)
  | .jle => some fun left right => decide (left ≤ right)
  | .jg => some fun left right => decide (left > right)
  | .jge => some fun left right => decide (left ≥ right)
  | _ => none

end Keyword

def Instruction.setsFlags (instruction : Instruction) : Bool :=
  match instruction.verb with
  | .known keyword => keyword.setsFlags
  | .unknown _ _ => false

namespace Flags

theorem taken_ofResult {keyword : Keyword} {relation : Int → Int → Bool}
    (isRelation : keyword.relation? = some relation) (left right : Int) :
    (ofResult (left - right)).taken (.known keyword) = relation left right := by
  cases keyword with
  | je | jne | jl | jle | jg | jge =>
      obtain rfl := Option.some.inj isRelation
      rw [Bool.eq_iff_iff]
      simp only [taken, ofResult, Bool.and_eq_true, Bool.or_eq_true, Bool.not_eq_true', beq_iff_eq,
        beq_eq_false_iff_ne, decide_eq_true_eq, decide_eq_false_iff_not]
      omega
  | _ => cases isRelation

end Flags

namespace Machine

/-- Whether an instruction that has gone through leaves the flags as its result asks, and stores that
result unless it is a comparison. -/
inductive Records (machine : Machine) (instruction : Instruction) : Effect → Prop
  | ok {after : Machine} {next : Int64}
      (flags : after.flags = (machine.result? instruction).elim machine.flags Flags.ofResult)
      (stored : ∀ result, machine.result? instruction = some result →
        instruction.verb ≠ .known .cmp →
          ∃ value, instruction.registerList.head?.bind after.register? = some value ∧
            value.toInt = result) :
      Records machine instruction (after, .ok next)
  | error {after : Machine} {cause : FaultCause} : Records machine instruction (after, .error cause)

section Operations

variable {machine after : Machine} {instruction : Instruction}

theorem result?_of_verb {keyword : Keyword} (isVerb : instruction.verb = .known keyword)
    (quiet : keyword.operation? = none) : machine.result? instruction = none := by
  simp [result?, isVerb, Verb.keyword?, quiet]

theorem result?_of_setsFlags (quiet : instruction.setsFlags = false) :
    machine.result? instruction = none := by
  cases isVerb : instruction.verb with
  | unknown code unassigned => simp [result?, isVerb, Verb.keyword?]
  | known keyword =>
      apply result?_of_verb isVerb
      simpa [Instruction.setsFlags, isVerb, Keyword.setsFlags] using quiet

/-- A verb that stands with a label works on no values, whatever it is. -/
theorem result?_of_label (verb : Verb) (name : Bytes) :
    machine.result? (.label verb name) = none := by
  simp [result?, operands?]

theorem records_quiet (quiet : machine.result? instruction = none) (registers : Array Int32)
    (stack : Stack) (console : Console) (next : Int64) :
    machine.Records instruction ({ machine with registers, stack, console }, .ok next) := by
  refine .ok ?_ ?_
  · rw [quiet, Option.elim_none]
  · intro result isResult
    cases quiet.symm.trans isResult

/-- A result that is cut to 32 bits and stored. -/
theorem records_store {keyword : Keyword} {operation : Int → Int → Int} {left right value : Int32}
    {register : Int} (isVerb : instruction.verb = .known keyword) (stores : keyword ≠ .cmp)
    (isOperation : keyword.operation? = some operation)
    (named : instruction.registerList.head? = some register)
    (known : machine.register? register = some left)
    (operands : machine.operands? instruction = some (left, right))
    (isValue : value.toInt = (operation left.toInt right.toInt).bmod 4294967296) (next : Int64) :
    machine.Records instruction (machine.store register value, .ok next) := by
  have isResult : machine.result? instruction = some value.toInt := by
    simp [result?, isVerb, Verb.keyword?, isOperation, operands, stores, isValue]
  refine .ok ?_ ?_
  · rw [isResult]
    rfl
  · intro result same _
    obtain rfl := Option.some.inj (isResult.symm.trans same)
    refine ⟨value, ?_, rfl⟩
    rw [named, Option.bind_some]
    exact register?_setRegister machine known value

theorem records_jumpIf (records : ∀ next, machine.Records instruction (after, .ok next))
    (condition : Bool) (label : Bytes) :
    machine.Records instruction (after.jumpIf condition label) := by
  unfold jumpIf
  split
  · split
    · exact records _
    · exact .error
  · exact records _

theorem records_push (quiet : machine.result? instruction = none) (value : Int32) :
    machine.Records instruction (machine.push value) := by
  unfold push
  split
  · exact .error
  · exact records_quiet quiet _ _ _ _

theorem records_popThen {use : Machine → Int32 → Effect}
    (records : ∀ stack value, machine.Records instruction (use { machine with stack } value)) :
    machine.Records instruction (machine.popThen use) := by
  unfold popThen
  split
  · exact records _ _
  · exact .error

theorem records_write (quiet : machine.result? instruction = none) (text : Bytes)
    (newline : Bool) : machine.Records instruction (machine.write text newline) := by
  unfold write
  split
  · exact records_quiet quiet _ _ _ _
  · exact .error

theorem records_read (quiet : machine.result? instruction = none) (register : Int) :
    machine.Records instruction (machine.read register) := by
  unfold read
  split
  · exact records_quiet quiet _ _ _ _
  · exact .error

end Operations

theorem records_perform (machine : Machine) (instruction : Instruction) :
    machine.Records instruction (machine.perform instruction) := by
  obtain ⟨task, asks, effect⟩ := machine.exists_asks instruction
  rw [effect]
  cases asks with
  | absent | unfit | divided => exact .error
  | moved isVerb => exact records_quiet (result?_of_verb isVerb rfl) _ _ _ _
  | compared isVerb operands =>
      refine .ok ?_ fun result _ stores => absurd isVerb stores
      simp [result?, isVerb, Verb.keyword?, Keyword.operation?, operands]
  | recorded isVerb isOperation plain _ named known operands isResult =>
      exact records_store isVerb plain.1 isOperation named known operands isResult _
  | pushed isVerb => exact records_push (result?_of_verb isVerb rfl) _
  | popped =>
      simp only [carryOut]
      exact records_popThen fun stack top => records_quiet rfl _ _ _ _
  | returned =>
      simp only [carryOut]
      exact records_popThen fun stack value => records_quiet rfl _ _ _ _
  | read => exact records_read rfl _
  | written isVerb =>
      rcases isVerb with isVerb | isVerb
      · exact records_write (result?_of_verb isVerb rfl) _ _
      · exact records_write (result?_of_verb isVerb rfl) _ _
  | jumped =>
      exact records_jumpIf (records_quiet (result?_of_label _ _) _ _ _) _ _
  | called =>
      simp only [carryOut]
      split
      · exact .error
      · exact records_jumpIf (records_quiet (result?_of_label _ _) _ _ _) true _
  | looped known =>
      apply records_jumpIf
      apply records_store rfl (by simp) rfl rfl known _ (Int32.toInt_sub _ 1)
      rw [operands?, known, Option.map_some]

theorem registerList_ne_nil {instruction : Instruction} (accepted : instruction.Accepted)
    (sets : instruction.setsFlags = true) : instruction.registerList ≠ [] := by
  cases instruction with
  | register | registers | registerNumber | registerLabel => simp [Instruction.registerList]
  | bare verb =>
      cases verb with
      | unknown code unassigned => cases accepted
      | known keyword =>
          cases keyword with
          | ret => cases sets
          | _ => cases accepted
  | number verb value =>
      cases verb with
      | unknown code unassigned => cases accepted
      | known keyword =>
          cases keyword with
          | push => cases sets
          | _ => cases accepted
  | text verb content =>
      cases verb with
      | unknown code unassigned => cases accepted
      | known keyword =>
          cases keyword with
          | print | println => cases sets
          | _ => cases accepted
  | label verb name =>
      cases verb with
      | unknown code unassigned => cases accepted
      | known keyword =>
          cases keyword with
          | jmp | je | jne | jg | jge | jl | jle | call => cases sets
          | _ => cases accepted

theorem exists_operands {machine : Machine} {program : Program} {instruction : Instruction}
    (resolves : machine.Resolves program instruction) (named : instruction.registerList ≠ []) :
    ∃ left right, machine.operands? instruction = some (left, right) := by
  have known : ∀ register ∈ instruction.registerList,
      ∃ value, machine.register? register = some value := by
    intro register member
    exact Option.isSome_iff_exists.mp (resolves.registers register member)
  cases instruction with
  | bare | number | text | label => exact absurd rfl named
  | register verb register | registerLabel verb register name =>
      obtain ⟨value, found⟩ := known register (by simp [Instruction.registerList])
      exact ⟨value, 1, by rw [operands?, found, Option.map_some]⟩
  | registerNumber verb target right =>
      obtain ⟨left, found⟩ := known target (by simp [Instruction.registerList])
      exact ⟨left, right, by rw [operands?, found, Option.map_some]⟩
  | registers verb target source =>
      obtain ⟨left, found⟩ := known target (by simp [Instruction.registerList])
      obtain ⟨right, second⟩ := known source (by simp [Instruction.registerList])
      exact ⟨left, right, by rw [operands?, found, Option.bind_some, second, Option.map_some]⟩

theorem exists_result {machine : Machine} {program : Program} {instruction : Instruction}
    (resolves : machine.Resolves program instruction) (accepted : instruction.Accepted)
    (sets : instruction.setsFlags = true) : ∃ result, machine.result? instruction = some result := by
  obtain ⟨left, right, operands⟩ :=
    exists_operands resolves (registerList_ne_nil accepted sets)
  cases isVerb : instruction.verb with
  | unknown code unassigned => simp [Instruction.setsFlags, isVerb] at sets
  | known keyword =>
      simp only [Instruction.setsFlags, isVerb, Keyword.setsFlags, Option.isSome_iff_exists] at sets
      obtain ⟨operation, isOperation⟩ := sets
      simp [result?, isVerb, Verb.keyword?, isOperation, operands]

theorem result?_of_cmp {machine : Machine} {instruction : Instruction} {left right : Int32}
    (isVerb : instruction.verb = .known .cmp)
    (operands : machine.operands? instruction = some (left, right)) :
    machine.result? instruction = some (left.toInt - right.toInt) := by
  simp [result?, isVerb, Verb.keyword?, Keyword.operation?, operands]

/-- Whether none of the ticks from one to another executes an instruction that sets the flags. -/
def IsQuiet (machine : Machine) (first last : Nat) : Prop :=
  ∀ place instruction, first ≤ place → place < last →
    (machine.onward place).instruction? = some instruction → instruction.setsFlags = false

section Runs

variable {machine state : Machine} {count : Nat}

theorem records_of_tick {after : Machine} {instruction : Instruction}
    (found : machine.instruction? = some instruction) (step : machine.tick = (after, none)) :
    after.flags = (machine.result? instruction).elim machine.flags Flags.ofResult ∧
      ∀ result, machine.result? instruction = some result → instruction.verb ≠ .known .cmp →
        ∃ value, instruction.registerList.head?.bind after.register? = some value ∧
          value.toInt = result := by
  obtain ⟨again, middle, next, same, performed, rfl⟩ := tick_eq_none_iff.mp step
  obtain rfl := Option.some.inj (found.symm.trans same)
  have records := records_perform machine instruction
  rw [performed] at records
  cases records with
  | ok flags stored => exact ⟨flags, stored⟩

theorem Ticks.tick_onward (ticks : machine.Ticks count state) {place : Nat}
    (before : place < count) :
    (machine.onward place).tick = (machine.onward (place + 1), none) := by
  induction ticks with
  | zero => cases before
  | succ earlier step induction =>
      rename_i count middle after
      rcases Nat.lt_succ_iff_lt_or_eq.mp before with sooner | rfl
      · exact induction sooner
      · rw [onward, ← earlier.eq_onward, step]

theorem Ticks.earlier (ticks : machine.Ticks count state) {place : Nat} (before : place < count) :
    machine.Ticks place (machine.onward place) :=
  ticks_onward fun earlier sooner => by rw [ticks.tick_onward (sooner.trans before)]

theorem Ticks.flags_of_isQuiet (ticks : machine.Ticks count state) {first : Nat}
    (within : first ≤ count) (quiet : machine.IsQuiet first count) :
    state.flags = (machine.onward first).flags := by
  induction ticks with
  | zero =>
      obtain rfl := Nat.le_zero.mp within
      rfl
  | succ earlier step induction =>
      rename_i count middle after
      rcases Nat.le_succ_iff.mp within with sooner | rfl
      · have quietBefore : machine.IsQuiet first count := fun place instruction lower upper =>
          quiet place instruction lower (Nat.lt_succ_of_lt upper)
        obtain ⟨instruction, _, _, found, _, _⟩ := tick_eq_none_iff.mp step
        have here := found
        rw [earlier.eq_onward] at here
        have noResult : middle.result? instruction = none :=
          result?_of_setsFlags (quiet count instruction sooner (Nat.lt_succ_self count) here)
        rw [(records_of_tick found step).1, noResult, Option.elim_none,
          induction sooner quietBefore]
      · rw [(Ticks.succ earlier step).eq_onward]

theorem Ticks.flags_of_last (ticks : machine.Ticks count state) {last : Nat}
    {instruction : Instruction} {result : Int} (before : last < count)
    (found : (machine.onward last).instruction? = some instruction)
    (isResult : (machine.onward last).result? instruction = some result)
    (quiet : machine.IsQuiet (last + 1) count) : state.flags = Flags.ofResult result := by
  rw [ticks.flags_of_isQuiet before quiet, (records_of_tick found (ticks.tick_onward before)).1,
    isResult, Option.elim_some]

theorem Ticks.flags_cases (ticks : machine.Ticks count state) (clear : machine.flags = .clear) :
    state.flags = .clear ∨ ∃ result, state.flags = Flags.ofResult result := by
  induction ticks with
  | zero => exact .inl clear
  | succ earlier step induction =>
      rename_i count middle after
      obtain ⟨instruction, _, _, found, _, _⟩ := tick_eq_none_iff.mp step
      rw [(records_of_tick found step).1]
      cases middle.result? instruction with
      | none => exact induction
      | some result => exact .inr ⟨result, rfl⟩

/-- A jump to a label of the program goes there if its condition holds and on otherwise. -/
theorem IsReady.tick_label {program : Program} (ready : machine.IsReady program)
    {keyword : Keyword} {label : Bytes} (ordinary : keyword ≠ .call)
    (found : machine.instruction? = some (.label (.known keyword) label)) :
    ∃ address after, program.label? label = some address ∧ machine.tick = (after, none) ∧
      after.ip = if machine.flags.taken (.known keyword) then Int64.ofInt address
        else machine.following := by
  have resolves := (ready.resolves_instruction found).1
  obtain ⟨address, bound⟩ := Table.contains_eq_true_iff.mp (resolves.label label rfl)
  have isTarget : (machine.program.bind fun program => program.label? label) = some address := by
    rw [ready.loaded, Option.bind_some]
    exact bound
  have performed : machine.perform (.label (.known keyword) label) =
      machine.jumpIf (machine.flags.taken (.known keyword)) label := by
    cases keyword with
    | call => exact absurd rfl ordinary
    | _ => rfl
  cases taken : machine.flags.taken (.known keyword) with
  | true =>
      simp only [taken, jumpIf, isTarget, ↓reduceIte] at performed
      exact ⟨address, _, bound, tick_of_ok found performed, rfl⟩
  | false =>
      simp only [taken, jumpIf, Bool.false_eq_true, ↓reduceIte, proceed] at performed
      exact ⟨address, _, bound, tick_of_ok found performed, rfl⟩

end Runs

/-- Behind a reset the flags are clear until an instruction sets them, and then they tell of the last
result of such an instruction whether it is zero and whether it is negative. A conditional jump behind a
comparison, with no other result in between, is taken exactly if the values compared are in its
relation. -/
theorem flags_record_last_result [Evaluator] {machine ready state : Machine} {program : Program}
    {count : Nat}
    (reset : machine.reset = (ready, none)) (loaded : ready.program = some program)
    (ticks : ready.Ticks count state) :
    (∀ assembler source, (Assembler.parse assembler source).2 = .ok program →
      ∀ instruction ∈ program.instructions, instruction.Accepted) ∧
    ((∀ instruction ∈ program.instructions, instruction.Accepted) →
      (ready.IsQuiet 0 count → state.flags.zero = false ∧ state.flags.negative = false) ∧
      (∀ last instruction, last < count →
        (ready.onward last).instruction? = some instruction → instruction.setsFlags = true →
        ready.IsQuiet (last + 1) count →
          ∃ result, (ready.onward last).result? instruction = some result ∧
            (instruction.verb ≠ .known .cmp →
              ∃ value, instruction.registerList.head?.bind (ready.onward (last + 1)).register? =
                some value ∧ value.toInt = result) ∧
            (state.flags.zero = true ↔ result = 0) ∧
            (state.flags.negative = true ↔ result < 0)) ∧
      ¬ (state.flags.zero = true ∧ state.flags.negative = true) ∧
      ∀ last instruction left right, last < count →
        (ready.onward last).instruction? = some instruction → instruction.verb = .known .cmp →
        (ready.onward last).operands? instruction = some (left, right) →
        ready.IsQuiet (last + 1) count →
        ∀ keyword relation label, keyword.relation? = some relation →
          state.instruction? = some (.label (.known keyword) label) →
            ∃ address after, program.label? label = some address ∧ state.tick = (after, none) ∧
              after.ip = if relation left.toInt right.toInt then Int64.ofInt address
                else state.following) := by
  have isReady := isReady_of_reset reset
  obtain rfl := Option.some.inj (isReady.loaded.symm.trans loaded)
  have clear : ready.flags = .clear := by rw [eq_of_reset reset]
  refine ⟨fun assembler source assembled instruction => accepted_of_parse assembled, ?_⟩
  intro accepted
  refine ⟨?_, ?_, ?_, ?_⟩
  · intro quiet
    rw [ticks.flags_of_isQuiet (Nat.zero_le count) quiet, onward, clear]
    exact ⟨rfl, rfl⟩
  · intro last instruction before found sets quiet
    have readyThere := isReady.ticks (ticks.earlier before)
    obtain ⟨resolves, member⟩ := readyThere.resolves_instruction found
    obtain ⟨result, isResult⟩ := exists_result resolves (accepted instruction member) sets
    have flags := ticks.flags_of_last before found isResult quiet
    refine ⟨result, isResult, ?_, ?_, ?_⟩
    · exact (records_of_tick found (ticks.tick_onward before)).2 result isResult
    · rw [flags]
      exact beq_iff_eq
    · rw [flags]
      exact decide_eq_true_iff
  · rintro ⟨zero, negative⟩
    rcases ticks.flags_cases clear with flags | ⟨result, flags⟩
    · rw [flags] at zero
      cases zero
    · rw [flags] at zero negative
      have isZero : result = 0 := beq_iff_eq.mp zero
      have isNegative : result < 0 := decide_eq_true_iff.mp negative
      omega
  · intro last instruction left right before found isVerb operands quiet keyword relation label
      isRelation jumps
    have flags := ticks.flags_of_last before found (result?_of_cmp isVerb operands) quiet
    have ordinary : keyword ≠ .call := by
      rintro rfl
      cases isRelation
    rw [← Flags.taken_ofResult isRelation, ← flags]
    exact (isReady.ticks ticks).tick_label ordinary jumps

/-- The least value is compared with the greatest, so that the difference would be one in 32 bits. -/
def extremes : Program where
  opcodes := #[
    ⟨1, utf8 "mov a, -2147483648", some (.registerNumber (.known .mov) 0 (-2147483648))⟩,
    ⟨2, utf8 "cmp a, 2147483647", some (.registerNumber (.known .cmp) 0 2147483647)⟩,
    ⟨3, utf8 "push a", some (.register (.known .push) 0)⟩,
    ⟨4, utf8 "pop b", some (.register (.known .pop) 1)⟩,
    ⟨5, utf8 "jl end", some (.label (.known .jl) (utf8 "end"))⟩,
    ⟨6, utf8 "inc a", some (.register (.known .inc) 0)⟩]
  registers := [utf8 "a", utf8 "b"]
  labels := Table.ofList [(utf8 "end", 6)]

theorem flags_record_last_result_extremes :
    ∃ ready state after : Machine, (Machine.new (some extremes)).reset = (ready, none) ∧
      ready.Ticks 4 state ∧ state.instruction? = some (.label (.known .jl) (utf8 "end")) ∧
      state.tick = (after, none) ∧ after.ip = 6 := by
  generalize start : (Machine.new (some extremes)).reset.1 = ready
  have facts : (Machine.new (some extremes)).reset.2 = none ∧
      extremes.instructions.all Instruction.isAccepted = true ∧
      (∀ earlier < 4, (ready.onward earlier).tick.2 = none) ∧
      (ready.onward 1).instruction? = some (.registerNumber (.known .cmp) 0 2147483647) ∧
      (ready.onward 1).register? 0 = some (-2147483648) ∧
      (∀ place < 4, 2 ≤ place →
        (ready.onward place).instruction?.all (fun instruction => !instruction.setsFlags) = true) ∧
      (ready.onward 4).instruction? = some (.label (.known .jl) (utf8 "end")) ∧
      extremes.label? (utf8 "end") = some 6 := by
    subst start
    decide +kernel
  obtain ⟨valid, accepted, succeeds, compares, held, others, jumps, bound⟩ := facts
  have reset : (Machine.new (some extremes)).reset = (ready, none) := Prod.ext start valid
  have loaded : ready.program = some extremes := by rw [eq_of_reset reset]; rfl
  have quiet : ready.IsQuiet 2 4 := by
    intro place instruction lower upper found
    have silent := others place upper lower
    rw [found, Option.all_some, Bool.not_eq_true'] at silent
    exact silent
  have operands : (ready.onward 1).operands? (.registerNumber (.known .cmp) 0 2147483647) =
      some (-2147483648, 2147483647) := by rw [operands?, held, Option.map_some]
  have ticks := ticks_onward succeeds
  obtain ⟨_, _, _, decides⟩ :=
    (flags_record_last_result reset loaded ticks).2 (List.all_eq_true.mp accepted)
  obtain ⟨address, after, isTarget, step, goes⟩ :=
    decides 1 _ _ _ (by decide) compares rfl operands quiet .jl _ _ rfl jumps
  obtain rfl := Option.some.inj (bound.symm.trans isTarget)
  exact ⟨ready, _, after, reset, ticks, jumps, step, goes⟩

end Machine

end RegisterMachine
