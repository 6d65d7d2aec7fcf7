import RegisterMachine.Proofs.Machine.Tick

/-! The discipline of the stack. What lies below the least depth of a run stays as it is, so a return
leads behind its call and a pop gives back what was pushed, whatever runs in between. -/

namespace RegisterMachine

namespace Stack

theorem eq_push_of_pop? {stack rest : Stack} {value : Int32}
    (popped : stack.pop? = some (value, rest)) : stack = rest.push value := by
  obtain ⟨values, limit⟩ := stack
  cases values with
  | nil => cases popped
  | cons top others =>
      obtain ⟨rfl, rfl⟩ := Prod.mk.inj (Option.some.inj popped)
      rfl

theorem take_toList_push (stack : Stack) (value : Int32) {count : Nat}
    (deep : count ≤ stack.depth) :
    (stack.push value).toList.take count = stack.toList.take count := by
  rw [toList, push, List.reverse_cons]
  apply List.take_append_of_le_length
  rwa [List.length_reverse]

theorem eq_of_take_toList {first second : Stack} {count : Nat} (size : first.depth = count)
    (otherSize : second.depth = count) (limit : first.limit = second.limit)
    (same : first.toList.take count = second.toList.take count) : first = second := by
  obtain ⟨values, bound⟩ := first
  obtain ⟨others, otherBound⟩ := second
  obtain rfl : bound = otherBound := limit
  rw [List.take_of_length_le, List.take_of_length_le] at same
  · obtain rfl : values = others := List.reverse_inj.mp same
    rfl
  · rw [toList, List.length_reverse]
    exact Nat.le_of_eq otherSize
  · rw [toList, List.length_reverse]
    exact Nat.le_of_eq size

end Stack

namespace Machine

/-- Whether the stack has at least a depth now and behind each of so many ticks. -/
def StaysAbove (machine : Machine) (floor count : Nat) : Prop :=
  ∀ earlier state, earlier ≤ count → machine.Ticks earlier state → floor ≤ state.stack.depth

theorem Leaves.take_toList {machine : Machine} {instruction : Instruction} {stack : Stack}
    {floor : Nat} (leaves : machine.Leaves instruction stack)
    (before : floor ≤ machine.stack.depth) (behind : floor ≤ stack.depth) :
    stack.toList.take floor = machine.stack.toList.take floor := by
  cases leaves with
  | pushed pushes room => exact Stack.take_toList_push machine.stack _ before
  | popped idle found =>
      rw [Stack.eq_push_of_pop? found]
      exact (Stack.take_toList_push stack _ behind).symm
  | untouched idle => rfl

theorem Ticks.take_toList {machine after : Machine} {floor count : Nat}
    (ticks : machine.Ticks count after) (above : machine.StaysAbove floor count) :
    after.stack.toList.take floor = machine.stack.toList.take floor := by
  induction ticks with
  | zero => rfl
  | succ earlier step induction =>
      rename_i count middle after
      obtain ⟨instruction, _, leaves⟩ := leaves_of_tick step
      have before := above count middle (Nat.le_succ count) earlier
      have behind := above (count + 1) after (Nat.le_refl _) (.succ earlier step)
      rw [leaves.take_toList before behind]
      apply induction
      intro place state within reached
      exact above place state (Nat.le_succ_of_le within) reached

/-- A run of `count` ticks behind the tick of a machine, which never has less than one entry more on its
stack than that machine, and ends with just one. -/
structure Encloses (before entry last : Machine) (count : Nat) : Prop where
  step : before.tick = (entry, none)
  ticks : entry.Ticks count last
  above : entry.StaysAbove (before.stack.depth + 1) count
  level : last.stack.depth = before.stack.depth + 1

section Matching

variable {before entry last : Machine} {count : Nat}

theorem Encloses.stack_eq (run : Encloses before entry last count) {instruction : Instruction}
    {value : Int32} (found : before.instruction? = some instruction)
    (pushes : before.pushed? instruction = some value) :
    last.stack = before.stack.push value := by
  have entered := stack_of_pushed? found pushes run.step
  apply Stack.eq_of_take_toList run.level rfl
  · rw [run.ticks.limit_eq, entered]
  · rw [run.ticks.take_toList run.above, entered]

theorem toInt_following_of_lt {machine : Machine}
    (upper : machine.ip.toInt < 9223372036854775807) :
    machine.following.toInt = machine.ip.toInt + 1 := by
  have lower : -9223372036854775808 ≤ machine.ip.toInt := machine.ip.le_toInt
  rw [following, Int64.toInt_add]
  apply Int.bmod_eq_of_le
  · change -9223372036854775808 ≤ machine.ip.toInt + 1
    omega
  · change machine.ip.toInt + 1 < 9223372036854775808
    omega

theorem toInt_following {machine : Machine} (lower : -2147483648 ≤ machine.ip.toInt + 1)
    (upper : machine.ip.toInt + 1 < 2147483648) :
    machine.following.toInt32.toInt64.toInt = machine.ip.toInt + 1 := by
  rw [Int32.toInt_toInt64, Int64.toInt_toInt32, toInt_following_of_lt (by omega)]
  apply Int.bmod_eq_of_le
  · exact lower
  · exact upper

theorem perform_ret {machine : Machine} {stack : Stack} {value : Int32}
    (top : machine.stack = stack.push value) :
    machine.perform (.bare (.known .ret)) = ({ machine with stack }, .ok value.toInt64) := by
  simp only [perform, popThen, top]
  rfl

theorem Encloses.ret_of_call (run : Encloses before entry last count) {label : Bytes}
    (calls : before.instruction? = some (.label (.known .call) label))
    (returns : last.instruction? = some (.bare (.known .ret))) :
    ∃ after, last.tick = (after, none) ∧ after.ip = before.following.toInt32.toInt64 ∧
      after.stack = before.stack := by
  have top := run.stack_eq calls rfl
  exact ⟨_, tick_of_ok returns (perform_ret top), rfl, rfl⟩

theorem register?_setRegister (machine : Machine) {register : Int} {held : Int32}
    (known : machine.register? register = some held) (value : Int32) :
    (machine.setRegister register value).register? register = some value := by
  unfold register? at known ⊢
  split at known
  · rename_i lower
    obtain ⟨inside, _⟩ := Array.getElem?_eq_some_iff.mp known
    rw [if_pos lower, setRegister, Array.getElem?_setIfInBounds_self_of_lt inside]
  · cases known

theorem Encloses.pop_of_push (run : Encloses before entry last count)
    {instruction : Instruction} {value : Int32} {register : Int} {after : Machine}
    (found : before.instruction? = some instruction)
    (pushes : before.pushed? instruction = some value)
    (pops : last.instruction? = some (.register (.known .pop) register))
    (popped : last.tick = (after, none)) :
    after.register? register = some value ∧ after.stack = before.stack := by
  have top := run.stack_eq found pushes
  obtain ⟨again, middle, next, same, performed, rfl⟩ := tick_eq_none_iff.mp popped
  obtain rfl := Option.some.inj (pops.symm.trans same)
  simp only [perform, withRegister] at performed
  split at performed
  · rename_i held known
    simp only [onRegister, popThen, top, Stack.pop?, Stack.push] at performed
    obtain ⟨rfl, _⟩ := Prod.mk.inj performed
    exact ⟨register?_setRegister { last with stack := before.stack } known value, rfl⟩
  · cases performed

end Matching

/-- The bottom of the stack stays as it is while a run does not get below it. So a return that matches
a call goes on behind the call, a pop that matches a push gives its register the value that was
pushed, and both leave the stack as it was before. -/
theorem stack_discipline :
    (∀ (machine after : Machine) (floor count : Nat),
      machine.Ticks count after → machine.StaysAbove floor count →
        after.stack.toList.take floor = machine.stack.toList.take floor) ∧
    (∀ (before entry last : Machine) (count : Nat) (label : Bytes),
      Encloses before entry last count →
      before.instruction? = some (.label (.known .call) label) →
      -2147483648 ≤ before.ip.toInt + 1 → before.ip.toInt + 1 < 2147483648 →
      last.instruction? = some (.bare (.known .ret)) →
        ∃ after, last.tick = (after, none) ∧ after.ip.toInt = before.ip.toInt + 1 ∧
          after.stack = before.stack) ∧
    ∀ (before entry last after : Machine) (count : Nat) (instruction : Instruction)
      (value : Int32) (register : Int),
      Encloses before entry last count →
      before.instruction? = some instruction → before.pushed? instruction = some value →
      last.instruction? = some (.register (.known .pop) register) →
      last.tick = (after, none) →
        after.register? register = some value ∧ after.stack = before.stack := by
  refine ⟨?_, ?_, ?_⟩
  · intro machine after floor count ticks above
    exact ticks.take_toList above
  · intro before entry last count label run calls lower upper returns
    obtain ⟨after, step, address, kept⟩ := run.ret_of_call calls returns
    exact ⟨after, step, address ▸ toInt_following lower upper, kept⟩
  · intro before entry last after count instruction value register run found pushes pops popped
    exact run.pop_of_push found pushes pops popped

/-- Between a push of seven and the pop that matches it lies a call, whose routine pushes and pops on
its own. -/
def nestedCall : Program where
  opcodes := #[
    ⟨1, utf8 "push 7", some (.number (.known .push) 7)⟩,
    ⟨2, utf8 "call f", some (.label (.known .call) (utf8 "f"))⟩,
    ⟨3, utf8 "pop a", some (.register (.known .pop) 0)⟩,
    ⟨4, utf8 "f: push a", some (.register (.known .push) 0)⟩,
    ⟨5, utf8 "pop b", some (.register (.known .pop) 1)⟩,
    ⟨6, utf8 "ret", some (.bare (.known .ret))⟩]
  registers := [utf8 "a", utf8 "b"]
  labels := Table.ofList [(utf8 "f", 3)]

theorem stack_discipline_nestedCall :
    ∃ before after : Machine, before.instruction? = some (.number (.known .push) 7) ∧
      after.register? 0 = some 7 ∧ after.stack = before.stack ∧ after.ticks = 6 := by
  generalize start : (Machine.new (some nestedCall)).reset.1 = before
  have facts : before.tick.2 = none ∧ before.instruction? = some (.number (.known .push) 7) ∧
      (before.tick.1.onward 4).instruction? = some (.register (.known .pop) 0) ∧
      (before.tick.1.onward 4).tick.2 = none ∧ (before.tick.1.onward 4).tick.1.ticks = 6 ∧
      (before.tick.1.onward 4).stack.depth = before.stack.depth + 1 ∧
      (∀ earlier < 4, (before.tick.1.onward earlier).tick.2 = none) ∧
      ∀ earlier < 5, before.stack.depth + 1 ≤ (before.tick.1.onward earlier).stack.depth := by
    subst start
    decide +kernel
  obtain ⟨pushed, found, pops, popped, six, level, succeeds, above⟩ := facts
  have run : Encloses before before.tick.1 (before.tick.1.onward 4) 4 := by
    refine ⟨Prod.ext rfl pushed, ticks_onward succeeds, ?_, level⟩
    intro earlier state within reached
    rw [reached.eq_onward]
    exact above earlier (Nat.lt_succ_of_le within)
  obtain ⟨given, kept⟩ :=
    stack_discipline.2.2 _ _ _ _ 4 _ 7 0 run found rfl pops (Prod.ext rfl popped)
  exact ⟨before, _, found, given, kept, six⟩

end Machine

end RegisterMachine
