import RegisterMachine.Machine

/-! What instructions ask for. The registers and the flags turn an instruction into a task, and all that
the instruction does is to carry this task out. Which instructions come to which tasks is said here
once; whatever else is known of instructions follows from it. -/

namespace RegisterMachine

/-- The operation by whose result a verb sets the flags. -/
def Keyword.operation? : Keyword → Option (Int → Int → Int)
  | .add | .inc => some fun left right => left + right
  | .sub | .dec | .loop | .cmp => some fun left right => left - right
  | .mul => some fun left right => left * right
  | .div => some Int.tdiv
  | _ => none

namespace Machine

/-- The value that an instruction puts on the stack. -/
def pushed? (machine : Machine) : Instruction → Option Int32
  | .number (.known .push) value => some value
  | .register (.known .push) register => machine.register? register
  | .label (.known .call) _ => some (machine.ip + 1).toInt32
  | _ => none

/-- The text that an instruction prints, and whether a newline follows it. -/
def speech? (machine : Machine) : Instruction → Option (Bytes × Bool)
  | .register (.known .print) register =>
      (machine.register? register).map fun value => (Text.Decimal.ofInt value.toInt, false)
  | .register (.known .println) register =>
      (machine.register? register).map fun value => (Text.Decimal.ofInt value.toInt, true)
  | .text (.known .print) text => some (text, false)
  | .text (.known .println) text => some (text, true)
  | _ => none

/-- The two values that an instruction works on. The second is one where it counts up or down. -/
def operands? (machine : Machine) : Instruction → Option (Int32 × Int32)
  | .register _ register | .registerLabel _ register _ =>
      (machine.register? register).map fun value => (value, 1)
  | .registerNumber _ target value => (machine.register? target).map fun left => (left, value)
  | .registers _ target source =>
      (machine.register? target).bind fun left =>
        (machine.register? source).map fun right => (left, right)
  | _ => none

/-- The result of an instruction that sets the flags. Only a comparison leaves it as it is, and the
others cut it to 32 bits. -/
def result? (machine : Machine) (instruction : Instruction) : Option Int :=
  instruction.verb.keyword?.bind fun keyword =>
    keyword.operation?.bind fun operation =>
      (machine.operands? instruction).map fun (left, right) =>
        if keyword = .cmp then operation left.toInt right.toInt
        else (operation left.toInt right.toInt).bmod 4294967296

inductive Task where
  | refuse (cause : FaultCause)
  | assign (register : Int) (value : Int32)
  | record (register : Int) (result : Int32)
  | compare (left right : Int32)
  | push (value : Int32)
  | pop (register : Int)
  | ret
  | read (register : Int)
  | write (text : Bytes) (newline : Bool)
  | jump (condition : Bool) (label : Bytes)
  | call (label : Bytes)
  | loop (counter : Int) (rest : Int32) (label : Bytes)

namespace Task

def onRegister (register : Int) (value : Int32) : Verb → Task
  | .known .inc => record register (value + 1)
  | .known .dec => record register (value - 1)
  | .known .push => push value
  | .known .pop => pop register
  | .known .read => read register
  | .known .print => write (Text.Decimal.ofInt value.toInt) false
  | .known .println => write (Text.Decimal.ofInt value.toInt) true
  | _ => refuse .instruction

def compute (target : Int) (left right : Int32) : Verb → Task
  | .known .mov => assign target right
  | .known .cmp => compare left right
  | .known .add => record target (left + right)
  | .known .sub => record target (left - right)
  | .known .mul => record target (left * right)
  | .known .div => if right = 0 then refuse .divideByZero else record target (left / right)
  | _ => refuse .instruction

end Task

def given (machine : Machine) (register : Int) (use : Int32 → Task) : Task :=
  match machine.register? register with
  | some value => use value
  | none => .refuse .registerMissing

def task (machine : Machine) : Instruction → Task
  | .bare (.known .ret) => .ret
  | .register verb register =>
      machine.given register fun value => .onRegister register value verb
  | .number (.known .push) value => .push value
  | .text (.known .print) text => .write text false
  | .text (.known .println) text => .write text true
  | .label (.known .call) label => .call label
  | .label verb label => .jump (machine.flags.taken verb) label
  | .registers verb target source =>
      machine.given target fun left =>
        machine.given source fun right => .compute target left right verb
  | .registerNumber verb target right =>
      machine.given target fun left => .compute target left right verb
  | .registerLabel verb counter label =>
      machine.given counter fun value =>
        if verb = .known .loop then .loop counter (value - 1) label else .refuse .instruction
  | _ => .refuse .instruction

def carryOut (machine : Machine) : Task → Effect
  | .refuse cause => machine.fail cause
  | .assign register value => (machine.setRegister register value).proceed
  | .record register result => (machine.store register result).proceed
  | .compare left right =>
      { machine with flags := Flags.ofResult (left.toInt - right.toInt) }.proceed
  | .push value => machine.push value
  | .pop register => machine.popThen fun machine top => (machine.setRegister register top).proceed
  | .ret => machine.popThen fun machine value => (machine, .ok value.toInt64)
  | .read register => machine.read register
  | .write text newline => machine.write text newline
  | .jump condition label => machine.jumpIf condition label
  | .call label =>
      if machine.stack.isFull then machine.fail .stackFull
      else
        { machine with stack := machine.stack.push machine.following.toInt32 }.jumpIf true label
  | .loop counter rest label => (machine.store counter rest).jumpIf (0 < rest.toInt) label

/-- Which instructions come to which tasks. -/
inductive Asks (machine : Machine) : Instruction → Task → Prop
  | absent {instruction : Instruction} {register : Int}
      (named : register ∈ instruction.registerList)
      (missing : machine.register? register = none) :
      Asks machine instruction (.refuse .registerMissing)
  | unfit {instruction : Instruction} (unfit : instruction.isAccepted = false) :
      Asks machine instruction (.refuse .instruction)
  | divided {instruction : Instruction} {left : Int32} (isVerb : instruction.verb = .known .div)
      (operands : machine.operands? instruction = some (left, 0)) :
      Asks machine instruction (.refuse .divideByZero)
  | moved {instruction : Instruction} {target : Int} {left right : Int32}
      (isVerb : instruction.verb = .known .mov)
      (named : instruction.registerList.head? = some target)
      (known : machine.register? target = some left)
      (operands : machine.operands? instruction = some (left, right)) :
      Asks machine instruction (.assign target right)
  | compared {instruction : Instruction} {left right : Int32}
      (isVerb : instruction.verb = .known .cmp)
      (operands : machine.operands? instruction = some (left, right)) :
      Asks machine instruction (.compare left right)
  | recorded {instruction : Instruction} {keyword : Keyword} {operation : Int → Int → Int}
      {target : Int} {left right result : Int32} (isVerb : instruction.verb = .known keyword)
      (isOperation : keyword.operation? = some operation)
      (plain : keyword ≠ .cmp ∧ keyword ≠ .loop) (defined : keyword = .div → right ≠ 0)
      (named : instruction.registerList.head? = some target)
      (known : machine.register? target = some left)
      (operands : machine.operands? instruction = some (left, right))
      (isResult : result.toInt = (operation left.toInt right.toInt).bmod 4294967296) :
      Asks machine instruction (.record target result)
  | pushed {instruction : Instruction} {value : Int32} (isVerb : instruction.verb = .known .push)
      (pushes : machine.pushed? instruction = some value) :
      Asks machine instruction (.push value)
  | popped {register : Int} {value : Int32} (known : machine.register? register = some value) :
      Asks machine (.register (.known .pop) register) (.pop register)
  | returned : Asks machine (.bare (.known .ret)) .ret
  | read {register : Int} {value : Int32} (known : machine.register? register = some value) :
      Asks machine (.register (.known .read) register) (.read register)
  | written {instruction : Instruction} {text : Bytes} {newline : Bool}
      (isVerb : instruction.verb = .known .print ∨ instruction.verb = .known .println)
      (speaks : machine.speech? instruction = some (text, newline)) :
      Asks machine instruction (.write text newline)
  | jumped {verb : Verb} {label : Bytes} (ordinary : verb ≠ .known .call) :
      Asks machine (.label verb label) (.jump (machine.flags.taken verb) label)
  | called {label : Bytes} : Asks machine (.label (.known .call) label) (.call label)
  | looped {counter : Int} {value : Int32} {label : Bytes}
      (known : machine.register? counter = some value) :
      Asks machine (.registerLabel (.known .loop) counter label) (.loop counter (value - 1) label)

section Carrying

variable (machine : Machine)

theorem carryOut_given (register : Int) (use : Int32 → Task) :
    machine.carryOut (machine.given register use) =
      machine.withRegister register fun value => machine.carryOut (use value) := by
  unfold given withRegister
  cases machine.register? register with
  | none => rfl
  | some value => rfl

theorem carryOut_onRegister (verb : Verb) (register : Int) (value : Int32) :
    machine.carryOut (.onRegister register value verb) =
      machine.onRegister verb register value := by
  cases verb with
  | unknown code unassigned => rfl
  | known keyword => cases keyword <;> rfl

theorem carryOut_compute (verb : Verb) (target : Int) (left right : Int32) :
    machine.carryOut (.compute target left right verb) =
      machine.compute verb target left right := by
  cases verb with
  | unknown code unassigned => rfl
  | known keyword =>
      cases keyword with
      | div =>
          simp only [Task.compute, compute]
          split
          · rfl
          · rfl
      | _ => rfl

theorem perform_call (label : Bytes) :
    machine.perform (.label (.known .call) label) = machine.carryOut (.call label) := by
  simp only [perform, push, carryOut]
  cases machine.stack.isFull with
  | true => rfl
  | false => rfl

theorem perform_eq_carryOut (instruction : Instruction) :
    machine.perform instruction = machine.carryOut (machine.task instruction) := by
  cases instruction with
  | bare verb =>
      cases verb with
      | unknown code unassigned => rfl
      | known keyword => cases keyword <;> rfl
  | register verb register =>
      simp only [task, carryOut_given, carryOut_onRegister]
      rfl
  | number verb value =>
      cases verb with
      | unknown code unassigned => rfl
      | known keyword => cases keyword <;> rfl
  | text verb content =>
      cases verb with
      | unknown code unassigned => rfl
      | known keyword => cases keyword <;> rfl
  | label verb name =>
      cases verb with
      | unknown code unassigned => rfl
      | known keyword =>
          cases keyword with
          | call => exact machine.perform_call name
          | _ => rfl
  | registers verb target source =>
      simp only [task, carryOut_given, carryOut_compute]
      rfl
  | registerNumber verb target right =>
      simp only [task, carryOut_given, carryOut_compute]
      rfl
  | registerLabel verb counter name =>
      simp only [task, carryOut_given, perform]
      congr 1
      funext value
      split
      · rfl
      · rfl

end Carrying

theorem isAccepted_registerNumber (verb : Verb) (target : Int) (value : Int32) :
    (Instruction.registerNumber verb target value).isAccepted =
      (Instruction.registers verb 0 0).isAccepted := by
  cases verb with
  | unknown code unassigned => rfl
  | known keyword => cases keyword <;> rfl

section Asking

variable {machine : Machine} {instruction : Instruction}

theorem asks_given {register : Int} {use : Int32 → Task}
    (named : register ∈ instruction.registerList)
    (asks : ∀ value, machine.register? register = some value →
      machine.Asks instruction (use value)) :
    machine.Asks instruction (machine.given register use) := by
  unfold given
  split
  · rename_i value known
    exact asks value known
  · rename_i missing
    exact .absent named missing

theorem asks_onRegister {verb : Verb} {register : Int} {value : Int32}
    (known : machine.register? register = some value) :
    machine.Asks (.register verb register) (.onRegister register value verb) := by
  have operands : machine.operands? (.register verb register) = some (value, 1) := by
    rw [operands?, known, Option.map_some]
  cases verb with
  | unknown code unassigned => exact .unfit rfl
  | known keyword =>
      cases keyword with
      | inc =>
          exact .recorded rfl rfl (by simp) (by simp) rfl known operands (Int32.toInt_add value 1)
      | dec =>
          exact .recorded rfl rfl (by simp) (by simp) rfl known operands (Int32.toInt_sub value 1)
      | push => exact .pushed rfl known
      | pop => exact .popped known
      | read => exact .read known
      | print => exact .written (.inl rfl) (by rw [speech?, known, Option.map_some])
      | println => exact .written (.inr rfl) (by rw [speech?, known, Option.map_some])
      | _ => exact .unfit rfl

/-- The right value comes from a register or is a number: the verb is accepted for both or for
neither. -/
theorem asks_compute {verb : Verb} {target : Int} {left right : Int32}
    (same : instruction.isAccepted = (Instruction.registers verb 0 0).isAccepted)
    (isVerb : instruction.verb = verb) (named : instruction.registerList.head? = some target)
    (known : machine.register? target = some left)
    (operands : machine.operands? instruction = some (left, right)) :
    machine.Asks instruction (.compute target left right verb) := by
  cases verb with
  | unknown code unassigned => exact .unfit same
  | known keyword =>
      cases keyword with
      | mov => exact .moved isVerb named known operands
      | cmp => exact .compared isVerb operands
      | add =>
          exact .recorded isVerb rfl (by simp) (by simp) named known operands
            (Int32.toInt_add left right)
      | sub =>
          exact .recorded isVerb rfl (by simp) (by simp) named known operands
            (Int32.toInt_sub left right)
      | mul =>
          exact .recorded isVerb rfl (by simp) (by simp) named known operands
            (Int32.toInt_mul left right)
      | div =>
          simp only [Task.compute]
          split
          · rename_i zero
            subst zero
            exact .divided isVerb operands
          · rename_i nonzero
            exact .recorded isVerb rfl (by simp) (fun _ => nonzero) named known operands
              (Int32.toInt_div left right)
      | _ => exact .unfit same

theorem asks_task (machine : Machine) (instruction : Instruction) :
    machine.Asks instruction (machine.task instruction) := by
  cases instruction with
  | bare verb =>
      cases verb with
      | unknown code unassigned => exact .unfit rfl
      | known keyword =>
          cases keyword with
          | ret => exact .returned
          | _ => exact .unfit rfl
  | register verb register =>
      apply asks_given (by simp [Instruction.registerList])
      intro value known
      exact asks_onRegister known
  | number verb value =>
      cases verb with
      | unknown code unassigned => exact .unfit rfl
      | known keyword =>
          cases keyword with
          | push => exact .pushed rfl rfl
          | _ => exact .unfit rfl
  | text verb content =>
      cases verb with
      | unknown code unassigned => exact .unfit rfl
      | known keyword =>
          cases keyword with
          | print => exact .written (.inl rfl) rfl
          | println => exact .written (.inr rfl) rfl
          | _ => exact .unfit rfl
  | label verb name =>
      cases verb with
      | unknown code unassigned => exact .jumped (by simp)
      | known keyword =>
          cases keyword with
          | call => exact .called
          | _ => exact .jumped (by simp)
  | registers verb target source =>
      apply asks_given (by simp [Instruction.registerList])
      intro left known
      apply asks_given (by simp [Instruction.registerList])
      intro right found
      have same : (Instruction.registers verb target source).isAccepted =
          (Instruction.registers verb 0 0).isAccepted := rfl
      apply asks_compute same rfl rfl known
      rw [operands?, known, Option.bind_some, found, Option.map_some]
  | registerNumber verb target right =>
      apply asks_given (by simp [Instruction.registerList])
      intro left known
      apply asks_compute (isAccepted_registerNumber verb target right) rfl rfl known
      rw [operands?, known, Option.map_some]
  | registerLabel verb counter name =>
      apply asks_given (by simp [Instruction.registerList])
      intro value known
      split
      · rename_i isLoop
        subst isLoop
        exact .looped known
      · rename_i other
        apply Asks.unfit
        cases verb with
        | unknown code unassigned => rfl
        | known keyword =>
            cases keyword with
            | loop => exact absurd rfl other
            | _ => rfl

/-- All that an instruction can come to. -/
theorem exists_asks (machine : Machine) (instruction : Instruction) :
    ∃ task, machine.Asks instruction task ∧ machine.perform instruction = machine.carryOut task :=
  ⟨_, machine.asks_task instruction, machine.perform_eq_carryOut instruction⟩

theorem pushed?_of_verb {keyword : Keyword} (isVerb : instruction.verb = .known keyword)
    (idle : keyword ≠ .push ∧ keyword ≠ .call) : machine.pushed? instruction = none := by
  unfold pushed?
  split
  · exact absurd (Verb.known.inj isVerb).symm idle.1
  · exact absurd (Verb.known.inj isVerb).symm idle.1
  · exact absurd (Verb.known.inj isVerb).symm idle.2
  · rfl

theorem pushed?_of_jump {verb : Verb} (ordinary : verb ≠ .known .call) (label : Bytes) :
    machine.pushed? (.label verb label) = none := by
  unfold pushed?
  split
  · rename_i same
    cases same
  · rename_i same
    cases same
  · rename_i same
    exact absurd (Instruction.label.inj same).1 ordinary
  · rfl

theorem task_of_pushed? {value : Int32} (pushes : machine.pushed? instruction = some value) :
    machine.task instruction = .push value ∨
      ∃ label, instruction = .label (.known .call) label ∧ machine.task instruction = .call label ∧
        value = (machine.ip + 1).toInt32 := by
  unfold pushed? at pushes
  split at pushes
  · obtain rfl := Option.some.inj pushes
    exact .inl rfl
  · refine .inl ?_
    simp only [task, given, pushes, Task.onRegister]
  · exact .inr ⟨_, rfl, rfl, (Option.some.inj pushes).symm⟩
  · cases pushes

theorem task_of_speech? {text : Bytes} {newline : Bool}
    (speaks : machine.speech? instruction = some (text, newline)) :
    machine.task instruction = .write text newline := by
  unfold speech? at speaks
  split at speaks
  · obtain ⟨value, known, same⟩ := Option.map_eq_some_iff.mp speaks
    obtain ⟨rfl, rfl⟩ := Prod.mk.inj same
    simp only [task, given, known, Task.onRegister]
  · obtain ⟨value, known, same⟩ := Option.map_eq_some_iff.mp speaks
    obtain ⟨rfl, rfl⟩ := Prod.mk.inj same
    simp only [task, given, known, Task.onRegister]
  · obtain ⟨rfl, rfl⟩ := Prod.mk.inj (Option.some.inj speaks)
    rfl
  · obtain ⟨rfl, rfl⟩ := Prod.mk.inj (Option.some.inj speaks)
    rfl
  · cases speaks

end Asking

end Machine

end RegisterMachine
