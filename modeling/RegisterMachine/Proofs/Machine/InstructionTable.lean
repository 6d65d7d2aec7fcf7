import RegisterMachine.Proofs.Console.Numbers
import RegisterMachine.Proofs.Console.Outputs
import RegisterMachine.Proofs.Machine.Consoles
import RegisterMachine.Proofs.Machine.LastResult

/-! The table of instructions. For each verb it says when an instruction goes through, which register
gets which value, and what becomes of the stack, the flags, the console and the instruction pointer.
The machine works by this table, and nothing else changes. -/

namespace RegisterMachine

namespace Keyword

/-- Whether a verb gives its first register a value. -/
def assigns : Keyword → Bool
  | .mov | .add | .sub | .mul | .div | .inc | .dec | .pop | .read | .loop => true
  | _ => false

/-- Whether a verb can send control elsewhere than behind it. -/
def isTransfer : Keyword → Bool
  | .jmp | .je | .jne | .jg | .jge | .jl | .jle | .loop | .call | .ret => true
  | _ => false

end Keyword

namespace Instruction

def destination? (instruction : Instruction) : Option Int :=
  match instruction.verb with
  | .known keyword => if keyword.assigns then instruction.registerList.head? else none
  | .unknown _ _ => none

def isTransfer (instruction : Instruction) : Bool :=
  match instruction.verb with
  | .known keyword => keyword.isTransfer
  | .unknown _ _ => false

end Instruction

namespace Program

def instruction? (program : Program) (address : Int) : Option Instruction :=
  (program.opcode? address).bind Opcode.instruction

theorem mem_instructions {program : Program} {address : Int} {instruction : Instruction}
    (found : program.instruction? address = some instruction) :
    instruction ∈ program.instructions := by
  obtain ⟨opcode, place, holds⟩ := Option.bind_eq_some_iff.mp found
  exact List.mem_filterMap.mpr ⟨opcode, mem_of_opcode? place, holds⟩

end Program

/-- Counting down goes from the least number to the greatest. -/
theorem toInt_predecessor (value : Int32) :
    (value - 1).toInt = if value.toInt = -2147483648 then 2147483647 else value.toInt - 1 := by
  have lower : -2147483648 ≤ value.toInt := value.le_toInt
  have upper : value.toInt < 2147483648 := value.toInt_lt
  have wraps : (value - 1).toInt = (value.toInt - 1).bmod 4294967296 := Int32.toInt_sub value 1
  rw [wraps, Int.bmod_def]
  split
  · split <;> omega
  · split <;> omega

namespace Console

theorem readNumber_eq (console : Console) :
    console.readNumber = (console.readWord.1, console.readWord.2.bind numberOf) :=
  readNumber_of_readWord rfl

end Console

namespace Machine

def address? (machine : Machine) (label : Bytes) : Option Int :=
  machine.program.bind fun program => program.label? label

/-- Whether the program has a label at an address. -/
def Binds (machine : Machine) (label : Bytes) (address : Int) : Prop :=
  ∃ program, machine.program = some program ∧ (label, address) ∈ program.labels.entries

/-- Whether the registers of an instruction are there and its label is bound. -/
structure Grounds (machine : Machine) (instruction : Instruction) : Prop where
  registers : ∀ register ∈ instruction.registerList,
    0 ≤ register ∧ register < machine.registers.size
  label : ∀ name, instruction.target? = some name → ∃ address, machine.Binds name address

/-- The bytes that an instruction prints: a text or a number in decimal, and a newline if it is to end
the line. -/
def script? (machine : Machine) : Instruction → Option Bytes
  | .register (.known .print) register =>
      (machine.register? register).map fun value => (toString value.toInt).toList.map byte
  | .register (.known .println) register =>
      (machine.register? register).map fun value =>
        (toString value.toInt).toList.map byte ++ [byte '\n']
  | .text (.known .print) text => some text
  | .text (.known .println) text => some (text ++ [byte '\n'])
  | _ => none

/-- What an instruction asks of a machine in order to go through. -/
def Admits (machine : Machine) (instruction : Instruction) : Prop :=
  match instruction.verb with
  | .known .div => ∃ left right, machine.operands? instruction = some (left, right) ∧ right ≠ 0
  | .known .pop | .known .ret => machine.stack.values ≠ []
  | .known .push | .known .call =>
      machine.stack.limit ≤ 0 ∨ machine.stack.values.length < machine.stack.limit
  | .known .read =>
      ∃ word n, machine.console.Offers word ∧ Text.Decimal.Numeral word n ∧
        -2147483648 ≤ n ∧ n < 2147483648
  | .known .print | .known .println =>
      ∃ text, machine.script? instruction = some text ∧
        ∀ sink, machine.console.output = some sink → sink.Takes text
  | _ => True

/-- The number that an instruction has for its destination. -/
def Assigns (machine : Machine) (instruction : Instruction) (n : Int) : Prop :=
  match instruction.verb with
  | .known .mov => ∃ left right, machine.operands? instruction = some (left, right) ∧ right.toInt = n
  | .known .pop => ∃ top rest, machine.stack.values = top :: rest ∧ top.toInt = n
  | .known .read => ∃ word, machine.console.Offers word ∧ Text.Decimal.Numeral word n
  | _ => machine.result? instruction = some n

/-- The values on the stack behind an instruction, the top first. -/
def valuesBehind (machine : Machine) (instruction : Instruction) : List Int32 :=
  match instruction.verb with
  | .known .push | .known .call =>
      (machine.pushed? instruction).toList ++ machine.stack.values
  | .known .pop | .known .ret => machine.stack.values.tail
  | _ => machine.stack.values

/-- The flags behind an instruction tell of its result, and without one they stay. -/
structure Signals (machine : Machine) (instruction : Instruction) (flags : Flags) : Prop where
  told : ∀ result, machine.result? instruction = some result →
    (flags.zero = true ↔ result = 0) ∧ (flags.negative = true ↔ result < 0)
  kept : machine.result? instruction = none → flags = machine.flags

/-- The console behind an instruction. Only reading and printing make a difference to it. -/
def Converses (machine : Machine) (instruction : Instruction) (after : Console) : Prop :=
  match instruction.verb with
  | .known .read => machine.console.ReadsOn after
  | .known .print | .known .println =>
      ∃ text, machine.script? instruction = some text ∧ machine.console.Prints text after
  | _ => after = machine.console

/-- Whether an instruction sends control to its label: a loop by what is left of its counter, any other
by the flags. -/
def Leaps (machine : Machine) (instruction : Instruction) : Prop :=
  match instruction.verb with
  | .known .jmp | .known .call => True
  | .known .je => machine.flags.zero = true
  | .known .jne => machine.flags.zero = false
  | .known .jl => machine.flags.zero = false ∧ machine.flags.negative = true
  | .known .jle => machine.flags.zero = true ∨ machine.flags.negative = true
  | .known .jg => machine.flags.zero = false ∧ machine.flags.negative = false
  | .known .jge => machine.flags.zero = true ∨ machine.flags.negative = false
  | .known .loop => ∃ rest, machine.result? instruction = some rest ∧ 0 < rest
  | _ => False

/-- Where control goes behind an instruction. -/
inductive Leads (machine : Machine) (instruction : Instruction) : Int64 → Prop
  | back {top : Int32} {rest : List Int32} (returns : instruction.verb = .known .ret)
      (values : machine.stack.values = top :: rest) : Leads machine instruction top.toInt64
  | away {label : Bytes} {address : Int} (leaps : machine.Leaps instruction)
      (named : instruction.target? = some label) (bound : machine.Binds label address) :
      Leads machine instruction (Int64.ofInt address)
  | on (noReturn : instruction.verb ≠ .known .ret) (stays : ¬ machine.Leaps instruction) :
      Leads machine instruction (machine.ip + 1)

/-- What the table says of the machine behind an instruction. -/
structure Obeys (machine : Machine) (instruction : Instruction) (after : Machine) : Prop where
  verbose : after.verbose = machine.verbose
  program : after.program = machine.program
  ticks : after.ticks = machine.ticks + 1
  ip : machine.Leads instruction after.ip
  assigned : ∀ register, instruction.destination? = some register →
    ∃ value, after.registers[register.toNat]? = some value ∧
      machine.Assigns instruction value.toInt
  others : ∀ place : Nat, instruction.destination? ≠ some (place : Int) →
    after.registers[place]? = machine.registers[place]?
  limit : after.stack.limit = machine.stack.limit
  values : after.stack.values = machine.valuesBehind instruction
  flags : machine.Signals instruction after.flags
  console : machine.Converses instruction after.console

/-- An instruction that has changed something before it found its label missing. -/
inductive Torn (machine : Machine) : Instruction → Machine → Prop
  | call {label : Bytes} (room : machine.stack.isFull = false)
      (missing : machine.address? label = none) :
      Torn machine (.label (.known .call) label)
        { machine with stack := machine.stack.push machine.following.toInt32 }
  | loop {counter : Int} {value : Int32} {label : Bytes}
      (found : machine.register? counter = some value) (positive : 0 < (value - 1).toInt)
      (missing : machine.address? label = none) :
      Torn machine (.registerLabel (.known .loop) counter label)
        (machine.store counter (value - 1))

/-- All that an instruction can come to: it goes through as the table says, it is refused and at most
the console has changed, or it is torn. -/
inductive Accounts (machine : Machine) (instruction : Instruction) : Effect → Prop
  | done {after : Machine} {next : Int64}
      (goes : instruction.Accepted →
        machine.Admits instruction ∧ machine.Obeys instruction (after.advance next)) :
      Accounts machine instruction (after, .ok next)
  | refused {console : Console} {cause : FaultCause}
      (reason : instruction.Accepted → machine.Grounds instruction → ¬ machine.Admits instruction) :
      Accounts machine instruction ({ machine with console }, .error cause)
  | torn {after : Machine} {cause : FaultCause} (torn : machine.Torn instruction after) :
      Accounts machine instruction (after, .error cause)

theorem instruction?_of_program {machine : Machine} {program : Program}
    (loaded : machine.program = some program) :
    machine.instruction? = program.instruction? machine.ip.toInt := by
  rw [instruction?, place?, loaded, Option.bind_some, Program.instruction?]

section Terms

variable {machine : Machine} {instruction : Instruction}

theorem binds_iff {label : Bytes} {address : Int} :
    machine.Binds label address ↔ machine.address? label = some address := by
  simp only [Binds, address?, Option.bind_eq_some_iff, Program.label?, Table.get?_eq_some_iff]

theorem register?_ne_none {register : Int} (lower : 0 ≤ register)
    (upper : register < machine.registers.size) : machine.register? register ≠ none := by
  rw [register?, if_pos lower, Ne, Array.getElem?_eq_none_iff]
  omega

theorem nonneg_of_register? {register : Int} {value : Int32}
    (found : machine.register? register = some value) : 0 ≤ register := by
  unfold register? at found
  split at found
  · assumption
  · cases found

theorem isFull_eq_false_iff :
    machine.stack.isFull = false ↔
      machine.stack.limit ≤ 0 ∨ machine.stack.values.length < machine.stack.limit := by
  rw [Stack.isFull, Bool.and_eq_false_iff, decide_eq_false_iff_not, decide_eq_false_iff_not,
    Int.not_lt, Int.not_le, Stack.depth]

theorem script?_of_speech? {text : Bytes} {newline : Bool}
    (speaks : machine.speech? instruction = some (text, newline)) :
    machine.script? instruction = some (if newline then text ++ [byte '\n'] else text) := by
  unfold speech? at speaks
  split at speaks
  · obtain ⟨value, known, same⟩ := Option.map_eq_some_iff.mp speaks
    obtain ⟨rfl, rfl⟩ := Prod.mk.inj same
    simp [script?, known, Text.Decimal.ofInt_eq_toString]
  · obtain ⟨value, known, same⟩ := Option.map_eq_some_iff.mp speaks
    obtain ⟨rfl, rfl⟩ := Prod.mk.inj same
    simp [script?, known, Text.Decimal.ofInt_eq_toString]
  · obtain ⟨rfl, rfl⟩ := Prod.mk.inj (Option.some.inj speaks)
    rfl
  · obtain ⟨rfl, rfl⟩ := Prod.mk.inj (Option.some.inj speaks)
    rfl
  · cases speaks

theorem signals_ofResult {result : Int} (isResult : machine.result? instruction = some result) :
    machine.Signals instruction (Flags.ofResult result) := by
  constructor
  · intro other isOther
    obtain rfl := Option.some.inj (isResult.symm.trans isOther)
    simp [Flags.ofResult]
  · intro missing
    cases isResult.symm.trans missing

theorem Signals.eq_ofResult {flags : Flags} {result : Int}
    (signals : machine.Signals instruction flags)
    (isResult : machine.result? instruction = some result) : flags = Flags.ofResult result := by
  obtain ⟨zero, negative⟩ := signals.told result isResult
  have isZero : flags.zero = (result == 0) := by rw [Bool.eq_iff_iff, zero, beq_iff_eq]
  have isNegative : flags.negative = decide (result < 0) := by
    rw [Bool.eq_iff_iff, negative, decide_eq_true_eq]
  rw [Flags.ofResult, ← isZero, ← isNegative]

theorem signals_kept {keyword : Keyword} (isVerb : instruction.verb = .known keyword)
    (quiet : keyword.operation? = none) : machine.Signals instruction machine.flags := by
  refine ⟨?_, fun _ => rfl⟩
  intro result isResult
  rw [result?_of_verb isVerb quiet] at isResult
  cases isResult

/-- The six conditions on the flags. -/
theorem leaps_iff_taken {verb : Verb} {label : Bytes}
    (accepted : (Instruction.label verb label).Accepted) :
    machine.Leaps (.label verb label) ↔ machine.flags.taken verb = true := by
  cases verb with
  | unknown code unassigned => cases accepted
  | known keyword =>
      cases keyword with
      | jmp | call => simp [Leaps, Instruction.verb, Flags.taken]
      | je | jne | jg | jge | jl | jle => simp [Leaps, Instruction.verb, Flags.taken]
      | _ => cases accepted

theorem verb_ne_ret {label : Bytes} (accepted : instruction.Accepted)
    (named : instruction.target? = some label) : instruction.verb ≠ .known .ret := by
  intro returns
  cases instruction with
  | label verb name | registerLabel verb register name =>
      obtain rfl : verb = .known .ret := returns
      cases accepted
  | _ => cases named

theorem leads_on {keyword : Keyword} (isVerb : instruction.verb = .known keyword)
    (plain : keyword.isTransfer = false) : machine.Leads instruction machine.following := by
  cases keyword with
  | jmp | je | jne | jg | jge | jl | jle | loop | call | ret => cases plain
  | _ => exact .on (by simp [isVerb]) (by simp [Leaps, isVerb])

/-- Without a return, control goes on behind an instruction or to its label. -/
theorem Leads.on_or_away {next : Int64} (leads : machine.Leads instruction next)
    (noReturn : instruction.verb ≠ .known .ret) :
    ¬ machine.Leaps instruction ∧ next = machine.following ∨
      machine.Leaps instruction ∧ ∃ label target, instruction.target? = some label ∧
        machine.address? label = some target ∧ next = Int64.ofInt target := by
  cases leads with
  | back returns values => exact absurd returns noReturn
  | away leaps named bound => exact .inr ⟨leaps, _, _, named, binds_iff.mp bound, rfl⟩
  | on noReturn stays => exact .inl ⟨stays, rfl⟩

theorem Leads.eq_address {next : Int64} {label : Bytes} {address : Int}
    (leads : machine.Leads instruction next) (leaps : machine.Leaps instruction)
    (named : instruction.target? = some label) (bound : machine.Binds label address) :
    next = Int64.ofInt address := by
  cases leads with
  | back returns values => simp [Leaps, returns] at leaps
  | away _ isNamed isBound =>
      obtain rfl := Option.some.inj (named.symm.trans isNamed)
      rw [Option.some.inj ((binds_iff.mp bound).symm.trans (binds_iff.mp isBound))]
  | on noReturn stays => exact absurd leaps stays

theorem Leads.eq_following {next : Int64} (leads : machine.Leads instruction next)
    (plain : instruction.isTransfer = false) : next = machine.following := by
  cases isVerb : instruction.verb with
  | unknown code unassigned =>
      cases leads with
      | back returns values => cases isVerb.symm.trans returns
      | away leaps named bound => simp [Leaps, isVerb] at leaps
      | on noReturn stays => rfl
  | known keyword =>
      simp only [Instruction.isTransfer, isVerb] at plain
      cases leads with
      | back returns values =>
          obtain rfl := Verb.known.inj (isVerb.symm.trans returns)
          cases plain
      | away leaps named bound =>
          cases keyword with
          | jmp | je | jne | jg | jge | jl | jle | loop | call | ret => cases plain
          | _ => simp [Leaps, isVerb] at leaps
      | on noReturn stays => rfl

theorem Obeys.register?_of_ne {after : Machine} (obeys : machine.Obeys instruction after)
    {register : Int} (apart : instruction.destination? ≠ some register) :
    after.register? register = machine.register? register := by
  unfold register?
  split
  · rename_i lower
    apply obeys.others
    rwa [Int.toNat_of_nonneg lower]
  · rfl

theorem Obeys.register?_of_destination {after : Machine} (obeys : machine.Obeys instruction after)
    {register : Int} (lower : 0 ≤ register) (given : instruction.destination? = some register) :
    ∃ value, after.register? register = some value ∧ machine.Assigns instruction value.toInt := by
  obtain ⟨value, found, assigns⟩ := obeys.assigned register given
  exact ⟨value, by rw [register?, if_pos lower, found], assigns⟩

end Terms

section Operations

variable {machine : Machine} {instruction : Instruction}

/-- An instruction without destination leaves all registers as they are. -/
theorem obeys_idle {values : List Int32} {flags : Flags} {console : Console} {next : Int64}
    (idle : instruction.destination? = none) (leads : machine.Leads instruction next)
    (isValues : values = machine.valuesBehind instruction)
    (signals : machine.Signals instruction flags)
    (converses : machine.Converses instruction console) :
    machine.Obeys instruction
      ({ machine with stack := { machine.stack with values }, flags, console }.advance next) where
  verbose := rfl
  program := rfl
  ticks := rfl
  ip := leads
  assigned register given := by cases idle.symm.trans given
  others _ _ := rfl
  limit := rfl
  values := isValues
  flags := signals
  console := converses

theorem obeys_assigned {values : List Int32} {flags : Flags} {console : Console} {next : Int64}
    {register : Int} {held value : Int32} (given : instruction.destination? = some register)
    (known : machine.register? register = some held)
    (isValue : machine.Assigns instruction value.toInt) (leads : machine.Leads instruction next)
    (isValues : values = machine.valuesBehind instruction)
    (signals : machine.Signals instruction flags)
    (converses : machine.Converses instruction console) :
    machine.Obeys instruction
      ({ machine.setRegister register value with
          stack := { machine.stack with values }, flags, console }.advance next) where
  verbose := rfl
  program := rfl
  ticks := rfl
  ip := leads
  assigned := by
    intro other same
    obtain rfl := Option.some.inj (given.symm.trans same)
    have found := register?_setRegister machine known value
    rw [register?, if_pos (nonneg_of_register? known)] at found
    exact ⟨value, found, isValue⟩
  others := by
    intro place apart
    apply Array.getElem?_setIfInBounds_ne
    intro same
    rw [← same, Int.toNat_of_nonneg (nonneg_of_register? known)] at apart
    exact apart given
  limit := rfl
  values := isValues
  flags := signals
  console := converses

section Verbs

variable {keyword : Keyword} (isVerb : instruction.verb = .known keyword)

include isVerb

theorem destination?_of_verb {register : Int}
    (named : instruction.registerList.head? = some register) (assigns : keyword.assigns = true) :
    instruction.destination? = some register := by
  simp [Instruction.destination?, isVerb, assigns, named]

/-- A verb that only has to do with the stack or the console. -/
theorem obeys_service {values : List Int32} {console : Console} (plain : keyword.isTransfer = false)
    (quiet : keyword.operation? = none) (idle : keyword.assigns = false)
    (isValues : values = machine.valuesBehind instruction)
    (converses : machine.Converses instruction console) :
    machine.Obeys instruction
      ({ machine with stack := { machine.stack with values }, console }.advance
        machine.following) := by
  apply obeys_idle _ (leads_on isVerb plain) isValues (signals_kept isVerb quiet) converses
  simp [Instruction.destination?, isVerb, idle]

/-- A verb that gives a register a value which is no result. -/
theorem obeys_given {values : List Int32} {console : Console} {register : Int} {held value : Int32}
    (plain : keyword.isTransfer = false) (quiet : keyword.operation? = none)
    (assigns : keyword.assigns = true) (named : instruction.registerList.head? = some register)
    (known : machine.register? register = some held)
    (isValue : machine.Assigns instruction value.toInt)
    (isValues : values = machine.valuesBehind instruction)
    (converses : machine.Converses instruction console) :
    machine.Obeys instruction
      ({ machine.setRegister register value with
          stack := { machine.stack with values }, console }.advance machine.following) :=
  obeys_assigned (destination?_of_verb isVerb named assigns) known isValue (leads_on isVerb plain)
    isValues (signals_kept isVerb quiet) converses

/-- A verb that gives a register its result. -/
theorem obeys_recorded {register : Int} {left right result : Int32}
    {operation : Int → Int → Int} {next : Int64} (isOperation : keyword.operation? = some operation)
    (stores : keyword ≠ .cmp) (named : instruction.registerList.head? = some register)
    (known : machine.register? register = some left)
    (operands : machine.operands? instruction = some (left, right))
    (isResult : result.toInt = (operation left.toInt right.toInt).bmod 4294967296)
    (leads : machine.Leads instruction next) :
    machine.Obeys instruction ((machine.store register result).advance next) := by
  have isValue : machine.result? instruction = some result.toInt := by
    simp [result?, isVerb, Verb.keyword?, isOperation, operands, stores, isResult]
  have table : keyword.assigns = true ∧ machine.Assigns instruction result.toInt ∧
      machine.valuesBehind instruction = machine.stack.values ∧
      machine.Converses instruction machine.console := by
    cases keyword with
    | add | sub | mul | div | inc | dec | loop =>
        simp [Keyword.assigns, Assigns, valuesBehind, Converses, isVerb, isValue]
    | cmp => exact absurd rfl stores
    | _ => cases isOperation
  obtain ⟨assigns, given, values, console⟩ := table
  apply obeys_assigned (destination?_of_verb isVerb named assigns) known given leads
  · exact values.symm
  · exact signals_ofResult isValue
  · exact console

theorem accounts_recorded {register : Int} {left right result : Int32}
    {operation : Int → Int → Int} (isOperation : keyword.operation? = some operation)
    (plain : keyword ≠ .cmp ∧ keyword ≠ .loop) (defined : keyword = .div → right ≠ 0)
    (named : instruction.registerList.head? = some register)
    (known : machine.register? register = some left)
    (operands : machine.operands? instruction = some (left, right))
    (isResult : result.toInt = (operation left.toInt right.toInt).bmod 4294967296) :
    machine.Accounts instruction (machine.carryOut (.record register result)) := by
  have table : machine.Admits instruction ∧ keyword.isTransfer = false := by
    cases keyword with
    | div => simpa [Admits, isVerb, operands, Keyword.isTransfer] using defined rfl
    | add | sub | mul | inc | dec => simp [Admits, isVerb, Keyword.isTransfer]
    | cmp => exact absurd rfl plain.1
    | loop => exact absurd rfl plain.2
    | _ => cases isOperation
  refine .done fun _ => ⟨table.1, ?_⟩
  exact obeys_recorded isVerb isOperation plain.1 named known operands isResult
    (leads_on isVerb table.2)

theorem accounts_push {value : Int32} (pushes : machine.pushed? instruction = some value)
    (isPush : keyword = .push) : machine.Accounts instruction (machine.push value) := by
  subst isPush
  have admits : machine.Admits instruction ↔ machine.stack.isFull = false := by
    rw [isFull_eq_false_iff]
    simp only [Admits, isVerb]
  unfold push
  cases full : machine.stack.isFull with
  | true =>
      refine .refused fun _ _ room => ?_
      cases full.symm.trans (admits.mp room)
  | false =>
      refine .done fun _ => ⟨admits.mpr full, obeys_service isVerb rfl rfl rfl ?_ ?_⟩
      · simp [valuesBehind, isVerb, pushes]
      · simp [Converses, isVerb]

theorem accounts_write {text : Bytes} {newline : Bool}
    (speaks : machine.speech? instruction = some (text, newline))
    (isPrint : keyword = .print ∨ keyword = .println) :
    machine.Accounts instruction (machine.write text newline) := by
  have script := script?_of_speech? speaks
  obtain ⟨accepted, prints⟩ := machine.console.write_spec text newline
  unfold write
  generalize machine.console.write text newline = outcome at *
  obtain ⟨console, isAccepted⟩ := outcome
  have quiet : keyword.isTransfer = false ∧ keyword.operation? = none ∧ keyword.assigns = false := by
    rcases isPrint with rfl | rfl
    · exact ⟨rfl, rfl, rfl⟩
    · exact ⟨rfl, rfl, rfl⟩
  have table : (machine.Admits instruction ↔ isAccepted = true) ∧
      machine.stack.values = machine.valuesBehind instruction ∧
      (isAccepted = true → machine.Converses instruction console) := by
    rcases isPrint with rfl | rfl
    · simpa [Admits, valuesBehind, Converses, isVerb, script] using ⟨accepted.symm, prints⟩
    · simpa [Admits, valuesBehind, Converses, isVerb, script] using ⟨accepted.symm, prints⟩
  obtain ⟨admits, values, converses⟩ := table
  cases isAccepted with
  | true =>
      refine .done fun _ => ⟨admits.mpr rfl, ?_⟩
      exact obeys_service isVerb quiet.1 quiet.2.1 quiet.2.2 values (converses rfl)
  | false => exact .refused fun _ _ admitted => Bool.false_ne_true (admits.mp admitted)

end Verbs

theorem accounts_pop {register : Int} {held : Int32}
    (known : machine.register? register = some held) :
    machine.Accounts (.register (.known .pop) register) (machine.carryOut (.pop register)) := by
  simp only [carryOut, popThen]
  cases values : machine.stack.values with
  | nil =>
      simp only [Stack.pop?, values]
      exact .refused fun _ _ admits => admits values
  | cons top rest =>
      simp only [Stack.pop?, values]
      refine .done fun _ => ⟨?_, obeys_given rfl rfl rfl rfl rfl known ?_ ?_ rfl⟩
      · exact fun empty => by cases values.symm.trans empty
      · exact ⟨top, rest, values, rfl⟩
      · simp [valuesBehind, Instruction.verb, values]

theorem accounts_read {register : Int} {held : Int32}
    (known : machine.register? register = some held) :
    machine.Accounts (.register (.known .read) register) (machine.read register) := by
  simp only [read, Console.readNumber_eq]
  cases answer : machine.console.readWord.2 with
  | error fault =>
      refine .refused fun _ _ admits => ?_
      obtain ⟨word, _, offers, _⟩ := admits
      cases answer.symm.trans (Console.readWord_eq_ok_iff.mpr offers)
  | ok word =>
      have offers := Console.readWord_eq_ok_iff.mp answer
      simp only [Except.bind]
      cases number : Console.numberOf word with
      | error fault =>
          refine .refused fun _ _ admits => ?_
          obtain ⟨again, n, offered, numeral, lower, upper⟩ := admits
          obtain rfl := Except.ok.inj (answer.symm.trans (Console.readWord_eq_ok_iff.mpr offered))
          rw [← Int32.toInt_ofInt_of_le lower upper] at numeral
          cases number.symm.trans (Console.numberOf_eq_ok_iff.mpr numeral)
      | ok value =>
          have numeral := Console.numberOf_eq_ok_iff.mp number
          refine .done fun _ => ⟨?_, obeys_given rfl rfl rfl rfl rfl known ?_ rfl ?_⟩
          · exact ⟨word, value.toInt, offers, numeral, value.le_toInt, value.toInt_lt⟩
          · exact ⟨word, offers, numeral⟩
          · exact machine.console.readsOn_readWord

theorem accounts_ret : machine.Accounts (.bare (.known .ret)) (machine.carryOut .ret) := by
  simp only [carryOut, popThen]
  cases values : machine.stack.values with
  | nil =>
      simp only [Stack.pop?, values]
      exact .refused fun _ _ admits => admits values
  | cons top rest =>
      simp only [Stack.pop?, values]
      refine .done fun _ => ⟨?_, obeys_idle rfl (.back rfl values) ?_ ?_ rfl⟩
      · exact fun empty => by cases values.symm.trans empty
      · simp [valuesBehind, Instruction.verb, values]
      · exact signals_kept rfl rfl

theorem accounts_jumpIf {after : Machine} {condition : Bool} {label : Bytes}
    (program : after.program = machine.program) (ip : after.ip = machine.ip)
    (named : instruction.target? = some label)
    (leaps : instruction.Accepted → (machine.Leaps instruction ↔ condition = true))
    (goes : instruction.Accepted → ∀ next, machine.Leads instruction next →
      machine.Admits instruction ∧ machine.Obeys instruction (after.advance next))
    (misses : condition = true → machine.address? label = none →
      ∀ cause, machine.Accounts instruction (after, .error cause)) :
    machine.Accounts instruction (after.jumpIf condition label) := by
  have target : (after.program.bind fun program => program.label? label) =
      machine.address? label := by rw [program, address?]
  have behind : after.following = machine.following := by rw [following, ip, following]
  simp only [jumpIf, target]
  cases condition with
  | false =>
      refine .done fun accepted => goes accepted _ ?_
      rw [behind]
      refine .on (verb_ne_ret accepted named) fun isTaken => ?_
      exact Bool.false_ne_true ((leaps accepted).mp isTaken)
  | true =>
      cases found : machine.address? label with
      | none => exact misses rfl found _
      | some address =>
          refine .done fun accepted => goes accepted _ ?_
          exact .away ((leaps accepted).mpr rfl) named (binds_iff.mpr found)

theorem accounts_jump {verb : Verb} (ordinary : verb ≠ .known .call) (label : Bytes) :
    machine.Accounts (.label verb label) (machine.jumpIf (machine.flags.taken verb) label) := by
  apply accounts_jumpIf rfl rfl rfl leaps_iff_taken
  · intro accepted next leads
    cases verb with
    | unknown code unassigned => cases accepted
    | known keyword =>
        cases keyword with
        | jmp | je | jne | jg | jge | jl | jle =>
            exact ⟨trivial, obeys_idle rfl leads rfl (signals_kept rfl rfl) rfl⟩
        | call => exact absurd rfl ordinary
        | _ => cases accepted
  · intro _ missing cause
    refine .refused fun _ grounds => ?_
    obtain ⟨address, bound⟩ := grounds.label label rfl
    cases missing.symm.trans (binds_iff.mp bound)

theorem accounts_call (label : Bytes) :
    machine.Accounts (.label (.known .call) label) (machine.carryOut (.call label)) := by
  simp only [carryOut]
  cases full : machine.stack.isFull with
  | true =>
      refine .refused fun _ _ room => ?_
      cases full.symm.trans (isFull_eq_false_iff.mpr room)
  | false =>
      -- What has been pushed stays on the stack if the label turns out to be missing.
      simp only [Bool.false_eq_true, ↓reduceIte]
      refine accounts_jumpIf rfl rfl rfl (fun _ => ?_) ?_ ?_
      · simp [Leaps, Instruction.verb]
      · intro _ next leads
        exact ⟨isFull_eq_false_iff.mp full, obeys_idle rfl leads rfl (signals_kept rfl rfl) rfl⟩
      · intro _ missing cause
        exact .torn (.call full missing)

theorem result?_of_loop {counter : Int} {value : Int32}
    (known : machine.register? counter = some value) (label : Bytes) :
    machine.result? (.registerLabel (.known .loop) counter label) = some (value - 1).toInt := by
  simp [result?, Instruction.verb, Verb.keyword?, Keyword.operation?, operands?, known,
    Int32.toInt_sub]

theorem leaps_loop_iff {counter : Int} {value : Int32}
    (known : machine.register? counter = some value) (label : Bytes) :
    machine.Leaps (.registerLabel (.known .loop) counter label) ↔ 0 < (value - 1).toInt := by
  simp [Leaps, Instruction.verb, result?_of_loop known]

theorem accounts_loop {counter : Int} {value : Int32}
    (known : machine.register? counter = some value) (label : Bytes) :
    machine.Accounts (.registerLabel (.known .loop) counter label)
      (machine.carryOut (.loop counter (value - 1) label)) := by
  have operands : machine.operands? (.registerLabel (.known .loop) counter label) =
      some (value, 1) := by rw [operands?, known, Option.map_some]
  refine accounts_jumpIf rfl rfl rfl (fun _ => ?_) ?_ ?_
  · rw [leaps_loop_iff known, decide_eq_true_eq]
  · intro _ next leads
    refine ⟨trivial, ?_⟩
    exact obeys_recorded rfl rfl (by simp) rfl known operands (Int32.toInt_sub value 1) leads
  · intro positive missing cause
    exact .torn (.loop known (of_decide_eq_true positive) missing)

end Operations

/-- Every instruction, in every state, goes through as the table says, is refused, or is torn. -/
theorem accounts_perform (machine : Machine) (instruction : Instruction) :
    machine.Accounts instruction (machine.perform instruction) := by
  obtain ⟨task, asks, performed⟩ := machine.exists_asks instruction
  rw [performed]
  cases asks with
  | absent named missing =>
      refine .refused fun _ grounds => ?_
      obtain ⟨lower, upper⟩ := grounds.registers _ named
      exact absurd missing (register?_ne_none lower upper)
  | unfit unfit =>
      exact .refused fun accepted => absurd (unfit.symm.trans accepted) Bool.false_ne_true
  | divided isVerb operands =>
      refine .refused fun _ _ admits => ?_
      simp [Admits, isVerb, operands] at admits
  | moved isVerb named known operands =>
      refine .done fun _ => ⟨?_, obeys_given isVerb rfl rfl rfl named known ?_ ?_ ?_⟩
      · simp [Admits, isVerb]
      · simp [Assigns, isVerb, operands]
      · simp [valuesBehind, isVerb]
      · simp [Converses, isVerb]
  | compared isVerb operands =>
      refine .done fun _ => ⟨?_, obeys_idle ?_ (leads_on isVerb rfl) ?_ ?_ ?_⟩
      · simp [Admits, isVerb]
      · simp [Instruction.destination?, isVerb, Keyword.assigns]
      · simp [valuesBehind, isVerb]
      · exact signals_ofResult (result?_of_cmp isVerb operands)
      · simp [Converses, isVerb]
  | recorded isVerb isOperation plain defined named known operands isResult =>
      exact accounts_recorded isVerb isOperation plain defined named known operands isResult
  | pushed isVerb pushes => exact accounts_push isVerb pushes rfl
  | popped known => exact accounts_pop known
  | returned => exact accounts_ret
  | read known => exact accounts_read known
  | written isVerb speaks =>
      rcases isVerb with isPrint | isPrintln
      · exact accounts_write isPrint speaks (.inl rfl)
      · exact accounts_write isPrintln speaks (.inr rfl)
  | jumped ordinary => exact accounts_jump ordinary _
  | called => exact accounts_call _
  | looped known => exact accounts_loop known _

section Execution

variable {machine after : Machine} {instruction : Instruction}

theorem execute_eq_none_iff :
    machine.execute instruction = (after, none) ↔
      ∃ middle next, machine.perform instruction = (middle, .ok next) ∧
        after = middle.advance next := by
  unfold execute
  generalize machine.perform instruction = effect
  obtain ⟨middle, outcome⟩ := effect
  cases outcome with
  | ok next =>
      constructor
      · intro executed
        exact ⟨middle, next, rfl, (Prod.mk.inj executed).1.symm⟩
      · intro ⟨_, _, same, isAfter⟩
        cases same
        rw [isAfter]
        rfl
  | error cause => simp

theorem perform_of_fault {fault : Fault}
    (failed : machine.execute instruction = (after, some fault)) :
    ∃ cause, machine.perform instruction = (after, .error cause) := by
  unfold execute at failed
  split at failed
  · cases failed
  · rename_i middle cause performed
    obtain ⟨rfl, _⟩ := Prod.mk.inj failed
    exact ⟨cause, performed⟩

theorem obeys_of_execute (accepted : instruction.Accepted)
    (executed : machine.execute instruction = (after, none)) :
    machine.Admits instruction ∧ machine.Obeys instruction after := by
  obtain ⟨middle, next, performed, rfl⟩ := execute_eq_none_iff.mp executed
  have accounts := accounts_perform machine instruction
  rw [performed] at accounts
  cases accounts with
  | done goes => exact goes accepted

theorem obeys_of_tick {program : Program} (loaded : machine.program = some program)
    (accepted : ∀ instruction ∈ program.instructions, instruction.Accepted)
    (step : machine.tick = (after, none)) :
    ∃ instruction, program.instruction? machine.ip.toInt = some instruction ∧
      machine.Obeys instruction after := by
  obtain ⟨instruction, middle, next, found, performed, rfl⟩ := tick_eq_none_iff.mp step
  have here := (instruction?_of_program loaded).symm.trans found
  have executed := execute_eq_none_iff.mpr ⟨middle, next, performed, rfl⟩
  have isAccepted := accepted instruction (Program.mem_instructions here)
  exact ⟨instruction, here, (obeys_of_execute isAccepted executed).2⟩

theorem Torn.missing (torn : machine.Torn instruction after) :
    ∃ label, instruction.target? = some label ∧ machine.address? label = none := by
  cases torn with
  | @call label room missing => exact ⟨label, rfl, missing⟩
  | @loop counter value label found positive missing => exact ⟨label, rfl, missing⟩

end Execution

/-- An instruction that its verb accepts, with registers that are there and a label that is bound, goes
through exactly if the table admits it, and then the machine is as the table says. -/
theorem execute_obeys_table {machine : Machine} {instruction : Instruction}
    (accepted : instruction.Accepted) (grounds : machine.Grounds instruction) :
    ((∃ after, machine.execute instruction = (after, none)) ↔ machine.Admits instruction) ∧
      ∀ after, machine.execute instruction = (after, none) → machine.Obeys instruction after := by
  refine ⟨⟨?_, ?_⟩, fun after executed => (obeys_of_execute accepted executed).2⟩
  · intro ⟨after, executed⟩
    exact (obeys_of_execute accepted executed).1
  · intro admits
    have accounts := accounts_perform machine instruction
    generalize performed : machine.perform instruction = effect at accounts
    cases accounts with
    | done goes => exact ⟨_, execute_eq_none_iff.mpr ⟨_, _, performed, rfl⟩⟩
    | refused reason => exact absurd admits (reason accepted grounds)
    | torn torn =>
        obtain ⟨label, named, missing⟩ := torn.missing
        obtain ⟨address, bound⟩ := grounds.label label named
        cases missing.symm.trans (binds_iff.mp bound)

/-- A machine with little room on its stack, whose last result was negative. -/
def overflowing : Machine where
  verbose := false
  program := some
    { opcodes := #[], registers := [], labels := Table.ofList [(utf8 "out", 3)] }
  ip := 7
  registers := #[-2147483648, -1]
  stack := { values := [5], limit := 2 }
  flags := { zero := false, negative := true }
  console := Console.empty.setOutput (some (.buffered (utf8 "= ") false Drain.unlimited))
  ticks := 0

theorem binds_overflowing : overflowing.Binds (utf8 "out") 3 :=
  binds_iff.mpr rfl

theorem grounds_overflowing (verb : Verb) : overflowing.Grounds (.label verb (utf8 "out")) := by
  refine ⟨by simp [Instruction.registerList], fun name named => ?_⟩
  obtain rfl := Option.some.inj named
  exact ⟨3, binds_overflowing⟩

/-- The least number by minus one comes out as the least number again. A call, a jump and a line of
output from the same machine. -/
theorem execute_obeys_table_overflow :
    (∃ after, overflowing.execute (.registers (.known .div) 0 1) = (after, none) ∧
      after.register? 0 = some (-2147483648) ∧ after.register? 1 = some (-1) ∧
      after.flags = { zero := false, negative := true } ∧ after.ip = 8) ∧
    (∃ after, overflowing.execute (.label (.known .call) (utf8 "out")) = (after, none) ∧
      after.stack.values = [8, 5] ∧ after.ip = 3) ∧
    (∃ after, overflowing.execute (.label (.known .jle) (utf8 "out")) = (after, none) ∧
      after.stack.values = [5] ∧ after.ip = 3) ∧
    ∃ after, overflowing.execute (.register (.known .println) 1) = (after, none) ∧
      after.console.delivered = utf8 "= -1\n" := by
  refine ⟨?_, ?_, ?_, ?_⟩
  · have grounds : overflowing.Grounds (.registers (.known .div) 0 1) := by
      refine ⟨?_, by simp [Instruction.target?]⟩
      simp [Instruction.registerList, overflowing]
    have isResult : overflowing.result? (.registers (.known .div) 0 1) = some (-2147483648) := by
      decide +kernel
    obtain ⟨goes, obeys⟩ := execute_obeys_table (by decide) grounds
    obtain ⟨after, executed⟩ := goes.mpr ⟨-2147483648, -1, by decide, by decide⟩
    have table := obeys after executed
    obtain ⟨value, found, assigns⟩ := table.register?_of_destination (Int.le_refl 0) rfl
    have isValue : value = -2147483648 := by
      apply Int32.toInt_inj.mp
      exact Option.some.inj (assigns.symm.trans isResult)
    refine ⟨after, executed, ?_, ?_, ?_, ?_⟩
    · rw [found, isValue]
    · exact table.register?_of_ne (by decide)
    · exact table.flags.eq_ofResult isResult
    · exact table.ip.eq_following rfl
  · have grounds := grounds_overflowing (.known .call)
    obtain ⟨goes, obeys⟩ := execute_obeys_table (by decide) grounds
    obtain ⟨after, executed⟩ := goes.mpr (.inr (by decide))
    have table := obeys after executed
    refine ⟨after, executed, table.values, ?_⟩
    exact table.ip.eq_address trivial rfl binds_overflowing
  · have grounds := grounds_overflowing (.known .jle)
    obtain ⟨goes, obeys⟩ := execute_obeys_table (by decide) grounds
    obtain ⟨after, executed⟩ := goes.mpr trivial
    have table := obeys after executed
    refine ⟨after, executed, table.values, ?_⟩
    exact table.ip.eq_address (.inr rfl) rfl binds_overflowing
  · have grounds : overflowing.Grounds (.register (.known .println) 1) := by
      refine ⟨?_, by simp [Instruction.target?]⟩
      simp [Instruction.registerList, overflowing]
    have takes : ∀ sink, overflowing.console.output = some sink → sink.Takes (utf8 "-1\n") := by
      intro sink isOutput
      obtain rfl := Option.some.inj isOutput
      exact ⟨rfl, fun room limited => by cases limited⟩
    have isScript : overflowing.script? (.register (.known .println) 1) = some (utf8 "-1\n") := by
      decide +kernel
    obtain ⟨goes, obeys⟩ := execute_obeys_table (by decide) grounds
    obtain ⟨after, executed⟩ := goes.mpr ⟨utf8 "-1\n", isScript, takes⟩
    obtain ⟨text, script, prints⟩ := (obeys after executed).console
    obtain ⟨grown, isOutput, took⟩ := prints.taken _ rfl
    refine ⟨after, executed, ?_⟩
    cases took with
    | buffered grows =>
        obtain rfl := Option.some.inj (script.symm.trans isScript)
        rw [Console.delivered, isOutput]
        exact grows.delivered

end Machine

end RegisterMachine
