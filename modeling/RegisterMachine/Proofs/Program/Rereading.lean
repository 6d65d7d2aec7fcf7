import RegisterMachine.Proofs.Assembler.Expressions
import RegisterMachine.Proofs.Program.Listing

/-! The lines of a listing read under equates, which may exchange their words for others. If the
commands and the labels at each address come out as listed, no line has changed its kind: a label line
that is read as a command leaves too few labels at its address, and a command line that declares a
label brings one too many. -/

namespace RegisterMachine.Assembler

namespace Command

/-- Whether a command is kept where its words are exchanged for others. -/
structure IsKept (literal : Bytes → Int32 → Prop) (substitute : Bytes → Bytes)
    (command : Command) : Prop where
  keyword : substitute command.keyword.name = command.keyword.name
  names : ∀ name ∈ command.names, substitute name = name
  target : ∀ name, command.target? = some name → substitute name = name
  number : ∀ value, command.number? = some value →
    literal (substitute (Text.Decimal.ofInt value.toInt)) value

variable {literal other : Bytes → Int32 → Prop} {keyword : Keyword} {words : List Bytes}
variable {command : Command} {substitute : Bytes → Bytes}

/-- A command that is read from its own words, exchanged for others, is kept. -/
theorem Reads.isKept (reads : Reads literal keyword words command)
    (written : command.operands.map substitute = words)
    (kept : substitute keyword.name = keyword.name) : command.IsKept literal substitute := by
  cases reads with
  | bare category => exact ⟨kept, by simp [names], by simp [target?], by simp [number?]⟩
  | register category identifier =>
      have same := List.singleton_inj.mp written
      exact ⟨kept, by simpa [names] using same, by simp [target?], by simp [number?]⟩
  | number category stands =>
      have same := List.singleton_inj.mp written
      exact ⟨kept, by simp [names], by simp [target?], by simpa [number?, same] using stands⟩
  | text category quoted stands =>
      exact ⟨kept, by simp [names], by simp [target?], by simp [number?]⟩
  | label category identifier =>
      have same := List.singleton_inj.mp written
      exact ⟨kept, by simp [names], by simpa [target?] using same, by simp [number?]⟩
  | registers category identifier source =>
      obtain ⟨first, rest⟩ := List.cons.inj written
      have second := List.singleton_inj.mp rest
      exact ⟨kept, by simpa [names] using ⟨first, second⟩, by simp [target?], by simp [number?]⟩
  | registerNumber category identifier stands =>
      obtain ⟨first, rest⟩ := List.cons.inj written
      have second := List.singleton_inj.mp rest
      exact ⟨kept, by simpa [names] using first, by simp [target?],
        by simpa [number?, second] using stands⟩
  | registerLabel category identifier label =>
      obtain ⟨first, rest⟩ := List.cons.inj written
      have second := List.singleton_inj.mp rest
      exact ⟨kept, by simpa [names] using first, by simpa [target?] using second,
        by simp [number?]⟩

theorem IsKept.reads (kept : command.IsKept other substitute)
    (reads : Reads literal keyword words command)
    (quotes : ∀ text, substitute (Text.quote text) = Text.quote text) :
    Reads other keyword (command.operands.map substitute) command := by
  obtain ⟨_, names, target, number⟩ := kept
  cases reads with
  | bare category => exact .bare category
  | register category identifier =>
      rw [operands, List.map_singleton, names _ (List.mem_singleton.mpr rfl)]
      exact .register category identifier
  | number category stands => exact .number category (number _ rfl)
  | text category quoted stands =>
      rw [operands, List.map_singleton, quotes]
      exact .text category rfl (Text.unquote?_quote _)
  | label category identifier =>
      rw [operands, List.map_singleton, target _ rfl]
      exact .label category identifier
  | registers category identifier source =>
      rw [operands, List.map_cons, List.map_singleton, names _ List.mem_cons_self,
        names _ (List.mem_cons_of_mem _ (List.mem_singleton.mpr rfl))]
      exact .registers category identifier source
  | registerNumber category identifier stands =>
      rw [operands, List.map_cons, names _ (List.mem_singleton.mpr rfl)]
      exact .registerNumber category identifier (number _ rfl)
  | registerLabel category identifier label =>
      rw [operands, List.map_cons, List.map_singleton, names _ (List.mem_singleton.mpr rfl),
        target _ rfl]
      exact .registerLabel category identifier label

end Command

theorem replaced_quote (equates : Table Bytes) (text : Bytes) :
    replaced equates (Text.quote text) = Text.quote text :=
  if_pos rfl

section Lines

variable [Evaluator] {equates : Table Bytes} {literal : Bytes → Int32 → Prop} {keyword : Keyword}
variable {words : List Bytes} {command : Command} {clause : Clause}

/-- What the line of a command is read as under equates, if it declares no label: a command, and the
same one if the equates keep it. -/
theorem Clause.Reads.of_line (reads : Command.Reads literal keyword words command)
    (again : clause.Reads (Denotes equates) equates command.line) (unlabelled : clause.labels = []) :
    ∃ other, clause = .statement [] (some other) ∧
      (other = command → command.IsKept (Denotes equates) (replaced equates)) := by
  cases again with
  | equate split identifier =>
      rw [reads.words_line] at split
      obtain ⟨first, _⟩ := List.cons.inj (Except.ok.inj split)
      exact absurd first (name_ne_equateWord _)
  | statement split ordinary leading identifiers phrase =>
      obtain rfl : _ = [] := unlabelled
      rw [reads.words_line] at split
      obtain rfl := Except.ok.inj split
      rw [List.map_nil, List.nil_append] at leading
      cases phrase with
      | nothing => cases leading
      | command commandReads =>
          rename_i other
          obtain ⟨first, rest⟩ := List.cons.inj leading
          refine ⟨other, rfl, ?_⟩
          rintro rfl
          obtain ⟨same, _⟩ := commandReads.written equates
          rw [same] at first
          exact commandReads.isKept rest first

theorem Command.IsKept.reads_line
    (kept : command.IsKept (Denotes equates) (replaced equates))
    (reads : Command.Reads literal keyword words command) :
    Clause.Reads (Denotes equates) equates command.line (.statement [] (some command)) := by
  obtain ⟨same, _⟩ := reads.written equates
  have again := kept.reads reads (replaced_quote equates)
  rw [← same] at again
  refine .statement reads.words_line ?_ ?_ (by simp) (.command again)
  · simpa using name_ne_equateWord command.keyword
  · rw [List.map_cons, kept.keyword]
    rfl

/-- What the line of a label is read as under equates: one label, or a command without any. -/
theorem Clause.Reads.of_declaration {name : Bytes}
    (identifier : Bytes.isIdentifier name = true)
    (again : clause.Reads (Denotes equates) equates (declaration name)) :
    (∃ label, clause = .statement [label] none ∧
        replaced equates (declaration name) = declaration label) ∨
      ∃ command, clause = .statement [] (some command) := by
  cases again with
  | equate split _ =>
      rw [words_declaration identifier] at split
      have lengths := congrArg List.length (Except.ok.inj split)
      simp at lengths
  | statement split ordinary leading identifiers phrase =>
      rename_i labels rest command
      rw [words_declaration identifier] at split
      obtain rfl := Except.ok.inj split
      cases labels with
      | nil =>
          cases phrase with
          | nothing => cases leading
          | command => exact .inr ⟨_, rfl⟩
      | cons label others =>
          obtain ⟨first, behind⟩ := List.cons.inj leading
          obtain ⟨noLabels, noWords⟩ := List.append_eq_nil_iff.mp behind.symm
          obtain rfl := List.map_eq_nil_iff.mp noLabels
          subst noWords
          cases phrase with
          | nothing => exact .inl ⟨label, rfl, first⟩

end Lines

def Clause.relabelled (rename : Bytes → Bytes) : Clause → Clause
  | .equate name text => .equate name text
  | .statement labels command => .statement (labels.map rename) command

theorem Clause.command?_relabelled (rename : Bytes → Bytes) (clause : Clause) :
    (clause.relabelled rename).command? = clause.command? := by
  cases clause with
  | equate name text => rfl
  | statement labels command => rfl

theorem Clause.labels_relabelled (rename : Bytes → Bytes) (clause : Clause) :
    (clause.relabelled rename).labels = clause.labels.map rename := by
  cases clause with
  | equate name text => rfl
  | statement labels command => rfl

namespace Transcript

variable {equates : Table Bytes} {transcript : Transcript} {labelsAt : Nat → List Bytes}

/-- Lines that do not start as an equate does are all read under the same equates. -/
theorem Reads.of_mem [Evaluator] (reads : transcript.Reads Denotes equates)
    (ordinary : ∀ line ∈ transcript.lines, ∀ words, Source.words line = .ok words →
      words.head? ≠ some Draft.equateWord) {entry : Bytes × Clause} (member : entry ∈ transcript) :
    entry.2.Reads (Denotes equates) equates entry.1 := by
  induction reads with
  | nil => cases member
  | cons reads fresh later induction =>
      rcases List.mem_cons.mp member with rfl | behind
      · exact reads
      · have unchanged : ∀ line ∈ lines _, ∀ words, Source.words line = .ok words →
            words.head? ≠ some Draft.equateWord := fun line inRest =>
          ordinary line (List.mem_cons_of_mem _ inRest)
        cases reads with
        | equate split identifier => exact absurd rfl (ordinary _ List.mem_cons_self _ split)
        | statement => exact induction unchanged behind

/-- The labels up to the first command, those on its line included. -/
def firstLabels : Transcript → List Bytes
  | [] => []
  | (_, clause) :: rest =>
      clause.labels ++ if clause.command?.isSome then [] else firstLabels rest

theorem le_of_mem_declarations {address place : Nat} {name : Bytes}
    (member : (name, place) ∈ declarations address transcript) : address ≤ place := by
  obtain ⟨_, _, _, _, _, rfl⟩ := mem_declarations_iff.mp member
  exact Nat.le_add_right address _

theorem mem_firstLabels {address : Nat} {name : Bytes} :
    name ∈ firstLabels transcript ↔ (name, address) ∈ declarations address transcript := by
  induction transcript with
  | nil => simp [firstLabels, declarations]
  | cons entry rest induction =>
      obtain ⟨line, clause⟩ := entry
      rw [firstLabels, declarations, List.mem_append, List.mem_append]
      have here : name ∈ clause.labels ↔
          (name, address) ∈ clause.labels.map fun label => (label, address) := by simp
      rw [← here]
      cases found : clause.command? with
      | none => simp [induction]
      | some command =>
          have behind : (name, address) ∉ declarations (address + 1) rest := fun member =>
            absurd (le_of_mem_declarations member) (by omega)
          simp [behind]

theorem firstLabels_sublist (transcript : Transcript) :
    (firstLabels transcript).Sublist transcript.labels := by
  induction transcript with
  | nil => exact .slnil
  | cons entry rest induction =>
      rw [firstLabels, labels_cons]
      apply List.Sublist.append_left
      split
      · exact List.nil_sublist _
      · exact induction

/-- As many label lines as there are labels at an address keep to declaring a label each: a command
among them would leave too few labels before it. -/
theorem exists_labels [Evaluator] {names : List Bytes} {others : List Bytes}
    (identifiers : ∀ name ∈ names, Bytes.isIdentifier name = true)
    (reads : ∀ entry ∈ transcript, entry.2.Reads (Denotes equates) equates entry.1)
    (same : transcript.lines = names.map declaration ++ others)
    (enough : names.length ≤ (firstLabels transcript).length) :
    ∃ (labels : List Bytes) (rest : Transcript),
      labels.map declaration = names.map (fun name =>
        replaced equates (declaration name)) ∧
      rest.lines = others ∧ (∀ entry ∈ rest, entry ∈ transcript) ∧
      firstLabels transcript = labels ++ firstLabels rest ∧
      transcript.commands = rest.commands ∧
      ∀ address, declarations address transcript =
        labels.map (fun label => (label, address)) ++ declarations address rest := by
  induction names generalizing transcript with
  | nil => exact ⟨[], transcript, rfl, same, fun _ => id, rfl, rfl, fun _ => rfl⟩
  | cons name names induction =>
      cases transcript with
      | nil => cases same
      | cons entry rest =>
          obtain ⟨line, clause⟩ := entry
          obtain ⟨rfl, sameRest⟩ := List.cons.inj same
          have restReads : ∀ entry ∈ rest, entry.2.Reads (Denotes equates) equates entry.1 :=
            fun entry member => reads entry (List.mem_cons_of_mem _ member)
          rcases (reads _ List.mem_cons_self).of_declaration (identifiers name List.mem_cons_self)
            with ⟨label, rfl, exchanged⟩ | ⟨command, rfl⟩
          · have first : firstLabels ((declaration name, Clause.statement [label] none) :: rest) =
                label :: firstLabels rest := rfl
            rw [first, List.length_cons, List.length_cons] at enough
            obtain ⟨labels, tail, exchangedRest, tailLines, subset, firstRest, commands, declared⟩ :=
              induction (fun name member => identifiers name (List.mem_cons_of_mem _ member))
                restReads sameRest (Nat.le_of_succ_le_succ enough)
            refine ⟨label :: labels, tail, ?_, tailLines, ?_, ?_, commands, ?_⟩
            · rw [List.map_cons, List.map_cons, exchangedRest, exchanged]
            · exact fun entry member => List.mem_cons_of_mem _ (subset entry member)
            · rw [first, firstRest, List.cons_append]
            · intro address
              exact congrArg ((label, address) :: ·) (declared address)
          · simp [firstLabels, Clause.labels, Clause.command?] at enough

/-- The lines of an address, with no more labels than label lines: the line behind them is a command
and nothing else. -/
theorem exists_address [Evaluator] {names others : List Bytes} {literal : Bytes → Int32 → Prop}
    {keyword : Keyword} {words : List Bytes} {command : Command}
    (written : Command.Reads literal keyword words command)
    (identifiers : ∀ name ∈ names, Bytes.isIdentifier name = true)
    (reads : ∀ entry ∈ transcript, entry.2.Reads (Denotes equates) equates entry.1)
    (same : transcript.lines = names.map declaration ++ command.line :: others)
    (counted : (firstLabels transcript).length = names.length) :
    ∃ (other : Command) (tail : Transcript),
      (firstLabels transcript).map declaration = names.map (fun name =>
        replaced equates (declaration name)) ∧
      tail.lines = others ∧ (∀ entry ∈ tail, entry ∈ transcript) ∧
      transcript.commands = other :: tail.commands ∧
      (other = command → command.IsKept (Denotes equates) (replaced equates)) ∧
      ∀ address, declarations address transcript =
        (firstLabels transcript).map (fun label => (label, address)) ++
          declarations (address + 1) tail := by
  obtain ⟨labels, rest, exchanged, restLines, subset, first, restCommands, declared⟩ :=
    exists_labels identifiers reads same counted.ge
  -- The label lines account for all labels of the address.
  have noMore : firstLabels rest = [] := by
    have lengths := congrArg List.length exchanged
    rw [List.length_map, List.length_map] at lengths
    rw [first, List.length_append, lengths] at counted
    exact List.eq_nil_of_length_eq_zero (by omega)
  rw [noMore, List.append_nil] at first
  cases rest with
  | nil => cases restLines
  | cons entry tail =>
      obtain ⟨line, clause⟩ := entry
      obtain ⟨rfl, tailLines⟩ := List.cons.inj restLines
      obtain ⟨other, rfl, kept⟩ := (reads _ (subset _ List.mem_cons_self)).of_line written
        (List.append_eq_nil_iff.mp noMore).1
      rw [first]
      refine ⟨other, tail, exchanged, tailLines, ?_, ?_, kept, declared⟩
      · exact fun entry member => subset entry (List.mem_cons_of_mem _ member)
      · rw [restCommands, commands_cons]
        rfl

/-- The labels of the first address are those that are asked for there. -/
theorem perm_firstLabels {address bound : Nat} (within : address ≤ bound)
    (nodupAt : (labelsAt address).Nodup) (nodup : transcript.labels.Nodup)
    (same : ∀ name place, (name, place) ∈ declarations address transcript ↔
      name ∈ labelsAt place ∧ address ≤ place ∧ place ≤ bound) :
    (firstLabels transcript).Perm (labelsAt address) := by
  apply (List.perm_ext_iff_of_nodup ((firstLabels_sublist transcript).nodup nodup) nodupAt).mpr
  intro name
  rw [mem_firstLabels, same]
  simp [within]

/-- Lines of a listing that are read as the listed commands, with the listed labels at each address,
are read as they were written, but for the order of labels at one address. -/
theorem isKept_of_listed [Evaluator] {listing : List Command} {address : Nat}
    (written : ∀ command ∈ listing,
      ∃ literal keyword words, Command.Reads literal keyword words command)
    (identifiers : ∀ place, ∀ name ∈ labelsAt place, Bytes.isIdentifier name = true)
    (nodupAt : ∀ place, (labelsAt place).Nodup)
    (lines : transcript.lines = (listed labelsAt address listing).lines)
    (reads : ∀ entry ∈ transcript, entry.2.Reads (Denotes equates) equates entry.1)
    (commands : transcript.commands = listing) (nodup : transcript.labels.Nodup)
    (same : ∀ name place, (name, place) ∈ declarations address transcript ↔
      name ∈ labelsAt place ∧ address ≤ place ∧ place ≤ address + listing.length) :
    (∀ command ∈ listing,
        command.IsKept (Denotes equates) (replaced equates)) ∧
      ∀ place, address ≤ place → place ≤ address + listing.length →
        ((labelsAt place).map fun name =>
          replaced equates (declaration name)).Perm
            ((labelsAt place).map declaration) := by
  induction listing generalizing address transcript with
  | nil =>
      have permFirst := perm_firstLabels (Nat.le_refl address) (nodupAt address) nodup same
      have shape : transcript.lines = (labelsAt address).map declaration ++ [] := by
        rw [lines, listed, List.append_nil]
        simp [Transcript.lines, labelEntry]
      obtain ⟨labels, rest, exchanged, restLines, _, first, _, _⟩ :=
        exists_labels (identifiers address) reads shape permFirst.length_eq.ge
      obtain rfl : rest = [] := List.map_eq_nil_iff.mp restLines
      refine ⟨by simp, ?_⟩
      intro place lower upper
      obtain rfl : place = address := Nat.le_antisymm upper lower
      rw [first, firstLabels, List.append_nil] at permFirst
      rw [← exchanged]
      exact permFirst.map declaration
  | cons command listing induction =>
      have permFirst := perm_firstLabels (Nat.le_add_right address _) (nodupAt address) nodup same
      have shape : transcript.lines = (labelsAt address).map declaration ++
          (command.line :: Transcript.lines (listed labelsAt (address + 1) listing)) := by
        rw [lines, listed, lines_append]
        simp [Transcript.lines, labelEntry, commandEntry]
      obtain ⟨_, _, _, commandReads⟩ := written command List.mem_cons_self
      obtain ⟨other, tail, exchanged, tailLines, subset, tailCommands, kept, declared⟩ :=
        exists_address commandReads (identifiers address) reads shape permFirst.length_eq
      rw [commands] at tailCommands
      obtain ⟨rfl, restCommands⟩ := List.cons.inj tailCommands
      have tailNodup : tail.labels.Nodup := by
        rw [← map_fst_declarations 0 transcript, declared, List.map_append,
          map_fst_declarations] at nodup
        exact (List.nodup_append.mp nodup).2.1
      have tailSame : ∀ name place, (name, place) ∈ declarations (address + 1) tail ↔
          name ∈ labelsAt place ∧ address + 1 ≤ place ∧ place ≤ address + 1 + listing.length := by
        intro name place
        have here := same name place
        rw [declared, List.mem_append, List.mem_map, List.length_cons] at here
        constructor
        · intro member
          obtain ⟨isLabel, _, upper⟩ := here.mp (.inr member)
          exact ⟨isLabel, le_of_mem_declarations member, by omega⟩
        · rintro ⟨isLabel, lower, upper⟩
          rcases here.mpr ⟨isLabel, by omega, by omega⟩ with ⟨_, _, equal⟩ | member
          · have atAddress := (Prod.mk.inj equal).2
            omega
          · exact member
      obtain ⟨keptRest, permRest⟩ := induction
        (fun command member => written command (List.mem_cons_of_mem _ member)) tailLines
        (fun entry member => reads entry (subset entry member)) restCommands.symm tailNodup tailSame
      refine ⟨List.forall_mem_cons.mpr ⟨kept rfl, keptRest⟩, ?_⟩
      intro place lower upper
      by_cases here : place = address
      · subst here
        rw [← exchanged]
        exact permFirst.map declaration
      · rw [List.length_cons] at upper
        exact permRest place (by omega) (by omega)

def relabelled (rename : Bytes → Bytes) (transcript : Transcript) : Transcript :=
  transcript.map fun entry => (entry.1, entry.2.relabelled rename)

section Relabelled

variable (rename : Bytes → Bytes)

theorem lines_relabelled (transcript : Transcript) :
    (transcript.relabelled rename).lines = transcript.lines := by
  rw [lines, relabelled, List.map_map]
  rfl

theorem commands_relabelled (transcript : Transcript) :
    (transcript.relabelled rename).commands = transcript.commands := by
  rw [commands, relabelled, List.filterMap_map, commands]
  congr 1
  funext entry
  exact Clause.command?_relabelled rename entry.2

theorem declarations_relabelled (address : Nat) (transcript : Transcript) :
    declarations address (transcript.relabelled rename) =
      (declarations address transcript).map fun entry => (rename entry.1, entry.2) := by
  induction transcript generalizing address with
  | nil => rfl
  | cons entry rest induction =>
      have shape : relabelled rename (entry :: rest) =
          (entry.1, entry.2.relabelled rename) :: relabelled rename rest := rfl
      rw [shape, declarations, declarations, induction, List.map_append,
        Clause.command?_relabelled, Clause.labels_relabelled, List.map_map, List.map_map]
      rfl

theorem labels_relabelled (transcript : Transcript) :
    (transcript.relabelled rename).labels = transcript.labels.map rename := by
  rw [← map_fst_declarations 0, declarations_relabelled, ← map_fst_declarations 0 transcript,
    List.map_map, List.map_map]
  rfl

end Relabelled

end Transcript

end RegisterMachine.Assembler
