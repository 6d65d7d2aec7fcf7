import RegisterMachine.Expression.Lookups
import RegisterMachine.Proofs.Assembler.History
import RegisterMachine.Proofs.Assembler.Rejection
import RegisterMachine.Settings

/-! The equates that a source finds and those that it adds. Settings put their definitions over the
standard ones, in whatever order either come; a source that gives a name a second time is turned down at
the line that does so. -/

namespace RegisterMachine

namespace Table

variable {α : Type}

theorem lookup_of_perm {entries others : List (Bytes × α)} (perm : entries.Perm others)
    (nodup : (others.map Prod.fst).Nodup) (name : Bytes) :
    entries.lookup name = others.lookup name := by
  have nodupThere : (entries.map Prod.fst).Nodup := (perm.map Prod.fst).nodup_iff.mpr nodup
  apply Option.ext
  intro value
  rw [lookup_eq_some_iff nodupThere, lookup_eq_some_iff nodup]
  exact perm.mem_iff

theorem lookup_eq_none_iff {entries : List (Bytes × α)} (nodup : (entries.map Prod.fst).Nodup)
    {name : Bytes} :
    entries.lookup name = none ↔ ∀ value, (name, value) ∉ entries := by
  rw [Option.eq_none_iff_forall_ne_some]
  exact forall_congr' fun value => not_congr (lookup_eq_some_iff nodup)

end Table

namespace Assembler

open Grammar

namespace Draft

section Lines

variable [Evaluator] {draft : Draft} {lineNumber : Int} {line name text : Bytes}

/-- A line that is added leaves the equates that its words alone tell. -/
theorem equates_of_addLine {next : Draft} (added : draft.addLine lineNumber line = .ok next) :
    next.equates = definedBy draft.equates line := by
  obtain ⟨clause, reads, _, rfl⟩ := addLine_eq_ok_iff.mp added
  rw [equates_after, definedBy_of_reads reads]

theorem addLine_of_equate (split : Source.words line = .ok [equateWord, name, text])
    (identifier : Bytes.isIdentifier name = true) :
    draft.addLine lineNumber line =
      if draft.equates.contains name then .error (.because .equateRepeated)
      else .ok { draft with equates := draft.equates.insert name text } := by
  simp only [addLine, split, equate, identifier]
  rfl

/-- An equate is repeated by a line of its own, which gives a name that the draft has. -/
theorem addLine_eq_equateRepeated_iff :
    draft.addLine lineNumber line = .error (.because .equateRepeated) ↔
      ∃ name text, Source.words line = .ok [equateWord, name, text] ∧
        Bytes.isIdentifier name = true ∧ draft.equates.contains name = true := by
  constructor
  · intro failed
    unfold addLine at failed
    split at failed
    · cases failed
    · cases failed
    · cases failed
    · rename_i first rest split
      split at failed
      · rename_i marked
        subst marked
        unfold equate at failed
        split at failed
        · rename_i name text
          split at failed
          · cases failed
          · rename_i identifier
            split at failed
            · rename_i contained
              exact ⟨name, text, split, by simpa using identifier, contained⟩
            · cases failed
        · cases failed
      · cases tells_statement lineNumber line _ _ failed
  · rintro ⟨name, text, split, identifier, contained⟩
    rw [addLine_of_equate split identifier, if_pos contained]

end Lines

section Runs

variable [Evaluator] {draft : Draft} {count : Nat}

/-- A line that is reached is added to a draft with the equates of the lines before it. -/
theorem exists_draft_of_reached {before behind : List Bytes} {line : Bytes}
    (reached : count + before.length < (draft.addLines count (before ++ line :: behind)).count) :
    ∃ there : Draft, there.equates = before.foldl definedBy draft.equates ∧
      draft.addLines count (before ++ line :: behind) =
        there.addLines (count + before.length) (line :: behind) := by
  induction before generalizing draft count with
  | nil => exact ⟨draft, rfl, rfl⟩
  | cons first rest induction =>
      rw [List.cons_append, addLines] at reached ⊢
      rw [List.length_cons] at reached ⊢
      cases added : draft.addLine (count + 1) first with
      | ok next =>
          simp only [added] at reached ⊢
          have shift : count + (rest.length + 1) = count + 1 + rest.length := by omega
          rw [shift] at reached ⊢
          obtain ⟨there, equates, same⟩ := induction reached
          exact ⟨there, by rw [equates, equates_of_addLine added, List.foldl_cons], same⟩
      | error stop =>
          -- The reading stops here, before the line.
          cases stop with
          | because cause =>
              simp only [added] at reached
              omega
          | crash on =>
              simp only [added] at reached
              omega

/-- Lines that are turned down were reached, and the number of the last one is told. -/
theorem exists_line_of_rejected {lines : List Bytes} {error : SyntaxError}
    (failed : (draft.addLines count lines).failure = some (.rejected error)) :
    ∃ (before behind : List Bytes) (there : Draft),
      lines = before ++ error.line :: behind ∧
      there.equates = before.foldl definedBy draft.equates ∧
      error.lineNumber = (count + before.length : Nat) + 1 ∧
      there.addLine error.lineNumber error.line = .error (.because error.cause) := by
  induction lines generalizing draft count with
  | nil => cases failed
  | cons first rest induction =>
      rw [addLines] at failed
      cases added : draft.addLine (count + 1) first with
      | ok next =>
          simp only [added] at failed
          obtain ⟨before, behind, there, rfl, equates, number, refused⟩ := induction failed
          refine ⟨first :: before, behind, there, rfl, ?_, ?_, refused⟩
          · rw [equates, equates_of_addLine added, List.foldl_cons]
          · rw [number, List.length_cons, Nat.add_right_comm, Nat.add_assoc]
      | error stop =>
          cases stop with
          | because cause =>
              simp only [added] at failed
              obtain rfl := Failure.rejected.inj (Option.some.inj failed)
              exact ⟨[], rest, draft, rfl, rfl, rfl, added⟩
          | crash on => simp [added] at failed

theorem failure_equate_iff {line name text : Bytes} (behind : List Bytes)
    (split : Source.words line = .ok [equateWord, name, text])
    (identifier : Bytes.isIdentifier name = true) :
    (draft.addLines count (line :: behind)).failure =
        some (.rejected { lineNumber := count + 1, line, cause := .equateRepeated }) ↔
      draft.equates.contains name = true := by
  rw [addLines, addLine_of_equate split identifier]
  cases contained : draft.equates.contains name with
  | true => simp
  | false =>
      simp only [Bool.false_eq_true, ↓reduceIte, iff_false]
      -- Only a line that comes later can be turned down, and it has a greater number.
      intro failed
      obtain ⟨before, _, _, _, _, number, _⟩ := exists_line_of_rejected failed
      simp only at number
      omega

end Runs

theorem exists_label_of_unlinked? {draft : Draft} {error : SyntaxError}
    (unlinked : draft.unlinked? = some error) : ∃ name, error.cause = .labelMissing name := by
  obtain ⟨opcode, _, found⟩ := List.exists_of_findSome?_eq_some unlinked
  cases target : opcode.instruction.bind Instruction.target? with
  | none => simp [target] at found
  | some name =>
      simp only [target, Option.ite_none_left_eq_some] at found
      obtain rfl := Option.some.inj found.2
      exact ⟨name, rfl⟩

end Draft

variable [Evaluator]

theorem exists_draft_of_reading {predefined : Table Bytes} {source line : Bytes} {count : Nat}
    (found : (Source.lines source)[count]? = some line)
    (reached : count < (reading predefined source).count) :
    ∃ (there : Draft) (behind : List Bytes),
      there.equates = ((Source.lines source).take count).foldl definedBy predefined ∧
      reading predefined source = there.addLines count (line :: behind) := by
  obtain ⟨inside, here⟩ := List.getElem?_eq_some_iff.mp found
  have lines : Source.lines source =
      (Source.lines source).take count ++ line :: (Source.lines source).drop (count + 1) := by
    rw [← here, ← List.drop_eq_getElem_cons inside, List.take_append_drop]
  have length : ((Source.lines source).take count).length = count :=
    List.length_take_of_le inside.le
  have whole : reading predefined source = _ :=
    congrArg ((Draft.start predefined).addLines 0) lines
  rw [whole] at reached
  obtain ⟨there, equates, same⟩ := Draft.exists_draft_of_reached (by rwa [Nat.zero_add, length])
  rw [Nat.zero_add, length] at same
  exact ⟨there, _, equates, whole.trans same⟩

/-- Sources are turned down for equates while they are read. -/
theorem parse_eq_equateRepeated_iff {assembler : Assembler} {source : Bytes}
    {error : SyntaxError}
    (repeated : error.cause = .equateRepeated) :
    (assembler.parse source).2 = .error (.rejected error) ↔
      (reading assembler.predefined source).failure = some (.rejected error) := by
  simp only [parse, link]
  cases (reading assembler.predefined source).failure with
  | some failure => simp
  | none =>
      simp only [reduceCtorEq, iff_false]
      split
      · cases unlinked : (reading assembler.predefined source).draft.unlinked? with
        | none => simp
        | some other =>
            obtain ⟨name, missing⟩ := Draft.exists_label_of_unlinked? unlinked
            intro same
            obtain rfl := Failure.rejected.inj (Except.error.inj same)
            rw [repeated] at missing
            cases missing
      · intro same
        obtain rfl := Failure.rejected.inj (Except.error.inj same)
        cases repeated

end Assembler

namespace Settings

open Assembler Grammar

theorem nodup_definitions (settings : Settings) : (settings.definitions.map Prod.fst).Nodup := by
  unfold definitions
  split
  · rename_i table _
    exact table.nodup
  · exact List.nodup_nil

theorem nodup_standardEquates : (standardEquates.map Prod.fst).Nodup := by decide

/-- An assembler that gets the standard equates in one order, then those of settings in another. -/
def arranged (standard configured : List (Bytes × Bytes)) : Assembler :=
  fresh.predefineAll (concatPairs [standard, configured])

/-- Whether a name stands for a text behind lines. -/
def IsTaken (settings : Settings) (before : List Bytes) (name : Bytes) : Prop :=
  name = utf8 "INT_MIN" ∨ name = utf8 "INT_MAX" ∨ (∃ text, (name, text) ∈ settings.definitions) ∨
    ∃ line ∈ before, ∃ text, Source.words line = .ok [Draft.equateWord, name, text]

section Orders

variable {settings : Settings} {standard configured : List (Bytes × Bytes)}
variable (standardOrder : standard.Perm standardEquates)
variable (configuredOrder : configured.Perm settings.definitions)

include standardOrder configuredOrder

theorem get?_arranged (name : Bytes) :
    (arranged standard configured).predefined.get? name =
      (settings.definitions.lookup name).or (standardEquates.lookup name) := by
  have standardReverse := (List.reverse_perm standard).trans standardOrder
  have configuredReverse := (List.reverse_perm configured).trans configuredOrder
  have pairs : (concatPairs [standard, configured]).reverse =
      configured.reverse ++ standard.reverse := by
    rw [concatPairs, List.flatten_cons, List.flatten_singleton, List.reverse_append]
  calc (arranged standard configured).predefined.get? name
      = ((concatPairs [standard, configured]).reverse.lookup name).or none :=
        Table.get?_insertAll Table.empty _ name
    _ = (configured.reverse.lookup name).or (standard.reverse.lookup name) := by
        rw [pairs, Option.or_none, List.lookup_append]
    _ = (settings.definitions.lookup name).or (standardEquates.lookup name) := by
        rw [Table.lookup_of_perm configuredReverse settings.nodup_definitions,
          Table.lookup_of_perm standardReverse nodup_standardEquates]

theorem get?_arranged_eq_some_iff {name text : Bytes} :
    (arranged standard configured).predefined.get? name = some text ↔
      (name, text) ∈ settings.definitions ∨
        (∀ other, (name, other) ∉ settings.definitions) ∧ (name, text) ∈ standardEquates := by
  rw [get?_arranged standardOrder configuredOrder, Option.or_eq_some_iff,
    Table.lookup_eq_some_iff settings.nodup_definitions,
    Table.lookup_eq_none_iff settings.nodup_definitions,
    Table.lookup_eq_some_iff nodup_standardEquates]

theorem contains_iff_isTaken {before : List Bytes} {name : Bytes} :
    (before.foldl definedBy (arranged standard configured).predefined).contains name = true ↔
      settings.IsTaken before name := by
  have standardNames : standardEquates.lookup name = none ↔
      ¬name = utf8 "INT_MIN" ∧ ¬name = utf8 "INT_MAX" := by
    simp [standardEquates, List.lookup_eq_none_iff]
  have free : (before.foldl definedBy (arranged standard configured).predefined).get? name = none ↔
      ¬settings.IsTaken before name := by
    rw [get?_foldl_definedBy_eq_none_iff, get?_arranged standardOrder configuredOrder,
      Option.or_eq_none_iff, standardNames, Table.lookup_eq_none_iff settings.nodup_definitions]
    simp only [IsTaken, not_or, not_exists, not_and]
    constructor
    · rintro ⟨⟨notDefined, notLeast, notGreatest⟩, unequal⟩
      exact ⟨notLeast, notGreatest, notDefined, unequal⟩
    · rintro ⟨notLeast, notGreatest, notDefined, unequal⟩
      exact ⟨⟨notDefined, notLeast, notGreatest⟩, unequal⟩
  rw [← Bool.not_eq_false, Table.contains_eq_false_iff, free, Classical.not_not]

/-- Whatever order the standard and the configured equates are given in, a name has its configured
text, or else its standard one, and sources are answered alike. An equate is found to be repeated only
at a line of the source that gives a name which is taken, and at each such line that is reached. -/
theorem equates_of_any_order [Evaluator] :
    (∀ name text, (arranged standard configured).predefined.get? name = some text ↔
      (name, text) ∈ settings.definitions ∨
        (∀ other, (name, other) ∉ settings.definitions) ∧ (name, text) ∈ standardEquates) ∧
    (∀ source, ((arranged standard configured).parse source).2 =
      (settings.assembler.parse source).2) ∧
    (∀ source error, ((arranged standard configured).parse source).2 = .error (.rejected error) →
      error.cause = .equateRepeated →
      ∃ (count : Nat) (name text : Bytes),
        error.lineNumber = count + 1 ∧ (Source.lines source)[count]? = some error.line ∧
        Source.words error.line = .ok [Draft.equateWord, name, text] ∧
        Bytes.isIdentifier name = true ∧
        settings.IsTaken ((Source.lines source).take count) name) ∧
    ∀ source (count : Nat) line name text, (Source.lines source)[count]? = some line →
      Source.words line = .ok [Draft.equateWord, name, text] → Bytes.isIdentifier name = true →
      count < (reading (arranged standard configured).predefined source).count →
      (((arranged standard configured).parse source).2 =
          .error (.rejected { lineNumber := count + 1, line, cause := .equateRepeated }) ↔
        settings.IsTaken ((Source.lines source).take count) name) := by
  refine ⟨fun name text => get?_arranged_eq_some_iff standardOrder configuredOrder, ?_, ?_, ?_⟩
  · intro source
    apply fun texts => (parse_of_texts texts source).1
    funext name
    exact (get?_arranged standardOrder configuredOrder name).trans
      (get?_arranged (.refl _) (.refl _) name).symm
  · intro source error failed repeated
    obtain ⟨before, behind, there, lines, equates, number, refused⟩ :=
      Draft.exists_line_of_rejected ((parse_eq_equateRepeated_iff repeated).mp failed)
    rw [repeated] at refused
    obtain ⟨name, text, split, identifier, contained⟩ :=
      Draft.addLine_eq_equateRepeated_iff.mp refused
    rw [equates] at contained
    rw [Nat.zero_add] at number
    refine ⟨before.length, name, text, number, ?_, split, identifier, ?_⟩
    · rw [lines, List.getElem?_append_right (Nat.le_refl _), Nat.sub_self]
      rfl
    · rw [lines, List.take_left]
      exact (contains_iff_isTaken standardOrder configuredOrder).mp contained
  · intro source count line name text found split identifier reached
    obtain ⟨there, behind, equates, same⟩ := exists_draft_of_reading found reached
    rw [parse_eq_equateRepeated_iff rfl, same, Draft.failure_equate_iff behind split identifier,
      equates]
    exact contains_iff_isTaken standardOrder configuredOrder

end Orders

def overriding : Settings :=
  { default with
    defines := some (Table.ofList [(utf8 "limit", utf8 "5"), (utf8 "INT_MAX", utf8 "7")]) }

theorem equates_of_any_order_overriding :
    (arranged standardEquates.reverse overriding.definitions.reverse).predefined.get?
      (utf8 "INT_MAX") = some (utf8 "7") ∧
    (arranged standardEquates.reverse overriding.definitions.reverse).predefined.get?
      (utf8 "INT_MIN") = some (utf8 "-2147483648") ∧
    ((arranged standardEquates.reverse overriding.definitions.reverse).parse
      (utf8 "inc a\n.equ limit 6")).2 =
        .error (.rejected ⟨2, utf8 ".equ limit 6", .equateRepeated⟩) := by
  have standardOrder : standardEquates.reverse.Perm standardEquates := List.reverse_perm _
  have configuredOrder : overriding.definitions.reverse.Perm overriding.definitions :=
    List.reverse_perm _
  obtain ⟨texts, _, _, repeated⟩ := equates_of_any_order standardOrder configuredOrder
  refine ⟨?_, ?_, ?_⟩
  · exact (texts _ _).mpr (.inl (by decide))
  · have absent : utf8 "INT_MIN" ∉ overriding.definitions.map Prod.fst := by decide
    refine (texts _ _).mpr (.inr ⟨?_, by decide⟩)
    exact fun other member => absent (List.mem_map.mpr ⟨_, member, rfl⟩)
  · have taken : overriding.IsTaken [utf8 "inc a"] (utf8 "limit") :=
      .inr (.inr (.inl ⟨utf8 "5", by decide⟩))
    exact (repeated (utf8 "inc a\n.equ limit 6") 1 _ _ (utf8 "6") (by decide +kernel)
      (by decide +kernel) (by decide +kernel) (by decide +kernel)).mpr taken

end Settings

end RegisterMachine
