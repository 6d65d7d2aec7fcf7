import RegisterMachine.Expression.Lookups
import RegisterMachine.Proofs.Assembler.Alike

/-! The calls that one assembler answers. Of all that went before, a source sees the last text that
each name was predefined with, and nothing of the sources. -/

namespace RegisterMachine.Assembler

/-- What an assembler is asked to do. -/
inductive Call where
  | predefine (name text : Bytes)
  | parse (source : Bytes)

namespace Call

def definition? : Call → Option (Bytes × Bytes)
  | predefine name text => some (name, text)
  | parse _ => none

def isParse : Call → Bool
  | predefine .. => false
  | parse _ => true

end Call

def after [Evaluator] (assembler : Assembler) : List Call → Assembler
  | [] => assembler
  | .predefine name text :: rest => (assembler.predefine name text).after rest
  | .parse source :: rest => (assembler.parse source).1.after rest

def answers [Evaluator] (assembler : Assembler) : List Call → List
    (Assembler × Except Failure Program)
  | [] => []
  | .predefine name text :: rest => (assembler.predefine name text).answers rest
  | .parse source :: rest => assembler.parse source :: (assembler.parse source).1.answers rest

/-- The names that calls predefine, with their texts. -/
def definitions (calls : List Call) : List (Bytes × Bytes) :=
  calls.filterMap Call.definition?

def lastText? (pairs : List (Bytes × Bytes)) (name : Bytes) : Option Bytes :=
  pairs.reverse.lookup name

/-- Lines added to drafts that differ in the order of equates alone. -/
theorem addLines_of_texts [Evaluator] {draft other : Draft} (alike : draft.Alike id other)
    (count : Nat)
    (lines : List Bytes) :
    (draft.addLines count lines).draft.Alike id (other.addLines count lines).draft ∧
      (draft.addLines count lines).count = (other.addLines count lines).count ∧
      (draft.addLines count lines).failure = (other.addLines count lines).failure := by
  induction lines generalizing draft other count with
  | nil => exact ⟨alike, rfl, rfl⟩
  | cons line rest induction =>
      have here : AlikeResults id (draft.addLine (count + 1) line)
          (other.addLine (count + 1) line) := alike.addLine (fun _ => rfl) rfl
      rw [Draft.addLines, Draft.addLines]
      generalize draft.addLine (count + 1) line = result at here
      generalize other.addLine (count + 1) line = otherResult at here
      cases here with
      | taken alike => exact induction alike (count + 1)
      | stopped stop =>
          cases stop with
          | because cause => exact ⟨alike, rfl, rfl⟩
          | crash breakdown => exact ⟨alike, rfl, rfl⟩

theorem link_of_alike {read again : Reading} (alike : read.draft.Alike id again.draft)
    (count : read.count = again.count) (failure : read.failure = again.failure) (source : Bytes) :
    link source read = link source again := by
  have opcodes : read.draft.opcodes = again.draft.opcodes := by
    apply Array.toList_inj.mp
    simpa using alike.places
  simp only [link, Draft.unlinked?, Draft.program, count, failure, opcodes, alike.labels,
    alike.registers]

/-- What a source is answered with depends on the texts that names are predefined with. -/
theorem parse_of_texts [Evaluator] {assembler other : Assembler}
    (texts : assembler.predefined.get? = other.predefined.get?) (source : Bytes) :
    (assembler.parse source).2 = (other.parse source).2 ∧
      (assembler.parse source).1.equates.get? = (other.parse source).1.equates.get? := by
  have start : (Draft.start assembler.predefined).Alike id (Draft.start other.predefined) :=
    ⟨texts, rfl, rfl, rfl⟩
  obtain ⟨alike, count, failure⟩ := addLines_of_texts start 0 (Source.lines source)
  exact ⟨link_of_alike alike count failure source, alike.texts⟩

theorem predefined_after [Evaluator] (assembler : Assembler) (calls : List Call) :
    (assembler.after calls).predefined = assembler.predefined.insertAll (definitions calls) := by
  induction calls generalizing assembler with
  | nil => rfl
  | cons call rest induction =>
      cases call with
      | predefine name text => exact induction (assembler.predefine name text)
      | parse source => exact induction (assembler.parse source).1

theorem answers_append [Evaluator] (assembler : Assembler) (before behind : List Call) :
    assembler.answers (before ++ behind) =
      assembler.answers before ++ (assembler.after before).answers behind := by
  induction before generalizing assembler with
  | nil => rfl
  | cons call rest induction =>
      cases call with
      | predefine name text => exact induction (assembler.predefine name text)
      | parse source => exact congrArg (assembler.parse source :: ·) (induction _)

theorem length_answers [Evaluator] (assembler : Assembler) (calls : List Call) :
    (assembler.answers calls).length = calls.countP Call.isParse := by
  induction calls generalizing assembler with
  | nil => rfl
  | cons call rest induction =>
      cases call with
      | predefine name text =>
          rw [List.countP_cons_of_neg (by simp [Call.isParse])]
          exact induction (assembler.predefine name text)
      | parse source =>
          rw [List.countP_cons_of_pos (by rfl)]
          exact congrArg (· + 1) (induction _)

theorem get?_predefined_after [Evaluator] (calls : List Call) (name : Bytes) :
    (fresh.after calls).predefined.get? name = lastText? (definitions calls) name := by
  rw [predefined_after, Table.get?_insertAll, lastText?]
  exact Option.or_none

theorem definitions_map_predefine (pairs : List (Bytes × Bytes)) :
    definitions (pairs.map fun pair => .predefine pair.1 pair.2) = pairs := by
  rw [definitions, List.filterMap_map]
  exact List.filterMap_some

/-- Whatever an assembler was asked before, a source is answered as by a fresh assembler that knows
no more than the last text of each name predefined so far. -/
theorem answers_eq_fresh [Evaluator] (before behind : List Call) (source : Bytes)
    {pairs : List (Bytes × Bytes)}
    (last : ∀ name, lastText? pairs name = lastText? (definitions before) name) :
    ∃ answer,
      (fresh.answers (before ++ .parse source :: behind))[before.countP Call.isParse]? =
        some answer ∧
      answer.2 = ((fresh.after (pairs.map fun pair => .predefine pair.1 pair.2)).parse source).2 ∧
      ∀ name,
        answer.1.predefined.get? name = lastText? pairs name ∧
        answer.1.equates.get? name =
          ((fresh.after (pairs.map fun pair => .predefine pair.1 pair.2)).parse
            source).1.equates.get? name := by
  have texts : (fresh.after before).predefined.get? =
      (fresh.after (pairs.map fun pair => .predefine pair.1 pair.2)).predefined.get? := by
    funext name
    rw [get?_predefined_after, get?_predefined_after, definitions_map_predefine, last]
  obtain ⟨result, equates⟩ := parse_of_texts texts source
  refine ⟨(fresh.after before).parse source, ?_, result, ?_⟩
  · rw [answers_append, ← length_answers fresh before, List.getElem?_append_right (Nat.le_refl _),
      Nat.sub_self]
    rfl
  · intro name
    refine ⟨?_, congrFun equates name⟩
    exact (get?_predefined_after before name).trans (last name).symm

/-- A name gets a second text, behind a source that failed with a label and an equate of its own. -/
theorem answers_eq_fresh_redefined :
    ∃ answer,
      (fresh.answers
        ([.predefine (utf8 "N") (utf8 "1"), .parse (utf8 ".equ K 5\nx: mov a, K\nbad"),
            .predefine (utf8 "M") (utf8 "7"), .predefine (utf8 "N") (utf8 "2")] ++
          .parse (utf8 ".equ K 3\nx: push $(N*M+K)\njmp x") :: []))[1]? = some answer ∧
      answer.2.isOk = true ∧
      answer.2 =
        ((fresh.after [.predefine (utf8 "N") (utf8 "2"), .predefine (utf8 "M") (utf8 "7")]).parse
          (utf8 ".equ K 3\nx: push $(N*M+K)\njmp x")).2 := by
  have last : ∀ name,
      lastText? [(utf8 "N", utf8 "2"), (utf8 "M", utf8 "7")] name =
        lastText? (definitions
          [.predefine (utf8 "N") (utf8 "1"), .parse (utf8 ".equ K 5\nx: mov a, K\nbad"),
            .predefine (utf8 "M") (utf8 "7"), .predefine (utf8 "N") (utf8 "2")]) name := by
    intro name
    change lastText? _ name =
      lastText? [(utf8 "N", utf8 "1"), (utf8 "M", utf8 "7"), (utf8 "N", utf8 "2")] name
    by_cases first : name = utf8 "N"
    · subst first
      decide
    by_cases second : name = utf8 "M"
    · subst second
      decide
    have notFirst : (name == utf8 "N") = false := beq_eq_false_iff_ne.mpr first
    have notSecond : (name == utf8 "M") = false := beq_eq_false_iff_ne.mpr second
    simp [lastText?, List.lookup_cons, notFirst, notSecond]
  obtain ⟨answer, found, result, _⟩ := answers_eq_fresh _ []
    (utf8 ".equ K 3\nx: push $(N*M+K)\njmp x") last
  refine ⟨answer, found, ?_, result⟩
  rw [result]
  decide +kernel

end RegisterMachine.Assembler
