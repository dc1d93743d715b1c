import Flowline.Proofs.Store.Atomic
import Flowline.Store
import Mathlib.Data.List.Sort

/-!
# Ledgers

What clients can tell of a store is a ledger: the version that is held under each
identifier.  A call looks at the ledger, and a call that is accepted enters one version
into it.  The revisions that accepted saves replace are those that were given out, each
of them once and in order.
-/

namespace Flowline.Store

/-! ## Calls -/

/-- What a client asks of a store. -/
inductive Call where
  | create (record : Execution)
  | load (id : ExecutionId)
  | save (record : Execution) (expected : Revision)
  | list (workflowId : WorkflowId)
  deriving DecidableEq, Repr

/-- What a client is told. -/
inductive Answer where
  | written (reply : Except StoreError Revision)
  | loaded (reply : Except StoreError Versioned)
  | listed (reply : Except StoreError (List Execution))
  deriving DecidableEq, Repr

/-- The identifier of the record that a call is about. -/
def Call.id? : Call → Option ExecutionId
  | create record | save record _ => some record.id
  | load id => some id
  | list _ => none

/-- Why a call was refused, if it was. -/
def Answer.refusal? : Answer → Option StoreError
  | written (.error error) | loaded (.error error) | listed (.error error) => some error
  | written (.ok _) | loaded (.ok _) | listed (.ok _) => none

/-- The answer to a call, and the store behind it. -/
def answer (store : Store) : Call → Answer × Store
  | .create record =>
      let (reply, store) := store.create record
      (.written reply, store)
  | .load id => (.loaded (store.load id), store)
  | .save record expected =>
      let (reply, store) := store.save record expected
      (.written reply, store)
  | .list workflowId => (.listed (store.list workflowId), store)

/-- The calls of all clients in the order in which they were served, with their answers. -/
def history (store : Store) : List Call → List (Call × Answer)
  | [] => []
  | call :: calls => (call, (store.answer call).1) :: (store.answer call).2.history calls

/-- The store behind some calls. -/
def after (store : Store) : List Call → Store
  | [] => store
  | call :: calls => (store.answer call).2.after calls

/-- The revision of a record that a call replaced. -/
def replacedBy? (id : ExecutionId) : Call × Answer → Option Nat
  | (.save record expected, .written (.ok _)) =>
      if record.id = id then some expected.number else none
  | _ => none

/-- The revisions of a record that were replaced, in order. -/
def replaced (id : ExecutionId) (history : List (Call × Answer)) : List Nat :=
  history.filterMap (replacedBy? id)

/-! ## Ledgers -/

/-- The versions that are held under each identifier. -/
abbrev Ledger := ExecutionId → Cell

namespace Ledger

/-- The ledger behind a call. -/
def after (ledger : Ledger) : Call → Ledger
  | .create record =>
      Function.update ledger record.id (Cell.create record (ledger record.id)).2
  | .save record expected =>
      Function.update ledger record.id (Cell.save record expected (ledger record.id)).2
  | .load _ | .list _ => ledger

/-- The held records of a workflow, each once and in the order of their identifiers. -/
structure Lists (ledger : Ledger) (workflowId : WorkflowId) (records : List Execution) : Prop where
  ordered : records.Pairwise fun left right => left.id.ulid.before right.id.ulid = true
  mem_iff : ∀ record, record ∈ records ↔
    record.workflowId = workflowId ∧ ∃ revision, ledger record.id = some ⟨record, revision⟩

/-- What a call is answered. -/
def Answers (ledger : Ledger) : Call → Answer → Prop
  | .create record, answer =>
      answer = .written (Cell.create record (ledger record.id)).1
  | .load id, answer => answer = .loaded (Cell.load id (ledger id))
  | .save record expected, answer =>
      answer = .written (Cell.save record expected (ledger record.id)).1
  | .list workflowId, answer =>
      ∃ records, answer = .listed (.ok records) ∧ ledger.Lists workflowId records

variable {ledger : Ledger} {call : Call} {answer other : Answer}

/-- A list is told by its members. -/
theorem Lists.unique {workflowId : WorkflowId} {records others : List Execution}
    (lists : ledger.Lists workflowId records) (also : ledger.Lists workflowId others) :
    records = others := by
  have irreflexive : Std.Irrefl fun left right : Execution =>
      left.id.ulid.before right.id.ulid = true := ⟨fun record => by simp [Ulid.before]⟩
  have antisymmetric : Std.Antisymm fun left right : Execution =>
      left.id.ulid.before right.id.ulid = true := by
    refine ⟨fun left right before after => ?_⟩
    simp only [Ulid.before, decide_eq_true_eq] at before after
    omega
  apply lists.ordered.eq_of_mem_iff also.ordered
  intro record
  rw [lists.mem_iff, also.mem_iff]

/-- The held versions in the order of their identifiers tell every list. -/
theorem lists_of_versions {versions : List Versioned}
    (ordered : versions.Pairwise fun left right =>
      left.record.id.ulid.before right.record.id.ulid = true)
    (mem_iff : ∀ version, version ∈ versions ↔ ledger version.record.id = some version)
    (workflowId : WorkflowId) :
    ledger.Lists workflowId ((versions.map Versioned.record).filter fun record =>
      record.workflowId = workflowId) where
  ordered := (List.pairwise_map.mpr ordered).filter _
  mem_iff record := by
    rw [List.mem_filter, List.mem_map, decide_eq_true_eq, and_comm]
    refine and_congr_right fun _ => ⟨?_, ?_⟩
    · rintro ⟨version, member, rfl⟩
      exact ⟨version.revision, (mem_iff version).mp member⟩
    · rintro ⟨revision, held⟩
      exact ⟨⟨record, revision⟩, (mem_iff ⟨record, revision⟩).mpr held, rfl⟩

/-- A ledger leaves no choice to what a call is answered. -/
theorem Answers.unique (answers : ledger.Answers call answer) (also : ledger.Answers call other) :
    answer = other := by
  cases call with
  | create | load | save => exact Eq.trans answers (Eq.symm also)
  | list workflowId =>
      obtain ⟨records, rfl, lists⟩ := answers
      obtain ⟨others, rfl, others⟩ := also
      rw [lists.unique others]

/-- A call changes at most the version of the record that it is about. -/
theorem after_of_ne {id : ExecutionId} (different : call.id? ≠ some id) :
    ledger.after call id = ledger id := by
  cases call with
  | load | list => rfl
  | create record | save record =>
      have other : id ≠ record.id := fun same => different (congrArg some same.symm)
      exact Function.update_of_ne other _ _

section Writes

variable {record : Execution} {version : Versioned} {expected : Revision}

theorem update_of_eq {id : ExecutionId} {cell : Cell} (held : ledger id = cell) :
    Function.update ledger id cell = ledger := by
  rw [← held, Function.update_eq_self]

theorem after_create_of_none (absent : ledger record.id = none) :
    ledger.after (.create record) = Function.update ledger record.id (some ⟨record, .first⟩) := by
  rw [after, absent]
  rfl

theorem after_create_of_some (held : ledger record.id = some version) :
    ledger.after (.create record) = ledger := by
  rw [after, held]
  exact update_of_eq held

theorem after_save_of_none (absent : ledger record.id = none) :
    ledger.after (.save record expected) = ledger := by
  rw [after, absent]
  exact update_of_eq absent

theorem after_save_of_eq (held : ledger record.id = some version)
    (same : version.revision = expected) : ledger.after (.save record expected) =
      Function.update ledger record.id (some ⟨record, expected.next⟩) := by
  rw [after, held, Cell.save, if_neg (not_not_intro same)]

theorem after_save_of_ne (held : ledger record.id = some version)
    (moved : version.revision ≠ expected) : ledger.after (.save record expected) = ledger := by
  rw [after, held, Cell.save, if_pos moved]
  exact update_of_eq held

end Writes

/-- A call that is refused changes nothing. -/
theorem after_of_refused {error : StoreError} (answers : ledger.Answers call answer)
    (refused : answer.refusal? = some error) : ledger.after call = ledger := by
  cases call with
  | load | list => rfl
  | create record =>
      subst answers
      cases held : ledger record.id with
      | none => simp [held, Cell.create, Answer.refusal?] at refused
      | some version => exact after_create_of_some held
  | save record expected =>
      subst answers
      cases held : ledger record.id with
      | none => exact after_save_of_none held
      | some version =>
          by_cases moved : version.revision = expected
          · simp [held, Cell.save, moved, Answer.refusal?] at refused
          · exact after_save_of_ne held moved

/-! ## Histories -/

theorem replaced_concat (id : ExecutionId) (history : List (Call × Answer))
    (step : Call × Answer) :
    replaced id (history ++ [step]) = replaced id history ++ (replacedBy? id step).toList := by
  rw [replaced, List.filterMap_append]
  cases replaced : replacedBy? id step <;> simp [replaced, Store.replaced]

/-- A cell behind the saves that replaced some revisions: nothing was saved where there is no
record, and the revision of one is behind all revisions that were replaced. -/
inductive Reflects (id : ExecutionId) : Cell → List Nat → Prop where
  | absent : Reflects id none []
  | held {record : Execution} (count : Nat) (own : record.id = id) :
      Reflects id (some ⟨record, ⟨count + 1⟩⟩) (List.range' 1 count)

variable {history : List (Call × Answer)} {record : Execution} {cell : Cell} {numbers : List Nat}

theorem Reflects.create (reflects : Reflects record.id cell numbers) :
    Reflects record.id (Cell.create record cell).2 numbers := by
  cases reflects with
  | absent => exact .held 0 rfl
  | held count own => exact .held count own

theorem Reflects.save (reflects : Reflects record.id cell numbers) (expected : Revision) :
    Reflects record.id (Cell.save record expected cell).2 (numbers ++ (replacedBy? record.id
      (.save record expected, .written (Cell.save record expected cell).1)).toList) := by
  cases reflects with
  | absent => exact .absent
  | @held former count own =>
      by_cases moved : (⟨count + 1⟩ : Revision) = expected
      · subst moved
        have chain : List.range' 1 (count + 1) = List.range' 1 count ++ [count + 1] := by
          rw [List.range'_1_concat, Nat.add_comm 1 count]
        simp only [Cell.save, ne_eq, not_true, if_false, replacedBy?, if_true, Option.toList_some]
        rw [← chain]
        exact .held (count + 1) rfl
      · simp only [Cell.save, ne_eq, moved, not_false_eq_true, if_true, replacedBy?,
          Option.toList_none, List.append_nil]
        exact .held count own

/-- A call at one identifier replaces no revision at another one. -/
theorem replacedBy?_of_ne {id : ExecutionId} (different : call.id? ≠ some id) :
    replacedBy? id (call, answer) = none := by
  cases call with
  | create | load | list => rfl
  | save record expected =>
      have other : record.id ≠ id := fun same => different (congrArg some same)
      unfold replacedBy?
      split
      next same =>
        cases same
        exact if_neg other
      next => rfl

/-- Calls keep the ledger behind the history. -/
theorem reflects_after {ledger : Ledger}
    (reflects : ∀ id, Reflects id (ledger id) (replaced id history))
    (answers : ledger.Answers call answer) (id : ExecutionId) :
    Reflects id (ledger.after call id) (replaced id (history ++ [(call, answer)])) := by
  have before := reflects id
  rw [replaced_concat]
  by_cases concerned : call.id? = some id
  · cases call with
    | create record =>
        cases concerned
        rw [after, Function.update_self]
        simpa [replacedBy?] using before.create
    | load => simpa [after, replacedBy?] using before
    | save record expected =>
        cases concerned
        cases answers
        rw [after, Function.update_self]
        exact before.save expected
    | list => cases concerned
  · rw [after_of_ne concerned, replacedBy?_of_ne concerned, Option.toList_none, List.append_nil]
    exact before

end Ledger

end Flowline.Store
