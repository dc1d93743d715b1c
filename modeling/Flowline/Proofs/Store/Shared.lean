import Flowline.Proofs.Store.Atomic
import Flowline.Proofs.Store.Memory

/-!
# Shared stores

A store that many runs share serves each of them as a cell of its own: what is asked about
one record is due to the version under its identifier, and touches no other one.  Beside it
stand the handlers, whose outcomes are told by the node and the context that they are given.
-/

namespace Flowline

open Engine

/-- What handlers make of a node in a context; nothing, if they take too long. -/
abbrev Handling := Node → Context → Option (Except NodeError Json)

/-- An attempt comes out as the handlers say. -/
def Handling.Tells (handling : Handling) : (asked : Request) → Reply asked → Prop
  | .attempt attempt, reply => reply = handling attempt.node attempt.context
  | .now, _ | .sleep _, _ | .create _, _ | .load _, _ | .save _ _, _ => True

/-- A store that refuses nothing, beside handlers.  The clock may show anything. -/
def AtomicStore.serves {σ : Type} (store : AtomicStore σ) (handling : Handling) :
    Answering surroundings σ := fun asked before reply after =>
  store.answers (fun _ => False) asked before reply after ∧ handling.Tells asked reply

/-- A single cell is an atomic store, if nobody asks for more than one record. -/
def Cell.atomic : AtomicStore Cell where
  create := create
  load := load
  save := save
  cell _ := id
  create_eq _ _ := rfl
  load_eq _ _ := rfl
  save_eq _ _ _ := rfl

/-- An atomic store of many records: a write leaves the other records alone, and the records
of a workflow are listed once each. -/
structure SharedStore (σ : Type) extends AtomicStore σ where
  list : WorkflowId → σ → Except StoreError (List Execution)
  empty : σ
  /-- What holds of the store from the empty one on. -/
  Orderly : σ → Prop
  cell_empty : ∀ id, cell id empty = none
  orderly_empty : Orderly empty
  orderly_create : ∀ record state, Orderly state → Orderly (create record state).2
  orderly_save : ∀ record expected state, Orderly state → Orderly (save record expected state).2
  create_other : ∀ record state other, other ≠ record.id →
    cell other (create record state).2 = cell other state
  save_other : ∀ record expected state other, other ≠ record.id →
    cell other (save record expected state).2 = cell other state
  list_eq : ∀ workflowId state, Orderly state → ∃ records, list workflowId state = .ok records ∧
    Store.Ledger.Lists (fun id => cell id state) workflowId records

namespace Store.Memory

theorem get?_insert_of_ne {id other : ExecutionId} (different : other ≠ id) (version : Versioned)
    (memory : Memory) :
    Keyed.get? other.display (Keyed.insert id.display version memory) =
      Keyed.get? other.display memory :=
  Keyed.get?_insert_of_ne (fun same => different (Ident.display_injective same)) _ _

/-- The store in memory is shared. -/
def shared : SharedStore Memory where
  toAtomicStore := atomic
  list workflowId memory := .ok (list workflowId memory)
  empty := []
  Orderly memory := ∃ ledger, memory.Keeps ledger
  cell_empty _ := rfl
  orderly_empty := ⟨_, keeps_nil⟩
  orderly_create record memory := by
    rintro ⟨ledger, keeps⟩
    exact ⟨_, (create_keeps keeps record).2⟩
  orderly_save record expected memory := by
    rintro ⟨ledger, keeps⟩
    exact ⟨_, (save_keeps keeps record expected).2⟩
  create_other record memory other different := by
    simp only [atomic, create]
    split
    · rfl
    · exact get?_insert_of_ne different _ _
  save_other record expected memory other different := by
    simp only [atomic, save]
    split
    · rfl
    · split
      · rfl
      · exact get?_insert_of_ne different _ _
  list_eq workflowId memory := by
    rintro ⟨ledger, keeps⟩
    refine ⟨_, rfl, ?_⟩
    have told : (fun id => atomic.cell id memory) = ledger := funext keeps.found
    rw [told]
    exact list_keeps keeps workflowId

end Store.Memory

/-! ## One cell at a time -/

namespace AtomicStore

variable {σ : Type} {store : AtomicStore σ} {handling : Handling} {id : ExecutionId}
  {asked : Request} {reply : Reply asked} {before after : σ}

theorem serves_total (asked : Request) (state : σ) :
    ∃ reply after, store.serves handling asked state reply after := by
  cases asked with
  | attempt attempt => exact ⟨_, state, rfl, rfl⟩
  | now | sleep | create | load | save =>
      obtain ⟨reply, after, answers⟩ := store.answers_total (fun _ => False) _ state
      exact ⟨reply, after, answers, trivial⟩

theorem not_refused {α : Type} {reply : Except StoreError α} :
    ¬ Refused (fun _ => False) reply before after := by
  rintro ⟨-, _, none, -⟩
  exact none

/-- What a store serves, its cell serves. -/
theorem serves_cell (concerns : asked.Concerns id)
    (serves : store.serves handling asked before reply after) :
    Cell.atomic.serves handling asked (store.cell id before) reply (store.cell id after) := by
  refine ⟨?_, serves.2⟩
  cases asked with
  | now | sleep | attempt => exact congrArg (store.cell id) serves.1
  | create record =>
      subst concerns
      have served := serves.1.resolve_right not_refused
      refine .inl ((?_ : _ = _).trans (store.create_eq record before))
      rw [← served]
      rfl
  | load other =>
      subst concerns
      obtain ⟨served, same⟩ := serves.1.resolve_right not_refused
      exact .inl ⟨served.trans (store.load_eq _ _), congrArg _ same⟩
  | save record expected =>
      subst concerns
      have served := serves.1.resolve_right not_refused
      refine .inl ((?_ : _ = _).trans (store.save_eq record expected before))
      rw [← served]
      rfl

/-- What its cell serves, a store serves. -/
theorem exists_serves {cell : Cell} (concerns : asked.Concerns id)
    (serves : Cell.atomic.serves handling asked (store.cell id before) reply cell) :
    ∃ after, store.serves handling asked before reply after ∧ store.cell id after = cell := by
  obtain ⟨answers, tells⟩ := serves
  cases asked with
  | now | sleep | attempt =>
      cases answers
      exact ⟨before, ⟨rfl, tells⟩, rfl⟩
  | create record =>
      subst concerns
      have served : (reply, cell) = Cell.create record (store.cell record.id before) :=
        answers.resolve_right not_refused
      rw [← store.create_eq, Prod.map_apply, Prod.mk.injEq] at served
      obtain ⟨rfl, rfl⟩ := served
      exact ⟨_, ⟨.inl rfl, trivial⟩, rfl⟩
  | load other =>
      subst concerns
      obtain ⟨served, rfl⟩ := answers.resolve_right not_refused
      exact ⟨before, ⟨.inl ⟨served.trans (store.load_eq _ _).symm, rfl⟩, trivial⟩, rfl⟩
  | save record expected =>
      subst concerns
      have served : (reply, cell) = Cell.save record expected (store.cell record.id before) :=
        answers.resolve_right not_refused
      rw [← store.save_eq, Prod.map_apply, Prod.mk.injEq] at served
      obtain ⟨rfl, rfl⟩ := served
      exact ⟨_, ⟨.inl rfl, trivial⟩, rfl⟩

end AtomicStore

namespace SharedStore

variable {σ : Type} {store : SharedStore σ} {handling : Handling} {id other : ExecutionId}
  {asked : Request} {reply : Reply asked} {before after : σ}

/-- What is asked about one record leaves the others alone. -/
theorem cell_other (concerns : asked.Concerns id) (different : other ≠ id)
    (serves : store.serves handling asked before reply after) :
    store.cell other after = store.cell other before := by
  obtain ⟨answers, -⟩ := serves
  cases asked with
  | now | sleep | attempt => exact congrArg (store.cell other) answers
  | create record =>
      subst concerns
      have served := answers.resolve_right AtomicStore.not_refused
      rw [← store.create_other record before other different, ← served]
  | load _ =>
      obtain ⟨-, rfl⟩ := answers.resolve_right AtomicStore.not_refused
      rfl
  | save record expected =>
      subst concerns
      have served := answers.resolve_right AtomicStore.not_refused
      rw [← store.save_other record expected before other different, ← served]

theorem orderly_after (orderly : store.Orderly before)
    (serves : store.serves handling asked before reply after) : store.Orderly after := by
  obtain ⟨answers, -⟩ := serves
  cases asked with
  | now | sleep | attempt =>
      cases answers
      exact orderly
  | create record =>
      have kept := store.orderly_create record before orderly
      rwa [← answers.resolve_right AtomicStore.not_refused] at kept
  | load _ =>
      obtain ⟨-, rfl⟩ := answers.resolve_right AtomicStore.not_refused
      exact orderly
  | save record expected =>
      have kept := store.orderly_save record expected before orderly
      rwa [← answers.resolve_right AtomicStore.not_refused] at kept

end SharedStore

end Flowline
