import Flowline.Engine.Surroundings
import Flowline.Proofs.Program.Interleaving
import Flowline.Store.Memory

/-!
# Atomic stores

Seen at one identifier, an atomic store is a cell: it holds one record or none,
every call is one step, and a call fails only because of what the cell holds.
What a call for one identifier does to the records of others is left open.
-/

namespace Flowline

namespace Engine

/-- The version that a write leaves in the store, if it is accepted. -/
def written? : Event surroundings → Option Versioned
  | ⟨.create record, .ok revision⟩ => some ⟨record, revision⟩
  | ⟨.save record _, .ok revision⟩ => some ⟨record, revision⟩
  | _ => none

/-- A request that is about no record but the one with an identifier. -/
def Request.Concerns (id : ExecutionId) : Request → Prop
  | .create record => record.id = id
  | .load other => other = id
  | .save record _ => record.id = id
  | .now | .sleep _ | .attempt _ => True

end Engine

open Engine

/-- What a store holds under one identifier. -/
abbrev Cell := Option Versioned

namespace Cell

/-- Keep a new record, if there is none. -/
def create (record : Execution) : Cell → Except StoreError Revision × Cell
  | some held => (.error (.alreadyExists record.id), some held)
  | none => (.ok .first, some ⟨record, .first⟩)

/-- The record that is held. -/
def load (id : ExecutionId) : Cell → Except StoreError Versioned
  | some held => .ok held
  | none => .error (.notFound id)

/-- Replace the record, if its revision is the expected one. -/
def save (record : Execution) (expected : Revision) : Cell → Except StoreError Revision × Cell
  | none => (.error (.notFound record.id), none)
  | some held =>
      if held.revision ≠ expected then
        (.error (.conflict record.id expected.number held.revision.number), some held)
      else (.ok expected.next, some ⟨record, expected.next⟩)

/-- A write that is accepted, and the version that it leaves. -/
def Succeeds (cell : Cell) : Request → Versioned → Prop
  | .create record, version => cell = none ∧ version = ⟨record, .first⟩
  | .save record expected, version =>
      ∃ held, cell = some held ∧ held.revision = expected ∧ version = ⟨record, expected.next⟩
  | _, _ => False

end Cell

/-- A store that is a cell at every identifier. -/
structure AtomicStore (σ : Type) where
  create : Execution → σ → Except StoreError Revision × σ
  load : ExecutionId → σ → Except StoreError Versioned
  save : Execution → Revision → σ → Except StoreError Revision × σ
  cell : ExecutionId → σ → Cell
  create_eq : ∀ record state, (create record state).map id (cell record.id) =
    Cell.create record (cell record.id state)
  load_eq : ∀ id state, load id state = Cell.load id (cell id state)
  save_eq : ∀ record expected state, (save record expected state).map id (cell record.id) =
    Cell.save record expected (cell record.id state)

/-- The store in memory is atomic. -/
def Store.Memory.atomic : AtomicStore Store.Memory where
  create := create
  load := load
  save := save
  cell id := Keyed.get? id.display
  create_eq record memory := by
    unfold create Cell.create
    cases found : Keyed.get? record.id.display memory <;> simp [found]
  load_eq id memory := by
    unfold load Cell.load
    cases Keyed.get? id.display memory <;> rfl
  save_eq record expected memory := by
    unfold save Cell.save
    cases found : Keyed.get? record.id.display memory with
    | none => simp [found]
    | some held => by_cases same : held.revision = expected <;> simp [found, same]

namespace AtomicStore

variable {σ : Type} (store : AtomicStore σ) (refuses : StoreError → Prop)

/-- A call that fails for a reason that lies outside the store's contents, and
changes nothing. -/
def Refused {α : Type} (reply : Except StoreError α) (before after : σ) : Prop :=
  after = before ∧ ∃ error, refuses error ∧ reply = .error error

/-- The store answers for itself or refuses.  The clock, the time slept and the
attempts at nodes may come out as they like, but leave the store alone. -/
def answers : Answering surroundings σ
  | .now, before, _, after => after = before
  | .sleep _, before, _, after => after = before
  | .attempt _, before, _, after => after = before
  | .create record, before, reply, after =>
      (reply, after) = store.create record before ∨ Refused refuses reply before after
  | .load id, before, reply, after =>
      (reply = store.load id before ∧ after = before) ∨ Refused refuses reply before after
  | .save record expected, before, reply, after =>
      (reply, after) = store.save record expected before ∨ Refused refuses reply before after

theorem answers_total (asked : Request) (state : σ) :
    ∃ reply after, store.answers refuses asked state reply after := by
  cases asked with
  | now => exact ⟨⟨0, 0⟩, state, rfl⟩
  | sleep milliseconds => exact ⟨(), state, rfl⟩
  | create record => exact ⟨_, _, .inl rfl⟩
  | load id => exact ⟨_, state, .inl ⟨rfl, rfl⟩⟩
  | save record expected => exact ⟨_, _, .inl rfl⟩
  | attempt attempt => exact ⟨none, state, rfl⟩

variable {store refuses} {id : ExecutionId} {before after : σ}

/-- A request either leaves the cell as it is or is a write that succeeds. -/
theorem answers_cell {asked : Request} {reply : Reply asked} (concerns : asked.Concerns id)
    (allowed : store.answers refuses asked before reply after) :
    (written? ⟨asked, reply⟩ = none ∧ store.cell id after = store.cell id before) ∨
      ∃ version, written? ⟨asked, reply⟩ = some version ∧ store.cell id after = some version ∧
        Cell.Succeeds (store.cell id before) asked version := by
  cases asked with
  | now | sleep milliseconds | attempt attempt =>
      subst allowed
      exact .inl ⟨rfl, rfl⟩
  | load other =>
      left
      rcases allowed with ⟨-, rfl⟩ | ⟨rfl, -⟩
      · exact ⟨rfl, rfl⟩
      · exact ⟨rfl, rfl⟩
  | create record =>
      subst concerns
      rcases allowed with result | ⟨rfl, error, -, rfl⟩
      · have same := store.create_eq record before
        rw [← result, Prod.map_apply, id_eq] at same
        cases cell : store.cell record.id before with
        | none =>
            rw [cell, Cell.create, Prod.mk.injEq] at same
            obtain ⟨rfl, left⟩ := same
            exact .inr ⟨_, rfl, left, rfl, rfl⟩
        | some held =>
            rw [cell, Cell.create, Prod.mk.injEq] at same
            obtain ⟨rfl, left⟩ := same
            exact .inl ⟨rfl, left⟩
      · exact .inl ⟨rfl, rfl⟩
  | save record expected =>
      subst concerns
      rcases allowed with result | ⟨rfl, error, -, rfl⟩
      · have same := store.save_eq record expected before
        rw [← result, Prod.map_apply, id_eq] at same
        cases cell : store.cell record.id before with
        | none =>
            rw [cell, Cell.save, Prod.mk.injEq] at same
            obtain ⟨rfl, left⟩ := same
            exact .inl ⟨rfl, left⟩
        | some held =>
            rw [cell, Cell.save] at same
            by_cases moved : held.revision = expected
            · subst moved
              simp only [ne_eq, not_true, if_false, Prod.mk.injEq] at same
              obtain ⟨rfl, left⟩ := same
              exact .inr ⟨_, rfl, left, held, rfl, rfl, rfl⟩
            · simp only [ne_eq, moved, not_false_eq_true, if_true, Prod.mk.injEq] at same
              obtain ⟨rfl, left⟩ := same
              exact .inl ⟨rfl, left⟩
      · exact .inl ⟨rfl, rfl⟩

/-- A record that is new to the store is created. -/
theorem create_of_none {record : Execution} {state : σ}
    (none : store.cell record.id state = none) :
    (store.create record state).1 = .ok .first ∧
      store.cell record.id (store.create record state).2 = some ⟨record, .first⟩ := by
  have same := store.create_eq record state
  rw [none, Cell.create] at same
  exact ⟨congrArg Prod.fst same, congrArg Prod.snd same⟩

/-- A record whose revision is known is saved. -/
theorem save_of_some {record : Execution} {held : Versioned} {state : σ}
    (holds : store.cell record.id state = some held) :
    (store.save record held.revision state).1 = .ok held.revision.next ∧
      store.cell record.id (store.save record held.revision state).2 =
        some ⟨record, held.revision.next⟩ := by
  have same := store.save_eq record held.revision state
  rw [holds, Cell.save, if_neg (by simp)] at same
  exact ⟨congrArg Prod.fst same, congrArg Prod.snd same⟩

/-- The reply to a call is due to what the cell holds, or the call was refused. -/
def Due {α : Type} (refuses : StoreError → Prop) (due reply : Except StoreError α) : Prop :=
  reply = due ∨ ∃ error, refuses error ∧ reply = .error error

theorem answers_create_due {record : Execution} {reply : Except StoreError Revision}
    (allowed : store.answers refuses (.create record) before reply after) :
    Due refuses (Cell.create record (store.cell record.id before)).1 reply := by
  refine allowed.imp (fun result => ?_) And.right
  rw [← store.create_eq, ← result]
  rfl

theorem answers_load_due {reply : Except StoreError Versioned}
    (allowed : store.answers refuses (.load id) before reply after) :
    Due refuses (Cell.load id (store.cell id before)) reply := by
  refine allowed.imp (fun result => ?_) And.right
  rw [← store.load_eq, result.1]

theorem answers_save_due {record : Execution} {expected : Revision}
    {reply : Except StoreError Revision}
    (allowed : store.answers refuses (.save record expected) before reply after) :
    Due refuses (Cell.save record expected (store.cell record.id before)).1 reply := by
  refine allowed.imp (fun result => ?_) And.right
  rw [← store.save_eq, ← result]
  rfl

theorem load_eq_ok {state : σ} {held : Versioned} :
    store.load id state = .ok held ↔ store.cell id state = some held := by
  rw [store.load_eq]
  cases store.cell id state <;> simp [Cell.load]

theorem load_eq_error {state : σ} {error : StoreError} :
    store.load id state = .error error ↔ store.cell id state = none ∧ error = .notFound id := by
  rw [store.load_eq]
  cases store.cell id state <;> simp [Cell.load, eq_comm]

/-- A record that is read is the one that is held. -/
theorem cell_of_load {held : Versioned}
    (allowed : store.answers refuses (.load id) before (.ok held) after) :
    store.cell id before = some held := by
  rcases answers_load_due allowed with same | ⟨error, -, same⟩
  · rw [← store.load_eq] at same
    exact load_eq_ok.mp same.symm
  · cases same

end AtomicStore

end Flowline
