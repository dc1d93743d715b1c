import Flowline.Proofs.Ident
import Flowline.Proofs.Keyed
import Flowline.Proofs.Store.Ledger

/-!
# The ledger of the store in memory

The store in memory keeps its ledger under the display forms of the identifiers.
-/

namespace Flowline.Store.Memory

/-- A memory that holds the versions of a ledger, each under the name of its identifier. -/
structure Keeps (memory : Memory) (ledger : Ledger) : Prop where
  ascending : Keyed.Ascending memory
  named : ∀ entry ∈ memory, entry.1 = entry.2.record.id.display
  found : ∀ id, Keyed.get? id.display memory = ledger id

theorem keeps_nil : Keeps [] fun _ => none := ⟨List.Pairwise.nil, nofun, fun _ => rfl⟩

variable {memory : Memory} {ledger : Ledger}

theorem Keeps.insert (keeps : memory.Keeps ledger) (version : Versioned) :
    Keeps (Keyed.insert version.record.id.display version memory)
      (Function.update ledger version.record.id (some version)) where
  ascending := keeps.ascending.insert _ _
  named entry member := by
    rcases Keyed.mem_insert member with rfl | member
    · rfl
    · exact keeps.named entry member
  found id := by
    by_cases same : id = version.record.id
    · rw [same, Keyed.get?_insert_self, Function.update_self]
    · have other : id.display ≠ version.record.id.display :=
        fun names => same (Ident.display_injective names)
      rw [Keyed.get?_insert_of_ne other, Function.update_of_ne same, keeps.found]

theorem create_keeps (keeps : memory.Keeps ledger) (record : Execution) :
    (create record memory).1 = (Cell.create record (ledger record.id)).1 ∧
      (create record memory).2.Keeps (ledger.after (.create record)) := by
  rw [create, keeps.found]
  cases held : ledger record.id with
  | none =>
      rw [Ledger.after_create_of_none held]
      exact ⟨rfl, keeps.insert ⟨record, .first⟩⟩
  | some version =>
      rw [Ledger.after_create_of_some held]
      exact ⟨rfl, keeps⟩

theorem save_keeps (keeps : memory.Keeps ledger) (record : Execution) (expected : Revision) :
    (save record expected memory).1 = (Cell.save record expected (ledger record.id)).1 ∧
      (save record expected memory).2.Keeps (ledger.after (.save record expected)) := by
  rw [save, keeps.found]
  cases held : ledger record.id with
  | none =>
      rw [Ledger.after_save_of_none held]
      exact ⟨rfl, keeps⟩
  | some version =>
      by_cases same : version.revision = expected
      · rw [Ledger.after_save_of_eq held same]
        simp only [Cell.save, same, ne_eq, not_true, if_false]
        exact ⟨trivial, keeps.insert ⟨record, expected.next⟩⟩
      · rw [Ledger.after_save_of_ne held same]
        simp only [Cell.save, same, ne_eq, not_false_eq_true, if_true]
        exact ⟨trivial, keeps⟩

theorem load_keeps (keeps : memory.Keeps ledger) (id : ExecutionId) :
    load id memory = Cell.load id (ledger id) := by
  rw [load, keeps.found]
  cases ledger id <;> rfl

theorem list_keeps (keeps : memory.Keeps ledger) (workflowId : WorkflowId) :
    ledger.Lists workflowId (list workflowId memory) := by
  have ordered : (memory.map Prod.snd).Pairwise fun left right =>
      left.record.id.ulid.before right.record.id.ulid = true := by
    rw [List.pairwise_map]
    refine keeps.ascending.imp_of_mem fun {left right} first second before => ?_
    rw [keeps.named left first, keeps.named right second] at before
    exact Ident.display_lt_iff.mp before
  have members (version : Versioned) :
      version ∈ memory.map Prod.snd ↔ ledger version.record.id = some version := by
    rw [List.mem_map, ← keeps.found]
    constructor
    · rintro ⟨⟨key, held⟩, member, rfl⟩
      have name : key = held.record.id.display := keeps.named _ member
      subst name
      exact keeps.ascending.get? member
    · intro held
      exact ⟨_, Keyed.mem_of_get? held, rfl⟩
  have lists := Ledger.lists_of_versions ordered members workflowId
  rwa [List.map_map] at lists

end Flowline.Store.Memory
