import Flowline.Keyed
import Flowline.Store.Basic

/-!
# The store in memory

Records under the display forms of their identifiers, which sort as the
identifiers do.
-/

namespace Flowline.Store

/-- The records that are kept. -/
abbrev Memory := Keyed Versioned

namespace Memory

/-- Keep a new record. -/
def create (record : Execution) (memory : Memory) : Except StoreError Revision × Memory :=
  match Keyed.get? record.id.display memory with
  | some _ => (.error (.alreadyExists record.id), memory)
  | none => (.ok .first, Keyed.insert record.id.display ⟨record, .first⟩ memory)

/-- The record with an identifier. -/
def load (id : ExecutionId) (memory : Memory) : Except StoreError Versioned :=
  match Keyed.get? id.display memory with
  | some held => .ok held
  | none => .error (.notFound id)

/-- Replace a record, if its revision is the expected one. -/
def save (record : Execution) (expected : Revision) (memory : Memory) :
    Except StoreError Revision × Memory :=
  match Keyed.get? record.id.display memory with
  | none => (.error (.notFound record.id), memory)
  | some held =>
      if held.revision ≠ expected then
        (.error (.conflict record.id expected.number held.revision.number), memory)
      else
        (.ok expected.next, Keyed.insert record.id.display ⟨record, expected.next⟩ memory)

/-- The records of a workflow in the order of their identifiers. -/
def list (workflowId : WorkflowId) (memory : Memory) : List Execution :=
  (memory.map fun entry => entry.2.record).filter fun record => record.workflowId = workflowId

end Memory

end Flowline.Store
