import Flowline.Execution

/-!
# Stores of execution records

Records are kept under their identifiers with a revision that counts their
writes.  A writer names the revision that it has read; if the record has moved
on since, the write is refused and the writer has to read again.
-/

namespace Flowline

/-- The count of the writes of a record. -/
structure Revision where
  number : Nat
  deriving DecidableEq, Repr

namespace Revision

/-- The revision of a record that was just created. -/
def first : Revision := ⟨1⟩

/-- The revision after one more write. -/
def next (revision : Revision) : Revision := ⟨revision.number + 1⟩

end Revision

/-- A record and its revision. -/
structure Versioned where
  record : Execution
  revision : Revision
  deriving DecidableEq, Repr

/-- Why a store refuses. -/
inductive StoreError where
  | notFound (id : ExecutionId)
  | alreadyExists (id : ExecutionId)
  | conflict (id : ExecutionId) (expected actual : Nat)
  | storage (reason : String)
  | serialization (reason : String)
  deriving DecidableEq, Repr

def StoreError.message : StoreError → String
  | notFound id => s!"execution not found: {id.display}"
  | alreadyExists id => s!"execution already exists: {id.display}"
  | conflict id expected actual =>
      s!"revision conflict on {id.display}: expected {expected}, found {actual}"
  | storage reason => s!"storage I/O error: {reason}"
  | serialization reason => s!"serialization error: {reason}"

end Flowline
