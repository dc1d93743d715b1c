import Flowline.Store.Folder
import Flowline.Store.Memory

/-!
# Stores

A store keeps records either in memory or in a folder; both answer alike.
-/

namespace Flowline

/-- A store and what it holds. -/
inductive Store where
  | memory (records : Store.Memory)
  | folder (entries : Store.Folder)
  deriving Repr

namespace Store

/-- An empty store by the name of its kind. -/
def empty (kind : String) : Store :=
  if kind = "file" then folder [] else memory []

def create (record : Execution) : Store → Except StoreError Revision × Store
  | memory records =>
      let (reply, records) := Memory.create record records
      (reply, memory records)
  | folder entries =>
      let (reply, entries) := Folder.create record entries
      (reply, folder entries)

def load (id : ExecutionId) : Store → Except StoreError Versioned
  | memory records => Memory.load id records
  | folder entries => Folder.load id entries

def save (record : Execution) (expected : Revision) : Store → Except StoreError Revision × Store
  | memory records =>
      let (reply, records) := Memory.save record expected records
      (reply, memory records)
  | folder entries =>
      let (reply, entries) := Folder.save record expected entries
      (reply, folder entries)

def list (workflowId : WorkflowId) : Store → Except StoreError (List Execution)
  | memory records => .ok (Memory.list workflowId records)
  | folder entries => Folder.list workflowId entries

end Store

end Flowline
