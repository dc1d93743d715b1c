import Flowline.Store.Document

/-!
# The store in a folder

Every record is a document of its own, named for its identifier.  Whoever writes
a record holds the lock of that name, so that writers who share the folder see
each other's revisions.  The folder is made by the first write; one that is not
there holds nothing.
-/

namespace Flowline.Store

/-- What a name in a folder stands for. -/
inductive Folder.Entry where
  | file (text : String)
  | folder
  deriving DecidableEq, Repr

/-- The entries of a folder under their names. -/
abbrev Folder := Keyed Folder.Entry

namespace Folder

/-- What is said of a folder that is opened as a file. -/
def notAFile : StoreError := .storage "Is a directory (os error 21)"

/-- What is said of a text that is no stored document. -/
def unreadable : StoreError := .serialization "unreadable document"

def documentName (id : ExecutionId) : String := id.display ++ ".json"

def lockName (id : ExecutionId) : String := id.display ++ ".lock"

/-- Whether a name is that of a document: it ends in `.json` and has something
in front of that. -/
def isDocumentName (name : String) : Bool :=
  let ending := ".json".toList
  ending.isSuffixOf name.toList && ending.length < name.toList.length

/-- Read the document under an entry. -/
def Entry.read : Entry → Except StoreError Versioned
  | file text =>
      match Versioned.ofText? text with
      | some versioned => .ok versioned
      | none => .error unreadable
  | folder => .error notAFile

/-- The record with an identifier. -/
def load (id : ExecutionId) (folder : Folder) : Except StoreError Versioned :=
  match Keyed.get? (documentName id) folder with
  | some entry => entry.read
  | none => .error (.notFound id)

/-- Hold the lock of a record while something is done. -/
def locked {α : Type} (id : ExecutionId) (act : Folder → Except StoreError α × Folder)
    (folder : Folder) : Except StoreError α × Folder :=
  match Keyed.get? (lockName id) folder with
  | some .folder => (.error notAFile, folder)
  | some (.file _) => act folder
  | none => act (Keyed.insert (lockName id) (.file "") folder)

/-- Put a document in its place. -/
def write (versioned : Versioned) (folder : Folder) : Folder :=
  Keyed.insert (documentName versioned.record.id) (.file versioned.toText) folder

/-- Keep a new record. -/
def create (record : Execution) : Folder → Except StoreError Revision × Folder :=
  locked record.id fun folder =>
    match Keyed.get? (documentName record.id) folder with
    | some _ => (.error (.alreadyExists record.id), folder)
    | none => (.ok .first, write ⟨record, .first⟩ folder)

/-- Replace a record, if its revision is the expected one. -/
def save (record : Execution) (expected : Revision) :
    Folder → Except StoreError Revision × Folder :=
  locked record.id fun folder =>
    match load record.id folder with
    | .error error => (.error error, folder)
    | .ok held =>
        if held.revision ≠ expected then
          (.error (.conflict record.id expected.number held.revision.number), folder)
        else (.ok expected.next, write ⟨record, expected.next⟩ folder)

/-- The records in all documents of a folder. -/
def readAll : Folder → Except StoreError (List Execution)
  | [] => .ok []
  | (name, entry) :: rest =>
      if isDocumentName name then
        match entry.read, readAll rest with
        | .ok held, .ok records => .ok (held.record :: records)
        | .error error, _ => .error error
        | _, .error error => .error error
      else readAll rest

/-- The records of a workflow in the order of their identifiers. -/
def list (workflowId : WorkflowId) (folder : Folder) : Except StoreError (List Execution) :=
  (readAll folder).map fun records =>
    (records.filter fun record => record.workflowId = workflowId).mergeSort fun left right =>
      !right.id.ulid.before left.id.ulid

/-- Put a text under a name. -/
def putText? (name text : String) (folder : Folder) : Option Folder :=
  match Keyed.get? name folder with
  | some .folder => none
  | _ => some (Keyed.insert name (.file text) folder)

/-- Remove the text under a name. -/
def dropText? (name : String) (folder : Folder) : Option Folder :=
  match Keyed.get? name folder with
  | some (.file _) => some (Keyed.erase name folder)
  | _ => none

/-- See to it that a name is that of a folder. -/
def putFolder? (name : String) (folder : Folder) : Option Folder :=
  match Keyed.get? name folder with
  | some (.file _) => none
  | _ => some (Keyed.insert name .folder folder)

end Folder

end Flowline.Store
