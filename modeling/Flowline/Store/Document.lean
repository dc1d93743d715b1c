import Flowline.Execution.Document
import Flowline.Json.Printer
import Flowline.Store.Basic

/-!
# Stored documents

A record is stored as one document: a tag for its type, its revision, and beside
them the fields of the record.
-/

namespace Flowline

open Json (Document)
open Json.Document

namespace Versioned

/-- The tag of the documents that hold records. -/
def tag : String := "execution"

def encode (versioned : Versioned) : Json :=
  presentMembers ([("type", some (.string tag)),
    ("revision", some (.ofNat versioned.revision.number))] ++ versioned.record.encodeFields)

/-- Read a stored document.  The fields of the record are set aside until its
revision is known, so the whole document must be readable; the tag may be any
text. -/
def decode? (document : Document) : Option Versioned := do
  let record ← match document with
    | object members =>
        if readableMembers members then
          (object members).record? (["type", "revision"] ++ Execution.fieldNames)
        else none
    | _ => none
  let _ ← record.required "type" text?
  let revision ← record.required "revision" count64?
  some ⟨← Execution.decodeRecord? true record, ⟨revision⟩⟩

/-- The text that is stored. -/
def toText (versioned : Versioned) : String := versioned.encode.indented

/-- Read a stored text. -/
def ofText? (text : String) : Option Versioned :=
  (Document.parse? text).bind decode?

end Versioned

end Flowline
