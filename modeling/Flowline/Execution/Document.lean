import Flowline.Workflow.Document

/-!
# Execution documents

How the record of a run is written as JSON and read back.  What is not set is
left out.
-/

namespace Flowline

open Json (Document)
open Json.Document

def Execution.Status.decode? (setAside : Bool) : Document → Option Execution.Status :=
  oneOf? setAside (namesOf name all)

namespace LogLine

def decode? (setAside : Bool) (document : Document) : Option LogLine := do
  let record ← document.record? ["timestamp", "level", "message", "nodeId"]
  some
    { timestamp := ← record.required "timestamp" Instant.decode?
      level := ← record.required "level" (LogLevel.decode? setAside)
      message := ← record.required "message" text?
      nodeId := ← record.optional "nodeId" text? }

def encode (line : LogLine) : Json := presentMembers [
  ("timestamp", some line.timestamp.encode), ("level", some (.string line.level.name)),
  ("message", some (.string line.message)), ("nodeId", line.nodeId.map .string)]

end LogLine

namespace ErrorSummary

def decode? (document : Document) : Option ErrorSummary := do
  let record ← document.record? ["message", "stack"]
  some
    { message := ← record.required "message" text?
      stack := ← record.optional "stack" text? }

def encode (summary : ErrorSummary) : Json := presentMembers [
  ("message", some (.string summary.message)), ("stack", summary.stack.map .string)]

end ErrorSummary

namespace Execution

/-- The names of the fields of a record in order. -/
def fieldNames : List String :=
  ["id", "workflowId", "workflowName", "workflowVersion", "status", "startedAt", "completedAt",
    "duration", "error", "logs"]

/-- Read a record from its fields, which may have been set aside before. -/
def decodeRecord? (setAside : Bool) (record : Document.Record) : Option Execution := do
  some
    { id := ← record.required "id" (Ident.decode? .execution)
      workflowId := ← record.required "workflowId" (Ident.decode? .workflow)
      workflowName := ← record.required "workflowName" text?
      workflowVersion := ← record.required "workflowVersion" count32?
      status := ← record.required "status" (Status.decode? setAside)
      startedAt := ← record.required "startedAt" Instant.decode?
      completedAt := ← record.optional "completedAt" Instant.decode?
      duration := ← record.optional "duration" count64?
      error := ← record.optional "error" ErrorSummary.decode?
      logs := ← record.defaulted "logs" (list? (LogLine.decode? setAside)) [] }

def decode? (document : Document) : Option Execution :=
  (document.record? fieldNames).bind (decodeRecord? false)

/-- The members of a written record; what is not set has no value. -/
def encodeFields (record : Execution) : List (String × Option Json) := [
  ("id", some record.id.encode), ("workflowId", some record.workflowId.encode),
  ("workflowName", some (.string record.workflowName)),
  ("workflowVersion", some (.ofNat record.workflowVersion)),
  ("status", some (.string record.status.name)), ("startedAt", some record.startedAt.encode),
  ("completedAt", record.completedAt.map Instant.encode),
  ("duration", record.duration.map .ofNat), ("error", record.error.map ErrorSummary.encode),
  ("logs", some (.array (record.logs.map LogLine.encode)))]

def encode (record : Execution) : Json := presentMembers record.encodeFields

end Execution

end Flowline
