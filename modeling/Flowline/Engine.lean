import Flowline.Engine.Walk

/-!
# The engine

A run of a workflow from the first line of its record to the last.  It always
ends with a record in a final status, whatever the workflow, the handlers and
the store do; a store that refuses only leaves lines in the log.  A run is
cancelled by changing its stored record, which the walk notices before its next
node, and a cancellation that comes later still wins over the run's own end.
-/

namespace Flowline.Engine

open Flowline.Engine.Action

/-- Enter a status if that is allowed. -/
def enterStatus (record : Execution) (status : Execution.Status) : Action Execution := do
  match record.transition status (← now) with
  | .ok moved => return moved
  | .error _ => return record

/-- Note the oddities of a workflow that do not stop its run. -/
def inspect (plan : Plan) (record : Execution) : Action Execution := do
  let workflow := plan.workflow
  let record ← if workflow.isActive then pure record else
    note record .warn s!"Workflow status is {workflow.status.name}; running anyway"
  let record ← if plan.graph.isCyclic then
      note record .warn
        s!"Workflow graph contains a cycle; walk depth is limited to {plan.settings.maxDepth}"
    else pure record
  let unreachable := plan.graph.unreachable
  if unreachable.isEmpty then return record
  else note record .warn ("Nodes unreachable from trigger: " ++ ", ".intercalate unreachable)

/-- Inspect a workflow and walk through it, if it is valid. -/
def traverse (settings : Settings) (workflow : Workflow) (input : Json) (stored : Bool)
    (record : Execution) : Action (Execution × Except RunError Unit) :=
  match Graph.build workflow with
  | .error error => return (record, .error (.invalidWorkflow error.message))
  | .ok graph => do
      let plan : Plan := { workflow, graph, settings, stored }
      let record ← inspect plan record
      let (run, outcome) ← walkAll plan { record, context := .start input, path := [] }
      return (run.record, outcome)

/-- Enter the status in which a walk ends. -/
def conclude (record : Execution) : Except RunError Unit → Action Execution
  | .ok () => enterStatus record .success
  | .error .cancelled => do
      let record ← note record .warn "Execution stopped: cancelled externally"
      enterStatus record .cancelled
  | .error error => do
      let record ← note record .error s!"Execution failed: {error.message}"
      match record.fail error.summary (← now) with
      | .ok failed => return failed
      | .error _ => return record

/-- End a run: enter its last status and append the last line. -/
def finish (record : Execution) (outcome : Except RunError Unit) : Action Execution := do
  let record ← conclude record outcome
  note record .info
    s!"Execution finished with status {record.status.name} in {record.duration.getD 0}ms"

/-- Note that the store refused. -/
def notePersistFailure (record : Execution) (error : StoreError) : Action Execution :=
  note record .error s!"Failed to persist execution record: {error.message}"

/-- A final status that the store holds already is kept, with its error. -/
def yieldTo (record held : Execution) : Action Execution :=
  if held.status.isFinal && held.status ≠ record.status then do
    let record ← note record .warn
      s!"Execution was marked {held.status.name} externally; keeping that status"
    return { record with status := held.status, error := held.error }
  else return record

/-- Read the stored record again after a conflict and write once more. -/
def resolveConflict (record : Execution) : Action Execution := do
  match ← load record.id with
  | .error error => notePersistFailure record error
  | .ok held =>
      let record ← yieldTo record held.record
      match ← save record held.revision with
      | .ok _ => return record
      | .error error => notePersistFailure record error

/-- Write the record of a run that is over.  The revision is that of its
creation, if it was created. -/
def persist (record : Execution) (revision : Option Revision) : Action Execution := do
  let written ← match revision with
    | some revision => save record revision
    | none => create record
  match written with
  | .ok _ => return record
  | .error (.conflict _ _ _) => resolveConflict record
  | .error error => notePersistFailure record error

/-- Run a workflow and return the record of the run. -/
def execute (settings : Settings) (workflow : Workflow) (id : ExecutionId) (input : Json) :
    Action Execution := do
  let record := workflow.newExecution id (← now)
  let record ← enterStatus record .running
  let record ← note record .info
    s!"Execution started for workflow {workflow.name} (version {workflow.version})"
  let created ← create record
  let (record, revision) ← match created with
    | .ok revision => pure (record, some revision)
    | .error error => do
        let record ← note record .warn s!"Failed to persist execution record: {error.message}"
        pure (record, none)
  let (record, outcome) ← traverse settings workflow input revision.isSome record
  let record ← finish record outcome
  persist record revision

/-- Why a run was not cancelled. -/
inductive CancelCause where
  | store (error : StoreError)
  | transition (error : TransitionError)
  deriving DecidableEq, Repr

/-- A cancellation that failed. -/
structure CancelError where
  id : ExecutionId
  cause : CancelCause
  deriving DecidableEq, Repr

namespace CancelError

def message (error : CancelError) : String :=
  s!"failed to cancel execution {error.id.display}"

/-- The error and what caused it, outermost first. -/
def chain (error : CancelError) : List String :=
  [error.message, match error.cause with
    | .store cause => cause.message
    | .transition cause => cause.message]

end CancelError

/-- Mark a stored run as cancelled. -/
def cancel (id : ExecutionId) : Action (Except CancelError Execution) := do
  match ← load id with
  | .error error => return .error ⟨id, .store error⟩
  | .ok held =>
      match held.record.cancel (← now) with
      | .error error => return .error ⟨id, .transition error⟩
      | .ok record =>
          let record ← note record .warn "Execution cancelled"
          match ← save record held.revision with
          | .ok _ => return .ok record
          | .error error => return .error ⟨id, .store error⟩

end Flowline.Engine
