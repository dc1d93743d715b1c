import Flowline.Engine.Attempts
import Flowline.Guard.Reader
import Flowline.Workflow.Graph

/-!
# The walk through a workflow

A walk starts at the trigger, runs a node and follows the connections that leave
it in the order of their declaration, each as far as it goes before the next
one.  A node that two ways lead to is run twice.  The results of the nodes are
gathered in one context, which guards and later nodes see.
-/

namespace Flowline.Engine

open Flowline.Engine.Action

/-- What stays the same during a walk. -/
structure Plan where
  workflow : Workflow
  graph : Graph
  settings : Settings
  /-- Whether the store holds the record, so that a cancellation can be seen. -/
  stored : Bool

/-- What changes during a walk. -/
structure Run where
  record : Execution
  context : Context
  /-- The nodes from the trigger to the one that is running. -/
  path : List String

/-- Append a line to the log of a run. -/
def Run.note (run : Run) (level : LogLevel) (message : String)
    (nodeId : Option String := none) : Action Run := do
  return { run with record := ← Action.note run.record level message nodeId }

/-- Whether the stored record was cancelled meanwhile.  A record that cannot be
read does not stop the run. -/
def isCancelled (plan : Plan) (run : Run) : Action Bool :=
  if plan.settings.checkCancellation && plan.stored then do
    match ← load run.record.id with
    | .ok held => return held.record.status = .cancelled
    | .error _ => return false
  else return false

/-- The nodes that are told of a failure. -/
def listeners (workflow : Workflow) (failed : Node) : List Node :=
  workflow.errorHandlers.filter fun handler => handler.id ≠ failed.id

/-- Run error handlers in turn, once each.  Their results only show in the
log. -/
def runHandlers (settings : Settings) (failed : Node) (context : Context) :
    List Node → Execution → Action Execution
  | [], record => return record
  | handler :: rest, record => do
      let record ← note record .info
        s!"Running error handler {handler.name} for failed node {failed.name}" handler.id
      let record ← match ←
          attempt ⟨.errorHandler, handler, context, 1, (AttemptPolicy.forNode handler settings).timeout⟩ with
        | .ok _ => note record .info s!"Error handler {handler.name} completed" handler.id
        | .error error =>
            note record .warn s!"Error handler {handler.name} failed: {error.message}" handler.id
      runHandlers settings failed context rest record

/-- Tell the error handlers of a failure. -/
def dispatch (plan : Plan) (failed : Node) (message : String) (run : Run) : Action Run := do
  let context := run.context.forErrorHandler (failed.failure message)
    plan.workflow.id.display run.record.id.display
  let record ← runHandlers plan.settings failed context (listeners plan.workflow failed) run.record
  return { run with record }

/-- Run one node and decide whether the walk goes on. -/
def runNode (plan : Plan) (node : Node) (run : Run) : Action (Run × Except RunError Unit) := do
  let policy := AttemptPolicy.forNode node plan.settings
  let run ← run.note .info s!"Executing node {node.name} ({node.type.name})" node.id
  let (record, outcome) ← tryNode node run.context policy run.record
  let run := { run with record }
  match outcome with
  | .ok result =>
      let run := { run with context := run.context.setResult node.id result }
      return (← run.note .info s!"Node {node.name} completed" node.id, .ok ())
  | .error failure =>
      let message := failure.error.message
      if policy.continueOnError then
        let run := { run with context := run.context.recordFailure (node.failure message) }
        let run ← dispatch plan node message run
        return (← run.note .warn s!"Continuing after failure of node {node.name}" node.id, .ok ())
      else
        let run ← dispatch plan node message run
        return (run, .error (.nodeFailed node.id node.name failure.attempts message run.path))

/-- Follow connections in turn, leaving out those whose guard does not hold when
their turn comes. -/
def follow (visit : String → Run → Action (Run × Except RunError Unit)) :
    List Connection → Run → Action (Run × Except RunError Unit)
  | [], run => return (run, .ok ())
  | connection :: rest, run => do
      match connection.guard.filter fun guard => !Guard.holds guard run.context with
      | some guard =>
          let run ← run.note .info
            s!"Skipped {connection.source} -> {connection.target}: condition not met ({guard})"
            connection.target
          follow visit rest run
      | none =>
          match ← visit connection.target run with
          | (run, .ok ()) => follow visit rest run
          | stopped => return stopped

/-- Walk on from a node; so many nodes may still be entered one after the
other. -/
def walk (plan : Plan) : (allowed : Nat) → String → Run → Action (Run × Except RunError Unit)
  | 0, nodeId, run => return (run, .error (.depthExceeded nodeId plan.settings.maxDepth))
  | allowed + 1, nodeId, run => do
      if ← isCancelled plan run then
        return (run, .error .cancelled)
      match plan.graph.vertex? nodeId with
      | none =>
          return (run, .error (.invalidWorkflow s!"node {nodeId} is not part of the workflow"))
      | some vertex =>
          let run := { run with path := run.path ++ [vertex.node.id] }
          match ← runNode plan vertex.node run with
          | (run, .ok ()) =>
              match ← follow (walk plan allowed) vertex.outgoing run with
              | (run, .ok ()) => return ({ run with path := run.path.dropLast }, .ok ())
              | stopped => return stopped
          | stopped => return stopped

/-- Walk from the trigger. -/
def walkAll (plan : Plan) (run : Run) : Action (Run × Except RunError Unit) :=
  walk plan (plan.settings.maxDepth + 1) plan.workflow.trigger run

end Flowline.Engine
