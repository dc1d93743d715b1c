import Flowline.Workflow.Definition

/-!
# What goes wrong in a run

An attempt at a node fails for a reason of its own; a run is stopped by the
failure of a node, by its depth, by a cancellation, or before it begins.
-/

namespace Flowline

/-- Why one attempt at a node failed. -/
inductive NodeError where
  /-- The type of the node is not known. -/
  | unknownNodeType
  | handlerNotRegistered (type : NodeType)
  | missingConfig (field : String)
  | invalidConfig (reason : String)
  | executionFailed (message : String)
  /-- A service that the node called answered with an error. -/
  | external (service : String) (message : String)
  | timeout (milliseconds : Nat)
  deriving DecidableEq, Repr

namespace NodeError

def message : NodeError → String
  | unknownNodeType => "unknown node type"
  | handlerNotRegistered type => s!"no handler registered for node type {type.name}"
  | missingConfig field => s!"missing configuration: {field}"
  | invalidConfig reason => s!"invalid configuration: {reason}"
  | executionFailed message => message
  | external service message => s!"{service} error: {message}"
  | timeout milliseconds => s!"timed out after {milliseconds}ms"

end NodeError

/-- What stops a run. -/
inductive RunError where
  | invalidWorkflow (reason : String)
  /-- A node failed for good; the path leads to it from the trigger. -/
  | nodeFailed (nodeId nodeName : String) (attempts : Nat) (reason : String)
      (path : List String)
  | depthExceeded (nodeId : String) (limit : Nat)
  | cancelled
  deriving DecidableEq, Repr

namespace RunError

def message : RunError → String
  | invalidWorkflow reason => s!"invalid workflow: {reason}"
  | nodeFailed nodeId nodeName attempts reason _ =>
      s!"node {nodeName} ({nodeId}) failed after {attempts} attempt(s): {reason}"
  | depthExceeded nodeId limit => s!"walk depth exceeded {limit} at node {nodeId}"
  | cancelled => "execution cancelled"

/-- The path to the node that failed. -/
def stack : RunError → Option String
  | nodeFailed _ _ _ _ path => some (" -> ".intercalate path)
  | _ => none

/-- What the record of the run says of the error. -/
def summary (error : RunError) : ErrorSummary := ⟨error.message, error.stack⟩

end RunError

end Flowline
