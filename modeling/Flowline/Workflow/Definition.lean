import Flowline.Workflow.Node

/-!
# Workflow definitions

A workflow is a list of nodes, a list of connections between them and the node
where every run starts.  It is valid when the identifiers of its nodes are
distinct, the start is one of them, and so are both ends of every connection.
-/

namespace Flowline

/-- A way from one node to another, open if its guard holds. -/
structure Connection where
  source : String
  target : String
  guard : Option String := none
  deriving DecidableEq, Repr

/-- Where a definition stands. -/
inductive Workflow.Status where
  | draft
  | active
  | paused
  | disabled
  deriving DecidableEq, Repr, Inhabited

def Workflow.Status.name : Workflow.Status → String
  | draft => "draft"
  | active => "active"
  | paused => "paused"
  | disabled => "disabled"

/-- A workflow. -/
structure Workflow where
  id : WorkflowId
  name : String
  status : Workflow.Status := .draft
  nodes : List Node
  connections : List Connection := []
  trigger : String
  version : Nat := 1
  createdAt : Instant
  updatedAt : Instant
  deriving DecidableEq, Repr

/-- What is wrong with the structure of a workflow. -/
inductive GraphError where
  | duplicateNode (nodeId : String)
  | triggerNotFound (nodeId : String)
  | sourceNotFound (source target : String)
  | targetNotFound (source target : String)
  deriving DecidableEq, Repr

def GraphError.message : GraphError → String
  | duplicateNode nodeId => s!"duplicate node id: {nodeId}"
  | triggerNotFound nodeId => s!"trigger node not found: {nodeId}"
  | sourceNotFound source target =>
      s!"connection {source} -> {target} starts at an unknown node"
  | targetNotFound source target =>
      s!"connection {source} -> {target} ends at an unknown node"

namespace Workflow

/-- The identifiers of the nodes in order. -/
def nodeIds (workflow : Workflow) : List String :=
  workflow.nodes.map Node.id

/-- The first node with an identifier. -/
def node? (workflow : Workflow) (id : String) : Option Node :=
  workflow.nodes.find? fun node => node.id = id

/-- The nodes that run when others fail, in order. -/
def errorHandlers (workflow : Workflow) : List Node :=
  workflow.nodes.filter Node.errorHandler

def isActive (workflow : Workflow) : Bool :=
  workflow.status = .active

/-- The first identifier that stood in the list before. -/
def firstRepeated? (earlier : List String) : List String → Option String
  | [] => none
  | id :: rest => if id ∈ earlier then some id else firstRepeated? (id :: earlier) rest

/-- The first connection with an end that is no node. -/
def firstDangling? (ids : List String) : List Connection → Option GraphError
  | [] => none
  | connection :: rest =>
      if connection.source ∉ ids then
        some (.sourceNotFound connection.source connection.target)
      else if connection.target ∉ ids then
        some (.targetNotFound connection.source connection.target)
      else firstDangling? ids rest

/-- Look for the first thing that is wrong with the structure. -/
def validate (workflow : Workflow) : Except GraphError Unit :=
  match firstRepeated? [] workflow.nodeIds with
  | some id => .error (.duplicateNode id)
  | none =>
      if workflow.trigger ∉ workflow.nodeIds then .error (.triggerNotFound workflow.trigger)
      else
        match firstDangling? workflow.nodeIds workflow.connections with
        | some error => .error error
        | none => .ok ()

/-- Note the time of an edit. -/
def touch (workflow : Workflow) (now : Instant) : Workflow :=
  { workflow with updatedAt := now }

/-- Count an edit and note its time. -/
def bump (workflow : Workflow) (now : Instant) : Workflow :=
  { workflow with version := workflow.version + 1, updatedAt := now }

/-- The record of a run that is about to start. -/
def newExecution (workflow : Workflow) (id : ExecutionId) (now : Instant) : Execution :=
  { id
    workflowId := workflow.id
    workflowName := workflow.name
    workflowVersion := workflow.version
    status := .pending
    startedAt := now }

end Workflow

end Flowline
