import Flowline.Workflow.Definition

/-!
# The graph of a workflow

A view of a valid workflow in which every node stands beside the connections
that leave it, in the order of their declaration.  Nodes are found through an
index of their identifiers, and connections become edges between positions.
-/

namespace Flowline

/-- A node and the connections that leave it. -/
structure Vertex where
  node : Node
  outgoing : List Connection
  deriving DecidableEq, Repr

/-- A connection between nodes that are given by their positions. -/
structure Edge where
  source : Nat
  target : Nat
  /-- The position of the connection itself. -/
  weight : Nat
  deriving DecidableEq, Repr

/-- Put a position in its place among ascending ones. -/
def place (position : Nat) : List Nat → List Nat
  | [] => [position]
  | next :: rest =>
      if position ≤ next then position :: next :: rest else next :: place position rest

/-- Positions in ascending order. -/
def ascending : List Nat → List Nat :=
  List.foldr place []

namespace Workflow

/-- Where the nodes of a workflow stand; of several with one identifier the
last one counts. -/
def positions (workflow : Workflow) : Keyed Nat :=
  .ofList workflow.nodeIds.zipIdx

/-- The edge of a connection and its position, unless an end has no position. -/
def edge? (positions : Keyed Nat) (declared : Connection × Nat) : Option Edge := do
  let source ← positions.get? declared.1.source
  let target ← positions.get? declared.1.target
  some ⟨source, target, declared.2⟩

/-- The edges of a workflow, the latest first. -/
def edges (workflow : Workflow) (positions : Keyed Nat) : List Edge :=
  (workflow.connections.zipIdx.filterMap (edge? positions)).reverse

/-- The connections of the edges that leave a position, in the order of their
declaration. -/
def leaving (workflow : Workflow) (edges : List Edge) (position : Nat) : List Connection :=
  let weights := (edges.filter fun edge => edge.source = position).map Edge.weight
  (ascending weights).filterMap fun weight => workflow.connections[weight]?

end Workflow

/-- The vertices of a workflow in the order of its nodes. -/
structure Graph where
  trigger : String
  vertices : List Vertex
  /-- Where the vertex of each node stands. -/
  positions : Keyed Nat
  deriving DecidableEq, Repr

namespace Graph

/-- The graph of a workflow, if it is valid. -/
def build (workflow : Workflow) : Except GraphError Graph :=
  match workflow.validate with
  | .error error => .error error
  | .ok () =>
      let positions := workflow.positions
      let edges := workflow.edges positions
      .ok
        { trigger := workflow.trigger
          vertices := workflow.nodes.zipIdx.map fun (node, position) =>
            ⟨node, workflow.leaving edges position⟩
          positions }

/-- The vertex with an identifier. -/
def vertex? (graph : Graph) (id : String) : Option Vertex :=
  (graph.positions.get? id).bind fun position => graph.vertices[position]?

/-- The node with an identifier. -/
def node? (graph : Graph) (id : String) : Option Node :=
  (graph.vertex? id).map Vertex.node

/-- The connections that leave a node, in the order of their declaration. -/
def outgoing (graph : Graph) (id : String) : List Connection :=
  match graph.vertex? id with
  | some vertex => vertex.outgoing
  | none => []

/-- The nodes one connection away. -/
def successors (graph : Graph) (id : String) : List String :=
  (graph.outgoing id).map Connection.target

/-- Follow connections from some nodes, at most a number of times and until
nothing is new. -/
def spread (graph : Graph) : Nat → List String → List String
  | 0, reached => reached
  | steps + 1, reached =>
      let fresh := ((reached.flatMap graph.successors).filter (· ∉ reached)).eraseDups
      if fresh.isEmpty then reached else graph.spread steps (reached ++ fresh)

/-- The given nodes and every node that connections lead to from them.  Each
step but the last finds a vertex that was not reached before. -/
def reachable (graph : Graph) (starts : List String) : List String :=
  graph.spread graph.vertices.length starts.eraseDups

/-- Whether connections lead from some node back to it. -/
def isCyclic (graph : Graph) : Bool :=
  graph.vertices.any fun vertex =>
    vertex.node.id ∈ graph.reachable (graph.successors vertex.node.id)

/-- The nodes that no connections lead to from the trigger, error handlers left
out. -/
def unreachable (graph : Graph) : List String :=
  let reached := graph.reachable [graph.trigger]
  (graph.vertices.filter fun vertex =>
    !vertex.node.errorHandler && vertex.node.id ∉ reached).map fun vertex => vertex.node.id

end Graph

end Flowline
