import Flowline.Service
import Flowline.Template
import Flowline.Workflow.Failure

/-!
# Handlers

A handler carries out the nodes of a type.  It sees a node and the context and
asks services; it changes neither.  The registry says which handler belongs to a
type.
-/

namespace Flowline

/-- What carries out nodes of a type. -/
abbrev Handler := Node → Context → Task (Except NodeError Json)

namespace Handler

/-- The error for a node that is not of the type of its handler. -/
def wrongType (node : Node) (expected : NodeType) : NodeError :=
  .invalidConfig s!"node {node.id} has type {node.type.name}, expected {expected.name}"

end Handler

/-- Handlers under the types of nodes. -/
abbrev HandlerRegistry := List (NodeType × Handler)

namespace HandlerRegistry

/-- Put a handler in the place of the one before it, if there is one. -/
def register (registry : HandlerRegistry) (type : NodeType) (handler : Handler) :
    HandlerRegistry :=
  match registry with
  | [] => [(type, handler)]
  | (held, old) :: rest =>
      if held = type then (type, handler) :: rest else (held, old) :: register rest type handler

/-- The handler of a type. -/
def find? (registry : HandlerRegistry) (type : NodeType) : Option Handler :=
  match registry with
  | [] => none
  | (held, handler) :: rest => if held = type then some handler else find? rest type

def contains (registry : HandlerRegistry) (type : NodeType) : Bool :=
  (registry.find? type).isSome

/-- The types that have a handler. -/
def types (registry : HandlerRegistry) : List NodeType :=
  registry.map Prod.fst

/-- The handler of a type; unknown types never have one. -/
def get (registry : HandlerRegistry) (type : NodeType) : Except NodeError Handler :=
  if type = .unknown then .error .unknownNodeType
  else
    match registry.find? type with
    | some handler => .ok handler
    | none => .error (.handlerNotRegistered type)

/-- Attempt a node with the handler of its type. -/
def attempt (registry : HandlerRegistry) (node : Node) (context : Context) :
    Task (Except NodeError Json) :=
  match registry.get node.type with
  | .ok handler => handler node context
  | .error error => return .error error

end HandlerRegistry

end Flowline
