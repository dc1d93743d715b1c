import Flowline.Json.Path
import Flowline.Text.Split

/-!
# Contexts

What a run knows: the input it was started with and the variables written so
far.  A dotted path finds a value in either of them; the first segments `input`
and `variables` say which one is meant, and any other first segment is looked up
among the variables before the input.
-/

namespace Flowline

/-- The input of a run and its variables. -/
structure Context where
  input : Json
  bindings : Keyed Json
  deriving DecidableEq, Repr, Inhabited

/-- What is known of a node that failed for good. -/
structure Failure where
  nodeId : String
  nodeName : String
  nodeType : String
  message : String
  deriving DecidableEq, Repr

namespace Context

/-- The context at the start of a run. -/
def start (input : Json) : Context := ⟨input, []⟩

/-- Write a variable; the last write wins. -/
def setResult (context : Context) (key : String) (value : Json) : Context :=
  { context with bindings := Keyed.insert key value context.bindings }

/-- The variable under a key. -/
def result? (context : Context) (key : String) : Option Json :=
  Keyed.get? key context.bindings

/-- The value that a variable, or else a member of the input, has at a path. -/
def lookupAnywhere (context : Context) (head : String) (rest : List String) : Option Json :=
  match context.result? head with
  | some value => value.descend rest
  | none =>
      match context.input with
      | .object members => (Keyed.get? head members).bind (Json.descend · rest)
      | _ => none

/-- The value at a path of segments. -/
def lookupSegments (context : Context) : List String → Option Json
  | [] => none
  | "input" :: [] =>
      if (context.result? "input").isSome then context.lookupAnywhere "input" []
      else some context.input
  | "input" :: rest => context.input.descend rest
  | "variables" :: first :: rest => (context.result? first).bind (Json.descend · rest)
  | head :: rest => context.lookupAnywhere head rest

/-- The value at a dotted path. -/
def lookup (context : Context) (path : String) : Option Json :=
  context.lookupSegments (Text.split '.' path)

/-- Write down a failure for the nodes that follow. -/
def recordFailure (context : Context) (failure : Failure) : Context :=
  (context.setResult "$error"
    (.ofMembers [("message", .string failure.message), ("nodeId", .string failure.nodeId)])).setResult
    "$failedNode"
    (.ofMembers [("id", .string failure.nodeId), ("name", .string failure.nodeName),
      ("type", .string failure.nodeType)])

/-- The context of an error handler: the failure, and the names of the workflow
and of the run. -/
def forErrorHandler (context : Context) (failure : Failure) (workflowName runName : String) :
    Context :=
  ((context.recordFailure failure).setResult "$workflowId" (.string workflowName)).setResult
    "$executionId" (.string runName)

@[simp] theorem setResult_input (context : Context) (key : String) (value : Json) :
    (context.setResult key value).input = context.input := rfl

@[simp] theorem recordFailure_input (context : Context) (failure : Failure) :
    (context.recordFailure failure).input = context.input := rfl

@[simp] theorem forErrorHandler_input (context : Context) (failure : Failure)
    (workflowName runName : String) :
    (context.forErrorHandler failure workflowName runName).input = context.input := rfl

theorem result?_setResult (context : Context) (key other : String) (value : Json) :
    (context.setResult key value).result? other =
      if other = key then some value else context.result? other :=
  Keyed.get?_insert key other value context.bindings

end Context

end Flowline
