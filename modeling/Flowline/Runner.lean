import Flowline.Engine

/-!
# The runner

Commands on files that hold workflows and on the runs that a store remembers:
run a workflow, check one, show a run, cancel a run.
-/

namespace Flowline.Runner

/-- Where the input of a run comes from. -/
inductive InputSource where
  | none
  | inline (text : String)
  | file (path : String)
  deriving DecidableEq, Repr

/-- What is known of a workflow without running it. -/
structure ValidationReport where
  workflow : String
  nodes : Nat
  connections : Nat
  cyclic : Bool
  unreachable : List String
  deriving DecidableEq, Repr

/-- Why a command failed. -/
inductive Error where
  | unreadableFile (path reason : String)
  | loadWorkflow (path : String) (cause : Workflow.LoadError)
  | invalidWorkflow (path : String) (cause : GraphError)
  | parseInput (origin : String)
  | parseExecutionId (id : String) (cause : Ulid.ParseError)
  | loadExecution (id : String) (cause : StoreError)
  | cancel (id : String) (cause : Engine.CancelError)
  deriving DecidableEq, Repr

namespace Error

/-- What the runner was doing. -/
def message : Error → String
  | unreadableFile path _ => s!"failed to read {path}"
  | loadWorkflow path _ => s!"failed to load workflow from {path}"
  | invalidWorkflow path _ => s!"workflow in {path} is invalid"
  | parseInput origin => s!"input from {origin} is not valid JSON"
  | parseExecutionId id _ => s!"'{id}' is not an execution id"
  | loadExecution id _ => s!"failed to load execution {id}"
  | cancel id _ => s!"failed to cancel execution {id}"

/-- The error and what caused it, outermost first. -/
def chain (error : Error) : List String :=
  error.message :: match error with
    | unreadableFile _ reason => [reason]
    | loadWorkflow _ cause => cause.chain
    | invalidWorkflow _ cause => [cause.message]
    | parseInput _ => ["unreadable JSON"]
    | parseExecutionId _ cause => [Ident.parseMessage .execution cause]
    | loadExecution _ cause => [cause.message]
    | cancel _ cause => cause.chain

end Error

inductive Request where
  | engine (request : Engine.Request)
  | read (path : String)
  | freshId

/-- The reply to a request.  A file is read as a text or there is a reason why
not. -/
abbrev Reply : Request → Type
  | .engine request => Engine.Reply request
  | .read _ => Except String String
  | .freshId => Ulid

/-- What the runner asks. -/
abbrev surroundings : Interface := ⟨Request, Reply⟩

/-- A program of the runner. -/
abbrev Action := Program surroundings

/-- A program of the engine as one of the runner. -/
def engine {α : Type} (action : Engine.Action α) : Action α :=
  action.embed fun request => @Program.request surroundings (.engine request)

def readFile (path : String) : Action (Except Error String) := do
  match ← @Program.request surroundings (.read path) with
  | .ok text => return .ok text
  | .error reason => return .error (.unreadableFile path reason)

def freshId : Action Ulid := @Program.request surroundings .freshId

/-- Read a workflow and validate it. -/
def loadWorkflow (path : String) : Action (Except Error Workflow) := do
  match ← readFile path with
  | .error error => return .error error
  | .ok text =>
      match Workflow.ofText ⟨← freshId⟩ (← engine Engine.Action.now) text with
      | .ok workflow => return .ok workflow
      | .error cause => return .error (.loadWorkflow path cause)

/-- The value of a text that was given as input. -/
def parseInput (origin text : String) : Except Error Json :=
  match Json.parse? text with
  | some value => .ok value
  | none => .error (.parseInput origin)

/-- Read the input of a run; without any it is null. -/
def readInput : InputSource → Action (Except Error Json)
  | .none => return .ok .null
  | .inline text => return parseInput "--input" text
  | .file path => do
      match ← readFile path with
      | .error error => return .error error
      | .ok text => return parseInput path text

/-- Run a workflow; a run that fails is no error of the runner. -/
def run (settings : Engine.Settings) (path : String) (input : InputSource) :
    Action (Except Error Execution) := do
  match ← loadWorkflow path with
  | .error error => return .error error
  | .ok workflow =>
      match ← readInput input with
      | .error error => return .error error
      | .ok input =>
          let id ← freshId
          return .ok (← engine (Engine.execute settings workflow ⟨id⟩ input))

/-- Report on a workflow without running it. -/
def validate (path : String) : Action (Except Error ValidationReport) := do
  match ← loadWorkflow path with
  | .error error => return .error error
  | .ok workflow =>
      match Graph.build workflow with
      | .error cause => return .error (.invalidWorkflow path cause)
      | .ok graph =>
          return .ok
            { workflow := workflow.name
              nodes := graph.vertices.length
              connections := workflow.connections.length
              cyclic := graph.isCyclic
              unreachable := graph.unreachable }

/-- Read the identifier of a run. -/
def parseId (id : String) : Except Error ExecutionId :=
  match Ident.parse .execution id with
  | .ok ident => .ok ident
  | .error cause => .error (.parseExecutionId id cause)

/-- The stored record of a run. -/
def showRun (id : String) : Action (Except Error Execution) := do
  match parseId id with
  | .error error => return .error error
  | .ok ident =>
      match ← engine (Engine.Action.load ident) with
      | .ok held => return .ok held.record
      | .error cause => return .error (.loadExecution id cause)

/-- Cancel a run. -/
def cancel (id : String) : Action (Except Error Execution) := do
  match parseId id with
  | .error error => return .error error
  | .ok ident =>
      match ← engine (Engine.cancel ident) with
      | .ok record => return .ok record
      | .error cause => return .error (.cancel id cause)

end Flowline.Runner
