import Flowline.Connector.Registry
import Flowline.Engine
import Flowline.Generation.Failover
import Flowline.Handler.Basic
import Flowline.Store

/-!
# Rehearsals

A stage on which workflows run without any service.  Its clock only moves when a
program waits, nodes and services follow a script as long as it lasts, the store
refuses when it is told to, and everything that happens is written down.  The
web cannot be reached from a stage.
-/

namespace Flowline

namespace Rehearsal

/-- What the script says about one call of a node. -/
structure Cue where
  /-- Where somebody else moves the stored record to, before anything else. -/
  mark : Option Execution.Status := none
  /-- Milliseconds to wait before the outcome. -/
  pause : Nat := 0
  /-- The outcome; without one the handler of the node is called. -/
  outcome : Option (Except NodeError Json) := none

/-- What the script says about one call of a backend: a text or an error, after
a pause. -/
structure BackendCue where
  pause : Nat := 0
  outcome : Except GenerationError String

/-- How a call of the store is refused. -/
inductive Refusal where
  | storage
  | serialization
  | notFound
  | alreadyExists
  | conflict
  deriving DecidableEq, Repr

/-- The error of a refusal of a call with an expected revision. -/
def Refusal.error (refusal : Refusal) (id : ExecutionId) (expected : Nat) : StoreError :=
  match refusal with
  | storage => .storage "disk on fire"
  | serialization => .serialization "bad document"
  | notFound => .notFound id
  | alreadyExists => .alreadyExists id
  | conflict => .conflict id expected (expected + 1)

/-- One call of a handler. -/
structure Call where
  nodeId : String
  bindings : Keyed Json
  /-- The outcome, unless the call was dropped. -/
  outcome : Option (Except NodeError Json)

/-- A call that reached a service outside. -/
inductive Sighting where
  | operation (connector : String) (operation : Operation)
  | generation (backend : String) (request : GenerationRequest)

/-- What belongs to a stage and what has happened on it. -/
structure Stage where
  /-- What the wall clock shows. -/
  wallClock : Instant
  /-- Milliseconds that were waited. -/
  elapsed : Nat := 0
  store : Store
  handlers : HandlerRegistry := []
  nodeCues : Keyed (List Cue) := []
  connectorCues : Keyed (List (Except ConnectorError OperationResult)) := []
  backendCues : Keyed (List BackendCue) := []
  /-- Refusals of the calls to come; nothing lets a call pass. -/
  createRefusals : List (Option Refusal) := []
  loadRefusals : List (Option Refusal) := []
  saveRefusals : List (Option Refusal) := []
  /-- The record of the run that is on stage. -/
  current : Option ExecutionId := none
  calls : List Call := []
  sightings : List Sighting := []
  /-- The requests that the engine made to the store. -/
  storeCalls : List Engine.Request := []

namespace Stage

/-- Take the next of the cues under a name. -/
def takeCue {α : Type} (name : String) (cues : Keyed (List α)) : Option α × Keyed (List α) :=
  match Keyed.get? name cues with
  | some (cue :: rest) => (some cue, Keyed.insert name rest cues)
  | _ => (none, cues)

/-- Take the next refusal. -/
def takeRefusal (refusals : List (Option Refusal)) : Option Refusal × List (Option Refusal) :=
  match refusals with
  | refusal :: rest => (refusal, rest)
  | [] => (none, [])

/-- The answers of services on a stage. -/
def serve : Program.TimedAnswers services Stage
  | .sleep milliseconds, stage => ((), milliseconds, stage)
  | .exchange exchange, stage =>
      (.error (if exchange.timeout = some 0 then .timedOut else .unreachable), 0, stage)
  | .operate connector operation, stage =>
      let (cue, connectorCues) := takeCue connector stage.connectorCues
      let stage := { stage with
        connectorCues
        sightings := stage.sightings ++ [.operation connector operation] }
      (cue.getD (.ok (.done .null {})), 0, stage)
  | .generate backend request, stage =>
      let (cue, backendCues) := takeCue backend stage.backendCues
      let stage := { stage with
        backendCues
        sightings := stage.sightings ++ [.generation backend request] }
      match cue with
      | some cue =>
          let response text := ⟨text, request.model.getD "", backend, {}⟩
          (cue.outcome.map response, cue.pause, stage)
      | none => (.error (.requestFailed backend "script exhausted"), 0, stage)

/-- Run a task on a stage. -/
def perform {α : Type} (limit : Option Nat) (task : Task α) (stage : Stage) : Option α × Stage :=
  let (result, spent, stage) := task.runWithin limit serve 0 stage
  (result, { stage with elapsed := stage.elapsed + spent })

/-- The record that somebody else makes of a running one. -/
def moved (record : Execution) (mark : Execution.Status) (now : Instant) : Option Execution :=
  match mark with
  | .running => some (record.log .info "touched elsewhere" none now)
  | .failed => (record.fail ⟨"failed elsewhere", none⟩ now).toOption
  | mark => (record.transition mark now).toOption

/-- Somebody else moves the stored record of the run, if it is running. -/
def disturb (mark : Execution.Status) (stage : Stage) : Stage :=
  match stage.current.bind fun id => (stage.store.load id).toOption with
  | some held =>
      if held.record.status = .running then
        match moved held.record mark stage.wallClock with
        | some record => { stage with store := (stage.store.save record held.revision).2 }
        | none => stage
      else stage
  | none => stage

/-- What a call of a node does under a cue. -/
def task (handler : Handler) (attempt : Engine.Attempt) (cue : Cue) :
    Task (Except NodeError Json) := do
  Task.sleep cue.pause
  match cue.outcome with
  | some outcome => return outcome
  | none => handler attempt.node attempt.context

/-- Attempt a node on a stage. -/
def attempt (attempt : Engine.Attempt) (stage : Stage) :
    Option (Except NodeError Json) × Stage :=
  match stage.handlers.get attempt.node.type with
  | .error error => (some (.error error), stage)
  | .ok handler =>
      let (cue, nodeCues) := takeCue attempt.node.id stage.nodeCues
      let cue := cue.getD {}
      let stage := { stage with nodeCues }
      let stage := match cue.mark with
        | some mark => stage.disturb mark
        | none => stage
      let (outcome, stage) := stage.perform (some attempt.limit) (task handler attempt cue)
      let call : Call := ⟨attempt.node.id, attempt.context.bindings, outcome⟩
      (outcome, { stage with calls := stage.calls ++ [call] })

/-- The answers to the engine on a stage. -/
def answer : (request : Engine.Request) → Stage → Engine.Reply request × Stage
  | .now, stage => (stage.wallClock, stage)
  | .sleep milliseconds, stage => ((), { stage with elapsed := stage.elapsed + milliseconds })
  | .create record, stage =>
      let (refusal, createRefusals) := takeRefusal stage.createRefusals
      let stage := { stage with
        createRefusals
        current := some record.id
        storeCalls := stage.storeCalls ++ [.create record] }
      match refusal with
      | some refusal => (.error (refusal.error record.id 0), stage)
      | none =>
          let (reply, store) := stage.store.create record
          (reply, { stage with store })
  | .load id, stage =>
      let (refusal, loadRefusals) := takeRefusal stage.loadRefusals
      let stage := { stage with loadRefusals, storeCalls := stage.storeCalls ++ [.load id] }
      match refusal with
      | some refusal => (.error (refusal.error id 0), stage)
      | none => (stage.store.load id, stage)
  | .save record expected, stage =>
      let (refusal, saveRefusals) := takeRefusal stage.saveRefusals
      let stage := { stage with
        saveRefusals
        storeCalls := stage.storeCalls ++ [.save record expected] }
      match refusal with
      | some refusal => (.error (refusal.error record.id expected.number), stage)
      | none =>
          let (reply, store) := stage.store.save record expected
          (reply, { stage with store })
  | .attempt attempt, stage => stage.attempt attempt

/-- Run a program of the engine on a stage. -/
def run {α : Type} (action : Engine.Action α) (stage : Stage) : α × Stage :=
  Program.run answer action stage

end Stage

/-- A connector that follows the script. -/
def connector (info : ConnectorInfo) : Connector where
  info
  execute := Task.operate info.id

/-- A backend that follows the script.  The text is that of the model of the
request, or else of its own model. -/
def backend (name model : String) : Backend where
  name
  model
  generate request := do
    let outcome ← Task.generate name request
    return outcome.map fun response => { response with model := request.model.getD model }

end Rehearsal

end Flowline
