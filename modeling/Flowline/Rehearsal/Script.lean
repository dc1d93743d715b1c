import Flowline.Connector.ChatWebhook
import Flowline.Connector.Console
import Flowline.Generation.ChatCompletion
import Flowline.Handler.BuiltIn
import Flowline.Json.Access
import Flowline.Rehearsal

/-!
# Scripts

How the script of a rehearsal is written as JSON: the connectors and backends
that follow it, what they answer, what nodes do, and which calls the store
refuses.
-/

namespace Flowline.Rehearsal

/-- A type of nodes by its name. -/
def typeNamed (name : String) : NodeType :=
  (NodeType.all.find? fun type => type.name = name).getD .unknown

/-- A status by its name. -/
def statusNamed? (name : String) : Option Execution.Status :=
  Execution.Status.all.find? fun status => status.name = name

/-- The word for the kind of an error. -/
def nodeErrorKind : NodeError → String
  | .unknownNodeType => "UnknownNodeType"
  | .handlerNotRegistered _ => "HandlerNotRegistered"
  | .missingConfig _ => "MissingConfig"
  | .invalidConfig _ => "InvalidConfig"
  | .executionFailed _ => "ExecutionFailed"
  | .external _ _ => "External"
  | .timeout _ => "Timeout"

/-- An error as a script tells it. -/
def nodeError (value : Json) : NodeError :=
  match value.textAt "kind" with
  | "UnknownNodeType" => .unknownNodeType
  | "HandlerNotRegistered" => .handlerNotRegistered (typeNamed (value.textAt "nodeType"))
  | "MissingConfig" => .missingConfig (value.textAt "field")
  | "InvalidConfig" => .invalidConfig (value.textAt "reason")
  | "External" => .external (value.textAt "service") (value.textAt "message")
  | "Timeout" => .timeout (value.countAt "timeoutMs")
  | _ => .executionFailed (value.textAt "message")

/-- The word for the kind of an error. -/
def connectorErrorKind : ConnectorError → String
  | .notFound _ => "NotFound"
  | .connectionFailed _ => "ConnectionFailed"
  | .authenticationFailed _ => "AuthenticationFailed"
  | .rateLimited _ => "RateLimited"
  | .operationNotSupported _ => "OperationNotSupported"
  | .invalidParameters _ _ => "InvalidParameters"
  | .missingCredential _ => "MissingCredential"
  | .timeout => "Timeout"

/-- An error as a script tells it. -/
def connectorError (value : Json) : ConnectorError :=
  match value.textAt "kind" with
  | "NotFound" => .notFound (value.textAt "connector")
  | "ConnectionFailed" => .connectionFailed (value.textAt "reason")
  | "AuthenticationFailed" => .authenticationFailed (value.textAt "reason")
  | "RateLimited" => .rateLimited (value.field "retryAfterSecs").asCount?
  | "OperationNotSupported" => .operationNotSupported (value.textAt "operation")
  | "InvalidParameters" =>
      .invalidParameters (value.textAt "operation") (value.textAt "reason")
  | "MissingCredential" => .missingCredential (value.textAt "name")
  | _ => .timeout

/-- The word for the kind of an error. -/
def generationErrorKind : GenerationError → String
  | .requestFailed _ _ => "RequestFailed"
  | .refused _ _ _ => "Status"
  | .rateLimited _ _ => "RateLimited"
  | .timeout _ => "Timeout"
  | .invalidResponse _ _ => "InvalidResponse"
  | .notConfigured => "NotConfigured"
  | .exhausted _ _ => "Exhausted"

/-- An error as a script tells it. -/
def generationError (value : Json) : GenerationError :=
  let backend := value.textAt "backend"
  match value.textAt "kind" with
  | "Status" => .refused backend (value.countAt "status") (value.textAt "body")
  | "RateLimited" => .rateLimited backend (value.field "retryAfterSecs").asCount?
  | "Timeout" => .timeout backend
  | "InvalidResponse" => .invalidResponse backend (value.textAt "reason")
  | "NotConfigured" => .notConfigured
  | "Exhausted" => .exhausted (.ofNat (value.countAt "attempts")) (value.textAt "lastError")
  | _ => .requestFailed backend (value.textAt "reason")

namespace Script

/-- The result of an operation: an error, a refusal, data, or success without
any. -/
def connectorCue (value : Json) : Except ConnectorError OperationResult :=
  match value.member? "error", value.member? "failure" with
  | some error, _ => .error (connectorError error)
  | none, some reason => .ok ⟨false, none, reason.asText?, {}⟩
  | none, none => .ok ⟨true, value.member? "ok", none, {}⟩

def backendCue (value : Json) : BackendCue where
  pause := value.countAt "sleepMs"
  outcome := match value.member? "error" with
    | some error => .error (generationError error)
    | none => .ok (value.textAt "ok")

def nodeCue (value : Json) : Cue where
  mark := statusNamed? (value.textAt "mark")
  pause := value.countAt "sleepMs"
  outcome := match value.member? "error" with
    | some error => some (.error (nodeError error))
    | none => (value.member? "ok").map .ok

def refusal? (value : Json) : Option Refusal :=
  match value.asText with
  | "io" => some .storage
  | "serialization" => some .serialization
  | "not_found" => some .notFound
  | "already_exists" => some .alreadyExists
  | "conflict" => some .conflict
  | _ => none

/-- The connectors that come with the library, and those of the script. -/
def connectors (script : Json) : ConnectorRegistry :=
  .ofList ([Connector.console, Connector.chatWebhook] ++
    (script.itemsAt "connectors").map fun value =>
      let id := value.textAt "id"
      connector
        { id, name := id.toUpper, description := "", operations := [], capabilities := [.read] })

/-- The chain of the configuration in the script, or else of its backends. -/
def chain (script : Json) : FailoverChain :=
  match (script.member? "ai").bind fun config => GenerationConfig.decode? (.ofValue config) with
  | some config => ChatCompletion.chain config
  | none =>
      let chain : FailoverChain :=
        { backends := (script.itemsAt "backends").map fun value =>
            backend (value.textAt "name") (value.textAt "model") }
      let chain := match (script.field "attempts").asCount? with
        | some attempts => chain.withAttempts attempts
        | none => chain
      match script.itemsAt "backoffMs" with
      | [initial, largest] => chain.withBackoff initial.asCount largest.asCount
      | _ => chain

/-- The answers of some of the services in the order of the script. -/
def cues {α : Type} (name : String) (read : Json → α) (services : List Json) : Keyed (List α) :=
  .ofList (services.map fun value => (value.textAt name, (value.itemsAt "results").map read))

/-- The stage that a script sets. -/
def stage (wallClock : Instant) (script : Json) : Stage :=
  let missing := (script.itemsAt "unregistered").map fun type => typeNamed type.asText
  let refusals (call : String) := ((script.field "faults").itemsAt call).map refusal?
  { wallClock
    store := .empty (script.textAt "store")
    handlers := (HandlerRegistry.builtIn (connectors script) (chain script)).filter fun entry =>
      !missing.contains entry.1
    nodeCues := (script.field "script").asMembers.map fun (node, values) =>
      (node, values.asItems.map nodeCue)
    connectorCues := cues "id" connectorCue (script.itemsAt "connectors")
    backendCues := cues "name" backendCue (script.itemsAt "backends")
    createRefusals := refusals "create"
    loadRefusals := refusals "load"
    saveRefusals := refusals "save" }

end Script

end Flowline.Rehearsal
