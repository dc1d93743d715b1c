import Flowline.Json.Decode
import Flowline.Number.Shortest
import Flowline.Workflow.Definition

/-!
# Workflow documents

How workflows are written as JSON and read back.  Every part of a workflow has
an encoder and a decoder; a type of node that is not known here is read as such
and does not stop the rest from being read.  Only where the configuration is a
list may nothing stand behind a type that is not known.
-/

namespace Flowline

open Json (Document)
open Json.Document

/-- Names paired with what they stand for, in the order of keys. -/
def namesOf {α : Type} (name : α → String) (values : List α) : List (String × α) :=
  values.map fun value => (name value, value)

/-- Members in a row; those without a value are left out. -/
def presentMembers (members : List (String × Option Json)) : Json :=
  .ofMembers (members.filterMap fun (key, value) => value.map fun value => (key, value))

/-- A value, or null where there is none. -/
def nullable {α : Type} (encode : α → Json) : Option α → Json
  | some value => encode value
  | none => .null

def LogLevel.all : List LogLevel := [.debug, .info, .warn, .error]

def LogLevel.decode? (setAside : Bool) : Document → Option LogLevel :=
  oneOf? setAside (namesOf name all)

def NodeType.decode? : Document → Option NodeType :=
  oneOf? false (namesOf name all)

def HttpMethod.decode? (setAside : Bool) : Document → Option HttpMethod :=
  oneOf? setAside (namesOf name all)

def Workflow.Status.all : List Workflow.Status := [.draft, .active, .paused, .disabled]

def Workflow.Status.decode? : Document → Option Workflow.Status :=
  oneOf? false (namesOf name all)

def Ident.decode? (kind : IdentKind) : Document → Option (Ident kind)
  | string text => (Ulid.parse text).toOption.map Ident.mk
  | _ => none

def Ident.encode {kind : IdentKind} (ident : Ident kind) : Json := .string ident.ulid.text

def Instant.decode? : Document → Option Instant
  | string text => Instant.parse? text
  | _ => none

def Instant.encode (instant : Instant) : Json := .string instant.text

/-- A number of 32 bits as a value.  It is written with the digits of its own
format; one that is not finite becomes null. -/
def encodeBinary32 (value : Number.Binary32) : Json :=
  if value.isFinite then
    let (significand, exponent) :=
      if value.units = 0 then (0, 0) else Number.Format.single.shortest value.units
    .number (.float (Number.Decimal.toBinary ⟨value.negative, significand, exponent⟩))
  else .null

def encodeTexts (texts : Keyed String) : Json := .ofMembers (texts.map fun (k, v) => (k, .string v))

namespace NodeConfig

def decodeHttpRequest? (document : Document) : Option HttpRequestConfig := do
  let record ← document.record? ["method", "url", "headers", "query", "body", "timeoutMs"]
  some
    { method := ← record.defaulted "method" (HttpMethod.decode? true) .get
      url := ← record.required "url" text?
      headers := ← record.defaulted "headers" (keyed? text?) []
      query := ← record.defaulted "query" (keyed? text?) []
      body := ← record.optional "body" value?
      timeout := ← record.optional "timeoutMs" count64? }

def decodeIntegration? (document : Document) : Option IntegrationConfig := do
  let record ← document.record? ["connector", "operation", "parameters", "credentials"]
  some
    { connector := ← record.required "connector" text?
      operation := ← record.required "operation" text?
      parameters := ← record.defaulted "parameters" value? (.object [])
      credentials := ← record.defaulted "credentials" (keyed? text?) [] }

def decodeAiGenerate? (document : Document) : Option AiGenerateConfig := do
  let record ← document.record? ["prompt", "system", "model", "maxTokens", "temperature"]
  some
    { prompt := ← record.required "prompt" text?
      system := ← record.optional "system" text?
      model := ← record.optional "model" text?
      maxTokens := ← record.optional "maxTokens" count32?
      temperature := ← record.optional "temperature" binary32? }

def decodeSchedule? (document : Document) : Option NodeConfig := do
  let record ← document.record? ["cron", "timezone"]
  some (.schedule (← record.required "cron" text?) (← record.optional "timezone" text?))

def decodeLog? (document : Document) : Option NodeConfig := do
  let record ← document.record? ["level", "message"]
  some (.log (← record.defaulted "level" (LogLevel.decode? true) .info)
    (← record.required "message" text?))

/-- A configuration behind its tag. -/
def decodeTagged? (tag : String) (document : Document) : Option NodeConfig :=
  match tag with
  | "webhook" => do
      let record ← document.record? ["path"]
      some (.webhook (← record.optional "path" text?))
  | "manual" => document.nothing?.map fun _ => .manual
  | "schedule" => decodeSchedule? document
  | "http_request" => (decodeHttpRequest? document).map .httpRequest
  | "integration" => (decodeIntegration? document).map .integration
  | "ai_generate" => (decodeAiGenerate? document).map .aiGenerate
  | "set_variables" => do
      let record ← document.record? ["values"]
      some (.setVariables (← record.required "values" members?))
  | "delay" => do
      let record ← document.record? ["durationMs"]
      some (.delay (← record.required "durationMs" count64?))
  | "log" => decodeLog? document
  | "condition" => do
      let record ← document.record? ["condition"]
      some (.condition (← record.required "condition" text?))
  | _ => document.nothing?.map fun _ => .unknown

def decode? (document : Document) : Option NodeConfig := do
  let (tag, rest) ← document.tagged?
  decodeTagged? tag rest

/-- The members of a configuration beside its tag. -/
def encodeFields : NodeConfig → List (String × Json)
  | webhook path => [("path", nullable .string path)]
  | manual | unknown => []
  | schedule cron timezone => [("cron", .string cron), ("timezone", nullable .string timezone)]
  | httpRequest config => [
      ("method", .string config.method.name), ("url", .string config.url),
      ("headers", encodeTexts config.headers), ("query", encodeTexts config.query),
      ("body", nullable id config.body), ("timeoutMs", nullable .ofNat config.timeout)]
  | integration config => [
      ("connector", .string config.connector), ("operation", .string config.operation),
      ("parameters", config.parameters), ("credentials", encodeTexts config.credentials)]
  | aiGenerate config => [
      ("prompt", .string config.prompt), ("system", nullable .string config.system),
      ("model", nullable .string config.model), ("maxTokens", nullable .ofNat config.maxTokens),
      ("temperature", nullable encodeBinary32 config.temperature)]
  | setVariables values => [("values", .object values)]
  | delay milliseconds => [("durationMs", .ofNat milliseconds)]
  | log level message => [("level", .string level.name), ("message", .string message)]
  | condition expression => [("condition", .string expression)]

def encode (config : NodeConfig) : Json :=
  .ofMembers (("type", .string config.type.name) :: config.encodeFields)

end NodeConfig

namespace NodePolicy

def decode? (document : Document) : Option NodePolicy := do
  let record ← document.record?
    ["retries", "retryDelayMs", "timeoutMs", "continueOnError", "parallel"]
  some
    { retries := ← record.defaulted "retries" count32? 0
      retryDelay := ← record.optional "retryDelayMs" count64?
      timeout := ← record.optional "timeoutMs" count64?
      continueOnError := ← record.defaulted "continueOnError" bool? false
      parallel := ← record.defaulted "parallel" bool? false }

def encode (policy : NodePolicy) : Json := .ofMembers [
  ("retries", .ofNat policy.retries), ("retryDelayMs", nullable .ofNat policy.retryDelay),
  ("timeoutMs", nullable .ofNat policy.timeout),
  ("continueOnError", .bool policy.continueOnError), ("parallel", .bool policy.parallel)]

end NodePolicy

namespace Node

def decode? (document : Document) : Option Node := do
  let record ← document.record? ["id", "name", "config", "execution", "errorHandler"]
  some
    { id := ← record.required "id" text?
      name := ← record.required "name" text?
      config := ← record.required "config" NodeConfig.decode?
      policy := ← record.optional "execution" NodePolicy.decode?
      errorHandler := ← record.defaulted "errorHandler" bool? false }

def encode (node : Node) : Json := presentMembers [
  ("id", some (.string node.id)), ("name", some (.string node.name)),
  ("config", some node.config.encode), ("execution", node.policy.map NodePolicy.encode),
  ("errorHandler", if node.errorHandler then some (.bool true) else none)]

end Node

namespace Connection

def decode? (document : Document) : Option Connection := do
  let record ← document.record? ["from", "to", "condition"]
  some
    { source := ← record.required "from" text?
      target := ← record.required "to" text?
      guard := ← record.optional "condition" text? }

def encode (connection : Connection) : Json := presentMembers [
  ("from", some (.string connection.source)), ("to", some (.string connection.target)),
  ("condition", connection.guard.map .string)]

end Connection

namespace Workflow

/-- Read a workflow.  One without an identifier gets the given one, and missing
times are those of the reading. -/
def decode? (freshId : WorkflowId) (now : Instant) (document : Document) : Option Workflow := do
  let record ← document.record?
    ["id", "name", "status", "nodes", "connections", "trigger", "version", "createdAt",
      "updatedAt"]
  some
    { id := ← record.defaulted "id" (Ident.decode? .workflow) freshId
      name := ← record.required "name" text?
      status := ← record.defaulted "status" Status.decode? .draft
      nodes := ← record.required "nodes" (list? Node.decode?)
      connections := ← record.defaulted "connections" (list? Connection.decode?) []
      trigger := ← record.required "trigger" text?
      version := ← record.defaulted "version" count32? 1
      createdAt := ← record.defaulted "createdAt" Instant.decode? now
      updatedAt := ← record.defaulted "updatedAt" Instant.decode? now }

def encode (workflow : Workflow) : Json := .ofMembers [
  ("id", workflow.id.encode), ("name", .string workflow.name),
  ("status", .string workflow.status.name), ("nodes", .array (workflow.nodes.map Node.encode)),
  ("connections", .array (workflow.connections.map Connection.encode)),
  ("trigger", .string workflow.trigger), ("version", .ofNat workflow.version),
  ("createdAt", workflow.createdAt.encode), ("updatedAt", workflow.updatedAt.encode)]

/-- Why a text gives no workflow that can run. -/
inductive LoadError where
  | unreadable (reason : String)
  | invalid (workflowId : WorkflowId) (error : GraphError)
  deriving DecidableEq, Repr

namespace LoadError

def message : LoadError → String
  | unreadable reason => s!"failed to parse workflow: {reason}"
  | invalid workflowId _ => s!"graph validation failed for workflow {workflowId.display}"

/-- The error and what caused it, outermost first. -/
def chain (error : LoadError) : List String :=
  error.message :: match error with
    | unreadable _ => []
    | invalid _ cause => [cause.message]

end LoadError

/-- Read a workflow from a text and validate it. -/
def ofText (freshId : WorkflowId) (now : Instant) (text : String) : Except LoadError Workflow :=
  match (Document.parse? text).bind (decode? freshId now) with
  | none => .error (.unreadable "not a workflow document")
  | some workflow =>
      match workflow.validate with
      | .ok () => .ok workflow
      | .error error => .error (.invalid workflow.id error)

end Workflow

end Flowline
