import Flowline.Generation.Failover

/-!
# Chat completions

The protocol of the backends that are reached over the web: the messages are
posted as JSON below the base address of the backend, and the first choice of
the answer holds the text.
-/

namespace Flowline

open Json (Document)
open Json.Document

namespace ChatCompletion

/-- The address that messages are posted to. -/
def endpoint (config : BackendConfig) : String :=
  String.ofList (config.baseUrl.toList.reverse.dropWhile (· = '/')).reverse ++ "/chat/completions"

def message (role content : String) : Json :=
  .ofMembers [("role", .string role), ("content", .string content)]

/-- The body of a request to a model. -/
def body (model : String) (request : GenerationRequest) : Json :=
  let system := request.system.toList.map (message "system")
  presentMembers [
    ("model", some (.string model)),
    ("messages", some (.array (system ++ [message "user" request.prompt]))),
    ("max_tokens", request.maxTokens.map .ofNat),
    ("temperature", request.temperature.map encodeBinary32)]

/-- What is read from an answer. -/
structure Answer where
  model : Option String
  /-- The texts of the choices. -/
  choices : List (Option String)
  usage : Option TokenUsage

def decodeChoice? (document : Document) : Option (Option String) := do
  let choice ← document.record? ["message"]
  choice.required "message" fun document => do
    let message ← document.record? ["content"]
    message.optional "content" text?

def decodeUsage? (document : Document) : Option TokenUsage := do
  let record ← document.record? ["prompt_tokens", "completion_tokens"]
  some
    { input := ← record.defaulted "prompt_tokens" count32? 0
      output := ← record.defaulted "completion_tokens" count32? 0 }

def Answer.decode? (document : Document) : Option Answer := do
  let record ← document.record? ["model", "choices", "usage"]
  some
    { model := ← record.optional "model" text?
      choices := ← record.defaulted "choices" (list? decodeChoice?) []
      usage := ← record.optional "usage" decodeUsage? }

/-- Read the answer of a backend to a request to a model. -/
def parse (backend model text : String) : Except GenerationError GenerationResponse :=
  match (Document.parse? text).bind Answer.decode? with
  | none => .error (.invalidResponse backend "unreadable answer")
  | some answer =>
      match answer.choices with
      | some text :: _ =>
          .ok
            { text
              model := answer.model.getD model
              backend
              usage := answer.usage.getD {} }
      | _ => .error (.invalidResponse backend "response contained no message content")

/-- What a response says. -/
def read (backend model : String) (response : Http.Response) :
    Except GenerationError GenerationResponse :=
  if response.status = 429 then .error (.rateLimited backend response.retryAfter?)
  else
    match response.body with
    | none => .error (.requestFailed backend Http.Error.brokenBody.message)
    | some text =>
        if response.isSuccess then parse backend model text
        else .error (.refused backend response.status text)

/-- The request that is sent to a backend. -/
def draft (config : BackendConfig) (model : String) (request : GenerationRequest) : Http.Draft where
  method := .post
  url := endpoint config
  headers := match config.apiKey with
    | some key => [("authorization", "Bearer " ++ key)]
    | none => []
  body := some (body model request)
  timeout := some config.timeout

/-- The backend of a configuration. -/
def backend (config : BackendConfig) : Backend where
  name := config.name
  model := config.model
  generate request := do
    let model := request.model.getD config.model
    match ← Task.send (draft config model request) with
    | .ok response => return read config.name model response
    | .error error =>
        return .error (if error.isTimeout then .timeout config.name
          else .requestFailed config.name error.message)

/-- The chain of a configuration. -/
def chain (config : GenerationConfig) : FailoverChain :=
  ({ backends := config.backends.map backend : FailoverChain }.withAttempts
    config.attemptsPerBackend).withBackoff config.initialBackoff config.maxBackoff

end ChatCompletion

end Flowline
