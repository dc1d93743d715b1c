import Flowline.Generation.Error
import Flowline.Workflow.Document

/-!
# Requests for texts

What is asked of a backend, what it answers, and how backends are configured.
Times are in milliseconds.
-/

namespace Flowline

open Json (Document)
open Json.Document
open Number

/-- A text to be generated. -/
structure GenerationRequest where
  prompt : String
  system : Option String := none
  /-- The model, if not that of the backend. -/
  model : Option String := none
  temperature : Option Binary32 := none
  maxTokens : Option Nat := none
  deriving DecidableEq, Repr

namespace GenerationRequest

def decode? (document : Document) : Option GenerationRequest := do
  let record ← document.record? ["prompt", "system", "model", "temperature", "max_tokens"]
  some
    { prompt := ← record.required "prompt" text?
      system := ← record.namedOptional "system" text?
      model := ← record.namedOptional "model" text?
      temperature := ← record.namedOptional "temperature" binary32?
      maxTokens := ← record.namedOptional "max_tokens" count32? }

def encode (request : GenerationRequest) : Json := .ofMembers [
  ("prompt", .string request.prompt), ("system", .ofText? request.system),
  ("model", .ofText? request.model), ("temperature", nullable encodeBinary32 request.temperature),
  ("max_tokens", nullable .ofNat request.maxTokens)]

end GenerationRequest

/-- What a text took. -/
structure TokenUsage where
  input : Nat := 0
  output : Nat := 0
  deriving DecidableEq, Repr, Inhabited

namespace TokenUsage

def total (usage : TokenUsage) : Nat := usage.input + usage.output

def decode? (document : Document) : Option TokenUsage := do
  let record ← document.record? ["input_tokens", "output_tokens"]
  some
    { input := ← record.required "input_tokens" count32?
      output := ← record.required "output_tokens" count32? }

def encode (usage : TokenUsage) : Json := .ofMembers [
  ("input_tokens", .ofNat usage.input), ("output_tokens", .ofNat usage.output)]

end TokenUsage

/-- A text that was generated. -/
structure GenerationResponse where
  text : String
  /-- The model that made it. -/
  model : String
  /-- The backend that answered. -/
  backend : String
  usage : TokenUsage := {}
  deriving DecidableEq, Repr

namespace GenerationResponse

def decode? (document : Document) : Option GenerationResponse := do
  let record ← document.record? ["text", "model", "backend", "usage"]
  some
    { text := ← record.required "text" text?
      model := ← record.required "model" text?
      backend := ← record.required "backend" text?
      usage := ← record.defaulted "usage" TokenUsage.decode? {} }

def encode (response : GenerationResponse) : Json := .ofMembers [
  ("text", .string response.text), ("model", .string response.model),
  ("backend", .string response.backend), ("usage", response.usage.encode)]

end GenerationResponse

/-- A backend that is reached over the web. -/
structure BackendConfig where
  name : String
  baseUrl : String
  model : String
  apiKey : Option String := none
  timeout : Nat := 60000
  deriving DecidableEq, Repr

namespace BackendConfig

def decode? (document : Document) : Option BackendConfig := do
  let record ← document.record? ["name", "base_url", "model", "api_key", "timeout_ms"]
  some
    { name := ← record.required "name" text?
      baseUrl := ← record.required "base_url" text?
      model := ← record.required "model" text?
      apiKey := ← record.optional "api_key" text?
      timeout := ← record.defaulted "timeout_ms" count64? 60000 }

def encode (config : BackendConfig) : Json := .ofMembers [
  ("name", .string config.name), ("base_url", .string config.baseUrl),
  ("model", .string config.model), ("api_key", .ofText? config.apiKey),
  ("timeout_ms", .ofNat config.timeout)]

end BackendConfig

/-- The backends in the order in which they are asked, and how often. -/
structure GenerationConfig where
  backends : List BackendConfig := []
  attemptsPerBackend : Nat := 2
  initialBackoff : Nat := 500
  maxBackoff : Nat := 8000
  deriving DecidableEq, Repr, Inhabited

namespace GenerationConfig

def decode? (document : Document) : Option GenerationConfig := do
  let record ← document.record?
    ["backends", "attempts_per_backend", "initial_backoff_ms", "max_backoff_ms"]
  some
    { backends := ← record.defaulted "backends" (list? BackendConfig.decode?) []
      attemptsPerBackend := ← record.defaulted "attempts_per_backend" count32? 2
      initialBackoff := ← record.defaulted "initial_backoff_ms" count64? 500
      maxBackoff := ← record.defaulted "max_backoff_ms" count64? 8000 }

def encode (config : GenerationConfig) : Json := .ofMembers [
  ("backends", .array (config.backends.map BackendConfig.encode)),
  ("attempts_per_backend", .ofNat config.attemptsPerBackend),
  ("initial_backoff_ms", .ofNat config.initialBackoff),
  ("max_backoff_ms", .ofNat config.maxBackoff)]

end GenerationConfig

end Flowline
