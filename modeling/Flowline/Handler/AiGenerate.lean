import Flowline.Generation.Failover
import Flowline.Handler.Basic

/-!
# The handler for texts to be generated
-/

namespace Flowline.Handler

namespace AiGenerate

/-- The name of the service in errors. -/
def service : String := "ai"

/-- The request of a node; a prompt must not be blank. -/
def request (config : AiGenerateConfig) (context : Context) : Except NodeError GenerationRequest :=
  let prompt := Template.render context config.prompt
  if Text.isBlankText prompt then .error (.missingConfig "prompt")
  else
    .ok
      { prompt
        system := config.system.map (Template.render context)
        model := config.model
        temperature := config.temperature
        maxTokens := config.maxTokens }

/-- What the outcome of a generation means. -/
def read : Except GenerationError GenerationResponse → Except NodeError Json
  | .error error => .error (.external service error.message)
  | .ok response =>
      .ok (.ofMembers [("text", .string response.text), ("model", .string response.model),
        ("backend", .string response.backend)])

end AiGenerate

/-- Have a text generated. -/
def aiGenerate (chain : FailoverChain) : Handler := fun node context => do
  match node.config with
  | .aiGenerate config =>
      match AiGenerate.request config context with
      | .error error => return .error error
      | .ok request => return AiGenerate.read (← chain.generate request)
  | _ => return .error (wrongType node .aiGenerate)

end Flowline.Handler
