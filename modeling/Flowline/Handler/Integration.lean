import Flowline.Connector.Registry
import Flowline.Handler.Basic

/-!
# The handler for connectors
-/

namespace Flowline.Handler

namespace Integration

/-- The operation of a node. -/
def operation (config : IntegrationConfig) (context : Context) : Operation where
  name := config.operation
  parameters := Template.resolve context config.parameters
  credentials := config.credentials.map fun (key, text) => (key, Template.render context text)

/-- What the end of an operation means. -/
def read (config : IntegrationConfig) :
    Except ConnectorError OperationResult → Except NodeError Json
  | .error error => .error (.external config.connector error.message)
  | .ok result =>
      if result.success then .ok (result.data.getD .null)
      else .error (.external config.connector
        (result.error.getD s!"operation {config.operation} failed"))

end Integration

/-- Have a connector carry out an operation. -/
def integration (connectors : ConnectorRegistry) : Handler := fun node context => do
  match node.config with
  | .integration config =>
      match connectors.get config.connector with
      | .error error => return .error (.invalidConfig error.message)
      | .ok connector =>
          return Integration.read config (← connector.execute (Integration.operation config context))
  | _ => return .error (wrongType node .integration)

end Flowline.Handler
