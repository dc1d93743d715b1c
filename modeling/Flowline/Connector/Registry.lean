import Flowline.Service
import Flowline.Text.Quoted

/-!
# Connectors

A connector carries out operations on a service.  The registry keeps connectors
under their identifiers; a later one takes the place of an earlier one.
-/

namespace Flowline

/-- The way to a service. -/
structure Connector where
  info : ConnectorInfo
  execute : Operation → Task (Except ConnectorError OperationResult)
  isHealthy : Bool := true

namespace Connector

def supports (connector : Connector) (capability : Capability) : Bool :=
  connector.info.capabilities.contains capability

end Connector

/-- Connectors under their identifiers. -/
abbrev ConnectorRegistry := Keyed Connector

namespace ConnectorRegistry

/-- Add a connector. -/
def register (registry : ConnectorRegistry) (connector : Connector) : ConnectorRegistry :=
  Keyed.insert connector.info.id connector registry

/-- The registry of some connectors. -/
def ofList (connectors : List Connector) : ConnectorRegistry :=
  connectors.foldl register []

/-- The connector with an identifier. -/
def get (registry : ConnectorRegistry) (id : String) : Except ConnectorError Connector :=
  match Keyed.get? id registry with
  | some connector => .ok connector
  | none => .error (.notFound id)

/-- A line about the registry. -/
def describe (registry : ConnectorRegistry) : String :=
  "ConnectorRegistry \x7b connectors: " ++ Text.quotedList (Keyed.keys registry) ++ " \x7d"

end ConnectorRegistry

end Flowline
