import Flowline.Connector.Registry

/-!
# The console connector

It carries out every operation by giving back what it was asked, and contacts no
service.
-/

namespace Flowline.Connector

/-- The connector that only echoes. -/
def console : Connector where
  info :=
    { id := "console"
      name := "Console"
      description := "Logs operations without contacting any service"
      operations := []
      capabilities := [.write] }
  execute operation := return .ok (.done
    (.ofMembers [("operation", .string operation.name), ("parameters", operation.parameters)]) {})

end Flowline.Connector
