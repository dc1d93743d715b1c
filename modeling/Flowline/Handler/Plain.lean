import Flowline.Guard.Reader
import Flowline.Handler.Basic

/-!
# Handlers without services

These handlers work out their result from the node and the context; the delay
only lets time pass.
-/

namespace Flowline.Handler

/-- A trigger gives the input of the run. -/
def trigger : Handler := fun _ context => return .ok context.input

/-- Resolve values one by one. -/
def setVariables : Handler := fun node context =>
  match node.config with
  | .setVariables values => return .ok (.object (Template.resolveMembers context values))
  | _ => return .error (wrongType node .setVariables)

/-- Wait. -/
def delay : Handler := fun node _ => do
  match node.config with
  | .delay milliseconds =>
      Task.sleep milliseconds
      return .ok (.ofMembers [("delayedMs", .ofNat milliseconds)])
  | _ => return .error (wrongType node .delay)

/-- Give back a message and its level. -/
def log : Handler := fun node context =>
  match node.config with
  | .log level message =>
      return .ok (.ofMembers [("level", .string level.name),
        ("message", .string (Template.render context message))])
  | _ => return .error (wrongType node .log)

/-- Say whether a guard holds. -/
def condition : Handler := fun node context =>
  match node.config with
  | .condition expression =>
      return .ok (.ofMembers [("result", .bool (Guard.holds expression context))])
  | _ => return .error (wrongType node .condition)

end Flowline.Handler
