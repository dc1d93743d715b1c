import Flowline.Handler.AiGenerate
import Flowline.Handler.HttpRequest
import Flowline.Handler.Integration
import Flowline.Handler.Plain

/-!
# The handlers that are there from the start
-/

namespace Flowline.HandlerRegistry

/-- A handler for every type that is known. -/
def builtIn (connectors : ConnectorRegistry) (chain : FailoverChain) : HandlerRegistry := [
  (.webhook, Handler.trigger), (.manual, Handler.trigger), (.schedule, Handler.trigger),
  (.httpRequest, Handler.httpRequest), (.integration, Handler.integration connectors),
  (.aiGenerate, Handler.aiGenerate chain), (.setVariables, Handler.setVariables),
  (.delay, Handler.delay), (.log, Handler.log), (.condition, Handler.condition)]

end Flowline.HandlerRegistry
