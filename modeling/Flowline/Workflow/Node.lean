import Flowline.Context
import Flowline.Execution

/-!
# Nodes

The steps of a workflow.  What a node does is given by a configuration of its
type; how often and how long it is tried is given by an optional policy.
-/

namespace Flowline

open Number

/-- The type of a node, which selects its handler. -/
inductive NodeType where
  | webhook
  | manual
  | schedule
  | httpRequest
  | integration
  | aiGenerate
  | setVariables
  | delay
  | log
  | condition
  /-- A type that is not known here. -/
  | unknown
  deriving DecidableEq, Repr, Inhabited

namespace NodeType

/-- All types in the order of their declaration. -/
def all : List NodeType :=
  [webhook, manual, schedule, httpRequest, integration, aiGenerate, setVariables, delay, log,
    condition, unknown]

def name : NodeType → String
  | webhook => "webhook"
  | manual => "manual"
  | schedule => "schedule"
  | httpRequest => "http_request"
  | integration => "integration"
  | aiGenerate => "ai_generate"
  | setVariables => "set_variables"
  | delay => "delay"
  | log => "log"
  | condition => "condition"
  | unknown => "unknown"

/-- Whether a run may enter at a node of this type. -/
def isTrigger : NodeType → Bool
  | webhook | manual | schedule => true
  | _ => false

end NodeType

/-- The method of a request. -/
inductive HttpMethod where
  | get
  | post
  | put
  | patch
  | delete
  | head
  deriving DecidableEq, Repr, Inhabited

namespace HttpMethod

def all : List HttpMethod := [get, post, put, patch, delete, head]

def name : HttpMethod → String
  | get => "GET"
  | post => "POST"
  | put => "PUT"
  | patch => "PATCH"
  | delete => "DELETE"
  | head => "HEAD"

end HttpMethod

/-- A request to be sent; the address and the values are templates. -/
structure HttpRequestConfig where
  method : HttpMethod := .get
  url : String
  headers : Keyed String := []
  query : Keyed String := []
  body : Option Json := none
  /-- Milliseconds until the request is given up. -/
  timeout : Option Nat := none
  deriving DecidableEq, Repr

/-- A call of a service through a connector. -/
structure IntegrationConfig where
  connector : String
  operation : String
  parameters : Json := .object []
  credentials : Keyed String := []
  deriving DecidableEq, Repr

/-- A text to be generated; the prompts are templates. -/
structure AiGenerateConfig where
  prompt : String
  system : Option String := none
  model : Option String := none
  maxTokens : Option Nat := none
  temperature : Option Binary32 := none
  deriving DecidableEq, Repr

/-- What a node does. -/
inductive NodeConfig where
  | webhook (path : Option String)
  | manual
  | schedule (cron : String) (timezone : Option String)
  | httpRequest (config : HttpRequestConfig)
  | integration (config : IntegrationConfig)
  | aiGenerate (config : AiGenerateConfig)
  | setVariables (values : Keyed Json)
  | delay (milliseconds : Nat)
  | log (level : LogLevel) (message : String)
  | condition (expression : String)
  | unknown
  deriving DecidableEq, Repr, Inhabited

def NodeConfig.type : NodeConfig → NodeType
  | webhook _ => .webhook
  | manual => .manual
  | schedule _ _ => .schedule
  | httpRequest _ => .httpRequest
  | integration _ => .integration
  | aiGenerate _ => .aiGenerate
  | setVariables _ => .setVariables
  | delay _ => .delay
  | log _ _ => .log
  | condition _ => .condition
  | unknown => .unknown

/-- How a node is tried.  Times are in milliseconds, and those that are not set
are taken from the engine. -/
structure NodePolicy where
  /-- Attempts after the first one. -/
  retries : Nat := 0
  retryDelay : Option Nat := none
  timeout : Option Nat := none
  /-- Whether the walk goes on when every attempt has failed. -/
  continueOnError : Bool := false
  /-- A hint that the walk does not follow. -/
  parallel : Bool := false
  deriving DecidableEq, Repr, Inhabited

/-- A step of a workflow. -/
structure Node where
  id : String
  name : String
  config : NodeConfig
  policy : Option NodePolicy := none
  /-- Whether the node runs when another one has failed for good. -/
  errorHandler : Bool := false
  deriving DecidableEq, Repr, Inhabited

namespace Node

def type (node : Node) : NodeType := node.config.type

/-- The policy of a node, or the one without any settings. -/
def policyOrDefault (node : Node) : NodePolicy := node.policy.getD {}

/-- The failure of a node with a message. -/
def failure (node : Node) (message : String) : Failure :=
  { nodeId := node.id, nodeName := node.name, nodeType := node.type.name, message }

end Node

end Flowline
