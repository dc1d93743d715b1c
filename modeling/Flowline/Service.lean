import Flowline.Connector.Operation
import Flowline.Generation.Request
import Flowline.Http.Exchange
import Flowline.Program.Deadline

/-!
# What handlers ask

A handler sleeps, sends requests over the web, and calls connectors and backends
that live outside.  Each of these takes time.
-/

namespace Flowline

namespace Service

inductive Request where
  | sleep (milliseconds : Nat)
  | exchange (exchange : Http.Exchange)
  /-- An operation of a connector that lives outside. -/
  | operate (connector : String) (operation : Operation)
  /-- A text from a backend that lives outside. -/
  | generate (backend : String) (request : GenerationRequest)
  deriving DecidableEq, Repr

abbrev Reply : Request → Type
  | .sleep _ => Unit
  | .exchange _ => Except Http.Fault Http.Response
  | .operate _ _ => Except ConnectorError OperationResult
  | .generate _ _ => Except GenerationError GenerationResponse

end Service

/-- What handlers ask. -/
abbrev services : Interface := ⟨Service.Request, Service.Reply⟩

/-- A program that asks services. -/
abbrev Task := Program services

namespace Task

def sleep (milliseconds : Nat) : Task Unit :=
  @Program.request services (.sleep milliseconds)

def operate (connector : String) (operation : Operation) :
    Task (Except ConnectorError OperationResult) :=
  @Program.request services (.operate connector operation)

def generate (backend : String) (request : GenerationRequest) :
    Task (Except GenerationError GenerationResponse) :=
  @Program.request services (.generate backend request)

/-- Send a request over the web. -/
def send (draft : Http.Draft) : Task (Except Http.Error Http.Response) := do
  match draft.prepare with
  | .error error => return .error error
  | .ok exchange =>
      match ← @Program.request services (.exchange exchange) with
      | .ok response => return .ok response
      | .error fault => return .error (.unanswered exchange.address fault)

end Task

end Flowline
