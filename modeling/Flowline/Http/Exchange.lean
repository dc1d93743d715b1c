import Flowline.Http.Address
import Flowline.Json.Printer
import Flowline.Workflow.Node

/-!
# Requests and responses of the web

A request is drafted with texts as they come and then made ready: its address is
read, named values are put into its query, and its headers are checked.  Only a
request that is ready can be sent.
-/

namespace Flowline.Http

/-- A request as it was put together. -/
structure Draft where
  method : HttpMethod
  url : String
  /-- Named values for the query. -/
  query : List (String × String) := []
  headers : List (String × String) := []
  body : Option Json := none
  /-- Milliseconds until the request is given up. -/
  timeout : Option Nat := none

/-- A request that can be sent. -/
structure Exchange where
  method : HttpMethod
  address : Address
  headers : List (String × String)
  body : Option Json
  timeout : Option Nat
  deriving DecidableEq, Repr

/-- What came back for a request. -/
structure Response where
  status : Nat
  headers : List (String × String)
  /-- The text, unless it broke off. -/
  body : Option String
  /-- Milliseconds until it came. -/
  elapsed : Nat
  deriving DecidableEq, Repr

/-- Why nothing came back. -/
inductive Fault where
  | unreachable
  | timedOut
  deriving DecidableEq, Repr

/-- Why a request has no usable response. -/
inductive Error where
  /-- The draft holds something that cannot be sent. -/
  | malformed
  /-- The address is not one of the web. -/
  | unsupported (address : Address)
  | unanswered (address : Address) (fault : Fault)
  | brokenBody
  deriving DecidableEq, Repr

namespace Error

def message : Error → String
  | malformed => "builder error"
  | unsupported address => s!"builder error for url ({address.text})"
  | unanswered address _ => s!"error sending request for url ({address.text})"
  | brokenBody => "error decoding response body"

/-- Whether the time of the request ran out. -/
def isTimeout : Error → Bool
  | unanswered _ .timedOut => true
  | _ => false

end Error

/-- Characters that the name of a header may hold. -/
def isTokenChar (character : Char) : Bool :=
  character.isAlphanum || "!#$%&'*+-.^_\x60|~".toList.contains character

/-- Characters that the value of a header may hold. -/
def isValueChar (character : Char) : Bool :=
  character = '\t' || (0x20 ≤ character.toNat && character.toNat ≠ 0x7F)

def isHeader (header : String × String) : Bool :=
  header.1 ≠ "" && header.1.toList.all isTokenChar && header.2.toList.all isValueChar

/-- The headers of a draft; a body is declared as JSON unless a header says
otherwise. -/
def Draft.allHeaders (draft : Draft) : List (String × String) :=
  let declared := draft.headers.any fun header =>
    header.1.toList.map Char.toLower = "content-type".toList
  if draft.body.isSome && !declared then draft.headers ++ [("content-type", "application/json")]
  else draft.headers

/-- Make a request ready to be sent. -/
def Draft.prepare (draft : Draft) : Except Error Exchange :=
  match Address.parse? draft.url with
  | none => .error .malformed
  | some address =>
      if address.host.isNone then .error (.unsupported address)
      else if !draft.headers.all isHeader then .error .malformed
      else
        let address := address.withQuery draft.query
        if !address.isWeb then .error (.unsupported address)
        else
          .ok
            { method := draft.method
              address
              headers := draft.allHeaders
              body := draft.body
              timeout := draft.timeout }

namespace Response

/-- Whether the request was done. -/
def isSuccess (response : Response) : Bool :=
  200 ≤ response.status && response.status < 300

/-- Whether the value of a header can be shown. -/
def isVisible (value : String) : Bool :=
  value.toList.all fun c => c = '\t' || (0x20 ≤ c.toNat && c.toNat < 0x7F)

/-- The headers that can be shown; of several of one name the last stays. -/
def visibleHeaders (response : Response) : Keyed Json :=
  .ofList ((response.headers.filter fun header => isVisible header.2).map fun (name, value) =>
    (name, .string value))

/-- The seconds after which to ask again, as the response says. -/
def retryAfter? (response : Response) : Option Nat := do
  let (_, value) ← response.headers.find? fun header => header.1 = "retry-after"
  let digits := match value.toList with
    | '+' :: digits => digits
    | digits => digits
  if digits.isEmpty || !digits.all Char.isDigit then none
  else
    let seconds := Number.digitsValue digits
    if seconds < UInt64.size then some seconds else none

end Response

end Flowline.Http
