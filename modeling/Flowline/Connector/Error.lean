/-!
# Errors of connectors
-/

namespace Flowline

/-- Why an operation of a connector failed. -/
inductive ConnectorError where
  | notFound (connector : String)
  | connectionFailed (reason : String)
  | authenticationFailed (reason : String)
  | rateLimited (retryAfter : Option Nat)
  | operationNotSupported (operation : String)
  | invalidParameters (operation reason : String)
  | missingCredential (name : String)
  | timeout
  deriving DecidableEq, Repr

namespace ConnectorError

def message : ConnectorError → String
  | notFound connector => s!"connector not found: {connector}"
  | connectionFailed reason => s!"connection failed: {reason}"
  | authenticationFailed reason => s!"authentication failed: {reason}"
  | rateLimited (some seconds) => s!"rate limited, retry after {seconds}s"
  | rateLimited none => "rate limited"
  | operationNotSupported operation => s!"operation not supported: {operation}"
  | invalidParameters operation reason => s!"invalid parameters for '{operation}': {reason}"
  | missingCredential name => s!"missing credential: {name}"
  | timeout => "operation timed out"

end ConnectorError

end Flowline
