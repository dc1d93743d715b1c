import Flowline.Connector.Registry

/-!
# The chat webhook connector

It posts messages to the incoming webhook of a chat channel.  The address of the
webhook is a credential.
-/

namespace Flowline.Connector.ChatWebhook

/-- The only operation. -/
def sendMessage : String := "send_message"

/-- The credential that holds the address. -/
def webhookUrl : String := "webhook_url"

/-- Milliseconds until a request is given up. -/
def timeLimit : Nat := 15000

def info : ConnectorInfo where
  id := "chat_webhook"
  name := "Chat webhook"
  description := "Sends messages to a chat channel's incoming webhook"
  operations := [
    { name := sendMessage
      description := "Post a text message"
      inputSchema := .ofMembers [
        ("type", .string "object"),
        ("properties", .ofMembers [("text", .ofMembers [("type", .string "string")])]),
        ("required", .array [.string "text"])] }]
  capabilities := [.write, .credentials]

/-- The text to be sent. -/
def messageText (operation : Operation) : Except ConnectorError String :=
  match (operation.text? "text").filter (· ≠ "") with
  | some text => .ok text
  | none => .error (.invalidParameters operation.name "text is required")

/-- The request that sends a text. -/
def draft (url text : String) : Http.Draft where
  method := .post
  url
  body := some (.ofMembers [("text", .string text)])
  timeout := some timeLimit

/-- What a response says. -/
def read (response : Http.Response) : Except ConnectorError OperationResult :=
  let metadata : OperationMetadata := { latency := response.elapsed, calls := 1 }
  if response.status = 401 || response.status = 403 then
    .error (.authenticationFailed s!"webhook returned HTTP {response.status}")
  else if response.status = 429 then .error (.rateLimited response.retryAfter?)
  else if response.isSuccess then
    .ok (.done
      (.ofMembers [("delivered", .bool true), ("status", .ofNat response.status)]) metadata)
  else
    let body := response.body.getD ""
    .ok (.refused s!"webhook returned HTTP {response.status}: {body}" metadata)

def execute (operation : Operation) : Task (Except ConnectorError OperationResult) := do
  if operation.name ≠ sendMessage then
    return .error (.operationNotSupported operation.name)
  match messageText operation, operation.credential webhookUrl with
  | .error error, _ => return .error error
  | .ok _, .error error => return .error error
  | .ok text, .ok url =>
      match ← Task.send (draft url text) with
      | .ok response => return read response
      | .error error =>
          return .error (if error.isTimeout then .timeout else .connectionFailed error.message)

end Flowline.Connector.ChatWebhook

namespace Flowline.Connector

/-- The connector that posts to a chat. -/
def chatWebhook : Connector where
  info := ChatWebhook.info
  execute := ChatWebhook.execute

end Flowline.Connector
