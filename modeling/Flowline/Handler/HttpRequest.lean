import Flowline.Handler.Basic
import Flowline.Json.Parser

/-!
# The handler for web requests
-/

namespace Flowline.Handler.HttpRequest

/-- The name of the service in errors. -/
def service : String := "http"

/-- Texts under names, each rendered. -/
def renderAll (context : Context) (texts : Keyed String) : List (String × String) :=
  texts.map fun (key, text) => (key, Template.render context text)

/-- The request of a node; an address must not be blank. -/
def draft (config : HttpRequestConfig) (context : Context) : Except NodeError Http.Draft :=
  let url := Template.render context config.url
  if Text.isBlankText url then .error (.missingConfig "url")
  else
    .ok
      { method := config.method
        url
        query := renderAll context config.query
        headers := renderAll context config.headers
        body := config.body.map (Template.resolve context)
        timeout := config.timeout }

/-- The text of a response as a value: JSON if it is, and else the text. -/
def bodyValue (text : String) : Json :=
  if text = "" then .null else (Json.parse? text).getD (.string text)

/-- What a response to a request means. -/
def read (draft : Http.Draft) (response : Http.Response) : Except NodeError Json :=
  match response.body with
  | none => .error (.external service Http.Error.brokenBody.message)
  | some text =>
      if response.isSuccess then
        .ok (.ofMembers [("status", .ofNat response.status),
          ("headers", .object response.visibleHeaders), ("body", bodyValue text)])
      else
        .error (.external service
          s!"{draft.method.name} {draft.url} returned HTTP {response.status}")

/-- What a request without a response means. -/
def failure (draft : Http.Draft) (error : Http.Error) : NodeError :=
  match draft.timeout with
  | some limit => if error.isTimeout then .timeout limit else .external service error.message
  | none => .external service error.message

end Flowline.Handler.HttpRequest

namespace Flowline.Handler

/-- Send a request. -/
def httpRequest : Handler := fun node context => do
  match node.config with
  | .httpRequest config =>
      match HttpRequest.draft config context with
      | .error error => return .error error
      | .ok draft =>
          match ← Task.send draft with
          | .ok response => return HttpRequest.read draft response
          | .error error => return .error (HttpRequest.failure draft error)
  | _ => return .error (wrongType node .httpRequest)

end Flowline.Handler
