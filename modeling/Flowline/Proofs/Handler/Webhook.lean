import Flowline.Connector.ChatWebhook
import Flowline.Handler.Integration
import Flowline.Proofs.Keyed
import Flowline.Proofs.Program.Trace

/-!
# Attempts at nodes that post to a chat

The address of a webhook is a credential, and it is where the request of the attempt goes.
Two attempts that only differ in it, and whose requests meet the same kind of outcome, end
alike, unless the two addresses cannot be reached: that error names its address.
-/

namespace Flowline

open Program

/-- The same call of a service with another address of the webhook. -/
def IntegrationConfig.withWebhook (config : IntegrationConfig) (url : String) :
    IntegrationConfig :=
  { config with
    credentials := Keyed.insert Connector.ChatWebhook.webhookUrl url config.credentials }

/-- The same node with another address of the webhook, if it calls a service. -/
def Node.withWebhook (node : Node) (url : String) : Node :=
  match node.config with
  | .integration config => { node with config := .integration (config.withWebhook url) }
  | _ => node

/-- A template that is rendered to an address to which requests can be sent. -/
structure Template.IsWebAddress (context : Context) (template : String) : Prop where
  visible : Text.isBlankText (render context template) = false
  readable : ∃ address, Http.Address.parse? (render context template) = some address ∧
    address.isWeb = true

/-- An address that is written out, so that it is the same in every context. -/
structure Template.SpellsAddress (text : String) (address : Http.Address) : Prop where
  plain : Text.cutAt '{' '{' text.toList = none
  visible : Text.isBlankText text = false
  parses : Http.Address.parse? text = some address
  web : address.isWeb = true

theorem Template.SpellsAddress.isWebAddress {text : String} {address : Http.Address}
    (spells : SpellsAddress text address) (context : Context) : IsWebAddress context text := by
  have same : render context text = text := render_of_plain spells.plain context
  exact ⟨by rw [same, spells.visible], address, by rw [same, spells.parses], spells.web⟩

namespace Http

/-- Two requests meet the same kind of outcome: responses that are the same but for the
time they took, or the same reason why there is none. -/
inductive SameKind : Except Fault Response → Except Fault Response → Prop where
  | answered (status : Nat) (headers : List (String × String)) (body : Option String)
      (elapsed other : Nat) :
      SameKind (.ok ⟨status, headers, body, elapsed⟩) (.ok ⟨status, headers, body, other⟩)
  | failed (fault : Fault) : SameKind (.error fault) (.error fault)

end Http

namespace Service

/-- Two requests over the web that meet the same kind of outcome. -/
inductive SameKind : Event services → Event services → Prop where
  | exchange (first second : Http.Exchange) {reply other : Except Http.Fault Http.Response} :
      Http.SameKind reply other → SameKind ⟨.exchange first, reply⟩ ⟨.exchange second, other⟩

/-- No address that could not be reached tells two lists of calls apart. -/
def Indistinct (calls others : List (Event services)) : Prop :=
  ∀ first second, (⟨.exchange first, .error .unreachable⟩ : Event services) ∈ calls →
    (⟨.exchange second, .error .unreachable⟩ : Event services) ∈ others →
      first.address.text = second.address.text

theorem indistinct_nil : Indistinct [] [] := fun _ _ absent => (List.not_mem_nil absent).elim

theorem indistinct_singleton (first second : Http.Exchange)
    (reply other : Except Http.Fault Http.Response) :
    Indistinct [⟨.exchange first, reply⟩] [⟨.exchange second, other⟩] ↔
      (reply = .error .unreachable → other = .error .unreachable →
        first.address.text = second.address.text) := by
  constructor
  · rintro indistinct rfl rfl
    exact indistinct first second List.mem_cons_self List.mem_cons_self
  · intro alike unreached others member another
    cases List.mem_singleton.mp member
    cases List.mem_singleton.mp another
    exact alike rfl rfl

end Service

namespace Connector.ChatWebhook

/-! ## The connector -/

/-- The text that an operation asks to be sent. -/
def demand (operation : Operation) : Except ConnectorError String :=
  if operation.name ≠ sendMessage then .error (.operationNotSupported operation.name)
  else messageText operation

/-- The request that sends a text to an address. -/
def exchange (address : Http.Address) (text : String) : Http.Exchange where
  method := .post
  address := address.withQuery []
  headers := [("content-type", "application/json")]
  body := some (.ofMembers [("text", .string text)])
  timeout := some timeLimit

/-- What the outcome of a request to an address means. -/
def receive (address : Http.Address) :
    Except Http.Fault Http.Response → Except ConnectorError OperationResult
  | .ok response => read response
  | .error .timedOut => .error .timeout
  | .error .unreachable =>
      .error (.connectionFailed (Http.Error.unanswered address .unreachable).message)

theorem prepare_draft {url : String} {address : Http.Address}
    (parses : Http.Address.parse? url = some address) (web : address.isWeb = true)
    (text : String) : (draft url text).prepare = .ok (exchange address text) := by
  have named : address.host.isNone = false := by
    simp only [Http.Address.isWeb, Bool.and_eq_true] at web
    simpa using web.2
  have stillWeb : (address.withQuery []).isWeb = true := web
  simp only [Http.Draft.prepare, draft, parses, named, stillWeb, List.all_nil, Bool.not_true,
    Bool.false_eq_true, if_false]
  rfl

theorem execute_eq {operation : Operation} {url : String} {address : Http.Address}
    (given : operation.credential webhookUrl = .ok url)
    (parses : Http.Address.parse? url = some address) (web : address.isWeb = true) :
    execute operation =
      match demand operation with
      | .error error => done (.error error)
      | .ok text => @ask services _ (.exchange (exchange address text)) fun reply =>
          done (receive (address.withQuery []) reply) := by
  unfold execute demand
  split
  · rfl
  · cases messageText operation with
    | error error => rfl
    | ok text =>
        simp only [given, Task.send, prepare_draft parses web]
        refine congrArg (@ask services _ _) (funext fun reply => ?_)
        rcases reply with (_ | _) | response <;> rfl

end Connector.ChatWebhook

namespace Handler.Integration

open Connector Connector.ChatWebhook

/-! ## The handler -/

theorem credential_withWebhook {context : Context} {url : String} (config : IntegrationConfig)
    (visible : Text.isBlankText (Template.render context url) = false) :
    (operation (config.withWebhook url) context).credential webhookUrl =
      .ok (Template.render context url) := by
  have found : Keyed.get? webhookUrl (operation (config.withWebhook url) context).credentials =
      some (Template.render context url) := by
    simp [operation, IntegrationConfig.withWebhook, Keyed.get?_map]
  unfold Operation.credential
  rw [found, Option.filter_some_pos (by simp [visible])]

/-- The time that a response took is not shown. -/
theorem read_elapsed (config : IntegrationConfig) (status : Nat)
    (headers : List (String × String)) (body : Option String) (elapsed other : Nat) :
    read config (ChatWebhook.read ⟨status, headers, body, elapsed⟩) =
      read config (ChatWebhook.read ⟨status, headers, body, other⟩) := by
  unfold ChatWebhook.read
  split
  · rfl
  · split
    · rfl
    · unfold Http.Response.isSuccess
      split <;> rfl

/-- The error of an attempt that cannot reach its address. -/
def unreachable (config : IntegrationConfig) (address : String) : NodeError :=
  .external config.connector
    ("connection failed: " ++ ("error sending request for url (" ++ address ++ ")"))

theorem read_unreachable (config : IntegrationConfig) (address : Http.Address) :
    read config (receive address (.error .unreachable)) =
      .error (unreachable config address.text) := rfl

theorem unreachable_message_inj (config : IntegrationConfig) {first second : String} :
    (unreachable config first).message = (unreachable config second).message ↔
      first = second := by
  have message (address : String) : (unreachable config address).message =
      config.connector ++ " error: " ++
        ("connection failed: " ++ ("error sending request for url (" ++ address ++ ")")) := rfl
  rw [message, message, String.append_right_inj, String.append_right_inj,
    String.append_left_inj, String.append_right_inj]

/-- Of the outcome of a request, an attempt shows the address only if it cannot be reached. -/
theorem read_receive_eq_iff (config : IntegrationConfig) (first second : Http.Address)
    {reply other : Except Http.Fault Http.Response} (same : Http.SameKind reply other) :
    read config (receive first reply) = read config (receive second other) ↔
      (reply = .error .unreachable → other = .error .unreachable →
        first.text = second.text) := by
  cases same with
  | answered status headers body elapsed other =>
      exact iff_of_true (read_elapsed config status headers body elapsed other) nofun
  | failed fault =>
      cases fault with
      | timedOut => exact iff_of_true rfl nofun
      | unreachable =>
          rw [read_unreachable, read_unreachable]
          constructor
          · intro same _ _
            exact (unreachable_message_inj config).mp
              (congrArg NodeError.message (Except.error.inj same))
          · intro same
            rw [same rfl rfl]

end Handler.Integration

/-! ## Attempts -/

/-- A node that posts to a chat: its configuration names the connector for that, and the
handler of its type knows the connector. -/
structure Node.PostsToChat (registry : HandlerRegistry) (node : Node) (config : IntegrationConfig) :
    Prop where
  config_eq : node.config = .integration config
  connects : ∃ connectors : ConnectorRegistry,
    registry.get .integration = .ok (Handler.integration connectors) ∧
      connectors.get config.connector = .ok .chatWebhook

section Attempts

open Connector.ChatWebhook Handler.Integration

variable {registry : HandlerRegistry} {node : Node} {config : IntegrationConfig}
  {context : Context} {left right : String} {calls others : List (Event services)}
  {result other : Except NodeError Json}

theorem attempt_withWebhook (posts : node.PostsToChat registry config) {url : String}
    {address : Http.Address} (visible : Text.isBlankText (Template.render context url) = false)
    (parses : Http.Address.parse? (Template.render context url) = some address)
    (web : address.isWeb = true) :
    registry.attempt (node.withWebhook url) context =
      match demand (operation config context) with
      | .error error => done (read config (.error error))
      | .ok text => @ask services _ (.exchange (exchange address text)) fun reply =>
          done (read config (receive (address.withQuery []) reply)) := by
  obtain ⟨isIntegration, connectors, handles, connects⟩ := posts
  have configured : (node.withWebhook url).config = .integration (config.withWebhook url) := by
    simp [Node.withWebhook, isIntegration]
  have type : (node.withWebhook url).type = .integration := by
    rw [Node.type, configured]
    rfl
  have connected : connectors.get (config.withWebhook url).connector = .ok .chatWebhook := connects
  have demanded : demand (operation (config.withWebhook url) context) =
      demand (operation config context) := rfl
  rw [HandlerRegistry.attempt, type, handles]
  unfold Handler.integration
  simp only [configured, connected, Connector.chatWebhook,
    execute_eq (credential_withWebhook config visible) parses web, demanded]
  cases demand (operation config context) <;> rfl

/-- What an attempt comes to that posts to an address, if there is a text to be sent. -/
def Posted (config : IntegrationConfig) (address : Http.Address) (calls : List (Event services))
    (result : Except NodeError Json) : Except ConnectorError String → Prop
  | .error error => calls = [] ∧ result = read config (.error error)
  | .ok text => ∃ reply, calls = [⟨.exchange (exchange address text), reply⟩] ∧
      result = read config (receive (address.withQuery []) reply)

theorem exists_posted (posts : node.PostsToChat registry config) {url : String}
    (isAddress : Template.IsWebAddress context url)
    (yields : (registry.attempt (node.withWebhook url) context).Yields calls result) :
    ∃ address, Posted config address calls result (demand (operation config context)) := by
  obtain ⟨visible, address, parses, web⟩ := isAddress
  rw [attempt_withWebhook posts visible parses web] at yields
  refine ⟨address, ?_⟩
  cases demanded : demand (operation config context) with
  | error error =>
      simp only [demanded, yields_done] at yields
      exact yields
  | ok text =>
      simp only [demanded, yields_ask, yields_done] at yields
      obtain ⟨reply, _, rfl, rfl, rfl⟩ := yields
      exact ⟨reply, rfl, rfl⟩

theorem attempt_yields (posts : node.PostsToChat registry config) {url text : String}
    {address : Http.Address} (spells : Template.SpellsAddress url address)
    (demanded : demand (operation config context) = .ok text)
    (reply : Except Http.Fault Http.Response) :
    (registry.attempt (node.withWebhook url) context).Yields
      [⟨.exchange (exchange address text), reply⟩]
      (read config (receive (address.withQuery []) reply)) := by
  have same : Template.render context url = url := Template.render_of_plain spells.plain context
  rw [attempt_withWebhook posts (by rw [same, spells.visible]) (by rw [same, spells.parses])
    spells.web, demanded]
  exact .ask (.done _)

/-- Two attempts at a node with one or the other address of its webhook, whose requests meet
the same kind of outcome, end alike exactly if no address that cannot be reached tells them
apart. -/
theorem attempt_withWebhook_eq_iff (posts : node.PostsToChat registry config)
    (isLeft : Template.IsWebAddress context left) (isRight : Template.IsWebAddress context right)
    (first : (registry.attempt (node.withWebhook left) context).Yields calls result)
    (second : (registry.attempt (node.withWebhook right) context).Yields others other)
    (same : List.Forall₂ Service.SameKind calls others) :
    result = other ↔ Service.Indistinct calls others := by
  obtain ⟨address, posted⟩ := exists_posted posts isLeft first
  obtain ⟨addressRight, postedRight⟩ := exists_posted posts isRight second
  generalize demand (operation config context) = demanded at posted postedRight
  cases demanded with
  | error error =>
      obtain ⟨rfl, rfl⟩ := posted
      obtain ⟨rfl, rfl⟩ := postedRight
      exact iff_of_true rfl Service.indistinct_nil
  | ok text =>
      obtain ⟨reply, rfl, rfl⟩ := posted
      obtain ⟨replyRight, rfl, rfl⟩ := postedRight
      obtain ⟨⟨-, -, kind⟩, -⟩ := List.forall₂_cons.mp same
      rw [read_receive_eq_iff config _ _ kind, Service.indistinct_singleton]
      rfl

/-- If two addresses are told apart, then both attempts fail, and with different messages. -/
theorem messages_of_distinct (posts : node.PostsToChat registry config)
    (isLeft : Template.IsWebAddress context left) (isRight : Template.IsWebAddress context right)
    (first : (registry.attempt (node.withWebhook left) context).Yields calls result)
    (second : (registry.attempt (node.withWebhook right) context).Yields others other)
    (distinct : ¬ Service.Indistinct calls others) :
    ∃ error failure, result = .error error ∧ other = .error failure ∧
      error.message ≠ failure.message := by
  obtain ⟨address, posted⟩ := exists_posted posts isLeft first
  obtain ⟨addressRight, postedRight⟩ := exists_posted posts isRight second
  generalize demand (operation config context) = demanded at posted postedRight
  cases demanded with
  | error error =>
      obtain ⟨rfl, -⟩ := posted
      obtain ⟨rfl, -⟩ := postedRight
      exact (distinct Service.indistinct_nil).elim
  | ok text =>
      obtain ⟨reply, rfl, rfl⟩ := posted
      obtain ⟨replyRight, rfl, rfl⟩ := postedRight
      rw [Service.indistinct_singleton] at distinct
      push Not at distinct
      obtain ⟨rfl, rfl, differ⟩ := distinct
      have unlike : (address.withQuery []).text ≠ (addressRight.withQuery []).text := differ
      have fails := read_unreachable config (address.withQuery [])
      have failsRight := read_unreachable config (addressRight.withQuery [])
      refine ⟨_, _, fails, failsRight, ?_⟩
      exact mt (unreachable_message_inj config).mp unlike

end Attempts

end Flowline
