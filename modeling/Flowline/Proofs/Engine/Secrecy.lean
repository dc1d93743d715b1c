import Flowline.Proofs.Engine.Alarm
import Flowline.Proofs.Engine.Relabelling
import Flowline.Proofs.Engine.Report
import Flowline.Proofs.Handler.Webhook

/-!
# What the record shows of a webhook

Two runs of a workflow that differ in the address of a webhook get the same replies, or
there is a first attempt that tells the addresses apart.  Then no address could be reached,
the two failures are reported with the addresses, and the logs are different ever after.
-/

namespace Flowline

open Program

/-- The nodes of a workflow, of which one has another address of its webhook. -/
def Node.redirect (notifier : Node) (url : String) (node : Node) : Node :=
  if node = notifier then node.withWebhook url else node

theorem Node.redirect_hidden (notifier : Node) (url : String) :
    Node.Hidden (notifier.redirect url) := by
  have kept (node : Node) : (node.withWebhook url).id = node.id ∧
      (node.withWebhook url).name = node.name ∧ (node.withWebhook url).type = node.type ∧
      (node.withWebhook url).policy = node.policy ∧
      (node.withWebhook url).errorHandler = node.errorHandler := by
    unfold Node.withWebhook
    split
    next config configured =>
      exact ⟨rfl, rfl, by simp [Node.type, configured, NodeConfig.type], rfl, rfl⟩
    next => exact ⟨rfl, rfl, rfl, rfl, rfl⟩
  constructor <;> intro node <;> unfold Node.redirect <;> split <;> simp [kept node]

namespace Engine

open Connector.ChatWebhook

/-! ## Replies to two attempts -/

section Replies

variable (registry : HandlerRegistry) (notifier : Node) (left right : String) (context : Context)

/-- The replies to two attempts at a node with one or the other address of its webhook, if
they meet the same kind of outcome: neither comes in time, or what their requests meet is of
the same kind. -/
inductive Alike : (reply answer : Option (Except NodeError Json)) → Prop where
  | late : Alike none none
  | inTime {calls others : List (Event services)} {result other : Except NodeError Json} :
      Template.IsWebAddress context left → Template.IsWebAddress context right →
      (registry.attempt (notifier.withWebhook left) context).Yields calls result →
      (registry.attempt (notifier.withWebhook right) context).Yields others other →
      List.Forall₂ Service.SameKind calls others → Alike (some result) (some other)

/-- The replies to two attempts of which the requests meet the same kind of outcome, and an
address that could not be reached tells them apart. -/
inductive ToldApart : (reply answer : Option (Except NodeError Json)) → Prop where
  | unreachable {calls others : List (Event services)} {result other : Except NodeError Json} :
      Template.IsWebAddress context left → Template.IsWebAddress context right →
      (registry.attempt (notifier.withWebhook left) context).Yields calls result →
      (registry.attempt (notifier.withWebhook right) context).Yields others other →
      List.Forall₂ Service.SameKind calls others → ¬ Service.Indistinct calls others →
      ToldApart (some result) (some other)

end Replies

variable {registry : HandlerRegistry} {notifier : Node} {config : IntegrationConfig}
  {left right : String} {context : Context} {reply answer : Option (Except NodeError Json)}

theorem Alike.toldApart_iff (posts : notifier.PostsToChat registry config)
    (alike : Alike registry notifier left right context reply answer) :
    ToldApart registry notifier left right context reply answer ↔ reply ≠ answer := by
  constructor
  · rintro ⟨isLeft, isRight, first, second, same, distinct⟩ equal
    exact distinct ((attempt_withWebhook_eq_iff posts isLeft isRight first second same).mp
      (Option.some.inj equal))
  · intro different
    cases alike with
    | late => exact (different rfl).elim
    | inTime isLeft isRight first second same =>
        refine .unreachable isLeft isRight first second same fun indistinct => different ?_
        rw [(attempt_withWebhook_eq_iff posts isLeft isRight first second same).mpr indistinct]

theorem ToldApart.messages (posts : notifier.PostsToChat registry config)
    (apart : ToldApart registry notifier left right context reply answer) :
    ∃ error failure, reply = some (.error error) ∧ answer = some (.error failure) ∧
      error.message ≠ failure.message := by
  obtain ⟨isLeft, isRight, first, second, -, distinct⟩ := apart
  obtain ⟨error, failure, rfl, rfl, differ⟩ :=
    messages_of_distinct posts isLeft isRight first second distinct
  exact ⟨error, failure, rfl, rfl, differ⟩

/-! ## Two runs -/

/-- The replies that two runs get at the same turn to an attempt at a node, with one or the
other address of its webhook. -/
def Twice (notifier : Node) (left right : String) (events more : List (Event surroundings))
    (context : Context) (reply answer : Option (Except NodeError Json)) : Prop :=
  ∃ attempt : Attempt, attempt.context = context ∧
    ((⟨.attempt { attempt with node := notifier.withWebhook left }, reply⟩,
      ⟨.attempt { attempt with node := notifier.withWebhook right }, answer⟩) :
        Event surroundings × Event surroundings) ∈ events.zip more

theorem report?_divertEvent {alter : Node → Node} (hidden : Node.Hidden alter)
    (settings : Settings) (event : Event surroundings) :
    report? settings (divertEvent alter event) = report? settings event := by
  obtain ⟨asked, reply⟩ := event
  cases asked with
  | attempt attempt =>
      have sameResult : (attempt.mapNode alter).result reply = attempt.result reply := rfl
      have sameReport (error : NodeError) :
          (attempt.mapNode alter).report settings error = attempt.report settings error := by
        simp [Attempt.report, Attempt.mapNode, hidden.name_eq, forNode_alter hidden]
      simp only [report?, divertEvent, sameResult, sameReport]
      simp [Attempt.mapNode, hidden.id_eq]
  | _ => rfl

theorem reports_divertEvent {alter : Node → Node} (hidden : Node.Hidden alter)
    (settings : Settings) (events : List (Event surroundings)) :
    (events.map (divertEvent alter)).filterMap (report? settings) =
      events.filterMap (report? settings) := by
  simp [List.filterMap_map, report?_divertEvent hidden]

/-- Where two runs get different replies, they attempt the node whose webhook has one or the
other address. -/
theorem exists_twice {events more : List (Event surroundings)} {asked : Request}
    {reply answer : Reply asked} (agree : Agree events more) (differ : reply ≠ answer)
    (member : (divertEvent (notifier.redirect left) ⟨asked, reply⟩,
      divertEvent (notifier.redirect right) ⟨asked, answer⟩) ∈ events.zip more) :
    ∃ (attempt : Attempt) (first second : Option (Except NodeError Json)), first ≠ second ∧
      (⟨asked, reply⟩ : Event surroundings) = ⟨.attempt attempt, first⟩ ∧
      (⟨asked, answer⟩ : Event surroundings) = ⟨.attempt attempt, second⟩ ∧
      Twice notifier left right events more attempt.context first second := by
  have unchanged (same : divertEvent (notifier.redirect left) ⟨asked, reply⟩ = ⟨asked, reply⟩)
      (sameRight : divertEvent (notifier.redirect right) ⟨asked, answer⟩ = ⟨asked, answer⟩) :
      False := by
    rw [same, sameRight] at member
    exact differ (agree asked reply answer member)
  cases asked with
  | attempt attempt =>
      refine ⟨attempt, reply, answer, differ, rfl, rfl, attempt, rfl, ?_⟩
      by_cases here : attempt.node = notifier
      · have moved (url : String) : attempt.mapNode (notifier.redirect url) =
            { attempt with node := notifier.withWebhook url } := by
          rw [Attempt.mapNode, Node.redirect, if_pos here, here]
        rwa [divertEvent, divertEvent, moved, moved] at member
      · have kept (url : String) : attempt.mapNode (notifier.redirect url) = attempt := by
          rw [Attempt.mapNode, Node.redirect, if_neg here]
        exact (unchanged (by rw [divertEvent, kept]) (by rw [divertEvent, kept])).elim
  | now | sleep _ | create _ | load _ | save _ _ => exact (unchanged rfl rfl).elim

theorem Twice.reply_eq {plain : List (Event surroundings)}
    (twice : Twice notifier left right (plain.map (divertEvent (notifier.redirect left)))
      (plain.map (divertEvent (notifier.redirect right))) context reply answer) :
    reply = answer := by
  obtain ⟨attempt, -, member⟩ := twice
  simp only [List.zip_map', List.mem_map, Prod.mk.injEq] at member
  obtain ⟨⟨asked, got⟩, -, first, second⟩ := member
  cases asked with
  | attempt tried =>
      exact (eq_of_heq (Event.mk.inj first).2).symm.trans (eq_of_heq (Event.mk.inj second).2)
  | now | sleep _ | create _ | load _ | save _ _ => cases first

/-- Two runs that differ in the address of a webhook, in which requests meet the same kind of
outcome, keep the same record, unless an address that cannot be reached tells them apart.
Then their logs differ. -/
theorem execute_redirect (posts : notifier.PostsToChat registry config) {settings : Settings}
    {workflow : Workflow} {id : ExecutionId} {input : Json}
    {events more : List (Event surroundings)} {record other : Execution}
    (first : (execute settings (workflow.mapNodes (notifier.redirect left)) id input).Yields
      events record)
    (second : (execute settings (workflow.mapNodes (notifier.redirect right)) id input).Yields
      more other)
    (agree : Agree events more)
    (alike : ∀ context reply answer, Twice notifier left right events more context reply answer →
      Alike registry notifier left right context reply answer) :
    ((∀ context reply answer, Twice notifier left right events more context reply answer →
        ¬ ToldApart registry notifier left right context reply answer) ∧
      record = other ∧ events.filterMap written? = more.filterMap written?) ∨
    ((∃ context reply answer, Twice notifier left right events more context reply answer ∧
        ToldApart registry notifier left right context reply answer) ∧
      record.reports ≠ other.reports) := by
  rcases execute_alter_diverge (notifier.redirect_hidden left) (notifier.redirect_hidden right)
    first second with
    ⟨same, plain, rfl, rfl⟩ | ⟨earlier, rest, others, asked, reply, answer, differ, rfl, rfl⟩
  · refine .inl ⟨fun context reply answer twice apart => ?_, same, ?_⟩
    · exact ((alike context reply answer twice).toldApart_iff posts).mp apart twice.reply_eq
    · simp [List.filterMap_map]
  · have member : (divertEvent (notifier.redirect left) ⟨asked, reply⟩,
        divertEvent (notifier.redirect right) ⟨asked, answer⟩) ∈
          ((earlier ++ ⟨asked, reply⟩ :: rest).map (divertEvent (notifier.redirect left))).zip
            ((earlier ++ ⟨asked, answer⟩ :: others).map
              (divertEvent (notifier.redirect right))) := by
      simp [List.zip_append]
    obtain ⟨attempt, reply, answer, differ, isFirst, isSecond, twice⟩ :=
      exists_twice agree differ member
    have apart := ((alike _ _ _ twice).toldApart_iff posts).mpr differ
    refine .inr ⟨⟨_, _, _, twice, apart⟩, fun same => ?_⟩
    obtain ⟨error, failure, rfl, rfl, unlike⟩ := apart.messages posts
    have reports := (execute_reports _ _ _ _).of_yields first
    have reportsRight := (execute_reports _ _ _ _).of_yields second
    rw [reports_divertEvent (notifier.redirect_hidden left), isFirst] at reports
    rw [reports_divertEvent (notifier.redirect_hidden right), isSecond] at reportsRight
    rw [reports, reportsRight, List.filterMap_append, List.filterMap_append] at same
    have heads := List.append_cancel_left same
    rw [List.filterMap_cons_some (report?_error settings attempt error),
      List.filterMap_cons_some (report?_error settings attempt failure)] at heads
    have texts := congrArg Prod.snd (List.cons.inj heads).1
    exact unlike (attempt.report_inj settings texts)

/-- Whatever the two addresses of its webhook are, two attempts at a node that posts to a chat,
whose requests meet the same kind of outcome, end alike, unless neither address can be reached
and the two read differently.  So two runs that get the same replies otherwise end with the
same record and write the same versions of it, unless that happens at one of their attempts.
If it happens, the addresses are reported, and the logs differ. -/
theorem execute_hides_webhook (posts : notifier.PostsToChat registry config)
    (left right : String) (settings : Settings) (workflow : Workflow) (id : ExecutionId)
    (input : Json) :
    (∀ context calls others result other,
      Template.IsWebAddress context left → Template.IsWebAddress context right →
      (registry.attempt (notifier.withWebhook left) context).Yields calls result →
      (registry.attempt (notifier.withWebhook right) context).Yields others other →
      List.Forall₂ Service.SameKind calls others →
        (result = other ↔ Service.Indistinct calls others)) ∧
    ∀ events more record other,
      (execute settings (workflow.mapNodes (notifier.redirect left)) id input).Yields
        events record →
      (execute settings (workflow.mapNodes (notifier.redirect right)) id input).Yields
        more other →
      Agree events more →
      (∀ context reply answer, Twice notifier left right events more context reply answer →
        Alike registry notifier left right context reply answer) →
      ((∀ context reply answer, Twice notifier left right events more context reply answer →
          ¬ ToldApart registry notifier left right context reply answer) →
        record = other ∧ events.filterMap written? = more.filterMap written?) ∧
      ((∃ context reply answer, Twice notifier left right events more context reply answer ∧
          ToldApart registry notifier left right context reply answer) →
        record.logs ≠ other.logs) := by
  constructor
  · intro context calls others result other isLeft isRight first second same
    exact attempt_withWebhook_eq_iff posts isLeft isRight first second same
  · intro events more record other first second agree alike
    rcases execute_redirect posts first second agree alike with
      ⟨never, same⟩ | ⟨⟨context, reply, answer, twice, apart⟩, differ⟩
    · refine ⟨fun _ => same, ?_⟩
      rintro ⟨context, reply, answer, twice, apart⟩
      exact (never context reply answer twice apart).elim
    · refine ⟨fun never => (never context reply answer twice apart).elim, fun _ equal => ?_⟩
      exact differ (by rw [Execution.reports, Execution.reports, equal])

/-- A call that posts a greeting. -/
def greetingConfig : IntegrationConfig where
  connector := "chat_webhook"
  operation := "send_message"
  parameters := .object [("text", .string "hi")]

/-- A node that posts a greeting. -/
def messenger : Node where
  id := "notify"
  name := "Notify"
  config := .integration greetingConfig

/-- A workflow that posts a greeting. -/
def greeting : Workflow where
  id := ⟨⟨0⟩⟩
  name := "greeting"
  nodes := [{ id := "start", name := "Start", config := .manual }, messenger]
  connections := [{ source := "start", target := "notify" }]
  trigger := "start"
  createdAt := ⟨0, 0⟩
  updatedAt := ⟨0, 0⟩

/-- The handlers of an engine that knows the chat. -/
def chatHandlers : HandlerRegistry :=
  [(.integration, Handler.integration (.ofList [.chatWebhook]))]

theorem messenger_posts : messenger.PostsToChat chatHandlers greetingConfig :=
  ⟨rfl, .ofList [.chatWebhook], rfl, rfl⟩

/-- The address of a webhook on a host that nobody listens on. -/
def hook (name : String) : String := "http://127.0.0.1:1/hook/" ++ name

/-- The parts of that address. -/
def hookAddress (name : String) : Http.Address where
  scheme := "http"
  host := "127.0.0.1"
  portNumber := some 1
  path := "/hook/" ++ name

theorem hook_spells_alpha : Template.SpellsAddress (hook "alpha") (hookAddress "alpha") := by
  constructor <;> decide +kernel

theorem hook_spells_beta : Template.SpellsAddress (hook "beta") (hookAddress "beta") := by
  constructor <;> decide +kernel

theorem demand_greeting (context : Context) :
    Connector.ChatWebhook.demand (Handler.Integration.operation greetingConfig context) =
      .ok "hi" := by
  have resolved : Template.resolve context greetingConfig.parameters =
      .object [("text", .string "hi")] := by
    have plain : Text.cutAt '{' '{' "hi".toList = none := by decide
    have kept := Template.resolveText_of_plain plain context
    simp [greetingConfig, Template.resolve, Template.resolveMembers, kept]
  simp only [Handler.Integration.operation, resolved]
  rfl

/-- Replies under which every attempt at a node ends in some way. -/
def endingAs (outcome : Node → Except NodeError Json) : (asked : Request) → Reply asked
  | .attempt attempt => some (outcome attempt.node)
  | asked => failingAt "" asked

theorem Twice.replies {α β : Type} {program : Action α} {other : Action β}
    {outcome : Node → Except NodeError Json}
    (twice : Twice notifier left right (program.trace (endingAs outcome)).1
      (other.trace (endingAs outcome)).1 context reply answer) :
    reply = some (outcome (notifier.withWebhook left)) ∧
      answer = some (outcome (notifier.withWebhook right)) := by
  obtain ⟨attempt, -, member⟩ := twice
  obtain ⟨first, second⟩ := List.of_mem_zip member
  exact ⟨trace_reply _ program _ first, trace_reply _ other _ second⟩

/-- The call that posts the greeting to a webhook. -/
def posting (name : String) (reply : Except Http.Fault Http.Response) : Event services :=
  ⟨.exchange (exchange (hookAddress name) "hi"), reply⟩

/-- What the attempt comes to that makes this call. -/
def posted (name : String) (reply : Except Http.Fault Http.Response) : Except NodeError Json :=
  Handler.Integration.read greetingConfig (receive ((hookAddress name).withQuery []) reply)

theorem messenger_yields {name : String}
    (spells : Template.SpellsAddress (hook name) (hookAddress name)) (context : Context)
    (reply : Except Http.Fault Http.Response) :
    (chatHandlers.attempt (messenger.withWebhook (hook name)) context).Yields
      [posting name reply] (posted name reply) :=
  attempt_yields messenger_posts spells (demand_greeting context) reply

theorem posting_sameKind (name other : String) {reply answer : Except Http.Fault Http.Response}
    (kind : Http.SameKind reply answer) :
    List.Forall₂ Service.SameKind [posting name reply] [posting other answer] :=
  .cons (.exchange _ _ kind) .nil

/-- The run that posts the greeting to a webhook. -/
def greetingRun (name : String) : Action Execution :=
  execute {} (greeting.mapNodes (messenger.redirect (hook name))) ⟨⟨1⟩⟩ .null

/-- The attempt of that run at the node that posts the greeting. -/
def greetingAttempt (name : String) : Attempt :=
  ⟨.step, messenger.withWebhook (hook name), ⟨.null, [("start", .null)]⟩, 1, 30000⟩

/-- A message is delivered to one or the other webhook, and the records are the same. -/
theorem execute_hides_webhook_delivered :
    (∃ calls others result, calls ≠ others ∧ List.Forall₂ Service.SameKind calls others ∧
      (chatHandlers.attempt (messenger.withWebhook (hook "alpha")) (.start .null)).Yields
        calls result ∧
      (chatHandlers.attempt (messenger.withWebhook (hook "beta")) (.start .null)).Yields
        others result) ∧
    ∃ events more record, (greetingRun "alpha").Yields events record ∧
      (greetingRun "beta").Yields more record ∧
      greetingAttempt "alpha" ∈ attempts events ∧ greetingAttempt "beta" ∈ attempts more ∧
      events.filterMap written? = more.filterMap written? := by
  obtain ⟨alone, runs⟩ := execute_hides_webhook messenger_posts (hook "alpha") (hook "beta") {}
    greeting ⟨⟨1⟩⟩ .null
  -- The two responses only differ in the time that they took.
  have kind : Http.SameKind (.ok ⟨200, [], some "ok", 3⟩) (.ok ⟨200, [], some "ok", 5⟩) :=
    .answered 200 [] (some "ok") 3 5
  have same := posting_sameKind "alpha" "beta" kind
  have indistinct : Service.Indistinct _ _ :=
    (Service.indistinct_singleton (exchange (hookAddress "alpha") "hi")
      (exchange (hookAddress "beta") "hi") (.ok ⟨200, [], some "ok", 3⟩)
      (.ok ⟨200, [], some "ok", 5⟩)).mpr nofun
  have isAlpha (context : Context) := hook_spells_alpha.isWebAddress context
  have isBeta (context : Context) := hook_spells_beta.isWebAddress context
  have first (context : Context) := messenger_yields hook_spells_alpha context
    (.ok ⟨200, [], some "ok", 3⟩)
  have second (context : Context) := messenger_yields hook_spells_beta context
    (.ok ⟨200, [], some "ok", 5⟩)
  have equal (context : Context) := (alone context _ _ _ _ (isAlpha context) (isBeta context)
    (first context) (second context) same).mpr indistinct
  constructor
  · refine ⟨_, _, _, by simp [posting], same, first _, ?_⟩
    rw [equal (.start .null)]
    exact second _
  · let outcome (node : Node) : Except NodeError Json :=
      if node.id = "notify" then posted "alpha" (.ok ⟨200, [], some "ok", 3⟩) else .ok .null
    have left := trace_yields (endingAs outcome) (greetingRun "alpha")
    have right := trace_yields (endingAs outcome) (greetingRun "beta")
    have alike (context : Context) (reply answer : Option (Except NodeError Json))
        (twice : Twice messenger (hook "alpha") (hook "beta")
          ((greetingRun "alpha").trace (endingAs outcome)).1
          ((greetingRun "beta").trace (endingAs outcome)).1 context reply answer) :
        Alike chatHandlers messenger (hook "alpha") (hook "beta") context reply answer ∧
          reply = answer := by
      obtain ⟨rfl, rfl⟩ := twice.replies
      have together := Alike.inTime (isAlpha context) (isBeta context) (first context)
        (second context) same
      rw [← equal context] at together
      exact ⟨together, rfl⟩
    obtain ⟨never, -⟩ := runs _ _ _ _ left right (trace_agree _ _ _)
      fun context reply answer twice => (alike context reply answer twice).1
    obtain ⟨sameRecord, sameWrites⟩ := never fun context reply answer twice apart =>
      ((alike context reply answer twice).1.toldApart_iff messenger_posts).mp apart
        (alike context reply answer twice).2
    rw [← sameRecord] at right
    exact ⟨_, _, _, left, right, by decide +kernel, by decide +kernel, sameWrites⟩

instance : (asked : Request) → DecidableEq (Reply asked)
  | .now => inferInstanceAs (DecidableEq Instant)
  | .sleep _ => inferInstanceAs (DecidableEq Unit)
  | .create _ | .save _ _ => inferInstanceAs (DecidableEq (Except StoreError Revision))
  | .load _ => inferInstanceAs (DecidableEq (Except StoreError Versioned))
  | .attempt _ => inferInstanceAs (DecidableEq (Option (Except NodeError Json)))

/-- How attempts end if neither of two webhooks can be reached. -/
def unreached (node : Node) : Except NodeError Json :=
  if node = messenger.withWebhook (hook "alpha") then posted "alpha" (.error .unreachable)
  else if node = messenger.withWebhook (hook "beta") then posted "beta" (.error .unreachable)
  else .ok .null

/-- If neither of two addresses can be reached, the attempts end with different errors, and the
records of the runs show the addresses. -/
theorem execute_shows_webhook :
    ∃ context calls others result other events more record another,
      Template.IsWebAddress context (hook "alpha") ∧
      Template.IsWebAddress context (hook "beta") ∧
      (chatHandlers.attempt (messenger.withWebhook (hook "alpha")) context).Yields
        calls result ∧
      (chatHandlers.attempt (messenger.withWebhook (hook "beta")) context).Yields
        others other ∧
      List.Forall₂ Service.SameKind calls others ∧ result ≠ other ∧
      (greetingRun "alpha").Yields events record ∧ (greetingRun "beta").Yields more another ∧
      Agree events more ∧
      Twice messenger (hook "alpha") (hook "beta") events more context (some result)
        (some other) ∧
      record.error.map ErrorSummary.message = some ("node Notify (notify) failed after 1 " ++
        "attempt(s): chat_webhook error: connection failed: error sending request for url " ++
        "(http://127.0.0.1:1/hook/alpha)") ∧
      another.error.map ErrorSummary.message = some ("node Notify (notify) failed after 1 " ++
        "attempt(s): chat_webhook error: connection failed: error sending request for url " ++
        "(http://127.0.0.1:1/hook/beta)") ∧
      record.logs ≠ another.logs ∧
      events.filterMap written? ≠ more.filterMap written? := by
  have kind : Http.SameKind (.error .unreachable) (.error .unreachable) := .failed .unreachable
  refine ⟨(greetingAttempt "alpha").context, _, _, _, _, _, _, _, _,
    hook_spells_alpha.isWebAddress _, hook_spells_beta.isWebAddress _,
    messenger_yields hook_spells_alpha _ _, messenger_yields hook_spells_beta _ _,
    posting_sameKind "alpha" "beta" kind, by decide +kernel,
    trace_yields (endingAs unreached) (greetingRun "alpha"),
    trace_yields (endingAs unreached) (greetingRun "beta"), trace_agree _ _ _,
    ⟨greetingAttempt "alpha", rfl, ?_⟩, ?_, ?_, ?_, ?_⟩
  all_goals decide +kernel

end Engine

end Flowline
