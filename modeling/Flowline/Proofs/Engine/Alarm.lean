import Flowline.Proofs.Engine.Knowledge

/-!
# Error handlers

A failure of a node that is final calls the error handlers of the workflow, and
nothing else does.  Each of them is attempted once, in the order of the nodes, and all
are given what the walk knows and what has failed.
-/

namespace Flowline

open Engine

/-- A failure that was written already may be written again. -/
theorem Context.forErrorHandler_recordFailure (context : Context) (failure : Failure)
    (workflowName runName : String) :
    (context.recordFailure failure).forErrorHandler failure workflowName runName =
      context.forErrorHandler failure workflowName runName := by
  have again : (context.recordFailure failure).recordFailure failure =
      context.recordFailure failure := by
    simp only [recordFailure, setResult]
    rw [Keyed.insert_comm (by decide : "$error" ≠ "$failedNode"), Keyed.insert_insert_self,
      Keyed.insert_insert_self]
  simp only [forErrorHandler, again]

namespace Engine

open Program

/-- The attempts among some events, in their order. -/
def attempts (events : List (Event surroundings)) : List Attempt :=
  events.flatMap fun event => match event.asked with
    | .attempt attempt => [attempt]
    | _ => []

/-- The attempt that an event is, if it is a step of the walk. -/
def stepAt (event : Event surroundings) : List Attempt :=
  match event.asked with
  | .attempt attempt => if attempt.role = .step then [attempt] else []
  | _ => []

/-- What an execution that has failed calls: every error handler but the node itself,
in the order of the nodes, in the context of the execution with the failure and the names
of the workflow and of the run. -/
def Executed.alarms (settings : Settings) (workflow : Workflow) (id : ExecutionId)
    (executed : Executed) : List Attempt :=
  match executed.outcome with
  | .ok _ => []
  | .error error =>
      (workflow.nodes.filter fun node => node.errorHandler && node.id ≠ executed.node.id).map
        fun handler =>
          { role := .errorHandler
            node := handler
            context := executed.context.writeAll
              ((executed.node.failure error.message).entries ++
                [("$workflowId", .string workflow.id.display),
                  ("$executionId", .string id.display)])
            number := 1
            limit := (AttemptPolicy.forNode handler settings).timeout }

/-- What an event calls: nothing, unless it decides an execution. -/
def alarmsAt (settings : Settings) (workflow : Workflow) (id : ExecutionId)
    (event : Event surroundings) : List Attempt :=
  (executed? settings event).toList.flatMap (Executed.alarms settings workflow id)

/-- What the steps among some events bring about: themselves, each followed by what it
calls. -/
def called (settings : Settings) (workflow : Workflow) (id : ExecutionId)
    (events : List (Event surroundings)) : List Attempt :=
  events.flatMap fun event => stepAt event ++ alarmsAt settings workflow id event

variable {settings : Settings} {workflow : Workflow} {id : ExecutionId}
  {events more : List (Event surroundings)}

@[simp] theorem attempts_nil : attempts [] = [] := rfl

@[simp] theorem attempts_append : attempts (events ++ more) = attempts events ++ attempts more := by
  simp [attempts]

@[simp] theorem attempts_cons_attempt (attempt : Attempt)
    (reply : Option (Except NodeError Json)) :
    attempts (⟨.attempt attempt, reply⟩ :: events) = attempt :: attempts events := rfl

@[simp] theorem attempts_cons_now (time : Instant) :
    attempts (⟨.now, time⟩ :: events) = attempts events := rfl

@[simp] theorem attempts_cons_sleep (milliseconds : Nat) (reply : Unit) :
    attempts (⟨.sleep milliseconds, reply⟩ :: events) = attempts events := rfl

@[simp] theorem called_nil : called settings workflow id [] = [] := rfl

@[simp] theorem called_append : called settings workflow id (events ++ more) =
    called settings workflow id events ++ called settings workflow id more := by
  simp [called]

theorem called_cons (event : Event surroundings) : called settings workflow id (event :: events) =
    stepAt event ++ alarmsAt settings workflow id event ++ called settings workflow id events := by
  simp [called]

/-- What is no step of the walk calls nothing. -/
theorem called_of_aside (aside : ∀ event ∈ events, event.asked.Aside) :
    called settings workflow id events = [] := by
  refine List.flatMap_eq_nil_iff.mpr fun event member => ?_
  have isAside := aside event member
  have undecided : alarmsAt settings workflow id event = [] := by
    simp [alarmsAt, executed?_of_aside isAside]
  obtain ⟨asked, reply⟩ := event
  cases asked <;> simp_all [stepAt, Request.Aside]

theorem attempts_eq_nil_iff :
    attempts events = [] ↔ ∀ event ∈ events, ∀ attempt, event.asked ≠ .attempt attempt := by
  refine List.flatMap_eq_nil_iff.trans (forall₂_congr fun event member => ?_)
  obtain ⟨asked, reply⟩ := event
  cases asked <;> simp

/-- Where nothing is attempted, nothing is called. -/
theorem called_of_attempts_eq_nil (nothing : attempts events = []) :
    called settings workflow id events = [] :=
  called_of_aside fun event member =>
    Request.aside_of_ne (attempts_eq_nil_iff.mp nothing event member)

theorem runNote_unattempted (run : Run) (level : LogLevel) (message nodeId : String) :
    (run.note level message nodeId).Ensures fun events after =>
      attempts events = [] ∧ after.context = run.context ∧ after.record.id = run.record.id :=
  fun _ => ⟨rfl, rfl, rfl⟩

/-! ## Running a node -/

/-- All attempts at a node are steps of the walk, and only the last one calls something. -/
theorem Tried.calls {node : Node} {context : Context} {left number : Nat} {record : Execution}
    {result : Execution × Except NodeFailure Json}
    (tried : Tried node context (.forNode node settings) left number record events result)
    (total : number + left = (AttemptPolicy.forNode node settings).maxAttempts) :
    called settings workflow id events = attempts events ++ Executed.alarms settings workflow id
      ⟨node, context, result.2.mapError NodeFailure.error⟩ := by
  induction tried with
  | succeeds _ replied => simp [called_cons, stepAt, alarmsAt, executed?, replied]
  | fails _ _ replied => simp [called_cons, stepAt, alarmsAt, executed?, replied, ← total]
  | retries left number _ replied _ ih =>
      have early : number ≠ (AttemptPolicy.forNode node settings).maxAttempts := by omega
      simp [called_cons, stepAt, alarmsAt, executed?, replied, early, ih (by omega)]

/-- Error handlers are attempted once each, in turn and in one context. -/
theorem Told.attempts_eq {failed : Node} {context : Context} {handlers : List Node}
    {record after : Execution} (told : Told settings failed context handlers record events after) :
    attempts events = handlers.map fun handler =>
      ⟨.errorHandler, handler, context, 1, (AttemptPolicy.forNode handler settings).timeout⟩ := by
  induction told with
  | nil => rfl
  | cons _ _ _ _ ih => simp [ih]

theorem alarms_error (node : Node) (context : Context) (error : NodeError) :
    Executed.alarms settings workflow id ⟨node, context, .error error⟩ =
      (listeners workflow node).map fun handler =>
        ⟨.errorHandler, handler, context.forErrorHandler (node.failure error.message)
          workflow.id.display id.display, 1, (AttemptPolicy.forNode handler settings).timeout⟩ := by
  have same : listeners workflow node =
      workflow.nodes.filter fun other => other.errorHandler && other.id ≠ node.id := by
    simp only [listeners, Workflow.errorHandlers, List.filter_filter, Bool.and_comm]
  rw [same]
  rfl

/-- The error handlers are told of a failure whether it is written already or not. -/
theorem Told.alarms {failed : Node} {context known : Context} {error : NodeError}
    {record after : Execution} (knows : known = context ∨
      known = context.recordFailure (failed.failure error.message))
    (told : Told settings failed (known.forErrorHandler (failed.failure error.message)
      workflow.id.display id.display) (listeners workflow failed) record events after) :
    attempts events = Executed.alarms settings workflow id ⟨failed, context, .error error⟩ ∧
      called settings workflow id events = [] := by
  refine ⟨?_, called_of_aside told.aside⟩
  rw [told.attempts_eq, alarms_error]
  rcases knows with rfl | rfl
  · rfl
  · rw [Context.forErrorHandler_recordFailure]

/-- A part of a walk, which keeps to its run: its attempts are its steps, each followed
by what it calls. -/
def Alarmed (settings : Settings) (workflow : Workflow) (events : List (Event surroundings))
    (before after : Run) : Prop :=
  attempts events = called settings workflow before.record.id events ∧
    after.record.id = before.record.id

theorem composable_alarmed :
    Composable fun events before after _ => Alarmed settings workflow events before after where
  idle run := ⟨rfl, rfl⟩
  append := by
    rintro first second before between after outcome ⟨earlier, same⟩ ⟨later, still⟩
    refine ⟨?_, still.trans same⟩
    rw [attempts_append, called_append, earlier, later, same]

theorem Alarmed.of_unattempted {before after : Run} (unattempted : attempts events = [])
    (same : after.record.id = before.record.id) : Alarmed settings workflow events before after :=
  ⟨unattempted.trans (called_of_attempts_eq_nil unattempted).symm, same⟩

theorem runNode_alarmed (plan : Plan) (node : Node) (run : Run) :
    (runNode plan node run).Ensures fun events result =>
      Alarmed plan.settings plan.workflow events run result.1 := by
  have total := (AttemptPolicy.forNode node plan.settings).one_add_left
  apply (runNode_ran plan node run).mono
  rintro events result ⟨outcome, ran⟩
  refine ⟨?_, ran.writes.2.id_eq⟩
  cases ran with
  | completes value tried =>
      simp [called_cons, stepAt, alarmsAt, executed?, tried.calls total, Executed.alarms]
  | continues failure _ tried told =>
      obtain ⟨alarmed, quiet⟩ := told.alarms (.inr rfl)
      simp [called_cons, stepAt, alarmsAt, executed?, tried.calls total, alarmed, quiet]
  | stops failure _ tried told =>
      obtain ⟨alarmed, quiet⟩ := told.alarms (.inl rfl)
      simp [called_cons, stepAt, alarmsAt, executed?, tried.calls total, alarmed, quiet]

/-- The attempts of a walk are its steps, each followed by what it calls. -/
theorem walk_alarmed (plan : Plan) (allowed : Nat) (nodeId : String) (run : Run) :
    (walk plan allowed nodeId run).Ensures fun events result =>
      Alarmed plan.settings plan.workflow events run result.1 := by
  refine walk_ensures composable_alarmed ?_ ?_ ?_ ?_ (runNode_alarmed plan) ?_ allowed nodeId run
  · exact fun nodeId run => .of_unattempted rfl rfl
  · intro run
    unfold isCancelled
    split
    · intro reply
      cases reply <;> exact .of_unattempted rfl rfl
    · exact .of_unattempted rfl rfl
  · exact fun reason run => .of_unattempted rfl rfl
  · exact fun path run => .of_unattempted rfl rfl
  · exact fun run message nodeId => (runNote_unattempted run .info message nodeId).mono
      fun events after noted => .of_unattempted noted.1 noted.2.2

/-- The attempts of a run are its steps, each followed by what it calls. -/
theorem execute_attempts {input : Json} {record : Execution}
    (yields : (execute settings workflow id input).Yields events record) :
    attempts events = called settings workflow id events := by
  obtain ⟨course⟩ := exists_course yields
  have around := course.unattempted_around
  simp only [List.forall_mem_append] at around
  have opens := attempts_eq_nil_iff.mpr around.1
  have closes := attempts_eq_nil_iff.mpr around.2.1
  have writes := attempts_eq_nil_iff.mpr around.2.2
  have walks : attempts course.middle = called settings workflow id course.middle := by
    rcases traverse_yields course.walks with
      ⟨error, -, nothing, -⟩ | ⟨graph, inspected, noted, steps, run, -, -, parts, inspects, walks, -⟩
    · rw [nothing]
      rfl
    · have told := (inspect_tells _ _).of_yields inspects
      have unattempted : attempts inspected = [] :=
        attempts_eq_nil_iff.mpr fun event member attempt same => by
          simp [told.clock event member] at same
      obtain ⟨alarmed, -⟩ := (walk_alarmed _ _ _ _).of_yields walks
      have sameRun : noted.id = id := told.grown.id_eq.trans course.opened_running.id_eq
      rw [parts]
      simpa [unattempted, called_of_attempts_eq_nil unattempted, sameRun] using alarmed
  rw [course.events_eq]
  simp [opens, closes, writes, walks, called_of_attempts_eq_nil opens,
    called_of_attempts_eq_nil closes, called_of_attempts_eq_nil writes]

end Engine

end Flowline
