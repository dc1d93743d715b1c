import Flowline.Proofs.Engine.Walk

/-!
# The executions of nodes

A node is executed by one attempt or several, of which one decides.  The decisive
attempts of a trace are its executions; each of them adds to what the run knows.
-/

namespace Flowline.Engine

open Program

/-- One execution of a node: what was known before it, and what came of it. -/
structure Executed where
  node : Node
  context : Context
  outcome : Except NodeError Json

/-- What is known after an execution. -/
def Executed.learn (context : Context) (executed : Executed) : Context :=
  match executed.outcome with
  | .ok value => context.setResult executed.node.id value
  | .error error => context.recordFailure (executed.node.failure error.message)

/-- An execution that does not stop a walk: it succeeds, or the policy of its node is
to continue. -/
def Executed.Tolerated (settings : Settings) (executed : Executed) : Prop :=
  ∀ error, executed.outcome = .error error →
    (AttemptPolicy.forNode executed.node settings).continueOnError = true

/-- The execution that an event decides: an attempt that succeeds or is the last one. -/
def executed? (settings : Settings) : Event surroundings → Option Executed
  | ⟨.attempt attempt, reply⟩ =>
      if attempt.role = .step then
        match attempt.result reply with
        | .ok value => some ⟨attempt.node, attempt.context, .ok value⟩
        | .error error =>
            if attempt.number = (AttemptPolicy.forNode attempt.node settings).maxAttempts then
              some ⟨attempt.node, attempt.context, .error error⟩
            else none
      else none
  | _ => none

/-- The executions of nodes in their order. -/
def executions (settings : Settings) (events : List (Event surroundings)) : List Executed :=
  events.filterMap (executed? settings)

/-- A request that is no step of a walk. -/
def Request.Aside : Request → Prop
  | .attempt tried => tried.role ≠ .step
  | .now | .sleep _ | .create _ | .load _ | .save _ _ => True

variable {settings : Settings} {events more : List (Event surroundings)}

@[simp] theorem executions_nil : executions settings [] = [] := rfl

@[simp] theorem executions_append :
    executions settings (events ++ more) = executions settings events ++ executions settings more :=
  List.filterMap_append

theorem executions_cons (event : Event surroundings) :
    executions settings (event :: events) =
      (executed? settings event).toList ++ executions settings events := by
  cases decided : executed? settings event <;> simp [executions, decided]

theorem executed?_of_aside {event : Event surroundings} (aside : event.asked.Aside) :
    executed? settings event = none := by
  obtain ⟨asked, reply⟩ := event
  cases asked <;> simp_all [executed?, Request.Aside]

/-- Only a step of the walk decides an execution. -/
theorem step_of_executed? {event : Event surroundings} {executed : Executed}
    (decides : executed? settings event = some executed) :
    ∃ attempt reply, event = ⟨.attempt attempt, reply⟩ ∧ attempt.role = .step ∧
      executed.node = attempt.node ∧ executed.context = attempt.context := by
  obtain ⟨asked, reply⟩ := event
  cases asked with
  | attempt attempt =>
      refine ⟨attempt, reply, rfl, ?_⟩
      by_cases step : attempt.role = .step
      · cases result : attempt.result reply with
        | ok value =>
            simp only [executed?, step, if_true, result, Option.some.injEq] at decides
            subst decides
            exact ⟨step, rfl, rfl⟩
        | error error =>
            simp only [executed?, step, if_true, result, Option.ite_none_right_eq_some,
              Option.some.injEq] at decides
            obtain ⟨-, rfl⟩ := decides
            exact ⟨step, rfl, rfl⟩
      · simp [executed?, step] at decides
  | now | sleep | create | load | save => simp [executed?] at decides

theorem executions_of_aside (aside : ∀ event ∈ events, event.asked.Aside) :
    executions settings events = [] :=
  List.filterMap_eq_nil_iff.mpr fun event member => executed?_of_aside (aside event member)

theorem Request.aside_of_ne {request : Request} (other : ∀ attempt, request ≠ .attempt attempt) :
    request.Aside := by
  cases request <;> simp_all [Aside]

theorem note_aside (record : Execution) (level : LogLevel) (message : String)
    (nodeId : Option String) :
    (Action.note record level message nodeId).Ensures fun events _ =>
      ∀ event ∈ events, event.asked.Aside := by
  rw [note_eq]
  intro time
  simp [Request.Aside]

/-! ## Executing a node -/

@[simp] theorem mapError_ok (value : Json) :
    (Except.ok value).mapError NodeFailure.error = .ok value := rfl

@[simp] theorem mapError_error (failure : NodeFailure) :
    (@Except.error NodeFailure Json failure).mapError NodeFailure.error = .error failure.error := rfl

/-- However often a node is tried, it is executed once. -/
theorem Tried.executes {node : Node} {context : Context} {left number : Nat} {record : Execution}
    {result : Execution × Except NodeFailure Json}
    (tried : Tried node context (.forNode node settings) left number record events result)
    (total : number + left = (AttemptPolicy.forNode node settings).maxAttempts) :
    executions settings events = [⟨node, context, result.2.mapError NodeFailure.error⟩] := by
  induction tried with
  | succeeds _ replied => simp [executions_cons, executed?, replied]
  | fails _ _ replied => simp [executions_cons, executed?, replied, ← total]
  | retries left number _ replied _ ih =>
      have early : number ≠ (AttemptPolicy.forNode node settings).maxAttempts := by omega
      simp [executions_cons, executed?, replied, early, ih (by omega)]

/-- Error handlers run beside the walk. -/
theorem Told.aside {failed : Node} {context : Context} {handlers : List Node}
    {record after : Execution} (told : Told settings failed context handlers record events after) :
    ∀ event ∈ events, event.asked.Aside := by
  induction told with
  | nil => simp
  | cons _ _ _ _ ih => simpa [Request.Aside] using ih

theorem runNote_aside (run : Run) (level : LogLevel) (message nodeId : String) :
    (run.note level message nodeId).Ensures fun events after =>
      (∀ event ∈ events, event.asked.Aside) ∧ after.context = run.context := by
  apply Ensures.bind (note_aside run.record _ _ _)
  intro events record noted
  simpa using noted

theorem Ran.executes {plan : Plan} {node : Node} {run : Run} {outcome : Except NodeError Json}
    {result : Run × Except RunError Unit} (ran : Ran plan node run outcome events result) :
    executions plan.settings events = [⟨node, run.context, outcome⟩] := by
  have total := (AttemptPolicy.forNode node plan.settings).one_add_left
  cases ran with
  | completes value tried => simp [executions_cons, executed?, tried.executes total]
  | continues failure _ tried told | stops failure _ tried told =>
      simp [executions_cons, executed?, tried.executes total, executions_of_aside told.aside]

theorem Ran.learns {plan : Plan} {node : Node} {run : Run} {outcome : Except NodeError Json}
    {result : Run × Except RunError Unit} (ran : Ran plan node run outcome events result)
    (tolerated : Executed.Tolerated plan.settings ⟨node, run.context, outcome⟩) :
    result.2 = .ok () ∧
      result.1.context = Executed.learn run.context ⟨node, run.context, outcome⟩ := by
  cases ran with
  | completes value tried => exact ⟨rfl, rfl⟩
  | continues failure _ tried told => exact ⟨rfl, rfl⟩
  | stops failure stops tried told => cases stops.symm.trans (tolerated failure.error rfl)

/-- Running a node executes it once; what comes of that is known afterwards. -/
theorem runNode_executes (plan : Plan) (node : Node) (run : Run) :
    (runNode plan node run).Ensures fun events result =>
      ∃ outcome, executions plan.settings events = [⟨node, run.context, outcome⟩] ∧
        (Executed.Tolerated plan.settings ⟨node, run.context, outcome⟩ →
          result.2 = .ok () ∧
            result.1.context = Executed.learn run.context ⟨node, run.context, outcome⟩) := by
  apply (runNode_ran plan node run).mono
  rintro events result ⟨outcome, ran⟩
  exact ⟨outcome, ran.executes, ran.learns⟩

end Flowline.Engine
