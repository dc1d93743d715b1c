import Flowline.Engine.Walk
import Flowline.Proofs.Program.Trace

/-!
# The traces of running a node

Running a node is one of few things: it is tried until an attempt succeeds or none is left,
its error handlers are told of a failure, and its policy says whether the walk goes on.  Each
of these is a relation here, with one rule for every way that it can go.  What the rules keep
holds of every trace.
-/

namespace Flowline.Engine

open Program

/-- What an attempt came to, by the reply to it. -/
def Attempt.result (attempt : Attempt) (reply : Option (Except NodeError Json)) :
    Except NodeError Json :=
  reply.getD (.error (.timeout attempt.limit))

theorem note_eq (record : Execution) (level : LogLevel) (message : String)
    (nodeId : Option String) :
    Action.note record level message nodeId =
      @ask surroundings _ .now fun time =>
        done (record.log level message nodeId time) := rfl

theorem attempt_eq (attempt : Attempt) :
    Action.attempt attempt =
      @ask surroundings _ (.attempt attempt) fun reply =>
        done (attempt.result reply) := by
  refine congrArg (@ask surroundings _ (.attempt attempt)) (funext fun reply => ?_)
  cases reply <;> rfl

/-! ## Trying a node -/

/-- How a node is tried, with some attempts left after the one of the given number. -/
inductive Tried (node : Node) (context : Context) (policy : AttemptPolicy) :
    (left number : Nat) → Execution → List (Event surroundings) →
      Execution × Except NodeFailure Json → Prop where
  | succeeds {left number : Nat} {record : Execution} {reply : Option (Except NodeError Json)}
      (value : Json)
      (replied : Attempt.result ⟨.step, node, context, number, policy.timeout⟩ reply = .ok value) :
      Tried node context policy left number record
        [⟨.attempt ⟨.step, node, context, number, policy.timeout⟩, reply⟩] (record, .ok value)
  | fails {record : Execution} {reply : Option (Except NodeError Json)} {time later : Instant}
      (number : Nat) (error : NodeError)
      (replied : Attempt.result ⟨.step, node, context, number, policy.timeout⟩ reply =
        .error error) :
      Tried node context policy 0 number record
        [⟨.attempt ⟨.step, node, context, number, policy.timeout⟩, reply⟩, ⟨.now, time⟩,
          ⟨.now, later⟩]
        ((record.log .warn (s!"Node {node.name} attempt {number}/{policy.maxAttempts} failed: " ++
            error.message) node.id time).log .error
          s!"Node {node.name} failed after {number} attempt(s): {error.message}" node.id later,
          .error ⟨error, number⟩)
  | retries {record : Execution} {reply : Option (Except NodeError Json)} {time : Instant}
      {events : List (Event surroundings)} {result : Execution × Except NodeFailure Json}
      (left number : Nat) (error : NodeError)
      (replied : Attempt.result ⟨.step, node, context, number, policy.timeout⟩ reply =
        .error error)
      (again : Tried node context policy left (number + 1)
        (record.log .warn (s!"Node {node.name} attempt {number}/{policy.maxAttempts} failed: " ++
          error.message ++ "; retrying in " ++ toString policy.retryDelay ++ "ms") node.id time)
        events result) :
      Tried node context policy (left + 1) number record
        (⟨.attempt ⟨.step, node, context, number, policy.timeout⟩, reply⟩ :: ⟨.now, time⟩ ::
          ⟨.sleep policy.retryDelay, ()⟩ :: events) result

theorem tryFrom_tried (node : Node) (context : Context) (policy : AttemptPolicy)
    (left number : Nat) (record : Execution) :
    (tryFrom node context policy left number record).Ensures
      (Tried node context policy left number record) := by
  induction left generalizing number record with
  | zero =>
      rw [tryFrom, attempt_eq]
      intro reply
      simp only [bind_eq_bind, done_bind]
      cases replied : Attempt.result _ reply with
      | ok value => exact .succeeds value replied
      | error error => exact fun time later => .fails number error replied
  | succ left ih =>
      rw [tryFrom, attempt_eq]
      intro reply
      simp only [bind_eq_bind, done_bind]
      cases replied : Attempt.result _ reply with
      | ok value => exact .succeeds value replied
      | error error =>
          intro time slept
          exact (ih _ _).mono fun events result again => .retries left number error replied again

theorem Tried.id_eq {node : Node} {context : Context} {policy : AttemptPolicy} {left number : Nat}
    {record : Execution} {events : List (Event surroundings)}
    {result : Execution × Except NodeFailure Json}
    (tried : Tried node context policy left number record events result) :
    result.1.id = record.id := by
  induction tried with
  | succeeds _ _ => rfl
  | fails _ _ _ => rfl
  | retries _ _ _ _ _ ih => exact ih

/-! ## Telling error handlers -/

/-- What is said of an error handler after it has run. -/
def handled (handler : Node) : Except NodeError Json → LogLevel × String
  | .ok _ => (.info, s!"Error handler {handler.name} completed")
  | .error error => (.warn, s!"Error handler {handler.name} failed: {error.message}")

/-- How error handlers are told of a failure, one after the other. -/
inductive Told (settings : Settings) (failed : Node) (context : Context) :
    List Node → Execution → List (Event surroundings) → Execution → Prop where
  | nil (record : Execution) : Told settings failed context [] record [] record
  | cons {rest : List Node} {record after : Execution} {begun ended : Instant}
      {reply : Option (Except NodeError Json)} {events : List (Event surroundings)}
      (handler : Node) (result : Except NodeError Json)
      (replied : Attempt.result ⟨.errorHandler, handler, context, 1,
        (AttemptPolicy.forNode handler settings).timeout⟩ reply = result)
      (others : Told settings failed context rest
        ((record.log .info s!"Running error handler {handler.name} for failed node {failed.name}"
          handler.id begun).log (handled handler result).1 (handled handler result).2 handler.id
            ended) events after) :
      Told settings failed context (handler :: rest) record
        (⟨.now, begun⟩ :: ⟨.attempt ⟨.errorHandler, handler, context, 1,
          (AttemptPolicy.forNode handler settings).timeout⟩, reply⟩ :: ⟨.now, ended⟩ :: events)
        after

theorem runHandlers_told (settings : Settings) (failed : Node) (context : Context)
    (handlers : List Node) (record : Execution) :
    (runHandlers settings failed context handlers record).Ensures
      (Told settings failed context handlers record) := by
  induction handlers generalizing record with
  | nil => exact .nil record
  | cons handler rest ih =>
      rw [runHandlers, attempt_eq]
      intro begun reply
      simp only [bind_eq_bind, done_bind]
      cases replied : Attempt.result _ reply with
      | ok value =>
          exact fun ended => (ih _).mono fun events after others => .cons handler _ replied others
      | error error =>
          exact fun ended => (ih _).mono fun events after others => .cons handler _ replied others

/-! ## Running a node -/

/-- The first attempt and those that are left after it are all. -/
theorem AttemptPolicy.one_add_left (policy : AttemptPolicy) :
    1 + (policy.maxAttempts - 1) = policy.maxAttempts := by
  have positive := policy.maxAttempts_pos
  omega

/-- How a node is run and what comes of it: it completes, or it fails and the walk continues
after that or stops. -/
inductive Ran (plan : Plan) (node : Node) (run : Run) : Except NodeError Json →
    List (Event surroundings) → Run × Except RunError Unit → Prop where
  | completes {record : Execution} {events : List (Event surroundings)} {begun ended : Instant}
      (value : Json)
      (tried : Tried node run.context (.forNode node plan.settings)
        ((AttemptPolicy.forNode node plan.settings).maxAttempts - 1) 1
        (run.record.log .info s!"Executing node {node.name} ({node.type.name})" node.id begun)
        events (record, .ok value)) :
      Ran plan node run (.ok value) (⟨.now, begun⟩ :: (events ++ [⟨.now, ended⟩]))
        ({ run with
          record := record.log .info s!"Node {node.name} completed" node.id ended
          context := run.context.setResult node.id value }, .ok ())
  | continues {record after : Execution} {events more : List (Event surroundings)}
      {begun ended : Instant} (failure : NodeFailure)
      (continues : (AttemptPolicy.forNode node plan.settings).continueOnError = true)
      (tried : Tried node run.context (.forNode node plan.settings)
        ((AttemptPolicy.forNode node plan.settings).maxAttempts - 1) 1
        (run.record.log .info s!"Executing node {node.name} ({node.type.name})" node.id begun)
        events (record, .error failure))
      (told : Told plan.settings node
        ((run.context.recordFailure (node.failure failure.error.message)).forErrorHandler
          (node.failure failure.error.message) plan.workflow.id.display run.record.id.display)
        (listeners plan.workflow node) record more after) :
      Ran plan node run (.error failure.error)
        (⟨.now, begun⟩ :: (events ++ (more ++ [⟨.now, ended⟩])))
        ({ run with
          record := after.log .warn s!"Continuing after failure of node {node.name}" node.id ended
          context := run.context.recordFailure (node.failure failure.error.message) }, .ok ())
  | stops {record after : Execution} {events more : List (Event surroundings)}
      {begun : Instant} (failure : NodeFailure)
      (stops : (AttemptPolicy.forNode node plan.settings).continueOnError = false)
      (tried : Tried node run.context (.forNode node plan.settings)
        ((AttemptPolicy.forNode node plan.settings).maxAttempts - 1) 1
        (run.record.log .info s!"Executing node {node.name} ({node.type.name})" node.id begun)
        events (record, .error failure))
      (told : Told plan.settings node
        (run.context.forErrorHandler (node.failure failure.error.message)
          plan.workflow.id.display run.record.id.display)
        (listeners plan.workflow node) record more after) :
      Ran plan node run (.error failure.error) (⟨.now, begun⟩ :: (events ++ more))
        ({ run with record := after }, .error
          (.nodeFailed node.id node.name failure.attempts failure.error.message run.path))

theorem runNode_ran (plan : Plan) (node : Node) (run : Run) :
    (runNode plan node run).Ensures fun events result =>
      ∃ outcome, Ran plan node run outcome events result := by
  intro begun
  apply Ensures.bind (tryFrom_tried node run.context _ _ _ _)
  rintro events ⟨record, outcome⟩ tried
  cases outcome with
  | ok value => exact fun ended => ⟨_, .completes value tried⟩
  | error failure =>
      have same : record.id = run.record.id := tried.id_eq
      simp only
      split
      next continues =>
        simp only [dispatch, same, bind_eq_bind, pure_eq_done, bind_assoc, done_bind]
        apply Ensures.bind (runHandlers_told _ _ _ _ _)
        exact fun more after told ended => ⟨_, .continues failure continues tried told⟩
      next stops =>
        simp only [dispatch, same, bind_eq_bind, pure_eq_done, bind_assoc, done_bind]
        apply Ensures.bind (runHandlers_told _ _ _ _ _)
        intro more after told
        have ran := Ran.stops failure (Bool.eq_false_iff.mpr stops) tried told
        exact ⟨_, by simpa using ran⟩

end Flowline.Engine
