import Flowline.Handler.Basic
import Flowline.Proofs.Engine.Alarm

/-!
# Trying a node

A node is tried until an attempt succeeds or no more are allowed.  The attempts before that
have failed, each of them is warned of in one line, and one line in the end says that all of
them have failed.  What the attempts come to is given as a sequence here, and whoever replies
to a run gives it one.
-/

namespace Flowline

/-- The level of a line, its message and the node that it names. -/
def LogLine.said (line : LogLine) : LogLevel × String × Option String :=
  (line.level, line.message, line.nodeId)

/-- A record has got more lines that say this, and is otherwise as it was. -/
def Execution.Appends (before after : Execution) (said : List (LogLevel × String × Option String)) :
    Prop :=
  ∃ lines, after = { before with logs := before.logs ++ lines } ∧ lines.map LogLine.said = said

namespace Execution.Appends

variable {first second third : Execution} {said more : List (LogLevel × String × Option String)}

theorem nil (record : Execution) : record.Appends record [] := ⟨[], by simp, rfl⟩

theorem append (earlier : first.Appends second said) (later : second.Appends third more) :
    first.Appends third (said ++ more) := by
  obtain ⟨lines, rfl, rfl⟩ := earlier
  obtain ⟨others, rfl, rfl⟩ := later
  exact ⟨lines ++ others, by simp, List.map_append⟩

theorem log (record : Execution) (level : LogLevel) (message : String) (nodeId : Option String)
    (time : Instant) :
    record.Appends (record.log level message nodeId time) [(level, message, nodeId)] :=
  ⟨[⟨time, level, message, nodeId⟩], rfl, rfl⟩

end Execution.Appends

namespace Engine

open Program

/-- The replies to the attempts among some events, in their order. -/
def replies (events : List (Event surroundings)) : List (Option (Except NodeError Json)) :=
  events.flatMap fun
    | ⟨.attempt _, reply⟩ => [reply]
    | ⟨.now, _⟩ | ⟨.sleep _, _⟩ | ⟨.create _, _⟩ | ⟨.load _, _⟩ | ⟨.save _ _, _⟩ => []

/-- The attempts are replied to from a sequence, one after the other. -/
def Follows (outcomes : Nat → Option (Except NodeError Json)) (events : List (Event surroundings)) :
    Prop :=
  ∀ index reply, (replies events)[index]? = some reply → reply = outcomes index

/-- An attempt at a node under a policy. -/
def attemptAt (node : Node) (context : Context) (policy : AttemptPolicy) (number : Nat) : Attempt :=
  ⟨.step, node, context, number, policy.timeout⟩

/-- What an attempt comes to under a policy: the reply, or that it took too long. -/
def AttemptPolicy.outcome (policy : AttemptPolicy) (reply : Option (Except NodeError Json)) :
    Except NodeError Json :=
  reply.getD (.error (.timeout policy.timeout))

/-- How the handlers of a registry reply to an attempt while services take their time. -/
def reply {σ : Type} (registry : HandlerRegistry) (answer : TimedAnswers services σ)
    (attempt : Attempt) (state : σ) : Option (Except NodeError Json) :=
  ((registry.attempt attempt.node attempt.context).runWithin (some attempt.limit) answer 0 state).1

/-- A sequence of outcomes begins with these errors. -/
def FailsWith (policy : AttemptPolicy) (outcomes : Nat → Option (Except NodeError Json))
    (errors : List NodeError) : Prop :=
  ∀ index error, errors[index]? = some error → policy.outcome (outcomes index) = .error error

/-- What is said of an attempt that has failed: which one of how many it was and why, and how
long the pause is if there is another one. -/
def warning (node : Node) (policy : AttemptPolicy) (error : NodeError) (number : Nat) :
    LogLevel × String × Option String :=
  let failed := s!"Node {node.name} attempt {number}/{policy.maxAttempts} failed: " ++
    error.message
  (.warn, if number < policy.maxAttempts then s!"{failed}; retrying in {policy.retryDelay}ms"
    else failed, node.id)

/-- What is said of attempts that have failed one after the other. -/
def warnings (node : Node) (policy : AttemptPolicy) (errors : List NodeError) (number : Nat) :
    List (LogLevel × String × Option String) :=
  (errors.zipIdx number).map fun (error, number) => warning node policy error number

/-- What is said of a node that has failed in its last attempt. -/
def givingUp (node : Node) (error : NodeError) (number : Nat) :
    LogLevel × String × Option String :=
  (.error, s!"Node {node.name} failed after {number} attempt(s): {error.message}", node.id)

/-! ## Sequences of outcomes -/

section Sequences

variable {outcomes : Nat → Option (Except NodeError Json)} {events more : List (Event surroundings)}
  {reply : Option (Except NodeError Json)} {attempt : Attempt} {policy : AttemptPolicy}
  {error : NodeError} {errors : List NodeError}

@[simp] theorem replies_cons_now (time : Instant) :
    replies (⟨.now, time⟩ :: events) = replies events := rfl

@[simp] theorem replies_cons_sleep (milliseconds : Nat) (slept : Unit) :
    replies (⟨.sleep milliseconds, slept⟩ :: events) = replies events := rfl

theorem replies_cons_attempt :
    replies (⟨.attempt attempt, reply⟩ :: events) = reply :: replies events := rfl

theorem follows_cons_attempt : Follows outcomes (⟨.attempt attempt, reply⟩ :: events) ↔
    reply = outcomes 0 ∧ Follows (fun index => outcomes (index + 1)) events := by
  simp only [Follows, replies_cons_attempt]
  constructor
  · intro follows
    exact ⟨follows 0 reply rfl, fun index => follows (index + 1)⟩
  · rintro ⟨first, others⟩ (_ | index) later found
    · exact (Option.some.inj found).symm.trans first
    · exact others index later found

theorem failsWith_nil : FailsWith policy outcomes [] := by
  intro index error found
  simp at found

theorem failsWith_cons : FailsWith policy outcomes (error :: errors) ↔
    policy.outcome (outcomes 0) = .error error ∧
      FailsWith policy (fun index => outcomes (index + 1)) errors := by
  constructor
  · intro fails
    exact ⟨fails 0 error rfl, fun index => fails (index + 1)⟩
  · rintro ⟨first, others⟩ (_ | index) later found
    · cases found
      exact first
    · exact others index later found

/-- Whatever its attempts come to, a program can be run. -/
theorem exists_follows {α : Type} (program : Action α)
    (outcomes : Nat → Option (Except NodeError Json)) :
    ∃ events value, program.Yields events value ∧ Follows outcomes events := by
  induction program generalizing outcomes with
  | done value => exact ⟨[], value, .done value, by simp [Follows, replies]⟩
  | ask asked next ih =>
      cases asked with
      | attempt attempt =>
          obtain ⟨events, value, yields, follows⟩ :=
            ih (outcomes 0) fun index => outcomes (index + 1)
          exact ⟨_, value, .ask yields, follows_cons_attempt.mpr ⟨rfl, follows⟩⟩
      | now =>
          obtain ⟨events, value, yields, follows⟩ := ih default outcomes
          exact ⟨_, value, .ask yields, follows⟩
      | sleep milliseconds =>
          obtain ⟨events, value, yields, follows⟩ := ih () outcomes
          exact ⟨_, value, .ask yields, follows⟩
      | create record | load id | save record expected =>
          obtain ⟨events, value, yields, follows⟩ := ih (.error (.storage "")) outcomes
          exact ⟨_, value, .ask yields, follows⟩

end Sequences

/-! ## One attempt -/

section Trying

variable {node : Node} {context : Context} {policy : AttemptPolicy} {left number : Nat}
  {record : Execution} {outcomes : Nat → Option (Except NodeError Json)} {error last : NodeError}
  {events : List (Event surroundings)} {final : Execution × Except NodeFailure Json}

/-- An attempt that succeeds is the last one. -/
theorem Tried.of_ok {value : Json}
    (tried : Tried node context policy left number record events final)
    (follows : Follows outcomes events) (succeeds : policy.outcome (outcomes 0) = .ok value) :
    attempts events = [attemptAt node context policy number] ∧ final = (record, .ok value) := by
  cases tried with
  | succeeds other replied =>
      obtain ⟨rfl, -⟩ := follows_cons_attempt.mp follows
      cases replied.symm.trans succeeds
      exact ⟨rfl, rfl⟩
  | fails _ error replied | retries _ _ error replied _ =>
      obtain ⟨rfl, -⟩ := follows_cons_attempt.mp follows
      cases replied.symm.trans succeeds

/-- An attempt that fails is warned of, and the next one follows. -/
theorem Tried.of_error (counted : number + (left + 1) = policy.maxAttempts)
    (tried : Tried node context policy (left + 1) number record events final)
    (follows : Follows outcomes events) (fails : policy.outcome (outcomes 0) = .error error) :
    ∃ noted more, attempts events = attemptAt node context policy number :: attempts more ∧
      record.Appends noted [warning node policy error number] ∧
      Tried node context policy left (number + 1) noted more final ∧
      Follows (fun index => outcomes (index + 1)) more := by
  cases tried with
  | succeeds value replied =>
      obtain ⟨rfl, -⟩ := follows_cons_attempt.mp follows
      cases replied.symm.trans fails
  | retries _ _ other replied again =>
      obtain ⟨rfl, further⟩ := follows_cons_attempt.mp follows
      cases replied.symm.trans fails
      have some_left : number < policy.maxAttempts := by omega
      refine ⟨_, _, ?_, ?_, again, further⟩
      · rfl
      · simp only [warning, if_pos some_left]
        exact .log record _ _ _ _

/-- The last attempt that is allowed fails for good. -/
theorem Tried.of_last (counted : number = policy.maxAttempts)
    (tried : Tried node context policy 0 number record events final)
    (follows : Follows outcomes events) (fails : policy.outcome (outcomes 0) = .error error) :
    attempts events = [attemptAt node context policy number] ∧
      record.Appends final.1 [warning node policy error number, givingUp node error number] ∧
      final.2 = .error ⟨error, number⟩ := by
  cases tried with
  | succeeds value replied =>
      obtain ⟨rfl, -⟩ := follows_cons_attempt.mp follows
      cases replied.symm.trans fails
  | @fails _ _ time later _ _ replied =>
      obtain ⟨rfl, -⟩ := follows_cons_attempt.mp follows
      cases replied.symm.trans fails
      refine ⟨rfl, ?_, rfl⟩
      have none_left : ¬ number < policy.maxAttempts := by omega
      simp only [warning, if_neg none_left]
      exact Execution.Appends.append (.log record _ _ _ time) (.log _ _ _ _ later)

/-! ## All attempts -/

theorem range'_map_succ (number count : Nat) :
    (List.range' number (count + 1)).map (attemptAt node context policy) =
      attemptAt node context policy number ::
        (List.range' (number + 1) count).map (attemptAt node context policy) := by
  rw [List.range'_succ, List.map_cons]

/-- Attempts fail up to the first one that succeeds. -/
theorem Tried.recovers {errors : List NodeError} {value : Json} (few : errors.length ≤ left)
    (counted : number + left = policy.maxAttempts)
    (tried : Tried node context policy left number record events final)
    (follows : Follows outcomes events) (fails : FailsWith policy outcomes errors)
    (succeeds : policy.outcome (outcomes errors.length) = .ok value) :
    attempts events =
        (List.range' number (errors.length + 1)).map (attemptAt node context policy) ∧
      record.Appends final.1 (warnings node policy errors number) ∧ final.2 = .ok value := by
  induction errors generalizing left number record outcomes events with
  | nil =>
      obtain ⟨attempted, rfl⟩ := tried.of_ok follows succeeds
      exact ⟨attempted, .nil record, rfl⟩
  | cons error errors ih =>
      obtain ⟨left, rfl⟩ := Nat.exists_eq_add_one_of_ne_zero (Nat.ne_zero_of_lt few)
      obtain ⟨first, others⟩ := failsWith_cons.mp fails
      obtain ⟨noted, more, attempted, appends, goesOn, further⟩ :=
        tried.of_error counted follows first
      obtain ⟨rest, told, ended⟩ :=
        ih (Nat.le_of_succ_le_succ few) (by omega) goesOn further others succeeds
      refine ⟨?_, appends.append told, ended⟩
      rw [attempted, rest, ← range'_map_succ, List.length_cons]

/-- Attempts fail up to the last one that is allowed. -/
theorem Tried.exhausts {errors : List NodeError} (all : errors.length = left + 1)
    (counted : number + left = policy.maxAttempts)
    (tried : Tried node context policy left number record events final)
    (follows : Follows outcomes events) (fails : FailsWith policy outcomes errors)
    (ends : errors.getLast? = some last) :
    attempts events = (List.range' number errors.length).map (attemptAt node context policy) ∧
      record.Appends final.1
        (warnings node policy errors number ++ [givingUp node last policy.maxAttempts]) ∧
      final.2 = .error ⟨last, policy.maxAttempts⟩ := by
  induction left generalizing errors number record outcomes events with
  | zero =>
      obtain ⟨error, rfl⟩ := List.length_eq_one_iff.mp all
      obtain rfl : error = last := by simpa using ends
      obtain ⟨first, -⟩ := failsWith_cons.mp fails
      rw [← counted]
      exact tried.of_last counted follows first
  | succ left ih =>
      obtain ⟨error, errors, rfl⟩ := List.exists_cons_of_length_eq_add_one all
      obtain ⟨first, others⟩ := failsWith_cons.mp fails
      obtain ⟨noted, more, attempted, appends, goesOn, further⟩ :=
        tried.of_error counted follows first
      have some_left : errors.length = left + 1 := Nat.succ.inj all
      have sameEnd : errors.getLast? = some last := by
        rwa [List.getLast?_cons_of_ne_nil (List.ne_nil_of_length_eq_add_one some_left)] at ends
      obtain ⟨rest, told, ended⟩ :=
        ih some_left (by omega) goesOn further others sameEnd
      refine ⟨?_, appends.append told, ended⟩
      rw [attempted, rest, ← range'_map_succ, List.length_cons]

end Trying

/-! ## A node -/

/-- A node without a handler fails by the look-up, however short its limit is. -/
theorem outcome_of_unregistered {σ : Type} {registry : HandlerRegistry} {node : Node}
    {error : NodeError} (missing : registry.get node.type = .error error) (context : Context)
    (policy : AttemptPolicy) (number : Nat) (answer : TimedAnswers services σ) (state : σ) :
    policy.outcome (reply registry answer (attemptAt node context policy number) state) =
      .error error := by
  have found : registry.attempt node context = done (.error error) := by
    rw [HandlerRegistry.attempt, missing]
    rfl
  rw [reply, attemptAt, found]
  rfl

/-- A node is tried until an attempt succeeds or no more are allowed, whatever its attempts
come to and whoever reads the clock.  All attempts are at the node, in one context and within
the limit of the policy, and are numbered from one.  If those before an attempt fail and it
succeeds, it is the last one, its value is the result, and each attempt before it is warned of
in one line.  If all that are allowed fail, each is warned of, one more line says that the node
has failed, and the result is the error of the last attempt with their number.  The lines name
the node and follow those that were there, and nothing else changes in the record. -/
theorem tryNode_until_success (node : Node) (context : Context) (policy : AttemptPolicy)
    (record : Execution) (outcomes : Nat → Option (Except NodeError Json)) :
    policy.maxAttempts = min (policy.retries + 1) (2 ^ 32 - 1) ∧
    (∀ {σ : Type} (registry : HandlerRegistry) (answer : TimedAnswers services σ) state number
      error, registry.get node.type = .error error →
        policy.outcome (reply registry answer (attemptAt node context policy number) state) =
          .error error) ∧
    (∃ events final, (tryNode node context policy record).Yields events final ∧
      Follows outcomes events) ∧
    ∀ events final, (tryNode node context policy record).Yields events final →
      Follows outcomes events → ∀ errors, FailsWith policy outcomes errors →
        (∀ value, errors.length < policy.maxAttempts →
          policy.outcome (outcomes errors.length) = .ok value →
          attempts events =
              (List.range' 1 (errors.length + 1)).map (attemptAt node context policy) ∧
            record.Appends final.1 (warnings node policy errors 1) ∧ final.2 = .ok value) ∧
        ∀ last, errors.length = policy.maxAttempts → errors.getLast? = some last →
          attempts events =
              (List.range' 1 policy.maxAttempts).map (attemptAt node context policy) ∧
            record.Appends final.1
              (warnings node policy errors 1 ++ [givingUp node last policy.maxAttempts]) ∧
            final.2 = .error ⟨last, policy.maxAttempts⟩ := by
  have positive := policy.maxAttempts_pos
  refine ⟨rfl, fun registry answer state number error missing =>
    outcome_of_unregistered missing context policy number answer state,
    exists_follows _ outcomes, fun events final yields follows errors fails => ?_⟩
  have tried := (tryFrom_tried node context policy _ _ record).of_yields yields
  constructor
  · intro value few succeeds
    exact Tried.recovers (by omega) (by omega) tried follows fails succeeds
  · intro last all ends
    rw [← all]
    have exhausted := Tried.exhausts (by omega) (by omega) tried follows fails ends
    rwa [← all] at exhausted

/-- A pause that may be tried three times. -/
def restless : Node where
  id := "pause"
  name := "Pause"
  config := .delay 90

/-- Two attempts after the first one. -/
def patient : AttemptPolicy := ⟨2, 5, 50, false⟩

/-- The first attempt takes too long, the second has no handler, and the third succeeds. -/
def thirdTime : Nat → Option (Except NodeError Json)
  | 0 => none
  | 1 => some (.error (.handlerNotRegistered .delay))
  | _ => some (.ok .null)

/-- Services that cannot be reached. -/
def unconnected : TimedAnswers services Unit
  | .sleep milliseconds, _ => ((), milliseconds, ())
  | .exchange _, _ => (.error .unreachable, 0, ())
  | .operate connector _, _ => (.error (.notFound connector), 0, ())
  | .generate _ _, _ => (.error .notConfigured, 0, ())

/-- What the attempts at a node come to if it has no handler. -/
def unhandled (index : Nat) : Option (Except NodeError Json) :=
  reply [] unconnected (attemptAt restless (.start .null) patient (index + 1)) ()

/-- The record of a run that has begun. -/
def begun : Execution where
  id := ⟨⟨1⟩⟩
  workflowId := ⟨⟨0⟩⟩
  workflowName := "pausing"
  workflowVersion := 1
  status := .running
  startedAt := ⟨0, 0⟩

/-- A node that succeeds in its third attempt, and the same node without a handler. -/
theorem tryNode_until_success_third :
    (FailsWith patient thirdTime [.timeout 50, .handlerNotRegistered .delay] ∧
      ∃ events final, (tryNode restless (.start .null) patient begun).Yields events final ∧
        Follows thirdTime events ∧ (attempts events).length = 3 ∧ final.2 = .ok .null) ∧
    HandlerRegistry.get [] restless.type = .error (.handlerNotRegistered .delay) ∧
      ∃ events final, (tryNode restless (.start .null) patient begun).Yields events final ∧
        Follows unhandled events ∧ (attempts events).length = 3 ∧
          final.2 = .error ⟨.handlerNotRegistered .delay, 3⟩ := by
  constructor
  · have fails : FailsWith patient thirdTime [.timeout 50, .handlerNotRegistered .delay] :=
      failsWith_cons.mpr ⟨rfl, failsWith_cons.mpr ⟨rfl, failsWith_nil⟩⟩
    obtain ⟨-, -, ⟨events, final, yields, follows⟩, ends⟩ :=
      tryNode_until_success restless (.start .null) patient begun thirdTime
    obtain ⟨attempted, -, result⟩ :=
      (ends events final yields follows _ fails).1 .null (by decide) rfl
    exact ⟨fails, events, final, yields, follows, by rw [attempted]; rfl, result⟩
  · have missing : HandlerRegistry.get [] restless.type = .error (.handlerNotRegistered .delay) :=
      rfl
    obtain ⟨-, unregistered, ⟨events, final, yields, follows⟩, ends⟩ :=
      tryNode_until_success restless (.start .null) patient begun unhandled
    have each (index : Nat) :
        patient.outcome (unhandled index) = .error (.handlerNotRegistered .delay) :=
      unregistered [] unconnected () (index + 1) _ missing
    have fails : FailsWith patient unhandled (List.replicate 3 (.handlerNotRegistered .delay)) := by
      intro index error found
      obtain rfl := List.eq_of_mem_replicate (List.mem_of_getElem? found)
      exact each index
    obtain ⟨attempted, -, result⟩ := (ends events final yields follows _ fails).2 _ rfl rfl
    exact ⟨missing, events, final, yields, follows, by rw [attempted]; rfl, result⟩

end Engine

end Flowline
