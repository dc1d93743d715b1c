import Flowline.Proofs.Engine.Bookkeeping
import Flowline.Proofs.Engine.Judging
import Flowline.Proofs.Engine.Outcome
import Flowline.Proofs.Keyed
import Flowline.Proofs.Workflow.Index

/-!
# What is known during a run

A context is shown to every attempt of the walk and to every evaluation of a guard.
It holds the input of the run and what the executions so far have written, of which
the last write under a key counts.  Nothing else is ever written: no attempt that is
tried again, no failure that stops the walk and no error handler.
-/

namespace Flowline

/-- Write variables one after the other. -/
def Context.writeAll (context : Context) (entries : List (String × Json)) : Context :=
  { context with bindings := Keyed.insertAll context.bindings entries }

@[simp] theorem Context.writeAll_nil (context : Context) : context.writeAll [] = context := rfl

@[simp] theorem Context.writeAll_append (context : Context) (entries more : List (String × Json)) :
    context.writeAll (entries ++ more) = (context.writeAll entries).writeAll more := by
  simp [writeAll]

/-- What is written of a failure. -/
def Failure.entries (failure : Failure) : List (String × Json) :=
  [("$error", .ofMembers
      [("message", .string failure.message), ("nodeId", .string failure.nodeId)]),
    ("$failedNode", .ofMembers
      [("id", .string failure.nodeId), ("name", .string failure.nodeName),
        ("type", .string failure.nodeType)])]

/-- The graph of a workflow has only its nodes. -/
theorem Graph.node_mem_of_build {workflow : Workflow} {graph : Graph}
    (built : build workflow = .ok graph) :
    ∀ vertex ∈ graph.vertices, vertex.node ∈ workflow.nodes := by
  rw [eq_of_build built]
  simp

namespace Engine

open Program

/-- What an execution writes: its result under the identifier of its node, or else, if
the walk goes on, what has failed. -/
def Executed.writes (settings : Settings) (executed : Executed) : List (String × Json) :=
  match executed.outcome with
  | .ok value => [(executed.node.id, value)]
  | .error error =>
      if (AttemptPolicy.forNode executed.node settings).continueOnError then
        (executed.node.failure error.message).entries
      else []

section Writes

variable (settings : Settings) (node : Node) (context seen : Context)

@[simp] theorem writeAll_success (value : Json) :
    context.writeAll (Executed.writes settings ⟨node, seen, .ok value⟩) =
      context.setResult node.id value := rfl

theorem writeAll_continued (error : NodeError)
    (continues : (AttemptPolicy.forNode node settings).continueOnError = true) :
    context.writeAll (Executed.writes settings ⟨node, seen, .error error⟩) =
      context.recordFailure (node.failure error.message) := by
  have writes : Executed.writes settings ⟨node, seen, .error error⟩ = _ := if_pos continues
  rw [writes]
  rfl

theorem writeAll_stopped (error : NodeError)
    (stops : ¬ (AttemptPolicy.forNode node settings).continueOnError = true) :
    context.writeAll (Executed.writes settings ⟨node, seen, .error error⟩) = context := by
  have writes : Executed.writes settings ⟨node, seen, .error error⟩ = _ := if_neg stops
  rw [writes, Context.writeAll_nil]

end Writes

/-- What the executions among some events write, in their order. -/
def written (settings : Settings) (events : List (Event judged)) : List (String × Json) :=
  (executions settings (Event.owns events)).flatMap (Executed.writes settings)

/-- The context of an attempt of the walk or of the evaluation of a guard. -/
def Shows : Event judged → Context → Prop
  | ⟨.inl (.attempt attempt), _⟩, context => attempt.role = .step ∧ attempt.context = context
  | ⟨.inr (_, shown), _⟩, context => shown = context
  | _, _ => False

/-- An attempt that is made because the one before it, at the same node and in the same
context, has failed. -/
def Retries (earlier : List (Event judged)) (attempt : Attempt) : Prop :=
  ∃ sooner previous reply error between,
    earlier = sooner ++ ⟨.inl (.attempt previous), reply⟩ :: between ∧
      attempt = { previous with number := previous.number + 1 } ∧
      previous.result reply = .error error ∧ ∀ event ∈ between, ∀ context, ¬ Shows event context

variable {settings : Settings} {nodes : List Node} {events more earlier : List (Event judged)}
  {event : Event judged} {before between after : Context}

@[simp] theorem written_nil : written settings [] = [] := rfl

@[simp] theorem written_append :
    written settings (events ++ more) = written settings events ++ written settings more := by
  simp [written]

/-- What is no execution writes nothing. -/
theorem written_map_own {plain : List (Event surroundings)}
    (unexecuted : executions settings plain = []) :
    written settings (plain.map Event.own) = [] := by
  simp [written, unexecuted]

theorem Retries.prepend {attempt : Attempt} (retries : Retries earlier attempt) :
    Retries (events ++ earlier) attempt := by
  obtain ⟨sooner, previous, reply, error, between, rfl, same, failed, quiet⟩ := retries
  exact ⟨events ++ sooner, previous, reply, error, between, by simp, same, failed, quiet⟩

/-- What holds at an event of a part of a run that began with some context: the part
only attempts some nodes, and what is shown is what has been known then and what has been
written since. -/
structure Fits (settings : Settings) (nodes : List Node) (before : Context)
    (earlier : List (Event judged)) (event : Event judged) : Prop where
  shown : ∀ context, Shows event context →
    context = before.writeAll (written settings earlier)
  attempted : ∀ attempt reply, event = ⟨.inl (.attempt attempt), reply⟩ → attempt.role = .step →
    attempt.node ∈ nodes ∧ (attempt.number = 1 ∨ Retries earlier attempt)

theorem Fits.prepend (fits : Fits settings nodes between earlier event)
    (knows : between = before.writeAll (written settings events)) :
    Fits settings nodes before (events ++ earlier) event where
  shown context shows := by rw [fits.shown context shows, knows]; simp
  attempted attempt reply same step :=
    (fits.attempted attempt reply same step).imp_right fun first => first.imp_right .prepend

/-- A part of a run, by what is known before and after it. -/
structure Informs (settings : Settings) (nodes : List Node) (events : List (Event judged))
    (before after : Context) : Prop where
  fits : Throughout (Fits settings nodes before) events
  knows : after = before.writeAll (written settings events)

theorem Informs.append (first : Informs settings nodes events before between)
    (second : Informs settings nodes more between after) :
    Informs settings nodes (events ++ more) before after where
  fits := Throughout.append_iff.mpr
    ⟨first.fits, second.fits.mono fun _ _ fits => fits.prepend first.knows⟩
  knows := by rw [second.knows, first.knows, written_append, Context.writeAll_append]

theorem Informs.nil (context : Context) : Informs settings nodes [] context context :=
  ⟨.nil, rfl⟩

/-! ## Beside the walk -/

section Aside

variable {plain : List (Event surroundings)}

theorem not_shows_of_aside {event : Event surroundings} (aside : event.asked.Aside)
    (context : Context) : ¬ Shows event.own context := by
  obtain ⟨asked, reply⟩ := event
  cases asked <;> simp_all [Shows, Event.own, Request.Aside]

theorem Fits.of_aside {event : Event surroundings} (aside : event.asked.Aside) :
    Fits settings nodes before earlier event.own where
  shown context shows := (not_shows_of_aside aside context shows).elim
  attempted attempt reply same step := by
    obtain ⟨asked, given⟩ := event
    cases same
    exact (aside step).elim

/-- What is no step of a walk neither sees the context nor changes it. -/
theorem Informs.of_aside (aside : ∀ event ∈ plain, event.asked.Aside) (context : Context) :
    Informs settings nodes (plain.map Event.own) context context where
  fits := .of_forall <| List.forall_mem_map.mpr fun event member _ => .of_aside (aside event member)
  knows := by rw [written_map_own (executions_of_aside aside), Context.writeAll_nil]

end Aside

/-! ## Trying a node -/

/-- What holds at an event while a node is tried: nothing has been written yet, and every
attempt is made in one context. -/
structure Trying (settings : Settings) (first : Attempt) (earlier : List (Event judged))
    (event : Event judged) : Prop where
  shown : ∀ context, Shows event context →
    context = first.context ∧ written settings earlier = []
  attempted : ∀ attempt reply, event = ⟨.inl (.attempt attempt), reply⟩ → attempt.role = .step →
    attempt.node = first.node ∧
      ((attempt = first ∧ ∀ event ∈ earlier, ∀ context, ¬ Shows event context) ∨
        Retries earlier attempt)

theorem Trying.of_aside {first : Attempt} {event : Event surroundings}
    (aside : event.asked.Aside) : Trying settings first earlier event.own where
  shown context shows := (not_shows_of_aside aside context shows).elim
  attempted attempt reply same step := by
    obtain ⟨asked, given⟩ := event
    cases same
    exact (aside step).elim

theorem Trying.of_first {first : Attempt} (reply : Option (Except NodeError Json)) :
    Trying settings first [] ⟨.inl (.attempt first), reply⟩ where
  shown context shows := ⟨shows.2.symm, rfl⟩
  attempted attempt given same step := by
    cases same
    exact ⟨rfl, .inl ⟨rfl, by simp⟩⟩

/-- After a failed attempt that is not the last one, the next is the first of the rest. -/
theorem Trying.of_next {first : Attempt} {reply : Option (Except NodeError Json)}
    {error : NodeError} {quiet : List (Event surroundings)}
    (trying : Trying settings { first with number := first.number + 1 } earlier event)
    (failed : first.result reply = .error error)
    (early : first.number ≠ (AttemptPolicy.forNode first.node settings).maxAttempts)
    (aside : ∀ event ∈ quiet, event.asked.Aside) :
    Trying settings first
      ((⟨.attempt first, reply⟩ :: quiet).map Event.own ++ earlier) event where
  shown context shows := by
    obtain ⟨same, nothing⟩ := trying.shown context shows
    refine ⟨same, ?_⟩
    have undecided : executions settings (⟨.attempt first, reply⟩ :: quiet) = [] := by
      simp [executions_cons, executed?, failed, early, executions_of_aside aside]
    rw [written_append, written_map_own undecided, nothing, List.append_nil]
  attempted attempt given same step := by
    obtain ⟨atNode, ⟨again, unseen⟩ | retries⟩ := trying.attempted attempt given same step
    · refine ⟨atNode, .inr ⟨[], first, reply, error, quiet.map Event.own ++ earlier, rfl, again,
        failed, ?_⟩⟩
      refine List.forall_mem_append.mpr ⟨List.forall_mem_map.mpr ?_, unseen⟩
      exact fun event member => not_shows_of_aside (aside event member)
    · exact ⟨atNode, .inr retries.prepend⟩

theorem throughout_trying {first : Attempt} {reply : Option (Except NodeError Json)}
    {error : NodeError} {quiet : List (Event surroundings)}
    (rest : Throughout (Trying settings { first with number := first.number + 1 }) more)
    (failed : first.result reply = .error error)
    (early : first.number ≠ (AttemptPolicy.forNode first.node settings).maxAttempts)
    (aside : ∀ event ∈ quiet, event.asked.Aside) :
    Throughout (Trying settings first)
      ((⟨.attempt first, reply⟩ :: quiet).map Event.own ++ more) := by
  refine Throughout.append_iff.mpr ⟨Throughout.cons_iff.mpr ⟨.of_first reply, ?_⟩, ?_⟩
  · exact .of_forall <| List.forall_mem_map.mpr fun event member _ => .of_aside (aside event member)
  · exact rest.mono fun earlier event trying => trying.of_next failed early aside

theorem Tried.trying {node : Node} {context : Context} {left number : Nat} {record : Execution}
    {plain : List (Event surroundings)} {result : Execution × Except NodeFailure Json}
    (tried : Tried node context (.forNode node settings) left number record plain result)
    (total : number + left = (AttemptPolicy.forNode node settings).maxAttempts) :
    Throughout (Trying settings
      ⟨.step, node, context, number, (AttemptPolicy.forNode node settings).timeout⟩)
        (plain.map Event.own) := by
  induction tried with
  | succeeds _ _ => exact Throughout.cons_iff.mpr ⟨.of_first _, .nil⟩
  | fails _ _ _ =>
      exact Throughout.cons_iff.mpr ⟨.of_first _, Throughout.cons_iff.mpr
        ⟨.of_aside trivial, Throughout.cons_iff.mpr ⟨.of_aside trivial, .nil⟩⟩⟩
  | retries left number _ replied _ ih =>
      have early : number ≠ (AttemptPolicy.forNode node settings).maxAttempts := by omega
      have quiet (time : Instant) (milliseconds : Nat) : ∀ event ∈
          [(⟨.now, time⟩ : Event surroundings), ⟨.sleep milliseconds, ()⟩], event.asked.Aside := by
        simp [Request.Aside]
      exact throughout_trying (ih (by omega)) replied early (quiet _ _)

/-- Trying a node is shown one context, and its outcome is written after that. -/
theorem Tried.informs {node : Node} {context : Context} {record : Execution}
    {plain : List (Event surroundings)} {result : Execution × Except NodeFailure Json}
    (tried : Tried node context (.forNode node settings)
      ((AttemptPolicy.forNode node settings).maxAttempts - 1) 1 record plain result)
    (isNode : node ∈ nodes) :
    Informs settings nodes (plain.map Event.own) context
      (context.writeAll (Executed.writes settings
        ⟨node, context, result.2.mapError NodeFailure.error⟩)) := by
  have total := (AttemptPolicy.forNode node settings).one_add_left
  constructor
  · refine (tried.trying total).mono fun earlier event trying => ⟨?_, ?_⟩
    · intro shown shows
      obtain ⟨rfl, nothing⟩ := trying.shown shown shows
      rw [nothing, Context.writeAll_nil]
    · intro attempt reply same step
      obtain ⟨atNode, ⟨first, -⟩ | retries⟩ := trying.attempted attempt reply same step
      · exact ⟨atNode ▸ isNode, .inl (by rw [first])⟩
      · exact ⟨atNode ▸ isNode, .inr retries⟩
  · rw [written, Event.owns_map_own, tried.executes total]
    simp

/-- The time at which a line is written is nothing that is known. -/
theorem Informs.cons_now (time : Instant) (informs : Informs settings nodes events before after) :
    Informs settings nodes (Event.own ⟨.now, time⟩ :: events) before after := by
  have clock : Informs settings nodes (List.map Event.own [⟨.now, time⟩]) before before :=
    .of_aside (by simp [Request.Aside]) before
  exact clock.append informs

theorem runNode_informs (plan : Plan) (node : Node) (run : Run) (isNode : node ∈ nodes) :
    (runNode plan node run).Ensures fun events result =>
      Informs plan.settings nodes (events.map Event.own) run.context result.1.context := by
  apply (runNode_ran plan node run).mono
  rintro events result ⟨outcome, ran⟩
  cases ran with
  | completes value tried =>
      rw [List.map_cons, List.map_append]
      exact .cons_now _ ((tried.informs isNode).append (.cons_now _ (.nil _)))
  | continues failure continues tried told =>
      rw [List.map_cons, List.map_append, List.map_append,
        ← writeAll_continued _ _ _ run.context _ continues]
      exact .cons_now _ ((tried.informs isNode).append
        ((Informs.of_aside told.aside _).append (.cons_now _ (.nil _))))
  | stops failure stops tried told =>
      have unwritten := writeAll_stopped plan.settings node run.context run.context failure.error
        (Bool.eq_false_iff.mp stops)
      have informed := tried.informs isNode
      rw [mapError_error, unwritten] at informed
      rw [List.map_cons, List.map_append]
      exact .cons_now _ (informed.append (.of_aside told.aside _))

/-! ## From the nodes to the run -/

/-- The evaluation of a guard is shown what is known then. -/
theorem Informs.of_judged (guard : String) (context : Context) (holds : Bool) :
    Informs settings nodes [⟨.inr (guard, context), holds⟩] context context where
  fits := Throughout.cons_iff.mpr
    ⟨⟨fun shown shows => shows.symm, fun attempt reply same => by cases same⟩, .nil⟩
  knows := rfl

/-- A program without guards informs as it did before it was lifted. -/
theorem lift_informs {α : Type} {program : Action α} (known : α → Context)
    (informs : program.Ensures fun plain value =>
      Informs settings nodes (plain.map Event.own) before (known value)) :
    (lift program).Ensures fun events value =>
      Informs settings nodes events before (known value) :=
  (ensures_lift program _).mpr informs

theorem lift_aside {α : Type} {program : Action α} (known : α → Context)
    (aside : program.Ensures fun plain value =>
      (∀ event ∈ plain, event.asked.Aside) ∧ known value = before) :
    (lift program).Ensures fun events value =>
      Informs settings nodes events before (known value) :=
  lift_informs known <| aside.mono fun plain value aside => by
    rw [aside.2]
    exact .of_aside aside.1 before

theorem followJudged_informs
    {visit : String → Run → Program judged (Run × Except RunError Unit)}
    (visiting : ∀ nodeId run, (visit nodeId run).Ensures fun events result =>
      Informs settings nodes events run.context result.1.context)
    (connections : List Connection) (run : Run) :
    (followJudged visit connections run).Ensures fun events result =>
      Informs settings nodes events run.context result.1.context := by
  induction connections generalizing run with
  | nil => exact .nil run.context
  | cons connection rest ih =>
      obtain ⟨source, target, guard⟩ := connection
      have passing : (followJudged visit (⟨source, target, none⟩ :: rest) run).Ensures
          fun events result => Informs settings nodes events run.context result.1.context := by
        apply Ensures.bind (visiting target run)
        intro events visited first
        obtain ⟨after, outcome⟩ := visited
        cases outcome with
        | ok _ => exact (ih after).mono fun more result second => first.append second
        | error error => simpa using first
      cases guard with
      | none => exact passing
      | some guard =>
          rw [followJudged_guarded]
          intro (holds : Bool)
          have shown : Informs settings nodes [⟨.inr (guard, run.context), holds⟩] run.context
              run.context := .of_judged guard run.context holds
          cases holds with
          | true => exact passing.mono fun events result rest => shown.append rest
          | false =>
              apply Ensures.bind (lift_aside Run.context (runNote_aside run _ _ _))
              intro events skipped noted
              exact (ih skipped).mono fun more result rest => shown.append (noted.append rest)

theorem isCancelled_aside (plan : Plan) (run : Run) :
    (isCancelled plan run).Ensures fun events _ => ∀ event ∈ events, event.asked.Aside := by
  unfold isCancelled
  split
  · intro reply
    cases reply <;> simp [Request.Aside]
  · simp

theorem walkJudged_informs (plan : Plan)
    (known : ∀ vertex ∈ plan.graph.vertices, vertex.node ∈ nodes) (allowed : Nat)
    (nodeId : String) (run : Run) :
    (walkJudged plan allowed nodeId run).Ensures fun events result =>
      Informs plan.settings nodes events run.context result.1.context := by
  induction allowed generalizing nodeId run with
  | zero => exact .nil run.context
  | succ allowed ih =>
      rw [walkJudged]
      apply Ensures.bind (lift_aside (fun _ => run.context)
        ((isCancelled_aside plan run).mono fun _ _ aside => ⟨aside, rfl⟩))
      intro events found checked
      cases found with
      | true => simpa using checked
      | false =>
          simp only [Bool.false_eq_true, if_false]
          cases found : plan.graph.vertex? nodeId with
          | none => simpa using checked
          | some vertex =>
              have isNode := known vertex (Graph.mem_of_vertex? found)
              apply Ensures.bind (lift_informs (fun result => result.1.context)
                (runNode_informs plan vertex.node _ isNode))
              intro more ran second
              obtain ⟨after, outcome⟩ := ran
              have informed := checked.append second
              cases outcome with
              | error error => simpa using informed
              | ok _ =>
                  apply Ensures.bind (followJudged_informs ih vertex.outgoing after)
                  intro others followed third
                  obtain ⟨last, outcome⟩ := followed
                  have informed := informed.append third
                  cases outcome <;> simpa using informed

/-! ## Around the walk -/

theorem opening_aside (workflow : Workflow) (id : ExecutionId) :
    (opening workflow id).Ensures fun events _ => ∀ event ∈ events, event.asked.Aside :=
  aside_of_asks (opening_asks workflow id)

theorem inspect_aside (plan : Plan) (record : Execution) :
    (inspect plan record).Ensures fun events _ => ∀ event ∈ events, event.asked.Aside :=
  aside_of_asks (inspect_asks plan record)

/-- A run informs its walk of what it has written, from its input on. -/
theorem executeJudged_informs (settings : Settings) (workflow : Workflow) (id : ExecutionId)
    (input : Json) :
    (executeJudged settings workflow id input).Ensures fun events _ =>
      ∃ known, Informs settings workflow.nodes events (.start input) known := by
  apply Ensures.bind (lift_aside (fun _ => .start input)
    ((opening_aside workflow id).mono fun _ _ aside => ⟨aside, rfl⟩))
  intro events opened first
  have traversing : (traverseJudged settings workflow input opened.2.isSome opened.1).Ensures
      fun more _ => ∃ known, Informs settings workflow.nodes more (.start input) known := by
    unfold traverseJudged
    rcases build_eq workflow with ⟨error, -, built⟩ | ⟨graph, -, built⟩
    · rw [built]
      exact ⟨_, .nil _⟩
    · rw [built]
      apply Ensures.bind (lift_aside (fun _ => .start input)
        ((inspect_aside _ _).mono fun _ _ aside => ⟨aside, rfl⟩))
      intro inspected noted inspects
      apply Ensures.bind (walkJudged_informs _ (Graph.node_mem_of_build built) _ _ _)
      intro steps walked walks
      exact ⟨_, by simpa using inspects.append walks⟩
  apply Ensures.bind traversing
  rintro more walked ⟨known, second⟩
  apply Ensures.bind (lift_aside (fun _ => known)
    ((aside_of_asks (finish_asks _ _)).mono fun _ _ aside => ⟨aside, rfl⟩))
  intro closing finished third
  apply (lift_aside (fun _ => known)
    ((aside_of_asks (persist_asks _ _)).mono fun _ _ aside => ⟨aside, rfl⟩)).mono
  intro written record fourth
  exact ⟨known, first.append (second.append (third.append fourth))⟩

/-- Only results and failures of nodes are written. -/
theorem Informs.written_key (informs : Informs settings nodes events before after) :
    ∀ entry ∈ written settings events,
      entry.1 ∈ nodes.map Node.id ∨ entry.1 = "$error" ∨ entry.1 = "$failedNode" := by
  intro entry member
  obtain ⟨executed, isExecuted, writes⟩ := List.mem_flatMap.mp member
  obtain ⟨event, isEvent, decides⟩ := List.mem_filterMap.mp isExecuted
  obtain ⟨moment, isMoment, own⟩ := List.mem_filterMap.mp isEvent
  obtain ⟨earlier, later, parts⟩ := List.append_of_mem isMoment
  obtain ⟨attempt, reply, rfl, step, sameNode, -⟩ := step_of_executed? decides
  have isNode : executed.node ∈ nodes := by
    rw [sameNode]
    refine ((informs.fits earlier moment later parts).attempted attempt reply ?_ step).1
    obtain ⟨asked | asked, given⟩ := moment <;> cases own
    rfl
  have atNode : executed.node.id ∈ nodes.map Node.id := List.mem_map_of_mem isNode
  obtain ⟨node, context, error | value⟩ := executed
  · by_cases continues : (AttemptPolicy.forNode node settings).continueOnError = true
    · right
      simp only [Executed.writes, continues, if_true, Failure.entries, List.mem_cons,
        List.not_mem_nil, or_false] at writes
      rcases writes with rfl | rfl
      · exact .inl rfl
      · exact .inr rfl
    · simp [Executed.writes, continues] at writes
  · obtain rfl : entry = (node.id, value) := by simpa [Executed.writes] using writes
    exact .inl atNode

/-- A workflow that goes on after the failure of its first node. -/
def mended : Workflow where
  id := ⟨⟨0⟩⟩
  name := "mended"
  nodes := [
    { id := "start", name := "Start", config := .manual,
      policy := some { retries := 1, continueOnError := true } },
    { id := "end", name := "End", config := .manual }]
  connections := [{ source := "start", target := "end", guard := some "$error.nodeId == start" }]
  trigger := "start"
  createdAt := ⟨0, 0⟩
  updatedAt := ⟨0, 0⟩

/-- Replies that let every write pass and only the attempts at one node fail. -/
def failingAt (nodeId : String) : (asked : Request) → Reply asked
  | .now => ⟨0, 0⟩
  | .sleep _ => ()
  | .create _ => .ok .first
  | .load id => .error (.notFound id)
  | .save _ expected => .ok expected.next
  | .attempt attempt =>
      some (if attempt.node.id = nodeId then .error (.executionFailed "broken") else .ok .null)

/-- Replies under which every guard holds. -/
def permitting (answer : (asked : Request) → Reply asked) :
    (asked : judged.Request) → judged.Reply asked
  | .inl asked => answer asked
  | .inr _ => true

end Engine

end Flowline
