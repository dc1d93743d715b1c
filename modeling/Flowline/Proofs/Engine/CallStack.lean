import Flowline.Proofs.Engine.Independence

/-!
# The path to a failure

A walk keeps the nodes that it has entered and not left yet.  When a node fails for
good, they are the way from the trigger to it: every node on the way was executed, and
was left over a connection without a guard or with one that was found to hold just
before.  A walk that comes through leaves the path as it was.
-/

namespace Flowline

open Engine Program

/-- The connections that leave a node of the graph are declared so. -/
theorem Graph.outgoing_of_build {workflow : Workflow} {graph : Graph}
    (built : build workflow = .ok graph) :
    ∀ vertex ∈ graph.vertices, ∀ connection ∈ vertex.outgoing,
      connection ∈ workflow.connections ∧ connection.source = vertex.node.id := by
  rw [eq_of_build built]
  simp

/-- A program without the added requests makes none of them. -/
theorem Event.added_not_mem_map_own {base added : Interface} (asked : added.Request)
    (reply : added.Reply asked) (events : List (Event base)) :
    ⟨.inr asked, reply⟩ ∉ (events.map own : List (Event (base.extend added))) := by
  intro member
  obtain ⟨event, -, same⟩ := List.mem_map.mp member
  cases congrArg Event.asked same

/-- What holds of the traces of a program holds of those of the lifted one. -/
theorem Program.Ensures.lift {base added : Interface} {α : Type} {program : Program base α}
    {post : List (Event base) → α → Prop} (ensures : program.Ensures post) :
    (program.lift : Program (base.extend added) α).Ensures fun moments value =>
      ∃ events, moments = events.map Event.own ∧ post events value :=
  (ensures_lift program _).mpr (ensures.mono fun events _ holds => ⟨events, rfl, holds⟩)

theorem Program.Yields.lift {base added : Interface} {α : Type} {program : Program base α}
    {events : List (Event base)} {value : α} (yields : program.Yields events value) :
    (program.lift : Program (base.extend added) α).Yields (events.map Event.own) value := by
  induction yields with
  | done value => exact .done value
  | ask _ ih => exact .ask ih

namespace Engine

/-- What is asked before a connection is taken: nothing if it has no guard, and whether its
guard holds if it has one. -/
inductive Passing (connection : Connection) : List (Event judged) → Prop where
  | unguarded (absent : connection.guard = none) : Passing connection []
  | guarded {guard : String} (present : connection.guard = some guard) (context : Context) :
      Passing connection [⟨.inr (guard, context), true⟩]

/-- No failure among some events has stopped the walk. -/
def Completed (settings : Settings) (moments : List (Event judged)) : Prop :=
  ∀ executed ∈ executions settings (Event.owns moments), executed.Tolerated settings

/-- A walk that fails along some nodes: it fails at the first of them, or goes on from it,
comes through on some branches and fails along the rest on the next one. -/
inductive FailsAlong (settings : Settings) (workflow : Workflow) :
    List String → List (Event judged) → Prop where
  | here {moments : List (Event judged)} {executed : Executed}
      (executes : executions settings (Event.owns moments) = [executed])
      (stops : ¬ executed.Tolerated settings) :
      FailsAlong settings workflow [executed.node.id] moments
  | beyond {entering earlier asked later : List (Event judged)} {executed : Executed}
      {connection : Connection} {rest : List String}
      (enters : executions settings (Event.owns entering) = [executed])
      (goesOn : executed.Tolerated settings) (completed : Completed settings earlier)
      (declared : connection ∈ workflow.connections)
      (leaves : connection.source = executed.node.id) (passes : Passing connection asked)
      (fails : FailsAlong settings workflow (connection.target :: rest) later) :
      FailsAlong settings workflow (executed.node.id :: connection.target :: rest)
        (entering ++ (earlier ++ (asked ++ later)))

/-- What a part of a walk makes of the path: it leaves it as it was if it comes through, and
if it fails with a node it reports the path with more nodes behind it. -/
structure Recounts (settings : Settings) (moments : List (Event judged)) (before : Run)
    (result : Run × Except RunError Unit) (along : List String → Prop) : Prop where
  restored : result.2 = .ok () → result.1.path = before.path ∧ Completed settings moments
  fails : ∀ nodeId name attempts reason stack,
    result.2 = .error (.nodeFailed nodeId name attempts reason stack) →
      ∃ path, stack = before.path ++ path ∧ path.getLast? = some nodeId ∧ along path

variable {settings : Settings} {workflow : Workflow}

namespace Completed

variable {moments more : List (Event judged)}

theorem nil : Completed settings [] := by
  simp [Completed]

theorem append (first : Completed settings moments) (second : Completed settings more) :
    Completed settings (moments ++ more) := by
  intro executed member
  rw [Event.owns_append, executions_append, List.mem_append] at member
  exact member.elim (first executed) (second executed)

theorem of_executes {executed : Executed}
    (executes : executions settings (Event.owns moments) = [executed])
    (tolerated : executed.Tolerated settings) : Completed settings moments := by
  intro other member
  rw [executes, List.mem_singleton] at member
  exact member ▸ tolerated

theorem of_aside {events : List (Event surroundings)}
    (aside : ∀ event ∈ events, event.asked.Aside) : Completed settings (events.map Event.own) := by
  intro executed member
  simp [executions_of_aside aside] at member

end Completed

/-! ## Nodes -/

theorem runNote_path (run : Run) (level : LogLevel) (message nodeId : String) :
    (run.note level message nodeId).Ensures fun events after =>
      (∀ event ∈ events, event.asked.Aside) ∧ after.path = run.path := by
  apply Ensures.bind (note_aside run.record _ _ _)
  intro events record noted
  simpa using noted

/-- Running a node executes it once.  The walk goes on if that is tolerated, and stops with
the path to the node otherwise. -/
theorem runNode_path (plan : Plan) (node : Node) (run : Run) :
    (runNode plan node run).Ensures fun events result =>
      ∃ executed : Executed, executed.node = node ∧
        executions plan.settings events = [executed] ∧ result.1.path = run.path ∧
        ((executed.Tolerated plan.settings ∧ result.2 = .ok ()) ∨
          (¬ executed.Tolerated plan.settings ∧ ∃ attempts reason,
            result.2 = .error (.nodeFailed node.id node.name attempts reason run.path))) := by
  apply (runNode_ran plan node run).mono
  rintro events result ⟨outcome, ran⟩
  refine ⟨⟨node, run.context, outcome⟩, rfl, ran.executes, ?_⟩
  cases ran with
  | completes value _ => exact ⟨rfl, .inl ⟨by simp [Executed.Tolerated], rfl⟩⟩
  | continues failure continues _ _ => exact ⟨rfl, .inl ⟨fun _ _ => continues, rfl⟩⟩
  | stops failure stops _ _ =>
      refine ⟨rfl, .inr ⟨fun tolerated => ?_, failure.attempts, failure.error.message, rfl⟩⟩
      cases stops.symm.trans (tolerated failure.error rfl)

/-! ## Walks -/

/-- How a walk fails that follows connections in turn: on one of them, after those before it
have been dealt with. -/
def FailsOnOne (settings : Settings) (workflow : Workflow) (allowed : Nat)
    (connections : List Connection) (moments : List (Event judged)) (path : List String) : Prop :=
  path.length ≤ allowed ∧ ∃ connection ∈ connections, ∃ earlier asked later rest,
    moments = earlier ++ (asked ++ later) ∧ Completed settings earlier ∧
      Passing connection asked ∧ path = connection.target :: rest ∧
      FailsAlong settings workflow path later

/-- How a walk fails that goes on from a node. -/
def FailsFrom (settings : Settings) (workflow : Workflow) (allowed : Nat) (nodeId : String)
    (moments : List (Event judged)) (path : List String) : Prop :=
  path.length ≤ allowed ∧ path.head? = some nodeId ∧ FailsAlong settings workflow path moments

section Following

variable {allowed : Nat} {connections : List Connection} {connection : Connection}
  {moments more asked : List (Event judged)} {path : List String}

/-- What was dealt with before the connections may be dealt with first. -/
theorem FailsOnOne.cons (completed : Completed settings moments)
    (fails : FailsOnOne settings workflow allowed connections more path) :
    FailsOnOne settings workflow allowed (connection :: connections) (moments ++ more) path := by
  obtain ⟨short, other, member, earlier, asked, later, rest, rfl, others, passes⟩ := fails
  exact ⟨short, other, List.mem_cons_of_mem _ member, moments ++ earlier, asked, later, rest,
    by simp, completed.append others, passes⟩

/-- The first connection may be the one. -/
theorem FailsFrom.onOne (passes : Passing connection asked)
    (fails : FailsFrom settings workflow allowed connection.target moments path) :
    FailsOnOne settings workflow allowed (connection :: connections) (asked ++ moments) path := by
  obtain ⟨short, begins, fails⟩ := fails
  cases path with
  | nil => cases begins
  | cons first rest =>
      cases begins
      exact ⟨short, connection, List.mem_cons_self, [], asked, moments, rest, rfl, .nil, passes,
        rfl, fails⟩

end Following

/-- A connection that is taken is followed by those after it, unless the walk fails on it. -/
theorem pass_recounts {allowed : Nat}
    {visit : String → Run → Program judged (Run × Except RunError Unit)}
    (visiting : ∀ nodeId run, (visit nodeId run).Ensures fun moments result =>
      Recounts settings moments run result
        (FailsFrom settings workflow allowed nodeId moments))
    (connection : Connection) {connections : List Connection}
    (following : ∀ run, (followJudged visit connections run).Ensures fun moments result =>
      Recounts settings moments run result
        (FailsOnOne settings workflow allowed connections moments))
    {asked : List (Event judged)} (passes : Passing connection asked) (run : Run) :
    (followJudged visit ({ connection with guard := none } :: connections) run).Ensures
      fun moments result => Recounts settings (asked ++ moments) run result
        (FailsOnOne settings workflow allowed (connection :: connections) (asked ++ moments)) := by
  have silent : Completed settings asked := by
    cases passes with
    | unguarded absent => exact .nil
    | guarded present context => exact Completed.nil
  apply Ensures.bind (visiting connection.target run)
  rintro moments ⟨after, outcome⟩ visited
  cases outcome with
  | error error =>
      refine ⟨by simp, fun nodeId name attempts reason stack stopped => ?_⟩
      obtain ⟨path, rfl, ends, fails⟩ := visited.fails nodeId name attempts reason stack stopped
      exact ⟨path, rfl, ends, by simpa using fails.onOne passes⟩
  | ok _ =>
      obtain ⟨same, completed⟩ := visited.restored rfl
      apply (following after).mono
      intro more result followed
      rw [← List.append_assoc]
      refine ⟨fun through => ?_, fun nodeId name attempts reason stack stopped => ?_⟩
      · obtain ⟨still, rest⟩ := followed.restored through
        exact ⟨still.trans same, (silent.append completed).append rest⟩
      · obtain ⟨path, rfl, ends, fails⟩ := followed.fails nodeId name attempts reason stack stopped
        exact ⟨path, by rw [same], ends, fails.cons (silent.append completed)⟩

/-- Following connections leaves the path as it was or fails on one of them. -/
theorem followJudged_recounts {allowed : Nat}
    {visit : String → Run → Program judged (Run × Except RunError Unit)}
    (visiting : ∀ nodeId run, (visit nodeId run).Ensures fun moments result =>
      Recounts settings moments run result
        (FailsFrom settings workflow allowed nodeId moments))
    (connections : List Connection) (run : Run) :
    (followJudged visit connections run).Ensures fun moments result =>
      Recounts settings moments run result
        (FailsOnOne settings workflow allowed connections moments) := by
  induction connections generalizing run with
  | nil => exact ⟨fun _ => ⟨rfl, .nil⟩, by simp⟩
  | cons connection connections ih =>
      obtain ⟨source, target, guard⟩ := connection
      cases guard with
      | none => exact pass_recounts visiting ⟨source, target, none⟩ ih (.unguarded rfl) run
      | some guard =>
          rw [followJudged_guarded]
          intro (holds : Bool)
          cases holds with
          | true =>
              exact pass_recounts visiting ⟨source, target, some guard⟩ ih
                (.guarded rfl run.context) run
          | false =>
              apply Ensures.bind (Ensures.lift (runNote_path run _ _ _))
              rintro _ skipped ⟨events, rfl, aside, same⟩
              have silent : Completed settings (events.map Event.own) := .of_aside aside
              apply (ih skipped).mono
              intro more result followed
              have asked : Completed settings [⟨.inr (guard, run.context), false⟩] := Completed.nil
              refine ⟨fun through => ?_, fun nodeId name attempts reason stack stopped => ?_⟩
              · obtain ⟨still, rest⟩ := followed.restored through
                exact ⟨still.trans same, asked.append (silent.append rest)⟩
              · obtain ⟨path, rfl, ends, fails⟩ :=
                  followed.fails nodeId name attempts reason stack stopped
                refine ⟨path, by rw [same], ends, ?_⟩
                exact fails.cons (asked.append silent)

/-- A walk leaves the path as it was or fails along nodes that begin with the one that it
goes on from. -/
theorem walkJudged_recounts {plan : Plan} (built : Graph.build plan.workflow = .ok plan.graph)
    (allowed : Nat) (nodeId : String) (run : Run) :
    (walkJudged plan allowed nodeId run).Ensures fun moments result =>
      Recounts plan.settings moments run result
        (FailsFrom plan.settings plan.workflow allowed nodeId moments) := by
  induction allowed generalizing nodeId run with
  | zero => exact ⟨by simp, by simp⟩
  | succ allowed ih =>
      rw [walkJudged]
      apply Ensures.bind (Ensures.lift (isCancelled_aside plan run))
      rintro _ found ⟨checking, rfl, aside⟩
      cases found with
      | true => exact ⟨by simp, by simp⟩
      | false =>
          simp only [Bool.false_eq_true, if_false]
          cases found : plan.graph.vertex? nodeId with
          | none => exact ⟨by simp, by simp⟩
          | some vertex =>
              obtain rfl := Graph.id_of_vertex? built found
              have declared := Graph.outgoing_of_build built vertex (Graph.mem_of_vertex? found)
              apply Ensures.bind (Ensures.lift (runNode_path plan vertex.node _))
              rintro _ ⟨after, outcome⟩ ⟨running, rfl, executed, isNode, executes, path, ending⟩
              have enters : executions plan.settings (Event.owns
                  (checking.map Event.own ++ running.map Event.own : List (Event judged))) =
                    [executed] := by
                simp [executions_of_aside aside, executes]
              have came : after.path = run.path ++ [vertex.node.id] := path
              rcases ending with ⟨goesOn, rfl⟩ | ⟨stops, attempts, reason, rfl⟩
              · apply Ensures.bind (followJudged_recounts ih vertex.outgoing after)
                rintro more ⟨last, outcome⟩ followed
                cases outcome with
                | ok _ =>
                    obtain ⟨same, completed⟩ := followed.restored rfl
                    have restored : last.path = after.path := same
                    refine ⟨fun _ => ⟨?_, ?_⟩, by simp⟩
                    · rw [restored, came, List.dropLast_concat]
                    · rw [List.append_nil, ← List.append_assoc]
                      exact (Completed.of_executes enters goesOn).append completed
                | error error =>
                    refine ⟨by simp, fun nodeId name attempts reason stack stopped => ?_⟩
                    obtain ⟨_, rfl, ends, short, connection, member, earlier, asked, later, rest,
                      rfl, completed, passes, rfl, fails⟩ :=
                        followed.fails nodeId name attempts reason stack stopped
                    obtain ⟨isDeclared, leaves⟩ := declared connection member
                    refine ⟨vertex.node.id :: connection.target :: rest, by simp [came], ends,
                      Nat.succ_le_succ short, rfl, ?_⟩
                    rw [List.append_nil, ← List.append_assoc, ← isNode]
                    exact .beyond enters goesOn completed isDeclared (isNode ▸ leaves) passes fails
              · refine ⟨by simp, ?_⟩
                rintro _ _ _ _ _ ⟨⟩
                refine ⟨[vertex.node.id], rfl, rfl, by simp, rfl, ?_⟩
                rw [List.append_nil, ← isNode]
                exact .here enters stops

/-! ## Runs -/

/-- A run whose guards are evaluated as they are asks about them, and its walk is among what it
asks. -/
theorem Walked.exists_judged {id : ExecutionId} {input : Json} {record : Execution}
    {events walked : List (Event surroundings)} {outcome : Except RunError Unit}
    (yields : (execute settings workflow id input).Yields events record)
    (walks : Walked settings workflow id input events walked outcome) :
    ∃ graph noted stored run before steps after, Graph.build workflow = .ok graph ∧
      (walkJudged ⟨workflow, graph, settings, stored⟩ (settings.maxDepth + 1) workflow.trigger
        ⟨noted, .start input, []⟩).Yields steps (run, outcome) ∧
      (executeJudged settings workflow id input).Yields (before ++ (steps ++ after)) record ∧
      Event.owns (before ++ (steps ++ after)) = events ∧ Event.owns steps = walked ∧
      ∀ guard context holds, ⟨.inr (guard, context), holds⟩ ∈ before ++ (steps ++ after) →
        holds = Guard.holds guard context := by
  obtain ⟨course⟩ := exists_course yields
  obtain ⟨graph, inspected, noted, run, built, middle, inspects, goes, same⟩ :=
    course.middle_of_walked walks
  rw [walkAll, ← resolve_walkJudged] at goes
  obtain ⟨steps, asks, rfl, verdicts⟩ := goes.of_resolve
  have traverses : (traverseJudged settings workflow input course.opened.2.isSome
      course.opened.1).Yields (inspected.map Event.own ++ (steps ++ [])) course.walked := by
    rw [traverseJudged, built, same]
    exact inspects.lift.bind (asks.bind (.done _))
  refine ⟨graph, noted, _, run, course.before.map Event.own ++ inspected.map Event.own, steps,
    course.closing.map Event.own ++ course.written.map Event.own, built, asks, ?_, ?_, rfl, ?_⟩
  · have ran : ((lift (opening workflow id)).bind fun opened =>
        (traverseJudged settings workflow input opened.2.isSome opened.1).bind fun walked =>
          (lift (finish walked.1 walked.2)).bind fun record =>
            lift (persist record opened.2)).Yields _ record :=
      course.opens.lift.bind (traverses.bind (course.finishes.lift.bind course.persists.lift))
    simpa [executeJudged] using ran
  · simp [course.events_eq, middle]
  · intro guard context holds member
    have silent (plain : List (Event surroundings)) :
        (⟨.inr (guard, context), holds⟩ : Event judged) ∉ plain.map Event.own :=
      @Event.added_not_mem_map_own surroundings guards (guard, context) holds plain
    simp only [List.mem_append, silent, false_or, or_false] at member
    exact verdicts (guard, context) holds member

/-- A run that ends because a node has failed for good reports the path to that node.  It
begins with the trigger, ends with the node and has at most one node more than a walk may
follow connections.  The walk fails along it: every node on the path was executed and left
over a declared connection, which has no guard or one that was found to hold just before
the next node was executed; in between only branches were followed that the walk has come
through.  The record, unless a write conflicts, reports the same path.  Every walk that comes
through leaves the path as it was. -/
theorem execute_fails_along (settings : Settings) (workflow : Workflow) (id : ExecutionId)
    (input : Json) :
    (∀ events record walked nodeId name attempts reason path,
      (execute settings workflow id input).Yields events record →
      Walked settings workflow id input events walked
        (.error (.nodeFailed nodeId name attempts reason path)) →
      path.head? = some workflow.trigger ∧ path.getLast? = some nodeId ∧
      path.length ≤ settings.maxDepth + 1 ∧
      (∃ before steps after,
        (executeJudged settings workflow id input).Yields (before ++ (steps ++ after)) record ∧
        Event.owns (before ++ (steps ++ after)) = events ∧ Event.owns steps = walked ∧
        (∀ guard context holds, ⟨.inr (guard, context), holds⟩ ∈ before ++ (steps ++ after) →
          holds = Guard.holds guard context) ∧
        FailsAlong settings workflow path steps) ∧
      ((∀ event ∈ events, ¬ Conflicted event) →
        record.error.bind ErrorSummary.stack = some (" -> ".intercalate path))) ∧
    ∀ graph stored allowed nodeId run, Graph.build workflow = .ok graph →
      (walk ⟨workflow, graph, settings, stored⟩ allowed nodeId run).Ensures fun _ result =>
        result.2 = .ok () → result.1.path = run.path := by
  constructor
  · intro events record walked nodeId name attempts reason path yields walks
    obtain ⟨graph, noted, stored, run, before, steps, after, built, asks, ran, same, own,
      verdicts⟩ := walks.exists_judged yields
    have recounts := (walkJudged_recounts built _ _ _).of_yields asks
    obtain ⟨_, rfl, ends, short, begins, fails⟩ :=
      recounts.fails nodeId name attempts reason path rfl
    refine ⟨begins, ends, short, ⟨before, steps, after, ran, same, own, verdicts, fails⟩, ?_⟩
    intro unconflicted
    have ending := congrArg Ending.error (walks.endingOf_eq yields unconflicted)
    have failed : record.error = some ⟨_, some (" -> ".intercalate _)⟩ := ending
    rw [failed]
    rfl
  · intro graph stored allowed nodeId run built
    apply (ensures_iff _ _).mpr
    intro events result yields through
    rw [← resolve_walkJudged] at yields
    obtain ⟨moments, asks, -, -⟩ := yields.of_resolve
    exact (((walkJudged_recounts built _ _ _).of_yields asks).restored through).1

/-- A workflow with two branches, of which the second is only taken after the first. -/
def blamed : Workflow where
  id := ⟨⟨0⟩⟩
  name := "blamed"
  nodes := [{ id := "start", name := "Start", config := .manual },
    { id := "aside", name := "Aside", config := .manual },
    { id := "end", name := "End", config := .manual }]
  connections := [{ source := "start", target := "aside" },
    { source := "start", target := "end", guard := some "aside == null" }]
  trigger := "start"
  createdAt := ⟨0, 0⟩
  updatedAt := ⟨0, 0⟩

/-- The node of the branch that the walk has come through is not on the path to the failure. -/
theorem execute_fails_along_second_branch :
    ∃ events record walked moments,
      (execute {} blamed ⟨⟨1⟩⟩ .null).Yields events record ∧
      Walked {} blamed ⟨⟨1⟩⟩ .null events walked
        (.error (.nodeFailed "end" "End" 1 "broken" ["start", "end"])) ∧
      (executions {} events).map (fun executed => executed.node.id) = ["start", "aside", "end"] ∧
      Event.owns moments = walked ∧ FailsAlong {} blamed ["start", "end"] moments := by
  have yields := trace_yields (failingAt "end") (execute {} blamed ⟨⟨1⟩⟩ .null)
  obtain ⟨walked, walks⟩ :=
    @exists_walked_trace blamed {} ⟨⟨1⟩⟩ .null rfl (failingAt "end")
  have outcome : ((traverse {} blamed .null true
      ((opening blamed ⟨⟨1⟩⟩).trace (failingAt "end")).2.1).trace (failingAt "end")).2.2 =
        .error (.nodeFailed "end" "End" 1 "broken" ["start", "end"]) := by decide +kernel
  have fails : Walked {} blamed ⟨⟨1⟩⟩ .null _ walked _ := outcome ▸ walks
  obtain ⟨-, -, -, ⟨before, steps, after, -, -, own, -, along⟩, -⟩ :=
    (execute_fails_along {} blamed ⟨⟨1⟩⟩ .null).1 _ _ _ _ _ _ _ _ yields fails
  exact ⟨_, _, walked, steps, yields, fails, by decide +kernel, own, along⟩

end Engine

end Flowline
