import Flowline.Proofs.Engine.Outcome
import Flowline.Proofs.Engine.Survey
import Mathlib.Data.Set.Card

/-!
# The order of a run

The executions of a run are those of its walk.  If nothing stops the walk, they are
those on the open paths from the trigger, and the run ends with success.
-/

namespace Flowline.Engine

open Program

variable {settings : Settings} {workflow : Workflow} {id : ExecutionId} {input : Json}
  {events : List (Event surroundings)} {record : Execution}

/-- Only the walk of a run executes nodes, and what it reads is the run's own record. -/
theorem Course.exists_walk (course : Course settings workflow id input events record)
    (valid : workflow.validate = .ok ()) :
    ∃ graph noted steps run, Graph.build workflow = .ok graph ∧
      (walkAll ⟨workflow, graph, settings, course.opened.2.isSome⟩ ⟨noted, .start input, []⟩).Yields
        steps (run, course.walked.2) ∧
      executions settings events = executions settings steps ∧
      ∀ other held, ⟨.load other, .ok held⟩ ∈ steps →
        other = id ∧ ⟨.load other, .ok held⟩ ∈ events := by
  rcases traverse_yields course.walks with
    ⟨error, invalid, -, -⟩ |
      ⟨graph, inspected, noted, steps, run, -, built, middle, inspects, walks, -⟩
  · simp [invalid] at valid
  · have told := (inspect_tells _ _).of_yields inspects
    have passage := (walk_passage _ _ _ _).of_yields walks
    obtain ⟨before, after⟩ := List.forall_mem_append.mp course.unattempted_around
    refine ⟨graph, noted, steps, run, built, walks, ?_, fun other held member => ?_⟩
    · have outside {around : List (Event surroundings)}
          (unattempted : ∀ event ∈ around, ∀ attempt, event.asked ≠ .attempt attempt) :
          executions settings around = [] :=
        executions_of_aside fun event member => Request.aside_of_ne (unattempted event member)
      have inspecting : executions settings inspected = [] :=
        outside fun event member attempt same => by simp [told.clock event member] at same
      rw [course.events_eq, middle]
      simp only [executions_append, outside before, inspecting, List.nil_append]
      rw [← executions_append, outside after, List.append_nil]
    · constructor
      · have quiet : other = noted.id := passage.quiet _ member
        rw [quiet, told.grown.id_eq, course.opened_running.id_eq]
      · simp [course.events_eq, middle, member]

/-- Without guards every path is open. -/
theorem openFrom_of_unguarded
    (unguarded : ∀ connection ∈ workflow.connections, connection.guard = none) {steps : List Step}
    {here path : List Nat} :
    OpenFrom workflow input steps here path ↔
      (workflow.endpoint? workflow.trigger path).isSome = true := by
  refine ⟨OpenFrom.connected, fun connected => ⟨connected, ?_⟩⟩
  intro before position _ _ connection guard declared hasGuard
  simp [unguarded connection (List.mem_of_getElem? declared)] at hasGuard

/-- Steps that take every path once reach a node once for each path to it. -/
theorem countP_eq_encard {steps : List Step}
    (ordered : steps.Pairwise fun left right => left.path < right.path)
    (located : ∀ step ∈ steps, workflow.endpoint? workflow.trigger step.path = some step.node.id)
    (complete : ∀ path, (workflow.endpoint? workflow.trigger path).isSome = true →
      ∃ step ∈ steps, step.path = path) (nodeId : String) :
    (((steps.map Step.toExecuted).countP fun executed => executed.node.id = nodeId : ℕ) : ℕ∞) =
      {path | workflow.endpoint? workflow.trigger path = some nodeId}.encard := by
  have reaching : {path | workflow.endpoint? workflow.trigger path = some nodeId} =
      (((steps.filter fun step => step.node.id = nodeId).map Step.path).toFinset :
        Set (List Nat)) := by
    ext path
    simp only [Set.mem_ofPred_eq, List.coe_toFinset, List.mem_map, List.mem_filter,
      decide_eq_true_eq]
    constructor
    · intro arrives
      obtain ⟨step, member, rfl⟩ := complete path (by simp [arrives])
      exact ⟨step, ⟨member, Option.some.inj ((located step member).symm.trans arrives)⟩, rfl⟩
    · rintro ⟨step, ⟨member, rfl⟩, rfl⟩
      exact located step member
  have distinct : ((steps.filter fun step => step.node.id = nodeId).map Step.path).Nodup := by
    refine List.pairwise_map.mpr ((ordered.filter _).imp fun {left right} before same => ?_)
    exact List.lt_irrefl right.path (same ▸ before)
  rw [reaching, Set.encard_coe_eq_coe_finsetCard, List.toFinset_card_of_nodup distinct,
    List.length_map, List.countP_map, List.countP_eq_length_filter]
  rfl

/-- A run of a valid workflow none of whose paths is longer than a walk may be, in
which no failure stops the walk and no cancelled record is read.  Its executions are
those on the open paths from the trigger, once for each path and in the order of the
paths, and each knows what the executions before it have added.  Without guards a node
is executed once for every path to it.  The run ends with success, unless a write
conflicts with a record that has failed. -/
theorem execute_walks_paths (settings : Settings) (workflow : Workflow) (id : ExecutionId)
    (input : Json) (events : List (Event surroundings)) (record : Execution)
    (yields : (execute settings workflow id input).Yields events record)
    (valid : workflow.validate = .ok ())
    (bounded : ∀ path, (workflow.endpoint? workflow.trigger path).isSome = true →
      path.length ≤ settings.maxDepth)
    (tolerated : ∀ executed ∈ executions settings events, executed.Tolerated settings)
    (uncancelled : ∀ held, ⟨.load id, .ok held⟩ ∈ events → held.record.status ≠ .cancelled) :
    (∃ steps : List Step, executions settings events = steps.map Step.toExecuted ∧
      (steps.Pairwise fun left right => left.path < right.path) ∧
      (∀ path, (∃ step ∈ steps, step.path = path) ↔ OpenFrom workflow input steps [] path) ∧
      ∀ step ∈ steps, step.node ∈ workflow.nodes ∧
        workflow.endpoint? workflow.trigger step.path = some step.node.id ∧
        step.context = contextBefore input steps step.path) ∧
    ((∀ connection ∈ workflow.connections, connection.guard = none) → ∀ nodeId,
      (((executions settings events).countP fun executed => executed.node.id = nodeId : ℕ) : ℕ∞) =
        {path | workflow.endpoint? workflow.trigger path = some nodeId}.encard) ∧
    (record.status = .success ∨
      (∃ event ∈ events, Conflicted event) ∧ ReadFinal id .failed events) := by
  obtain ⟨course⟩ := exists_course yields
  obtain ⟨graph, noted, walked, run, built, walks, executes, reads⟩ := course.exists_walk valid
  have calm : Calm settings walked := by
    constructor
    · intro executed member
      exact tolerated executed (executes ▸ member)
    · rintro other held member
      obtain ⟨rfl, among⟩ := reads other held member
      exact uncancelled held among
  obtain ⟨succeeds, steps, survey⟩ := (walk_surveys valid built bounded input _ [] _ rfl []
    ⟨noted, .start input, []⟩ ⟨rfl, .nil, by simp, rfl⟩).of_yields walks calm
  have open_iff (path : List Nat) :
      (∃ step ∈ steps, step.path = path) ↔ OpenFrom workflow input steps [] path :=
    survey.mem_iff path (List.nil_prefix)
  have executed := executes.trans survey.executed
  refine ⟨⟨steps, executed, survey.ordered, open_iff, fun step member => ?_⟩,
    fun unguarded nodeId => ?_, ?_⟩
  · obtain ⟨isNode, arrives⟩ := survey.located step member
    exact ⟨isNode, arrives, survey.informed step member⟩
  · rw [executed]
    refine countP_eq_encard survey.ordered (fun step member => (survey.located step member).2)
      (fun path connected => ?_) nodeId
    exact (open_iff path).mpr ((openFrom_of_unguarded unguarded).mpr connected)
  · have success : statusOf course.walked.2 = .success := statusOf_eq_success.mpr succeeds
    rcases course.status_eq_or_read with ended | ⟨conflicted, held, member, final, status⟩
    · exact .inl (ended.trans success)
    · by_cases failed : held.record.status = .failed
      · exact .inr ⟨conflicted, held, member, final, failed⟩
      · refine .inl (status ▸ ?_)
        simpa [failed, uncancelled held member] using Execution.Status.mem_of_isFinal final

/-- A workflow of two nodes and two parallel connections. -/
def forked : Workflow where
  id := ⟨⟨0⟩⟩
  name := "forked"
  nodes := [{ id := "start", name := "Start", config := .manual },
    { id := "end", name := "End", config := .manual }]
  connections := [{ source := "start", target := "end" }, { source := "start", target := "end" }]
  trigger := "start"
  createdAt := ⟨0, 0⟩
  updatedAt := ⟨0, 0⟩

theorem forked_endpoint? (path : List Nat) :
    (forked.endpoint? "start" path = some "end" ↔ path ∈ [[0], [1]]) ∧
      ((forked.endpoint? "start" path).isSome = true → path.length ≤ 1) := by
  -- Nothing leaves the end, so two positions decide.
  rcases path with _ | ⟨_ | _ | _, _ | ⟨_ | _ | _, _⟩⟩ <;> simp [Workflow.endpoint?, forked]

/-- A reply that disturbs no run: no write conflicts, nothing is read and no failure
stops the walk. -/
structure Undisturbed (settings : Settings) (event : Event surroundings) : Prop where
  unconflicted : ¬ Conflicted event
  unread : ∀ id held, event ≠ ⟨.load id, .ok held⟩
  tolerated : ∀ executed, executed? settings event = some executed → executed.Tolerated settings

theorem exists_undisturbed (settings : Settings) (asked : Request) :
    ∃ reply : Reply asked, Undisturbed settings ⟨asked, reply⟩ := by
  cases asked with
  | now => exact ⟨⟨0, 0⟩, not_false, by simp, by simp [executed?]⟩
  | sleep milliseconds => exact ⟨(), not_false, by simp, by simp [executed?]⟩
  | create record => exact ⟨.ok .first, not_false, by simp, by simp [executed?]⟩
  | load id => exact ⟨.error (.notFound id), not_false, by simp, by simp [executed?]⟩
  | save record expected => exact ⟨.ok expected.next, not_false, by simp, by simp [executed?]⟩
  | attempt attempt =>
      refine ⟨some (.ok .null), not_false, by simp, ?_⟩
      simp [executed?, Attempt.result, Executed.Tolerated]

/-- The node at the end of two parallel connections is executed twice. -/
theorem execute_walks_parallel_paths :
    ∃ events record, (execute {} forked ⟨⟨1⟩⟩ .null).Yields events record ∧
      forked.validate = .ok () ∧
      (∀ path, (forked.endpoint? forked.trigger path).isSome = true → path.length ≤ 256) ∧
      (∀ executed ∈ executions {} events, executed.Tolerated {}) ∧
      (∀ held, ⟨.load ⟨⟨1⟩⟩, .ok held⟩ ∈ events → held.record.status ≠ .cancelled) ∧
      ((executions {} events).countP fun executed => executed.node.id = "end") = 2 ∧
      record.status = .success := by
  obtain ⟨events, record, yields, undisturbed⟩ :=
    @exists_yields surroundings _ (Undisturbed {}) (exists_undisturbed {})
      (execute {} forked ⟨⟨1⟩⟩ .null)
  have valid : forked.validate = .ok () := rfl
  have bounded (path : List Nat)
      (connected : (forked.endpoint? forked.trigger path).isSome = true) : path.length ≤ 256 :=
    ((forked_endpoint? path).2 connected).trans (by decide)
  have tolerated : ∀ executed ∈ executions {} events, executed.Tolerated {} := by
    intro executed member
    obtain ⟨event, among, decided⟩ := List.mem_filterMap.mp member
    exact (undisturbed event among).tolerated executed decided
  have uncancelled (held : Versioned) (member : ⟨.load ⟨⟨1⟩⟩, .ok held⟩ ∈ events) :
      held.record.status ≠ .cancelled :=
    ((undisturbed _ member).unread _ held rfl).elim
  obtain ⟨-, counts, ending⟩ := execute_walks_paths {} forked ⟨⟨1⟩⟩ .null events record yields
    valid bounded tolerated uncancelled
  refine ⟨events, record, yields, valid, bounded, tolerated, uncancelled, ?_, ?_⟩
  · have twice := counts (by simp [forked]) "end"
    have paths : {path | forked.endpoint? forked.trigger path = some "end"} =
        ({[0], [1]} : Set (List Nat)) := by
      ext path
      exact (forked_endpoint? path).1.trans (by simp)
    rw [paths, Set.encard_pair (by decide)] at twice
    exact_mod_cast twice
  · rcases ending with success | ⟨⟨event, member, conflicted⟩, -⟩
    · exact success
    · exact ((undisturbed event member).unconflicted conflicted).elim

end Flowline.Engine
