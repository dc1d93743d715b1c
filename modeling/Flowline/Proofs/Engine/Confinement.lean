import Flowline.Proofs.Engine.Attempts
import Flowline.Proofs.Engine.CallStack
import Flowline.Proofs.Engine.WalkOrder
import Flowline.Proofs.Workflow.Reach

/-!
# Where a walk can go

A walk starts at the trigger and follows connections, so that it only tries nodes which
connections lead to from there.  In a valid workflow these are all known, and no walk ends
because it has come to something else.
-/

namespace Flowline.Engine

open Program

/-- A part of a walk that stays where connections lead from the trigger. -/
structure Confined (workflow : Workflow) (events : List (Event surroundings))
    (outcome : Except RunError Unit) : Prop where
  led : ∀ attempt ∈ attempts events, attempt.role = .step →
    workflow.Leads workflow.trigger attempt.node.id
  known : ∀ reason, outcome ≠ .error (.invalidWorkflow reason)

namespace Confined

variable {workflow : Workflow} {events : List (Event surroundings)}
  {outcome : Except RunError Unit}

theorem of_unattempted (nothing : attempts events = [])
    (known : ∀ reason, outcome ≠ .error (.invalidWorkflow reason)) :
    Confined workflow events outcome :=
  ⟨by simp [nothing], known⟩

theorem composable (workflow : Workflow) :
    Composable fun events _ _ outcome => Confined workflow events outcome where
  idle _ := .of_unattempted rfl (by simp)
  append := by
    intro first second _ _ _ _ earlier later
    refine ⟨fun attempt member step => ?_, later.known⟩
    rw [attempts_append, List.mem_append] at member
    exact member.elim (fun member => earlier.led attempt member step)
      (fun member => later.led attempt member step)

end Confined

/-- Running a node that connections lead to tries no other one as a step. -/
theorem runNode_confined {plan : Plan} {node : Node} (run : Run)
    (led : plan.workflow.Leads plan.workflow.trigger node.id) :
    (runNode plan node run).Ensures fun events result =>
      Confined plan.workflow events result.2 := by
  refine ((runNode_attempts plan node run).and (runNode_path plan node run)).mono ?_
  rintro events result ⟨⟨_, -, count, -, -, attempted⟩, executed, -, -, -, ending⟩
  refine ⟨fun attempt member step => ?_, fun reason => ?_⟩
  · rw [attempted, List.mem_append] at member
    rcases member with member | member
    · obtain ⟨-, same, -⟩ := mem_tries member
      exact same ▸ led
    · cases step.symm.trans (Executed.role_of_mem_alarms member)
  · rcases ending with ⟨-, same⟩ | ⟨-, attempts, message, same⟩ <;> simp [same]

/-- From a place that connections lead to, a walk through the graph of its workflow only comes
to such places. -/
theorem walk_confined {plan : Plan} (built : Graph.build plan.workflow = .ok plan.graph)
    (allowed : Nat) {nodeId : String} (led : plan.workflow.Leads plan.workflow.trigger nodeId)
    (run : Run) :
    (walk plan allowed nodeId run).Ensures fun events result =>
      Confined plan.workflow events result.2 := by
  have valid := Graph.validate_of_build built
  have isNode {nodeId : String} (led : plan.workflow.Leads plan.workflow.trigger nodeId) :
      nodeId ∈ plan.workflow.nodeIds := by
    obtain ⟨path, arrives⟩ := led
    exact Workflow.endpoint?_mem valid (Workflow.mem_nodeIds_of_validate valid).1 arrives
  refine walk_ensures_within (Confined.composable plan.workflow) ?_ ?_ ?_ ?_ ?_ ?_ ?_ allowed nodeId
    led run
  · -- A branch of a node prolongs the path to it.
    intro nodeId vertex led stands connection member
    obtain ⟨_, -, -, vertexEq⟩ := Workflow.vertex?_of_mem built (isNode led)
    obtain rfl := Option.some.inj (stands.symm.trans vertexEq)
    obtain ⟨⟨_, position⟩, branch, rfl⟩ := List.mem_map.mp member
    obtain ⟨path, arrives⟩ := led
    exact ⟨path ++ [position], Workflow.endpoint?_snoc arrives branch⟩
  · exact fun _ _ => .of_unattempted rfl (by simp)
  · intro run
    unfold isCancelled
    split
    · intro reply
      cases reply with
      | error error => exact .of_unattempted rfl (by simp)
      | ok held => exact .of_unattempted rfl (by split <;> simp)
    · exact .of_unattempted rfl (by simp)
  · intro nodeId reason run led stands
    obtain ⟨_, -, -, vertex⟩ := Workflow.vertex?_of_mem built (isNode led)
    cases stands.symm.trans vertex
  · exact fun _ _ => .of_unattempted rfl (by simp)
  · intro nodeId vertex run led stands
    obtain rfl := Graph.id_of_vertex? built stands
    exact runNode_confined run led
  · exact fun run message nodeId => (runNote_unattempted run .info message nodeId).mono
      fun _ _ noted => .of_unattempted noted.1 (by simp)

variable {settings : Settings} {workflow : Workflow} {id : ExecutionId} {input : Json}
  {events walked : List (Event surroundings)} {outcome : Except RunError Unit}

theorem Walked.confined (walks : Walked settings workflow id input events walked outcome) :
    Confined workflow walked outcome := by
  obtain ⟨built, -, -, walks, -⟩ := walks
  exact (walk_confined built _ (.refl workflow workflow.trigger) _).of_yields walks

/-- Validation passes exactly the workflows without faults and reports the first fault of any
other one.  The graph of a workflow that passes has every connection and every node, as the
workflow lists them, and no run of it comes to a place that is not a node. -/
theorem execute_among_nodes (workflow : Workflow) :
    (workflow.validate = .ok () ↔ workflow.WellFormed) ∧
    (∀ error, workflow.validate = .error error ↔ workflow.FirstViolation error) ∧
    (workflow.validate = .ok () →
      ∃ graph, Graph.build workflow = .ok graph ∧
        (workflow.edges workflow.positions).length = workflow.connections.length ∧
        (graph.vertices.flatMap Vertex.outgoing).Perm workflow.connections ∧
        (∀ nodeId, graph.node? nodeId = workflow.node? nodeId) ∧
        (∀ nodeId, graph.outgoing nodeId =
          workflow.connections.filter fun connection => connection.source = nodeId) ∧
        ∀ settings id input events record,
          (execute settings workflow id input).Yields events record →
            ∃ steps outcome, Walked settings workflow id input events steps outcome ∧
              ∀ reason, outcome ≠ .error (.invalidWorkflow reason)) := by
  refine ⟨Workflow.validate_eq_ok, fun _ => Workflow.validate_eq_error, fun valid => ?_⟩
  rcases build_eq workflow with ⟨error, invalid, -⟩ | ⟨graph, -, built⟩
  · cases valid.symm.trans invalid
  · refine ⟨graph, built, Workflow.length_edges (Workflow.validate_eq_ok.mp valid),
      Graph.flatMap_outgoing_perm built, Graph.node?_eq built, Graph.outgoing_eq built, ?_⟩
    intro settings id input events record yields
    obtain ⟨course⟩ := exists_course yields
    rcases course.invalid_or_walked with ⟨error, invalid, -⟩ | ⟨-, steps, walks, -⟩
    · cases valid.symm.trans invalid
    · exact ⟨steps, _, walks, walks.confined.known⟩

/-- Two parallel connections leave the start one after the other, and a run of their workflow
walks among its nodes. -/
theorem execute_among_forked :
    forked.WellFormed ∧ ∃ graph events record steps outcome,
      Graph.build forked = .ok graph ∧ graph.outgoing "start" = forked.connections ∧
      (execute {} forked ⟨⟨1⟩⟩ .null).Yields events record ∧
      Walked {} forked ⟨⟨1⟩⟩ .null events steps outcome ∧
      ∀ reason, outcome ≠ .error (.invalidWorkflow reason) := by
  have valid : forked.validate = .ok () := rfl
  obtain ⟨sound, -, faithful⟩ := execute_among_nodes forked
  obtain ⟨graph, built, -, -, -, outgoing, runs⟩ := faithful valid
  obtain ⟨events, record, yields, -⟩ :=
    @exists_yields surroundings _ (Undisturbed {}) (exists_undisturbed {})
      (execute {} forked ⟨⟨1⟩⟩ .null)
  obtain ⟨steps, outcome, walks, known⟩ := runs {} ⟨⟨1⟩⟩ .null events record yields
  exact ⟨sound.mp valid, graph, events, record, steps, outcome, built, outgoing "start", yields,
    walks, known⟩

end Flowline.Engine
