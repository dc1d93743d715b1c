import Flowline.Proofs.Engine.Bookkeeping
import Flowline.Proofs.Engine.Outcome
import Flowline.Proofs.Store.Atomic

/-!
# What the engine sees of a node

The engine sees the name of a node, its type and its policy, but not its configuration:
that is for the handlers.  A run of a workflow whose nodes are configured otherwise makes
the same requests, except that its attempts are at those nodes.
-/

namespace Flowline

/-- A workflow with other nodes in the places of its nodes. -/
def Workflow.mapNodes (alter : Node → Node) (workflow : Workflow) : Workflow :=
  { workflow with nodes := workflow.nodes.map alter }

/-- A graph with other nodes in the places of its nodes. -/
def Graph.mapNodes (alter : Node → Node) (graph : Graph) : Graph :=
  { graph with vertices := graph.vertices.map fun vertex =>
      { vertex with node := alter vertex.node } }

/-- A change of nodes that only concerns their handlers. -/
structure Node.Hidden (alter : Node → Node) : Prop where
  id_eq : ∀ node, (alter node).id = node.id
  name_eq : ∀ node, (alter node).name = node.name
  type_eq : ∀ node, (alter node).type = node.type
  policy_eq : ∀ node, (alter node).policy = node.policy
  errorHandler_eq : ∀ node, (alter node).errorHandler = node.errorHandler

namespace Engine

open Program Flowline.Engine.Action

/-- The same attempt at another node. -/
def Attempt.mapNode (alter : Node → Node) (attempt : Attempt) : Attempt :=
  { attempt with node := alter attempt.node }

/-- The same request, but an attempt is made at another node. -/
def divert (alter : Node → Node) : (asked : Request) → Action (Reply asked)
  | .attempt attempt => @request surroundings (.attempt (attempt.mapNode alter))
  | .now => now
  | .sleep milliseconds => sleep milliseconds
  | .create record => create record
  | .load id => load id
  | .save record expected => save record expected

/-- A plan with other nodes in the places of its nodes. -/
def Plan.mapNodes (alter : Node → Node) (plan : Plan) : Plan :=
  { plan with
    workflow := plan.workflow.mapNodes alter
    graph := plan.graph.mapNodes alter }

@[simp] theorem Plan.mapNodes_settings (alter : Node → Node) (plan : Plan) :
    (plan.mapNodes alter).settings = plan.settings := rfl

variable {alter : Node → Node} {α : Type}

theorem embed_of_asks {program : Action α} (asks : program.Asks Request.Unattempting) :
    program.embed (divert alter) = program := by
  induction program with
  | done value => rfl
  | ask asked next ih =>
      have rest : (fun reply => (next reply).embed (divert alter)) = next :=
        funext fun reply => ih reply (asks.2 reply)
      obtain ⟨first, -⟩ := asks
      cases asked <;> first
        | exact first.elim
        | exact congrArg _ rest

@[simp] theorem embed_note (record : Execution) (level : LogLevel) (message : String)
    (nodeId : Option String) :
    (note record level message nodeId).embed (divert alter) = note record level message nodeId :=
  rfl

@[simp] theorem embed_runNote (run : Run) (level : LogLevel) (message : String)
    (nodeId : Option String) :
    (run.note level message nodeId).embed (divert alter) = run.note level message nodeId := rfl

@[simp] theorem embed_sleep (milliseconds : Nat) :
    (sleep milliseconds).embed (divert alter) = sleep milliseconds := rfl

@[simp] theorem embed_attempt (attempt : Attempt) :
    (Action.attempt attempt).embed (divert alter) = Action.attempt (attempt.mapNode alter) := by
  rw [attempt_eq, attempt_eq]
  rfl

theorem follow_alter {visit other : String → Run → Action (Run × Except RunError Unit)}
    (same : ∀ nodeId run, other nodeId run = (visit nodeId run).embed (divert alter))
    (connections : List Connection) (run : Run) :
    follow other connections run = (follow visit connections run).embed (divert alter) := by
  induction connections generalizing run with
  | nil => rfl
  | cons connection rest ih =>
      rw [follow, follow]
      split
      · simp only [bind_eq_bind, embed_bind, embed_runNote, ih]
      · simp only [bind_eq_bind, embed_bind, same]
        refine congrArg _ (funext fun visited => ?_)
        obtain ⟨after, outcome⟩ := visited
        cases outcome with
        | ok _ => exact ih after
        | error error => rfl

/-! ## The graph -/

theorem vertex?_mapNodes (graph : Graph) (id : String) :
    (graph.mapNodes alter).vertex? id =
      (graph.vertex? id).map fun vertex => { vertex with node := alter vertex.node } := by
  simp only [Graph.vertex?, Graph.mapNodes]
  cases Keyed.get? id graph.positions with
  | none => rfl
  | some position => simp

theorem successors_mapNodes (graph : Graph) :
    (graph.mapNodes alter).successors = graph.successors := by
  funext id
  simp only [Graph.successors, Graph.outgoing, vertex?_mapNodes]
  cases graph.vertex? id <;> rfl

theorem reachable_mapNodes (graph : Graph) :
    (graph.mapNodes alter).reachable = graph.reachable := by
  have spread (steps : Nat) (reached : List String) :
      (graph.mapNodes alter).spread steps reached = graph.spread steps reached := by
    induction steps generalizing reached with
    | zero => rfl
    | succ steps ih => simp only [Graph.spread, successors_mapNodes, ih]
  have size : (graph.mapNodes alter).vertices.length = graph.vertices.length := List.length_map _
  funext starts
  simp only [Graph.reachable, spread, size]

section Parts

variable (hidden : Node.Hidden alter) (settings : Settings)

include hidden

theorem forNode_alter (node : Node) :
    AttemptPolicy.forNode (alter node) settings = AttemptPolicy.forNode node settings := by
  simp [AttemptPolicy.forNode, Node.policyOrDefault, hidden.policy_eq]

theorem tryFrom_alter (node : Node) (context : Context) (policy : AttemptPolicy)
    (left number : Nat) (record : Execution) :
    tryFrom (alter node) context policy left number record =
      (tryFrom node context policy left number record).embed (divert alter) := by
  induction left generalizing number record with
  | zero =>
      rw [tryFrom, tryFrom]
      simp only [bind_eq_bind, embed_bind, embed_attempt, Attempt.mapNode]
      refine congrArg _ (funext fun result => ?_)
      cases result with
      | ok value => rfl
      | error error => simp [hidden.name_eq, hidden.id_eq, embed]
  | succ left ih =>
      rw [tryFrom, tryFrom]
      simp only [bind_eq_bind, embed_bind, embed_attempt, Attempt.mapNode]
      refine congrArg _ (funext fun result => ?_)
      cases result with
      | ok value => rfl
      | error error => simp [hidden.name_eq, hidden.id_eq, ih]

theorem tryNode_alter (node : Node) (context : Context) (policy : AttemptPolicy)
    (record : Execution) :
    tryNode (alter node) context policy record =
      (tryNode node context policy record).embed (divert alter) :=
  tryFrom_alter hidden node context policy _ 1 record

theorem runHandlers_alter (failed : Node) (context : Context) (handlers : List Node)
    (record : Execution) :
    runHandlers settings (alter failed) context (handlers.map alter) record =
      (runHandlers settings failed context handlers record).embed (divert alter) := by
  induction handlers generalizing record with
  | nil => rfl
  | cons handler rest ih =>
      rw [List.map_cons, runHandlers, runHandlers]
      simp only [bind_eq_bind, embed_bind, embed_note, embed_attempt, Attempt.mapNode,
        hidden.name_eq, hidden.id_eq, forNode_alter hidden]
      refine congrArg _ (funext fun noted => congrArg _ (funext fun result => ?_))
      cases result <;> simp [ih]

/-! ## The whole workflow -/

theorem nodeIds_mapNodes (workflow : Workflow) :
    (workflow.mapNodes alter).nodeIds = workflow.nodeIds := by
  simp only [Workflow.nodeIds, Workflow.mapNodes, List.map_map]
  exact List.map_congr_left fun node _ => hidden.id_eq node

theorem validate_mapNodes (workflow : Workflow) :
    (workflow.mapNodes alter).validate = workflow.validate := by
  have ids := nodeIds_mapNodes hidden workflow
  unfold Workflow.validate
  rw [ids]
  rfl

theorem build_mapNodes (workflow : Workflow) :
    Graph.build (workflow.mapNodes alter) =
      (Graph.build workflow).map (Graph.mapNodes alter) := by
  unfold Graph.build
  rw [validate_mapNodes hidden workflow]
  cases workflow.validate with
  | error error => rfl
  | ok _ =>
      have positions : (workflow.mapNodes alter).positions = workflow.positions := by
        rw [Workflow.positions, nodeIds_mapNodes hidden, Workflow.positions]
      simp only [positions]
      simp [Except.map, Graph.mapNodes, Workflow.mapNodes, Workflow.edges, Workflow.leaving,
        List.zipIdx_map, Function.comp_def]

theorem isCyclic_mapNodes (graph : Graph) :
    (graph.mapNodes alter).isCyclic = graph.isCyclic := by
  simp only [Graph.isCyclic, reachable_mapNodes, successors_mapNodes]
  simp [Graph.mapNodes, Function.comp_def, hidden.id_eq]

theorem unreachable_mapNodes (graph : Graph) :
    (graph.mapNodes alter).unreachable = graph.unreachable := by
  simp only [Graph.unreachable, reachable_mapNodes]
  simp [Graph.mapNodes, List.filter_map, Function.comp_def, hidden.id_eq, hidden.errorHandler_eq]

/-! ## From the parts to the run -/

theorem dispatch_alter (plan : Plan) (failed : Node) (message : String) (run : Run) :
    dispatch (plan.mapNodes alter) (alter failed) message run =
      (dispatch plan failed message run).embed (divert alter) := by
  have others : listeners (plan.mapNodes alter).workflow (alter failed) =
      (listeners plan.workflow failed).map alter := by
    simp [listeners, Plan.mapNodes, Workflow.mapNodes, Workflow.errorHandlers, List.filter_map,
      Function.comp_def, hidden.id_eq, hidden.errorHandler_eq]
  have failure : (alter failed).failure message = failed.failure message := by
    simp [Node.failure, hidden.id_eq, hidden.name_eq, hidden.type_eq]
  unfold dispatch
  simp only [bind_eq_bind, embed_bind, others, failure, runHandlers_alter hidden]
  rfl

theorem runNode_alter (plan : Plan) (node : Node) (run : Run) :
    runNode (plan.mapNodes alter) (alter node) run =
      (runNode plan node run).embed (divert alter) := by
  have failure (message : String) : (alter node).failure message = node.failure message := by
    simp [Node.failure, hidden.id_eq, hidden.name_eq, hidden.type_eq]
  unfold runNode
  simp only [bind_eq_bind, embed_bind, embed_runNote, Plan.mapNodes_settings, hidden.id_eq,
    hidden.name_eq, hidden.type_eq, failure, tryNode_alter hidden, forNode_alter hidden]
  refine congrArg _ (funext fun started => congrArg _ (funext fun tried => ?_))
  obtain ⟨record, outcome⟩ := tried
  cases outcome with
  | ok result => rfl
  | error failure =>
      simp only [dispatch_alter hidden]
      split <;> simp only [embed_bind] <;> rfl

theorem inspect_alter (plan : Plan) (record : Execution) :
    inspect (plan.mapNodes alter) record = inspect plan record := by
  have cyclic : (plan.mapNodes alter).graph.isCyclic = plan.graph.isCyclic :=
    isCyclic_mapNodes hidden plan.graph
  have unreachable : (plan.mapNodes alter).graph.unreachable = plan.graph.unreachable :=
    unreachable_mapNodes hidden plan.graph
  unfold inspect
  rw [cyclic, unreachable]
  rfl

theorem walk_alter (plan : Plan) (allowed : Nat) (nodeId : String) (run : Run) :
    walk (plan.mapNodes alter) allowed nodeId run =
      (walk plan allowed nodeId run).embed (divert alter) := by
  induction allowed generalizing nodeId run with
  | zero => rfl
  | succ allowed ih =>
      have found : (plan.mapNodes alter).graph.vertex? nodeId =
          (plan.graph.vertex? nodeId).map fun vertex =>
            { vertex with node := alter vertex.node } :=
        vertex?_mapNodes plan.graph nodeId
      rw [walk, walk]
      have cancelled : isCancelled (plan.mapNodes alter) run =
          (isCancelled plan run).embed (divert alter) :=
        (embed_of_asks (isCancelled_asks plan run)).symm
      simp only [bind_eq_bind, embed_bind, cancelled, found]
      refine congrArg _ (funext fun cancelled => ?_)
      cases cancelled with
      | true => rfl
      | false =>
          cases plan.graph.vertex? nodeId with
          | none => rfl
          | some vertex =>
              simp only [Option.map_some, Bool.false_eq_true, if_false, embed_bind,
                hidden.id_eq, runNode_alter hidden]
              refine congrArg _ (funext fun ran => ?_)
              obtain ⟨after, outcome⟩ := ran
              cases outcome with
              | error error => rfl
              | ok _ =>
                  simp only [embed_bind, follow_alter ih]
                  refine congrArg _ (funext fun followed => ?_)
                  obtain ⟨back, outcome⟩ := followed
                  cases outcome <;> rfl

theorem traverse_alter (workflow : Workflow) (input : Json) (stored : Bool)
    (record : Execution) :
    traverse settings (workflow.mapNodes alter) input stored record =
      (traverse settings workflow input stored record).embed (divert alter) := by
  unfold traverse
  rw [build_mapNodes hidden]
  cases Graph.build workflow with
  | error error => rfl
  | ok graph =>
      let plan : Plan := { workflow, graph, settings, stored }
      have inspects : inspect (plan.mapNodes alter) record =
          (inspect plan record).embed (divert alter) :=
        (inspect_alter hidden plan record).trans (embed_of_asks (inspect_asks plan record)).symm
      have walks (run : Run) : walkAll (plan.mapNodes alter) run =
          (walkAll plan run).embed (divert alter) :=
        walk_alter hidden plan _ _ run
      refine (congrArg (Program.bind · _) inspects).trans ?_
      simp only [bind_eq_bind, embed_bind]
      refine congrArg _ (funext fun inspected => ?_)
      exact congrArg (Program.bind · _) (walks _)

/-- A run of a workflow whose nodes are configured otherwise is the same run, except that
its attempts are at those nodes. -/
theorem execute_alter (workflow : Workflow) (id : ExecutionId) (input : Json) :
    execute settings (workflow.mapNodes alter) id input =
      (execute settings workflow id input).embed (divert alter) := by
  have opens : opening (workflow.mapNodes alter) id = opening workflow id := rfl
  simp only [execute_eq, embed_bind, opens, embed_of_asks (opening_asks workflow id),
    embed_of_asks (finish_asks _ _), embed_of_asks (persist_asks _ _), traverse_alter hidden]

end Parts

/-! ## Two runs -/

/-- The same event, but an attempt is made at another node. -/
def divertEvent (alter : Node → Node) : Event surroundings → Event surroundings
  | ⟨.attempt attempt, reply⟩ => ⟨.attempt (attempt.mapNode alter), reply⟩
  | event => event

@[simp] theorem written?_divertEvent (alter : Node → Node) (event : Event surroundings) :
    written? (divertEvent alter event) = written? event := by
  obtain ⟨asked, reply⟩ := event
  cases asked <;> rfl

theorem exists_yields_of_embed {program : Action α} {events : List (Event surroundings)}
    {value : α} (yields : (program.embed (divert alter)).Yields events value) :
    ∃ plain, program.Yields plain value ∧ events = plain.map (divertEvent alter) := by
  induction program generalizing events with
  | done result =>
      cases yields
      exact ⟨[], .done _, rfl⟩
  | ask asked next ih =>
      cases asked <;>
      · cases yields with
        | @ask _ _ reply _ _ rest =>
            obtain ⟨plain, yields, rfl⟩ := ih reply rest
            exact ⟨_ :: plain, .ask yields, rfl⟩

/-- Two runs that differ in the configuration of nodes are one and the same run, apart from
the nodes at which its attempts are made, up to a first request to which the replies differ. -/
theorem execute_alter_diverge {left right : Node → Node} (hiddenLeft : Node.Hidden left)
    (hiddenRight : Node.Hidden right) {settings : Settings} {workflow : Workflow}
    {id : ExecutionId} {input : Json} {events more : List (Event surroundings)}
    {record other : Execution}
    (first : (execute settings (workflow.mapNodes left) id input).Yields events record)
    (second : (execute settings (workflow.mapNodes right) id input).Yields more other) :
    (record = other ∧ ∃ plain : List (Event surroundings),
      events = plain.map (divertEvent left) ∧ more = plain.map (divertEvent right)) ∨
    ∃ (earlier rest others : List (Event surroundings)) (asked : Request)
      (reply answer : Reply asked), reply ≠ answer ∧
      events = (earlier ++ ⟨asked, reply⟩ :: rest).map (divertEvent left) ∧
      more = (earlier ++ ⟨asked, answer⟩ :: others).map (divertEvent right) := by
  rw [execute_alter hiddenLeft] at first
  rw [execute_alter hiddenRight] at second
  obtain ⟨plain, yields, rfl⟩ := exists_yields_of_embed first
  obtain ⟨others, yieldsOther, rfl⟩ := exists_yields_of_embed second
  rcases yields.eq_or_diverge yieldsOther with
    ⟨rfl, rfl⟩ | ⟨earlier, asked, reply, answer, rest, others, differ, rfl, rfl⟩
  · exact .inl ⟨rfl, plain, rfl, rfl⟩
  · exact .inr ⟨earlier, rest, others, asked, reply, answer, differ, rfl, rfl⟩

end Engine

end Flowline
