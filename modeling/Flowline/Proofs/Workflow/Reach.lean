import Mathlib.Data.Finset.Card
import Flowline.Proofs.Workflow.Index

/-!
# What connections lead to

The graph of a valid workflow spreads over connections until nothing is new.  It
finds exactly the nodes that paths lead to, and it is cyclic exactly if some path
leads from a node back to it.  A path that is as long as there are nodes passes one
of them twice.
-/

namespace Flowline

/-- Some path leads from one node to another. -/
def Workflow.Leads (workflow : Workflow) (source target : String) : Prop :=
  ∃ path, workflow.endpoint? source path = some target

/-- Some path leads from a node back to it. -/
def Workflow.OnCycle (workflow : Workflow) (nodeId : String) : Prop :=
  ∃ path, path ≠ [] ∧ workflow.endpoint? nodeId path = some nodeId

namespace Workflow

variable {workflow : Workflow} {nodeId reached : String} {path : List Nat}

theorem Leads.refl (workflow : Workflow) (nodeId : String) : workflow.Leads nodeId nodeId :=
  ⟨[], rfl⟩

/-- What begins a path is one. -/
theorem connected_of_begins {begun : List Nat} (begins : begun <+: path)
    (connected : (workflow.endpoint? nodeId path).isSome = true) :
    (workflow.endpoint? nodeId begun).isSome = true := by
  obtain ⟨rest, rfl⟩ := begins
  rw [endpoint?_append] at connected
  cases reached : workflow.endpoint? nodeId begun with
  | none => simp [reached] at connected
  | some _ => rfl

/-- What is left of a path behind its beginning. -/
theorem endpoint?_of_append {more : List Nat} {target : String}
    (arrives : workflow.endpoint? nodeId path = some reached)
    (further : workflow.endpoint? nodeId (path ++ more) = some target) :
    workflow.endpoint? reached more = some target := by
  rwa [endpoint?_append, arrives, Option.bind_some] at further

/-- A path that is not empty takes a branch and goes on from its end. -/
theorem endpoint?_cons_eq_some {position : Nat} {rest : List Nat} {target : String} :
    workflow.endpoint? nodeId (position :: rest) = some target ↔
      ∃ connection, (connection, position) ∈ workflow.branches nodeId ∧
        workflow.endpoint? connection.target rest = some target := by
  simp only [mem_branches, endpoint?]
  cases workflow.connections[position]? with
  | none => simp
  | some connection => by_cases source : connection.source = nodeId <;> simp [source]

theorem branch_target_mem (valid : workflow.validate = .ok ()) {connection : Connection}
    {position : Nat} (branch : (connection, position) ∈ workflow.branches nodeId) :
    connection.target ∈ workflow.nodeIds :=
  (mem_nodeIds_of_validate valid).2 connection
    (List.mem_of_getElem? (mem_branches.mp branch).1)

/-- Every cycle passes through nodes only. -/
theorem OnCycle.mem (valid : workflow.validate = .ok ()) (cycle : workflow.OnCycle nodeId) :
    nodeId ∈ workflow.nodeIds := by
  obtain ⟨path, nonempty, back⟩ := cycle
  cases path with
  | nil => exact (nonempty rfl).elim
  | cons position rest =>
      obtain ⟨connection, branch, arrives⟩ := endpoint?_cons_eq_some.mp back
      exact endpoint?_mem valid (branch_target_mem valid branch) arrives

/-- A path with as many connections as there are nodes passes some node twice. -/
theorem exists_onCycle_of_length_le (valid : workflow.validate = .ok ())
    (known : nodeId ∈ workflow.nodeIds)
    (connected : (workflow.endpoint? nodeId path).isSome = true)
    (long : workflow.nodes.length ≤ path.length) : ∃ reached, workflow.OnCycle reached := by
  -- The node that the path has come to after some of its connections.
  have station (count : Nat) :
      ∃ reached, workflow.endpoint? nodeId (path.take count) = some reached :=
    Option.isSome_iff_exists.mp (connected_of_begins (List.take_prefix count path) connected)
  choose visited arrives using station
  have few : workflow.nodeIds.toFinset.card < (Finset.range (path.length + 1)).card := by
    have distinct := workflow.nodeIds.toFinset_card_le
    rw [nodeIds, List.length_map] at distinct
    rw [Finset.card_range]
    exact Nat.lt_succ_of_le (distinct.trans long)
  have known (count : Nat) : visited count ∈ workflow.nodeIds :=
    endpoint?_mem valid known (arrives count)
  have twice : ∃ earlier later, earlier < later ∧ later ≤ path.length ∧
      visited earlier = visited later := by
    obtain ⟨first, isFirst, second, isSecond, different, same⟩ :=
      Finset.exists_ne_map_eq_of_card_lt_of_maps_to few
        (fun count _ => by simpa using known count)
    rw [Finset.mem_range, Nat.lt_succ_iff] at isFirst isSecond
    rcases Nat.lt_or_gt_of_ne different with less | more
    · exact ⟨first, second, less, isSecond, same⟩
    · exact ⟨second, first, more, isFirst, same.symm⟩
  obtain ⟨earlier, later, less, within, same⟩ := twice
  refine ⟨visited earlier, (path.drop earlier).take (later - earlier), ?_, ?_⟩
  · intro empty
    have length := congrArg List.length empty
    simp only [List.length_take, List.length_drop, List.length_nil] at length
    omega
  · apply endpoint?_of_append (arrives earlier)
    rw [same, ← arrives later, ← List.take_add, Nat.add_sub_cancel' less.le]

/-- A path that comes to a cycle can be made as long as one likes. -/
theorem exists_connected_of_onCycle (cycle : workflow.OnCycle reached)
    (leads : workflow.Leads nodeId reached) (length : Nat) :
    ∃ path, (workflow.endpoint? nodeId path).isSome = true ∧ path.length = length := by
  obtain ⟨loop, nonempty, back⟩ := cycle
  obtain ⟨begun, arrives⟩ := leads
  have around (rounds : Nat) :
      workflow.endpoint? reached (List.replicate rounds loop).flatten = some reached := by
    induction rounds with
    | zero => rfl
    | succ rounds ih =>
        rw [List.replicate_succ, List.flatten_cons, endpoint?_append, back, Option.bind_some, ih]
  have long : length ≤ (begun ++ (List.replicate length loop).flatten).length := by
    have positive := List.length_pos_iff.mpr nonempty
    simp only [List.length_append, List.length_flatten, List.map_replicate,
      List.sum_replicate_nat]
    exact (Nat.le_mul_of_pos_right length positive).trans (Nat.le_add_left _ _)
  refine ⟨(begun ++ (List.replicate length loop).flatten).take length, ?_, ?_⟩
  · apply connected_of_begins (List.take_prefix _ _)
    rw [endpoint?_append, arrives, Option.bind_some, around]
    rfl
  · exact List.length_take_of_le long

end Workflow

/-! ## Spreading over the graph -/

namespace Graph

variable {workflow : Workflow} {graph : Graph} {reached starts : List String}

theorem vertices_map_id (built : build workflow = .ok graph) :
    graph.vertices.map (fun vertex => vertex.node.id) = workflow.nodeIds := by
  rw [eq_of_build built]
  simp [Workflow.nodeIds]

theorem mem_successors (built : build workflow = .ok graph) {nodeId target : String}
    (known : nodeId ∈ workflow.nodeIds) :
    target ∈ graph.successors nodeId ↔
      ∃ connection position, (connection, position) ∈ workflow.branches nodeId ∧
        connection.target = target := by
  obtain ⟨node, -, -, vertex⟩ := Workflow.vertex?_of_mem built known
  simp [successors, outgoing, vertex]

theorem subset_spread (steps : Nat) (reached : List String) :
    reached ⊆ graph.spread steps reached := by
  induction steps generalizing reached with
  | zero => exact List.Subset.refl reached
  | succ steps ih =>
      rw [spread]
      split
      · exact List.Subset.refl reached
      · exact List.Subset.trans (List.subset_append_left _ _) (ih _)

/-- Spreading stays within whatever is closed under connections. -/
theorem spread_subset {holds : String → Prop}
    (closed : ∀ nodeId, holds nodeId → ∀ target ∈ graph.successors nodeId, holds target)
    (steps : Nat) (begins : ∀ nodeId ∈ reached, holds nodeId) :
    ∀ nodeId ∈ graph.spread steps reached, holds nodeId := by
  induction steps generalizing reached with
  | zero => exact begins
  | succ steps ih =>
      rw [spread]
      split
      · exact begins
      · apply ih
        rw [List.forall_mem_append]
        refine ⟨begins, fun target member => ?_⟩
        rw [List.mem_eraseDups, List.mem_filter, List.mem_flatMap] at member
        obtain ⟨⟨nodeId, isReached, successor⟩, -⟩ := member
        exact closed nodeId (begins nodeId isReached) target successor

/-- With a step left for every node that is not reached yet, spreading ends when nothing
is new. -/
theorem spread_closed {ids : List String}
    (closed : ∀ nodeId ∈ ids, graph.successors nodeId ⊆ ids) (steps : Nat)
    (within : reached ⊆ ids) (enough : ids.toFinset.card ≤ reached.toFinset.card + steps) :
    ∀ nodeId ∈ graph.spread steps reached,
      graph.successors nodeId ⊆ graph.spread steps reached := by
  have included : reached.toFinset ⊆ ids.toFinset := by
    intro nodeId member
    exact List.mem_toFinset.mpr (within (List.mem_toFinset.mp member))
  induction steps generalizing reached with
  | zero =>
      have all : reached.toFinset = ids.toFinset := Finset.eq_of_subset_of_card_le included enough
      intro nodeId member target successor
      have known := closed nodeId (within member) successor
      rwa [← List.mem_toFinset, ← all, List.mem_toFinset] at known
  | succ steps ih =>
      rw [spread]
      split
      next nothing =>
        -- Nothing is fresh, so every successor was reached before.
        intro nodeId member target successor
        by_contra unreached
        have fresh : target ∈ ((reached.flatMap graph.successors).filter
            (· ∉ reached)).eraseDups := by
          rw [List.mem_eraseDups, List.mem_filter, List.mem_flatMap]
          exact ⟨⟨nodeId, member, successor⟩, by simpa using unreached⟩
        rw [List.isEmpty_iff.mp nothing] at fresh
        cases fresh
      next something =>
        obtain ⟨target, fresh⟩ := List.exists_mem_of_ne_nil _
          (fun empty => something (List.isEmpty_iff.mpr empty))
        have more : reached.toFinset.card < (reached ++ ((reached.flatMap graph.successors).filter
            (· ∉ reached)).eraseDups).toFinset.card := by
          apply Finset.card_lt_card
          rw [Finset.ssubset_iff_of_subset (by simp)]
          refine ⟨target, List.mem_toFinset.mpr (List.mem_append_right _ fresh), ?_⟩
          rw [List.mem_eraseDups, List.mem_filter] at fresh
          simpa using fresh.2
        have still : reached ++ ((reached.flatMap graph.successors).filter
            (· ∉ reached)).eraseDups ⊆ ids := by
          refine List.append_subset.mpr ⟨within, fun target member => ?_⟩
          rw [List.mem_eraseDups, List.mem_filter, List.mem_flatMap] at member
          obtain ⟨⟨nodeId, isReached, successor⟩, -⟩ := member
          exact closed nodeId (within isReached) successor
        apply ih still (by omega)
        intro nodeId member
        exact List.mem_toFinset.mpr (still (List.mem_toFinset.mp member))

/-- The graph reaches exactly what paths lead to. -/
theorem mem_reachable (built : build workflow = .ok graph) (known : starts ⊆ workflow.nodeIds)
    {target : String} :
    target ∈ graph.reachable starts ↔ ∃ start ∈ starts, workflow.Leads start target := by
  have valid := validate_of_build built
  have within : starts.eraseDups ⊆ workflow.nodeIds := by
    intro start member
    exact known (List.mem_eraseDups.mp member)
  constructor
  · -- What is reached is a node that some path leads to.
    intro member
    have sound := @spread_subset graph starts.eraseDups
      (fun nodeId => nodeId ∈ workflow.nodeIds ∧ ∃ start ∈ starts, workflow.Leads start nodeId)
      (by
        rintro nodeId ⟨isNode, start, isStart, path, arrives⟩ target successor
        obtain ⟨connection, position, branch, rfl⟩ := (mem_successors built isNode).mp successor
        exact ⟨Workflow.branch_target_mem valid branch, start, isStart, path ++ [position],
          Workflow.endpoint?_snoc arrives branch⟩)
      graph.vertices.length fun start isStart =>
        ⟨within isStart, start, List.mem_eraseDups.mp isStart, .refl _ _⟩
    exact (sound target member).2
  · rintro ⟨start, isStart, path, arrives⟩
    have vertices : graph.vertices.length = workflow.nodeIds.length := by
      rw [← vertices_map_id built, List.length_map]
    have closed := @spread_closed graph starts.eraseDups workflow.nodeIds
      (fun nodeId isNode target successor => by
        obtain ⟨connection, position, branch, rfl⟩ := (mem_successors built isNode).mp successor
        exact Workflow.branch_target_mem valid branch)
      graph.vertices.length within
      (by rw [vertices]; exact workflow.nodeIds.toFinset_card_le.trans (Nat.le_add_left _ _))
    have begun : start ∈ graph.reachable starts :=
      subset_spread _ _ (List.mem_eraseDups.mpr isStart)
    have isNode := known isStart
    clear isStart
    induction path generalizing start with
    | nil =>
        cases arrives
        exact begun
    | cons position rest ih =>
        obtain ⟨connection, branch, arrives⟩ := Workflow.endpoint?_cons_eq_some.mp arrives
        refine ih connection.target arrives ?_ (Workflow.branch_target_mem valid branch)
        exact closed start begun ((mem_successors built isNode).mpr ⟨_, _, branch, rfl⟩)

/-- The graph is cyclic exactly if some path leads from a node back to it. -/
theorem isCyclic_iff (built : build workflow = .ok graph) :
    graph.isCyclic = true ↔ ∃ nodeId, workflow.OnCycle nodeId := by
  have valid := validate_of_build built
  have each {nodeId : String} (isNode : nodeId ∈ workflow.nodeIds) :
      nodeId ∈ graph.reachable (graph.successors nodeId) ↔ workflow.OnCycle nodeId := by
    rw [mem_reachable built]
    · constructor
      · rintro ⟨start, successor, path, arrives⟩
        obtain ⟨connection, position, branch, rfl⟩ := (mem_successors built isNode).mp successor
        exact ⟨position :: path, by simp,
          Workflow.endpoint?_cons_eq_some.mpr ⟨connection, branch, arrives⟩⟩
      · rintro ⟨path, nonempty, back⟩
        cases path with
        | nil => exact (nonempty rfl).elim
        | cons position rest =>
            obtain ⟨connection, branch, arrives⟩ := Workflow.endpoint?_cons_eq_some.mp back
            exact ⟨connection.target, (mem_successors built isNode).mpr ⟨_, _, branch, rfl⟩,
              rest, arrives⟩
    · intro target successor
      obtain ⟨connection, position, branch, rfl⟩ := (mem_successors built isNode).mp successor
      exact Workflow.branch_target_mem valid branch
  have nodes := vertices_map_id built
  simp only [isCyclic, List.any_eq_true, decide_eq_true_eq]
  constructor
  · rintro ⟨vertex, member, back⟩
    have isNode : vertex.node.id ∈ workflow.nodeIds := nodes ▸ List.mem_map_of_mem member
    exact ⟨_, (each isNode).mp back⟩
  · rintro ⟨nodeId, cycle⟩
    have isNode := cycle.mem valid
    rw [← nodes, List.mem_map] at isNode
    obtain ⟨vertex, member, rfl⟩ := isNode
    exact ⟨vertex, member, (each (cycle.mem valid)).mpr cycle⟩

open Classical in
/-- What is unreachable is what no path from the trigger leads to, error handlers left out, in
the order of the nodes. -/
theorem unreachable_eq (built : build workflow = .ok graph) :
    graph.unreachable = (workflow.nodes.filter fun node =>
      !node.errorHandler && !decide (workflow.Leads workflow.trigger node.id)).map Node.id := by
  have valid := validate_of_build built
  have reached (nodeId : String) :
      nodeId ∈ graph.reachable [graph.trigger] ↔ workflow.Leads workflow.trigger nodeId := by
    have same : graph.trigger = workflow.trigger := by rw [eq_of_build built]
    rw [same, mem_reachable built]
    · simp
    · simpa using (Workflow.mem_nodeIds_of_validate valid).1
  simp only [unreachable, reached]
  rw [eq_of_build built]
  simp [List.filter_map, Function.comp_def]

/-- No path from the trigger leads to an unreachable node. -/
theorem not_leads_of_unreachable (built : build workflow = .ok graph) {nodeId : String}
    (member : nodeId ∈ graph.unreachable) : ¬ workflow.Leads workflow.trigger nodeId := by
  classical
  rw [unreachable_eq built, List.mem_map] at member
  obtain ⟨node, among, rfl⟩ := member
  have kept := (List.mem_filter.mp among).2
  simp only [Bool.and_eq_true, Bool.not_eq_true', decide_eq_false_iff_not] at kept
  exact kept.2

end Graph

end Flowline
