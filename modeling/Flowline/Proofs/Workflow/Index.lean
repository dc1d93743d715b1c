import Flowline.Proofs.Keyed
import Flowline.Proofs.Workflow.Path
import Mathlib.Data.List.Sort

/-!
# The index of a workflow

A graph finds nodes through an index and keeps connections as edges between positions.
For a valid workflow nothing is lost on the way: the index finds what a search of the nodes
does, and the connections that leave a node are read back in the order of their declaration.
-/

namespace Flowline

namespace Workflow

variable {workflow : Workflow}

theorem node?_eq_none {nodeId : String} :
    workflow.node? nodeId = none ↔ nodeId ∉ workflow.nodeIds := by
  simp [node?, nodeIds]

/-- Among distinct nodes each is the one with its identifier. -/
theorem node?_of_mem (distinct : workflow.nodeIds.Nodup) {node : Node}
    (member : node ∈ workflow.nodes) : workflow.node? node.id = some node := by
  cases found : workflow.node? node.id with
  | none => exact (node?_eq_none.mp found (List.mem_map_of_mem member)).elim
  | some first =>
      have same : first.id = node.id := by simpa using List.find?_some found
      rw [List.inj_on_of_nodup_map distinct (List.mem_of_find?_eq_some found) member same]

/-! ## Edges -/

theorem ascending_eq (positions : List Nat) :
    ascending positions = positions.insertionSort (· ≤ ·) := by
  have place_eq : place = List.orderedInsert (· ≤ ·) := by
    funext position among
    induction among with
    | nil => rfl
    | cons next rest ih => simp only [place, List.orderedInsert_cons, ih]
  rw [ascending, place_eq]
  rfl

/-- The index of distinct nodes tells where they stand. -/
theorem get?_positions (distinct : workflow.nodeIds.Nodup) {nodeId : String} {position : Nat} :
    workflow.positions.get? nodeId = some position ↔
      workflow.nodeIds[position]? = some nodeId := by
  rw [positions, Keyed.get?_ofList_of_nodup (by simpa using distinct),
    List.mk_mem_zipIdx_iff_getElem?]

/-- In a workflow without faults every connection has an edge. -/
theorem exists_edge (wellFormed : workflow.WellFormed) {connection : Connection} {weight : Nat}
    (declared : (connection, weight) ∈ workflow.connections.zipIdx) :
    ∃ source target, workflow.nodeIds[source]? = some connection.source ∧
      edge? workflow.positions (connection, weight) = some ⟨source, target, weight⟩ := by
  have bound := wellFormed.bound connection (List.fst_mem_of_mem_zipIdx declared)
  obtain ⟨source, starts⟩ := List.mem_iff_getElem?.mp bound.1
  obtain ⟨target, ends⟩ := List.mem_iff_getElem?.mp bound.2
  refine ⟨source, target, starts, ?_⟩
  rw [← get?_positions wellFormed.distinct] at starts ends
  simp [edge?, starts, ends]

/-- No connection is left out. -/
theorem length_edges (wellFormed : workflow.WellFormed) :
    (workflow.edges workflow.positions).length = workflow.connections.length := by
  have every (declared : Connection × Nat) (member : declared ∈ workflow.connections.zipIdx) :
      (edge? workflow.positions declared).isSome = true := by
    obtain ⟨source, target, -, edge⟩ := exists_edge wellFormed member
    rw [edge]
    rfl
  rw [edges, List.length_reverse, List.length_filterMap_eq_countP, List.countP_eq_length.mpr every,
    List.length_zipIdx]

/-- The edges that leave a node are those of its branches, the latest first. -/
theorem edges_filter_map (wellFormed : workflow.WellFormed) {nodeId : String} {position : Nat}
    (stands : workflow.nodeIds[position]? = some nodeId) :
    ((workflow.edges workflow.positions).filter fun edge => edge.source = position).map Edge.weight =
      ((workflow.branches nodeId).map Prod.snd).reverse := by
  rw [edges, List.filter_reverse, List.map_reverse, branches]
  congr 1
  suffices ∀ declared : List (Connection × Nat), declared ⊆ workflow.connections.zipIdx →
      ((declared.filterMap (edge? workflow.positions)).filter
        fun edge => edge.source = position).map Edge.weight =
      (declared.filter fun branch => branch.1.source = nodeId).map Prod.snd from
    this _ (List.Subset.refl _)
  intro declared within
  induction declared with
  | nil => rfl
  | cons first rest ih =>
      obtain ⟨connection, weight⟩ := first
      obtain ⟨head, tail⟩ := List.cons_subset.mp within
      obtain ⟨source, target, starts, edge⟩ := exists_edge wellFormed head
      have same : source = position ↔ connection.source = nodeId := by
        constructor
        · rintro rfl
          exact Option.some.inj (starts.symm.trans stands)
        · rintro rfl
          rw [← get?_positions wellFormed.distinct] at starts stands
          exact Option.some.inj (starts.symm.trans stands)
      rw [List.filterMap_cons_some edge]
      by_cases leaves : source = position
      · simp [leaves, same.mp leaves, ih tail]
      · simp [leaves, mt same.mpr leaves, ih tail]

/-- What leaves a node is read back from the edges without loss and in order. -/
theorem leaving_eq (wellFormed : workflow.WellFormed) {nodeId : String} {position : Nat}
    (stands : workflow.nodeIds[position]? = some nodeId) :
    workflow.leaving (workflow.edges workflow.positions) position =
      (workflow.branches nodeId).map Prod.fst := by
  have sorted : ascending ((workflow.branches nodeId).map Prod.snd).reverse =
      (workflow.branches nodeId).map Prod.snd := by
    rw [ascending_eq]
    refine List.Perm.eq_of_pairwise (fun _ _ _ _ => Nat.le_antisymm)
      (List.pairwise_insertionSort _ _) ?_
      ((List.perm_insertionSort _ _).trans (List.reverse_perm _))
    exact List.pairwise_map.mpr ((branches_pairwise nodeId).imp Nat.le_of_lt)
  rw [leaving, edges_filter_map wellFormed stands, sorted, List.filterMap_map]
  have found (branch : Connection × Nat) (member : branch ∈ workflow.branches nodeId) :
      workflow.connections[branch.2]? = some branch.1 := (mem_branches.mp member).1
  exact (List.filterMap_congr found).trans (congrFun List.filterMap_eq_map' _)

end Workflow

/-! ## The graph of a workflow -/

namespace Graph

variable {workflow : Workflow} {graph : Graph}

theorem validate_of_build (built : build workflow = .ok graph) : workflow.validate = .ok () := by
  unfold build at built
  split at built
  · cases built
  next valid => exact valid

/-- The graph of a workflow has its nodes, each with the connections that leave it. -/
theorem eq_of_build (built : build workflow = .ok graph) :
    graph = {
      trigger := workflow.trigger
      vertices := workflow.nodes.map fun node =>
        ⟨node, workflow.connections.filter fun connection => connection.source = node.id⟩
      positions := workflow.positions } := by
  have wellFormed := Workflow.validate_eq_ok.mp (validate_of_build built)
  unfold build at built
  split at built
  · cases built
  · cases built
    congr 1
    refine List.ext_getElem? fun position => ?_
    simp only [List.getElem?_map, List.getElem?_zipIdx, Option.map_map]
    cases stands : workflow.nodes[position]? with
    | none => rfl
    | some node =>
        have isNode : workflow.nodeIds[position]? = some node.id := by
          simp [Workflow.nodeIds, stands]
        simp [Workflow.leaving_eq wellFormed isNode, Workflow.branches_map_fst]

/-- The index of a graph finds what a search of the nodes does. -/
theorem vertex?_eq (built : build workflow = .ok graph) (nodeId : String) :
    graph.vertex? nodeId = (workflow.node? nodeId).map fun node =>
      ⟨node, workflow.connections.filter fun connection => connection.source = nodeId⟩ := by
  have distinct := (Workflow.validate_eq_ok.mp (validate_of_build built)).distinct
  rw [eq_of_build built, vertex?]
  cases indexed : workflow.positions.get? nodeId with
  | none =>
      have absent : nodeId ∉ workflow.nodeIds := by
        intro known
        obtain ⟨position, stands⟩ := List.mem_iff_getElem?.mp known
        rw [← Workflow.get?_positions distinct, indexed] at stands
        cases stands
      rw [Workflow.node?_eq_none.mpr absent]
      rfl
  | some position =>
      have stands := (Workflow.get?_positions distinct).mp indexed
      rw [Workflow.nodeIds, List.getElem?_map, Option.map_eq_some_iff] at stands
      obtain ⟨node, stands, rfl⟩ := stands
      rw [Workflow.node?_of_mem distinct (List.mem_of_getElem? stands)]
      simp [stands]

theorem node?_eq (built : build workflow = .ok graph) (nodeId : String) :
    graph.node? nodeId = workflow.node? nodeId := by
  rw [node?, vertex?_eq built, Option.map_map]
  exact Option.map_id'

/-- The connections that leave a node are all that start there, in the order of their
declaration. -/
theorem outgoing_eq (built : build workflow = .ok graph) (nodeId : String) :
    graph.outgoing nodeId =
      workflow.connections.filter fun connection => connection.source = nodeId := by
  rw [outgoing, vertex?_eq built]
  cases found : workflow.node? nodeId with
  | some node => rfl
  | none =>
      have bound := (Workflow.validate_eq_ok.mp (validate_of_build built)).bound
      refine (List.filter_eq_nil_iff.mpr fun connection member => ?_).symm
      have starts := (bound connection member).1
      have absent := Workflow.node?_eq_none.mp found
      rw [decide_eq_true_eq]
      rintro rfl
      exact absent starts

/-- Taken together, the vertices have every connection once. -/
theorem flatMap_outgoing_perm (built : build workflow = .ok graph) :
    (graph.vertices.flatMap Vertex.outgoing).Perm workflow.connections := by
  have wellFormed := Workflow.validate_eq_ok.mp (validate_of_build built)
  have parted : ∀ (ids : List String) (connections : List Connection), ids.Nodup →
      (∀ connection ∈ connections, connection.source ∈ ids) →
      (ids.flatMap fun nodeId =>
        connections.filter fun connection => connection.source = nodeId).Perm connections := by
    intro ids
    induction ids with
    | nil =>
        intro connections _ within
        rw [List.eq_nil_iff_forall_not_mem.mpr fun connection member =>
          List.not_mem_nil (within connection member)]
        rfl
    | cons nodeId rest ih =>
        intro connections distinct within
        obtain ⟨apart, distinct⟩ := List.nodup_cons.mp distinct
        -- The connections of the other nodes are left alone by the first one.
        let others := connections.filter fun connection => !decide (connection.source = nodeId)
        have same : (rest.flatMap fun other =>
            connections.filter fun connection => connection.source = other) =
            rest.flatMap fun other =>
              others.filter fun connection => connection.source = other := by
          refine List.flatMap_congr fun other member => ?_
          rw [List.filter_filter]
          refine List.filter_congr fun connection _ => ?_
          by_cases starts : connection.source = other
          · have differs : other ≠ nodeId := by
              rintro rfl
              exact apart member
            simp [starts, differs]
          · simp [starts]
        have within : ∀ connection ∈ others, connection.source ∈ rest := by
          intro connection member
          obtain ⟨declared, differs⟩ := List.mem_filter.mp member
          exact (List.mem_cons.mp (within connection declared)).resolve_left (by simpa using differs)
        rw [List.flatMap_cons, same]
        exact ((ih others distinct within).append_left _).trans (List.filter_append_perm _ _)
  have parted := parted workflow.nodeIds workflow.connections wellFormed.distinct
    fun connection member => (wellFormed.bound connection member).1
  rw [eq_of_build built]
  simpa [Workflow.nodeIds, List.flatMap_map] using parted

theorem mem_of_vertex? {nodeId : String} {vertex : Vertex}
    (found : graph.vertex? nodeId = some vertex) : vertex ∈ graph.vertices := by
  obtain ⟨position, -, stands⟩ := Option.bind_eq_some_iff.mp found
  exact List.mem_of_getElem? stands

theorem id_of_vertex? (built : build workflow = .ok graph) {nodeId : String} {vertex : Vertex}
    (found : graph.vertex? nodeId = some vertex) : vertex.node.id = nodeId := by
  rw [vertex?_eq built] at found
  obtain ⟨node, isNode, rfl⟩ := Option.map_eq_some_iff.mp found
  simpa using List.find?_some isNode

end Graph

/-- The graph of a valid workflow has a vertex for every node. -/
theorem Workflow.vertex?_of_mem {workflow : Workflow} {graph : Graph}
    (built : Graph.build workflow = .ok graph) {nodeId : String}
    (known : nodeId ∈ workflow.nodeIds) :
    ∃ node ∈ workflow.nodes, node.id = nodeId ∧
      graph.vertex? nodeId = some ⟨node, (workflow.branches nodeId).map Prod.fst⟩ := by
  have distinct := (validate_eq_ok.mp (Graph.validate_of_build built)).distinct
  obtain ⟨node, member, rfl⟩ := List.mem_map.mp known
  refine ⟨node, member, rfl, ?_⟩
  rw [Graph.vertex?_eq built, node?_of_mem distinct member, branches_map_fst]
  rfl

end Flowline
