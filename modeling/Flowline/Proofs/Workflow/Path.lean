import Flowline.Proofs.Workflow.Validity
import Flowline.Workflow.Graph

/-!
# Paths of connections

A path is a list of the positions at which its connections are declared.  Paths
are compared position by position, a path before its extensions, so two parallel
connections make two paths.
-/

namespace Flowline

/-! ## Paths in order -/

namespace Path

variable {here path other : List Nat} {position next : Nat}

theorem lt_of_begins (begins : here <+: path) (longer : here ≠ path) : here < path := by
  obtain ⟨rest, rfl⟩ := begins
  cases rest with
  | nil => simp at longer
  | cons position rest => simpa using List.append_left_lt (List.nil_lt_cons position rest)

theorem not_lt_of_begins (begins : here <+: path) : ¬ path < here :=
  List.IsPrefix.le begins

/-- Paths that part take the order of the positions where they part. -/
theorem lt_of_branches (earlier : position < next) (left : here ++ [position] <+: path)
    (right : here ++ [next] <+: other) : path < other := by
  obtain ⟨rest, rfl⟩ := left
  obtain ⟨more, rfl⟩ := right
  rw [List.append_assoc, List.append_assoc]
  exact List.append_left_lt (List.cons_lt_cons_iff.mpr (.inl earlier))

theorem not_lt_of_branches (earlier : position < next) (left : here ++ [position] <+: path)
    (right : here ++ [next] <+: other) : ¬ other < path :=
  List.lt_asymm (lt_of_branches earlier left right)

/-- A path goes on along one branch only. -/
theorem eq_of_branches (left : here ++ [position] <+: path) (right : here ++ [next] <+: path) :
    position = next := by
  rcases Nat.lt_trichotomy position next with less | same | more
  · exact (List.lt_irrefl path (lt_of_branches less left right)).elim
  · exact same
  · exact (List.lt_irrefl path (lt_of_branches more right left)).elim

end Path

/-! ## Paths through a workflow -/

namespace Workflow

/-- Where the connections at some positions lead to from a node, if each of them
starts where the one before it ends. -/
def endpoint? (workflow : Workflow) : String → List Nat → Option String
  | nodeId, [] => some nodeId
  | nodeId, position :: rest =>
      match workflow.connections[position]? with
      | some connection =>
          if connection.source = nodeId then workflow.endpoint? connection.target rest else none
      | none => none

/-- The connections that leave a node, each with the position of its declaration. -/
def branches (workflow : Workflow) (nodeId : String) : List (Connection × Nat) :=
  workflow.connections.zipIdx.filter fun branch => branch.1.source = nodeId

variable {workflow : Workflow}

theorem endpoint?_append (nodeId : String) (path more : List Nat) :
    workflow.endpoint? nodeId (path ++ more) =
      (workflow.endpoint? nodeId path).bind fun reached => workflow.endpoint? reached more := by
  induction path generalizing nodeId with
  | nil => rfl
  | cons position rest ih =>
      simp only [List.cons_append, endpoint?]
      split
      · split
        · exact ih _
        · rfl
      · rfl

theorem mem_branches {nodeId : String} {connection : Connection} {position : Nat} :
    (connection, position) ∈ workflow.branches nodeId ↔
      workflow.connections[position]? = some connection ∧ connection.source = nodeId := by
  simp [branches, List.mk_mem_zipIdx_iff_getElem?]

theorem branches_map_fst (nodeId : String) :
    (workflow.branches nodeId).map Prod.fst =
      workflow.connections.filter fun connection => connection.source = nodeId := by
  have restored : (workflow.connections.zipIdx.map Prod.fst).filter
      (fun connection => decide (connection.source = nodeId)) = _ := List.filter_map
  rw [List.zipIdx_map_fst] at restored
  exact restored.symm

/-- Branches are in the order of their declaration. -/
theorem branches_pairwise (nodeId : String) :
    (workflow.branches nodeId).Pairwise fun left right => left.2 < right.2 := by
  refine List.Pairwise.filter _ (List.pairwise_map.mp ?_)
  rw [List.zipIdx_map_snd]
  exact List.pairwise_lt_range'

/-- A path goes on along a branch of the node that it has reached. -/
theorem endpoint?_snoc {nodeId reached : String} {path : List Nat}
    (arrives : workflow.endpoint? nodeId path = some reached) {connection : Connection}
    {position : Nat} (branch : (connection, position) ∈ workflow.branches reached) :
    workflow.endpoint? nodeId (path ++ [position]) = some connection.target := by
  obtain ⟨declared, source⟩ := mem_branches.mp branch
  simp [endpoint?_append, arrives, endpoint?, declared, source]

/-- Every way on is along a branch. -/
theorem exists_branch {nodeId reached : String} {path rest : List Nat} {position : Nat}
    (arrives : workflow.endpoint? nodeId path = some reached)
    (further : (workflow.endpoint? nodeId (path ++ position :: rest)).isSome = true) :
    ∃ connection, (connection, position) ∈ workflow.branches reached := by
  rw [endpoint?_append, arrives, Option.bind_some, endpoint?] at further
  split at further
  next connection declared =>
    split at further
    next source => exact ⟨connection, mem_branches.mpr ⟨declared, source⟩⟩
    next => cases further
  next => cases further

/-! ## Valid workflows -/

/-- In a valid workflow the trigger and the ends of all connections are nodes. -/
theorem mem_nodeIds_of_validate (valid : workflow.validate = .ok ()) :
    workflow.trigger ∈ workflow.nodeIds ∧
      ∀ connection ∈ workflow.connections, connection.target ∈ workflow.nodeIds := by
  have wellFormed := validate_eq_ok.mp valid
  exact ⟨wellFormed.trigger_mem, fun connection member => (wellFormed.bound connection member).2⟩

/-- Paths through a valid workflow lead to nodes. -/
theorem endpoint?_mem (valid : workflow.validate = .ok ()) {nodeId reached : String}
    {path : List Nat} (known : nodeId ∈ workflow.nodeIds)
    (arrives : workflow.endpoint? nodeId path = some reached) : reached ∈ workflow.nodeIds := by
  induction path generalizing nodeId with
  | nil =>
      cases arrives
      exact known
  | cons position rest ih =>
      rw [endpoint?] at arrives
      split at arrives
      next connection declared =>
        split at arrives
        · exact ih ((mem_nodeIds_of_validate valid).2 connection
            (List.mem_of_getElem? declared)) arrives
        · cases arrives
      next => cases arrives

end Workflow

end Flowline
