import Flowline.Workflow.Definition

/-!
# Valid workflows

Validation looks for faults in a fixed order: identifiers that stand twice, then the
trigger, then the connections in the order of their declaration, the source of each before
its target.  It passes exactly the workflows without any fault, and of any other workflow
it reports the first one.
-/

namespace Flowline.Workflow

/-- Both ends of a connection are nodes. -/
def Bound (workflow : Workflow) (connection : Connection) : Prop :=
  connection.source ∈ workflow.nodeIds ∧ connection.target ∈ workflow.nodeIds

/-- A workflow without faults. -/
structure WellFormed (workflow : Workflow) : Prop where
  distinct : workflow.nodeIds.Nodup
  trigger_mem : workflow.trigger ∈ workflow.nodeIds
  bound : ∀ connection ∈ workflow.connections, workflow.Bound connection

/-- The first fault of a workflow. -/
inductive FirstViolation (workflow : Workflow) : GraphError → Prop where
  /-- A node whose identifier stood before it, where no earlier node has that fault. -/
  | duplicate {earlier later : List String} {nodeId : String}
      (parts : workflow.nodeIds = earlier ++ nodeId :: later) (distinct : earlier.Nodup)
      (again : nodeId ∈ earlier) : FirstViolation workflow (.duplicateNode nodeId)
  | trigger (distinct : workflow.nodeIds.Nodup) (unknown : workflow.trigger ∉ workflow.nodeIds) :
      FirstViolation workflow (.triggerNotFound workflow.trigger)
  | source {earlier later : List Connection} {connection : Connection}
      (distinct : workflow.nodeIds.Nodup) (trigger_mem : workflow.trigger ∈ workflow.nodeIds)
      (parts : workflow.connections = earlier ++ connection :: later)
      (bound : ∀ other ∈ earlier, workflow.Bound other)
      (unknown : connection.source ∉ workflow.nodeIds) :
      FirstViolation workflow (.sourceNotFound connection.source connection.target)
  | target {earlier later : List Connection} {connection : Connection}
      (distinct : workflow.nodeIds.Nodup) (trigger_mem : workflow.trigger ∈ workflow.nodeIds)
      (parts : workflow.connections = earlier ++ connection :: later)
      (bound : ∀ other ∈ earlier, workflow.Bound other)
      (known : connection.source ∈ workflow.nodeIds)
      (unknown : connection.target ∉ workflow.nodeIds) :
      FirstViolation workflow (.targetNotFound connection.source connection.target)

variable {workflow : Workflow}

/-! ## Repeated identifiers -/

theorem firstRepeated?_eq_none {seen ids : List String} :
    firstRepeated? seen ids = none ↔ ids.Nodup ∧ ∀ id ∈ ids, id ∉ seen := by
  induction ids generalizing seen with
  | nil => simp [firstRepeated?]
  | cons id rest ih =>
      rw [firstRepeated?]
      split
      next again => simp [again]
      next fresh =>
        rw [ih, List.nodup_cons, List.forall_mem_cons]
        constructor
        · rintro ⟨distinct, others⟩
          refine ⟨⟨fun member => others id member List.mem_cons_self, distinct⟩, fresh, ?_⟩
          exact fun other member among => others other member (List.mem_cons_of_mem _ among)
        · rintro ⟨⟨apart, distinct⟩, -, others⟩
          refine ⟨distinct, fun other member among => ?_⟩
          rcases List.mem_cons.mp among with rfl | among
          · exact apart member
          · exact others other member among

/-- What is reported as repeated is the first identifier that stood before it. -/
theorem firstRepeated?_eq_some {seen ids : List String} {nodeId : String} :
    firstRepeated? seen ids = some nodeId ↔
      ∃ earlier later, ids = earlier ++ nodeId :: later ∧
        firstRepeated? seen earlier = none ∧ (nodeId ∈ earlier ∨ nodeId ∈ seen) := by
  induction ids generalizing seen with
  | nil => simp [firstRepeated?]
  | cons id rest ih =>
      constructor
      · intro repeated
        rw [firstRepeated?] at repeated
        split at repeated
        next again =>
          cases repeated
          exact ⟨[], rest, rfl, rfl, .inr again⟩
        next fresh =>
          obtain ⟨earlier, later, rfl, none, before⟩ := ih.mp repeated
          refine ⟨id :: earlier, later, rfl, ?_, ?_⟩
          · rw [firstRepeated?, if_neg fresh, none]
          · grind
      · rintro ⟨earlier, later, parts, none, before⟩
        cases earlier with
        | nil =>
            cases parts
            rw [firstRepeated?, if_pos (before.resolve_left List.not_mem_nil)]
        | cons first earlier =>
            cases parts
            rw [firstRepeated?] at none ⊢
            split at none
            · cases none
            next fresh =>
              rw [if_neg fresh, ih]
              exact ⟨earlier, later, rfl, none, by grind⟩

/-! ## Dangling connections -/

/-- What is wrong with the ends of a connection, the source first. -/
def dangling? (ids : List String) (connection : Connection) : Option GraphError :=
  if connection.source ∉ ids then
    some (.sourceNotFound connection.source connection.target)
  else if connection.target ∉ ids then
    some (.targetNotFound connection.source connection.target)
  else none

theorem firstDangling?_eq (ids : List String) (connections : List Connection) :
    firstDangling? ids connections = connections.findSome? (dangling? ids) := by
  induction connections with
  | nil => rfl
  | cons connection rest ih =>
      rw [firstDangling?, List.findSome?_cons, dangling?]
      split
      · rfl
      · split
        · rfl
        · exact ih

theorem dangling?_eq_none {connection : Connection} :
    dangling? workflow.nodeIds connection = none ↔ workflow.Bound connection := by
  unfold dangling? Bound
  split
  next unknown => simp [unknown]
  next known => simp [Decidable.not_not.mp known]

theorem dangling?_eq_some {connection : Connection} {error : GraphError} :
    dangling? workflow.nodeIds connection = some error ↔
      (connection.source ∉ workflow.nodeIds ∧
        error = .sourceNotFound connection.source connection.target) ∨
      (connection.source ∈ workflow.nodeIds ∧ connection.target ∉ workflow.nodeIds ∧
        error = .targetNotFound connection.source connection.target) := by
  unfold dangling?
  split
  next unknown => simp [unknown, eq_comm]
  next known => simp [Decidable.not_not.mp known, eq_comm]

/-! ## Validation -/

/-- Validation passes exactly the workflows without faults. -/
theorem validate_eq_ok : workflow.validate = .ok () ↔ workflow.WellFormed := by
  have distinct : firstRepeated? [] workflow.nodeIds = none ↔ workflow.nodeIds.Nodup := by
    simp [firstRepeated?_eq_none]
  have bound : firstDangling? workflow.nodeIds workflow.connections = none ↔
      ∀ connection ∈ workflow.connections, workflow.Bound connection := by
    simp only [firstDangling?_eq, List.findSome?_eq_none_iff, dangling?_eq_none]
  constructor
  · intro valid
    unfold validate at valid
    split at valid
    · cases valid
    next once =>
      split at valid
      · cases valid
      next known =>
        split at valid
        · cases valid
        next none => exact ⟨distinct.mp once, Decidable.not_not.mp known, bound.mp none⟩
  · rintro ⟨once, known, all⟩
    unfold validate
    rw [distinct.mpr once, bound.mpr all]
    simp [known]

/-- Validation reports the first fault. -/
theorem validate_eq_error {error : GraphError} :
    workflow.validate = .error error ↔ workflow.FirstViolation error := by
  have dangles : firstDangling? workflow.nodeIds workflow.connections = some error ↔
      ∃ earlier connection later, workflow.connections = earlier ++ connection :: later ∧
        dangling? workflow.nodeIds connection = some error ∧
        ∀ other ∈ earlier, workflow.Bound other := by
    simp only [firstDangling?_eq, List.findSome?_eq_some_iff, dangling?_eq_none]
  constructor
  · intro faulty
    unfold validate at faulty
    split at faulty
    next nodeId again =>
      cases faulty
      obtain ⟨earlier, later, parts, none, before⟩ := firstRepeated?_eq_some.mp again
      exact .duplicate parts (firstRepeated?_eq_none.mp none).1
        (before.resolve_right List.not_mem_nil)
    next once =>
      have distinct := (firstRepeated?_eq_none.mp once).1
      split at faulty
      next unknown =>
        cases faulty
        exact .trigger distinct unknown
      next known =>
        split at faulty
        next dangling =>
          cases faulty
          obtain ⟨earlier, connection, later, parts, fault, bound⟩ := dangles.mp dangling
          rcases dangling?_eq_some.mp fault with ⟨unknown, rfl⟩ | ⟨source, unknown, rfl⟩
          · exact .source distinct (Decidable.not_not.mp known) parts bound unknown
          · exact .target distinct (Decidable.not_not.mp known) parts bound source unknown
        · cases faulty
  · intro violation
    have once (distinct : workflow.nodeIds.Nodup) :
        firstRepeated? [] workflow.nodeIds = none :=
      firstRepeated?_eq_none.mpr ⟨distinct, by simp⟩
    unfold validate
    cases violation with
    | duplicate parts distinct again =>
        rw [firstRepeated?_eq_some.mpr ⟨_, _, parts,
          firstRepeated?_eq_none.mpr ⟨distinct, by simp⟩, .inl again⟩]
    | trigger distinct unknown => rw [once distinct, if_pos unknown]
    | source distinct known parts bound unknown =>
        rw [once distinct, if_neg (Decidable.not_not.mpr known), dangles.mpr ⟨_, _, _, parts,
          dangling?_eq_some.mpr (.inl ⟨unknown, rfl⟩), bound⟩]
    | target distinct known parts bound source unknown =>
        rw [once distinct, if_neg (Decidable.not_not.mpr known), dangles.mpr ⟨_, _, _, parts,
          dangling?_eq_some.mpr (.inr ⟨source, unknown, rfl⟩), bound⟩]

end Flowline.Workflow
