import Flowline.Proofs.Engine.Attempts
import Flowline.Proofs.Engine.Independence
import Flowline.Proofs.Engine.WalkOrder
import Flowline.Proofs.Workflow.Reach

/-!
# How deep a walk goes

A walk may follow so many connections one after the other and not one more.  Without
guards it comes too deep exactly if some path is longer than that, and it stops at the
end of the lexicographically first such path, with every smaller path behind it.
-/

namespace Flowline.Engine

open Program Flowline.Path

/-- A path from the trigger that is one connection longer than a walk may be. -/
structure Overlong (workflow : Workflow) (settings : Settings) (path : List Nat) : Prop where
  connected : (workflow.endpoint? workflow.trigger path).isSome = true
  length_eq : path.length = settings.maxDepth + 1

/-- How a walk ends that has come to no overlong path, or to one. -/
inductive Halts (workflow : Workflow) (settings : Settings) :
    Option (List Nat) → Except RunError Unit → Prop where
  | through : Halts workflow settings none (.ok ())
  | tooDeep {path : List Nat} {nodeId : String}
      (arrives : workflow.endpoint? workflow.trigger path = some nodeId) :
      Halts workflow settings (some path) (.error (.depthExceeded nodeId settings.maxDepth))

/-- What a part of a walk without guards has done with some region of the paths: it has
taken steps on those before the first overlong path, in their order. -/
structure Descent (workflow : Workflow) (settings : Settings) (region : List Nat → Prop)
    (steps : List Step) (events : List (Event surroundings)) (found : Option (List Nat)) :
    Prop where
  executed : executions settings events = steps.map Step.toExecuted
  within : ∀ step ∈ steps, region step.path
  ordered : steps.Pairwise fun left right => left.path < right.path
  located : ∀ step ∈ steps, step.node ∈ workflow.nodes ∧
    workflow.endpoint? workflow.trigger step.path = some step.node.id
  mem_iff : ∀ path, region path →
    ((∃ step ∈ steps, step.path = path) ↔
      (workflow.endpoint? workflow.trigger path).isSome = true ∧
        path.length ≤ settings.maxDepth ∧ ∀ first ∈ found, path < first)
  overlong : ∀ first ∈ found, region first ∧ Overlong workflow settings first
  earliest : ∀ path, region path → Overlong workflow settings path →
    ∃ first ∈ found, ¬ path < first

namespace Descent

variable {workflow : Workflow} {settings : Settings} {here : List Nat} {steps rest : List Step}
  {events more : List (Event surroundings)} {found : Option (List Nat)}
  {branch : Connection × Nat} {branches : List (Connection × Nat)}

theorem nil : Descent workflow settings (Along here []) [] [] none where
  executed := rfl
  within := by simp
  ordered := .nil
  located := by simp
  mem_iff := by simp [Along]
  overlong := by simp
  earliest := by simp [Along]

/-- Nothing is done from an overlong path on. -/
theorem tooDeep (overlong : Overlong workflow settings here) :
    Descent workflow settings (here <+: ·) [] [] (some here) where
  executed := rfl
  within := by simp
  ordered := .nil
  located := by simp
  mem_iff path begins := by
    simp only [List.not_mem_nil, false_and, exists_false, Option.mem_some, forall_eq', false_iff]
    rintro ⟨-, -, before⟩
    exact not_lt_of_begins begins before
  overlong := by simpa using overlong
  earliest path begins _ := ⟨here, rfl, not_lt_of_begins begins⟩

/-- A branch on which the walk has come too deep keeps it from the branches after it. -/
theorem stop (sorted : ∀ other ∈ branches, branch.2 < other.2) {first : List Nat}
    (descent : Descent workflow settings (here ++ [branch.2] <+: ·) steps events (some first)) :
    Descent workflow settings (Along here (branch :: branches)) steps events (some first) where
  executed := descent.executed
  within step member := ⟨branch, List.mem_cons_self, descent.within step member⟩
  ordered := descent.ordered
  located := descent.located
  mem_iff path region := by
    obtain ⟨other, isBranch, along⟩ := region
    rcases List.mem_cons.mp isBranch with rfl | isBranch
    · exact descent.mem_iff path along
    · have beyond {begun : List Nat} (begins : here ++ [branch.2] <+: begun) : begun < path :=
        lt_of_branches (sorted other isBranch) begins along
      constructor
      · rintro ⟨step, member, rfl⟩
        exact (List.lt_irrefl _ (beyond (descent.within step member))).elim
      · rintro ⟨-, -, before⟩
        exact (List.lt_asymm (before first rfl) (beyond (descent.overlong first rfl).1)).elim
  overlong := by
    rintro _ ⟨⟩
    obtain ⟨begins, overlong⟩ := descent.overlong first rfl
    exact ⟨⟨branch, List.mem_cons_self, begins⟩, overlong⟩
  earliest path region overlong := by
    obtain ⟨other, isBranch, along⟩ := region
    rcases List.mem_cons.mp isBranch with rfl | isBranch
    · exact descent.earliest path along overlong
    · refine ⟨first, rfl, ?_⟩
      exact not_lt_of_branches (sorted other isBranch) (descent.overlong first rfl).1 along

/-- A branch that a walk has come through is followed by the branches after it. -/
theorem append (sorted : ∀ other ∈ branches, branch.2 < other.2)
    (through : Descent workflow settings (here ++ [branch.2] <+: ·) steps events none)
    (descent : Descent workflow settings (Along here branches) rest more found) :
    Descent workflow settings (Along here (branch :: branches)) (steps ++ rest) (events ++ more)
      found where
  executed := by rw [executions_append, through.executed, descent.executed, List.map_append]
  within := along_append through.within descent.within
  ordered := by
    refine List.pairwise_append.mpr ⟨through.ordered, descent.ordered, ?_⟩
    intro step member later isLater
    obtain ⟨other, isBranch, along⟩ := descent.within later isLater
    exact lt_of_branches (sorted other isBranch) (through.within step member) along
  located := List.forall_mem_append.mpr ⟨through.located, descent.located⟩
  mem_iff path region := by
    obtain ⟨other, isBranch, along⟩ := region
    rcases List.mem_cons.mp isBranch with rfl | isBranch
    · have before : ∀ first ∈ found, path < first := by
        intro first isFirst
        obtain ⟨⟨another, isAnother, alongToo⟩, -⟩ := descent.overlong first isFirst
        exact lt_of_branches (sorted another isAnother) along alongToo
      rw [exists_append_iff_left sorted along descent.within, through.mem_iff path along]
      simpa using fun _ _ => before
    · rw [exists_append_iff_right sorted isBranch along through.within]
      exact descent.mem_iff path ⟨other, isBranch, along⟩
  overlong first isFirst := by
    obtain ⟨⟨other, isBranch, along⟩, overlong⟩ := descent.overlong first isFirst
    exact ⟨⟨other, List.mem_cons_of_mem _ isBranch, along⟩, overlong⟩
  earliest path region overlong := by
    obtain ⟨other, isBranch, along⟩ := region
    rcases List.mem_cons.mp isBranch with rfl | isBranch
    · obtain ⟨first, isFirst, -⟩ := through.earliest path along overlong
      cases isFirst
    · exact descent.earliest path ⟨other, isBranch, along⟩ overlong

/-- A node is executed first, and then the branches that leave it are followed. -/
theorem cons {step : Step} {reached : String}
    (arrives : workflow.endpoint? workflow.trigger step.path = some reached)
    (short : step.path.length ≤ settings.maxDepth)
    (executed : executions settings events = [step.toExecuted])
    (located : step.node ∈ workflow.nodes ∧ step.node.id = reached)
    (descent : Descent workflow settings (Along step.path (workflow.branches reached)) steps more
      found) :
    Descent workflow settings (step.path <+: ·) (step :: steps) (events ++ more) found where
  executed := by
    rw [executions_append, executed, descent.executed]
    rfl
  within := List.forall_mem_cons.mpr
    ⟨List.prefix_rfl, fun other member => (descent.within other member).begins⟩
  ordered := List.pairwise_cons.mpr
    ⟨fun other member => (descent.within other member).lt, descent.ordered⟩
  located := by
    refine List.forall_mem_cons.mpr ⟨⟨located.1, ?_⟩, descent.located⟩
    rw [arrives, located.2]
  mem_iff path begins := by
    by_cases same : step.path = path
    · subst same
      refine ⟨fun _ => ⟨by simp [arrives], short, fun first isFirst => ?_⟩,
        fun _ => ⟨step, List.mem_cons_self, rfl⟩⟩
      exact (descent.overlong first isFirst).1.lt
    · simp only [List.mem_cons, exists_eq_or_imp, same, false_or]
      by_cases along : Along step.path (workflow.branches reached) path
      · exact descent.mem_iff path along
      · constructor
        · rintro ⟨other, member, rfl⟩
          exact (along (descent.within other member)).elim
        · rintro ⟨connected, -⟩
          exact (along (.of_connected arrives begins same connected)).elim
  overlong first isFirst := (descent.overlong first isFirst).imp_left Along.begins
  earliest path begins overlong := by
    have same : step.path ≠ path := by
      rintro rfl
      have length := overlong.length_eq
      omega
    exact descent.earliest path (.of_connected arrives begins same overlong.connected) overlong

end Descent

/-! ## Walking -/

/-- Whoever replies, a part of a walk descends into a region if no failure and no
cancellation stops it. -/
def Descends (plan : Plan) (region : List Nat → Prop) (events : List (Event surroundings))
    (result : Run × Except RunError Unit) : Prop :=
  Calm plan.settings events → ∃ steps found,
    Descent plan.workflow plan.settings region steps events found ∧
      Halts plan.workflow plan.settings found result.2

/-- Without guards all branches are followed in turn, up to the first on which the walk
comes too deep. -/
theorem follow_descends {plan : Plan} {here : List Nat} {reached : String}
    (arrives : plan.workflow.endpoint? plan.workflow.trigger here = some reached)
    (unguarded : ∀ connection ∈ plan.workflow.connections, connection.guard = none)
    {visit : String → Run → Action (Run × Except RunError Unit)}
    (visiting : ∀ position nodeId run,
      plan.workflow.endpoint? plan.workflow.trigger (here ++ [position]) = some nodeId →
        (visit nodeId run).Ensures (Descends plan (here ++ [position] <+: ·)))
    (branches : List (Connection × Nat)) (declared : branches ⊆ plan.workflow.branches reached)
    (sorted : branches.Pairwise fun left right => left.2 < right.2) (run : Run) :
    (follow visit (branches.map Prod.fst) run).Ensures (Descends plan (Along here branches)) := by
  induction branches generalizing run with
  | nil => exact fun _ => ⟨[], none, .nil, .through⟩
  | cons branch branches ih =>
      obtain ⟨isBranch, declared⟩ := List.cons_subset.mp declared
      obtain ⟨before, sorted⟩ := List.pairwise_cons.mp sorted
      obtain ⟨isDeclared, -⟩ := Workflow.mem_branches.mp isBranch
      rw [List.map_cons, follow, unguarded branch.1 (List.mem_of_getElem? isDeclared)]
      apply Calm.bind (visiting branch.2 branch.1.target run
        (Workflow.endpoint?_snoc arrives isBranch))
      rintro events ⟨after, outcome⟩ calm visited
      obtain ⟨steps, found, descent, halts⟩ := visited calm
      cases halts with
      | through =>
          apply (ih declared sorted after).mono
          intro more result remaining calmer
          obtain ⟨rest, foundLater, descentLater, haltsLater⟩ := remaining calmer
          exact ⟨steps ++ rest, foundLater, .append before descent descentLater, haltsLater⟩
      | tooDeep arrivesDeep =>
          intro _
          rw [List.append_nil]
          exact ⟨steps, _, descent.stop before, .tooDeep arrivesDeep⟩

/-- A walk of a valid workflow without guards descends into all paths beyond the one that
it has come along. -/
theorem walk_descends {plan : Plan} (valid : plan.workflow.validate = .ok ())
    (built : Graph.build plan.workflow = .ok plan.graph)
    (unguarded : ∀ connection ∈ plan.workflow.connections, connection.guard = none)
    (allowed : Nat) (here : List Nat) (nodeId : String)
    (depth : allowed + here.length = plan.settings.maxDepth + 1)
    (arrives : plan.workflow.endpoint? plan.workflow.trigger here = some nodeId) (run : Run) :
    (walk plan allowed nodeId run).Ensures (Descends plan (here <+: ·)) := by
  induction allowed generalizing here nodeId run with
  | zero =>
      intro _
      exact ⟨[], some here, .tooDeep ⟨by simp [arrives], by omega⟩, .tooDeep arrives⟩
  | succ allowed ih =>
      refine walk_calm valid built arrives run (fun _ _ _ descended => descended) fun step events
        after executes ends _ isNode _ => ?_
      subst ends
      apply (follow_descends arrives unguarded (fun position nodeId run arrives =>
        ih (step.path ++ [position]) nodeId (by simp; omega) arrives run) _ (List.Subset.refl _)
        (Workflow.branches_pairwise _) after).mono
      intro more result followed calm
      obtain ⟨steps, found, descent, halts⟩ := followed calm
      exact ⟨step :: steps, found, descent.cons arrives (by omega) executes isNode, halts⟩

/-! ## Runs -/

section Runs

variable {settings : Settings} {workflow : Workflow} {id : ExecutionId} {input : Json}
  {events walked : List (Event surroundings)} {record : Execution}
  {outcome : Except RunError Unit} {steps : List Step} {found : Option (List Nat)}

/-- What does not stop a run does not stop its walk. -/
theorem Walked.calm (yields : (execute settings workflow id input).Yields events record)
    (walks : Walked settings workflow id input events walked outcome)
    (tolerated : ∀ executed ∈ executions settings events, executed.Tolerated settings)
    (uncancelled : ∀ held, ⟨.load id, .ok held⟩ ∈ events → held.record.status ≠ .cancelled) :
    Calm settings walked := by
  constructor
  · intro executed member
    exact tolerated executed (walks.executions_eq yields ▸ member)
  · obtain ⟨before, after, parts, -⟩ := walks.surrounded yields
    obtain ⟨built, opens, inspects, goes, -⟩ := walks
    have running := ((opening_running workflow id).of_yields opens).1
    have told := (inspect_tells _ _).of_yields inspects
    intro other held member
    have quiet := ((walk_passage _ _ _ _).of_yields goes).quiet _ member
    obtain rfl : other = id := Eq.trans quiet (told.grown.id_eq.trans running.id_eq)
    exact uncancelled held (by simp [parts, member])

/-- A calm walk without guards descends into all paths from the trigger. -/
theorem Walked.descends (valid : workflow.validate = .ok ())
    (unguarded : ∀ connection ∈ workflow.connections, connection.guard = none)
    (walks : Walked settings workflow id input events walked outcome)
    (calm : Calm settings walked) :
    ∃ steps found, Descent workflow settings ([] <+: ·) steps walked found ∧
      Halts workflow settings found outcome := by
  obtain ⟨built, opens, inspects, goes, -⟩ := walks
  exact (walk_descends valid built unguarded _ [] _ rfl rfl _).of_yields goes calm

/-- The first overlong path decides how a walk ends. -/
theorem Descent.depthExceeded_iff
    (descent : Descent workflow settings ([] <+: ·) steps walked found)
    (halts : Halts workflow settings found outcome) (nodeId : String) :
    outcome = .error (.depthExceeded nodeId settings.maxDepth) ↔
      ∃ first, Overlong workflow settings first ∧
        workflow.endpoint? workflow.trigger first = some nodeId ∧
        ∀ path, Overlong workflow settings path → ¬ path < first := by
  cases halts with
  | through =>
      simp only [reduceCtorEq, false_iff, not_exists, not_and]
      intro first overlong
      obtain ⟨_, isFirst, -⟩ := descent.earliest first List.nil_prefix overlong
      cases isFirst
  | @tooDeep path reached arrives =>
      have overlong := (descent.overlong path rfl).2
      have least (other : List Nat) (also : Overlong workflow settings other) : ¬ other < path := by
        obtain ⟨_, ⟨⟩, least⟩ := descent.earliest other List.nil_prefix also
        exact least
      constructor
      · rintro ⟨⟩
        exact ⟨path, overlong, arrives, least⟩
      · rintro ⟨first, isOverlong, ends, leastToo⟩
        obtain rfl : first = path := by
          rcases lt_trichotomy first path with less | same | more
          · exact (least first isOverlong less).elim
          · exact same
          · exact (leastToo path overlong more).elim
        rw [Option.some.inj (arrives.symm.trans ends)]

/-- A walk comes through or too deep. -/
theorem Halts.through_or_tooDeep (halts : Halts workflow settings found outcome) :
    outcome = .ok () ∨ ∃ nodeId, outcome = .error (.depthExceeded nodeId settings.maxDepth) := by
  cases halts with
  | through => exact .inl rfl
  | tooDeep arrives => exact .inr ⟨_, rfl⟩

/-- A walk comes too deep exactly if some path is overlong. -/
theorem Descent.exists_depthExceeded_iff
    (descent : Descent workflow settings ([] <+: ·) steps walked found)
    (halts : Halts workflow settings found outcome) :
    (∃ nodeId, outcome = .error (.depthExceeded nodeId settings.maxDepth)) ↔
      ∃ path, Overlong workflow settings path := by
  constructor
  · rintro ⟨nodeId, exceeds⟩
    obtain ⟨first, overlong, -⟩ := (descent.depthExceeded_iff halts nodeId).mp exceeds
    exact ⟨first, overlong⟩
  · rintro ⟨path, overlong⟩
    obtain ⟨first, isFirst, -⟩ := descent.earliest path List.nil_prefix overlong
    cases halts with
    | through => cases isFirst
    | tooDeep arrives => exact ⟨_, rfl⟩

/-- The paths that a walk has taken are those before the first overlong one. -/
theorem Descent.mem_iff_lt (descent : Descent workflow settings ([] <+: ·) steps walked found)
    (path : List Nat) :
    (∃ step ∈ steps, step.path = path) ↔
      (workflow.endpoint? workflow.trigger path).isSome = true ∧
        path.length ≤ settings.maxDepth ∧
        ∀ first, Overlong workflow settings first → path < first := by
  rw [descent.mem_iff path List.nil_prefix]
  refine and_congr_right fun connected => and_congr_right fun short => ⟨?_, ?_⟩
  · intro before other overlong
    obtain ⟨first, isFirst, least⟩ := descent.earliest other List.nil_prefix overlong
    exact lt_of_lt_of_le (before first isFirst) (not_lt.mp least)
  · intro before first isFirst
    exact before first (descent.overlong first isFirst).2

/-- No path is overlong in an acyclic workflow with few nodes. -/
theorem not_overlong_of_acyclic {graph : Graph} (built : Graph.build workflow = .ok graph)
    (acyclic : graph.isCyclic = false) (few : workflow.nodes.length ≤ settings.maxDepth + 1)
    (path : List Nat) : ¬ Overlong workflow settings path := by
  intro overlong
  have valid := Graph.validate_of_build built
  have cycle := Workflow.exists_onCycle_of_length_le valid
    (Workflow.mem_nodeIds_of_validate valid).1 overlong.connected (overlong.length_eq ▸ few)
  simp [(Graph.isCyclic_iff built).mpr cycle] at acyclic

/-- Some path is overlong if the trigger leads to a cycle. -/
theorem exists_overlong_of_onCycle {nodeId : String} (cycle : workflow.OnCycle nodeId)
    (leads : workflow.Leads workflow.trigger nodeId) : ∃ path, Overlong workflow settings path := by
  obtain ⟨path, connected, length⟩ :=
    Workflow.exists_connected_of_onCycle cycle leads (settings.maxDepth + 1)
  exact ⟨path, connected, length⟩

/-- A run of a valid workflow without guards comes to an end, whoever answers.  If every
node succeeds or is continued after and no cancelled record is read, then its walk comes
through or too deep, and it comes too deep exactly if some path from the trigger is one
connection longer than a walk may be.  The node at which that happens is the end of the
lexicographically first such path.  Everything that the walk attempts is at the end of a
path that is not too long, and the paths that it has taken are those before the first
overlong one.  So an acyclic workflow with at most one node more than the limit comes
through, and a workflow whose trigger leads to a cycle comes too deep.  Unless a write
conflicts, the record ends as the walk does. -/
theorem execute_depthExceeded_iff (settings : Settings) (workflow : Workflow) (id : ExecutionId)
    (input : Json) (valid : workflow.validate = .ok ())
    (unguarded : ∀ connection ∈ workflow.connections, connection.guard = none) :
    (∀ {σ : Type} (answer : (asked : Request) → σ → Reply asked × σ) (state : σ),
      ∃ events, (execute settings workflow id input).Yields events
        ((execute settings workflow id input).run answer state).1) ∧
    ∀ events record, (execute settings workflow id input).Yields events record →
      (∀ executed ∈ executions settings events, executed.Tolerated settings) →
      (∀ held, ⟨.load id, .ok held⟩ ∈ events → held.record.status ≠ .cancelled) →
      ∃ walked outcome, Walked settings workflow id input events walked outcome ∧
        (outcome = .ok () ∨
          ∃ nodeId, outcome = .error (.depthExceeded nodeId settings.maxDepth)) ∧
        ((∃ nodeId, outcome = .error (.depthExceeded nodeId settings.maxDepth)) ↔
          ∃ path, Overlong workflow settings path) ∧
        (∀ nodeId, outcome = .error (.depthExceeded nodeId settings.maxDepth) ↔
          ∃ first, Overlong workflow settings first ∧
            workflow.endpoint? workflow.trigger first = some nodeId ∧
            ∀ path, Overlong workflow settings path → ¬ path < first) ∧
        (∃ steps : List Step, executions settings events = steps.map Step.toExecuted ∧
          (steps.Pairwise fun left right => left.path < right.path) ∧
          (∀ step ∈ steps, step.path.length ≤ settings.maxDepth ∧
            workflow.endpoint? workflow.trigger step.path = some step.node.id) ∧
          (∀ path, (∃ step ∈ steps, step.path = path) ↔
            (workflow.endpoint? workflow.trigger path).isSome = true ∧
              path.length ≤ settings.maxDepth ∧
              ∀ first, Overlong workflow settings first → path < first) ∧
          ∀ attempt ∈ attempts events, attempt.role = .step →
            ∃ step ∈ steps, step.node = attempt.node ∧ step.context = attempt.context) ∧
        ((∀ event ∈ events, ¬ Conflicted event) → endingOf record = .ofOutcome outcome) ∧
        (∀ graph, Graph.build workflow = .ok graph → graph.isCyclic = false →
          workflow.nodes.length ≤ settings.maxDepth + 1 → outcome = .ok ()) ∧
        (∀ nodeId, workflow.Leads workflow.trigger nodeId → workflow.OnCycle nodeId →
          ∃ deepest, outcome = .error (.depthExceeded deepest settings.maxDepth)) := by
  constructor
  · intro σ answer state
    exact @run_yields surroundings _ _ answer _ state
  intro events record yields tolerated uncancelled
  obtain ⟨course⟩ := exists_course yields
  obtain ⟨walked, walks⟩ : ∃ walked,
      Walked settings workflow id input events walked course.walked.2 := by
    rcases course.invalid_or_walked with ⟨_, invalid, -⟩ | ⟨-, walked, walks, -⟩
    · simp [invalid] at valid
    · exact ⟨walked, walks⟩
  obtain ⟨steps, found, descent, halts⟩ :=
    walks.descends valid unguarded (walks.calm yields tolerated uncancelled)
  have exceeds := descent.exists_depthExceeded_iff halts
  have executes : executions settings events = steps.map Step.toExecuted :=
    (walks.executions_eq yields).trans descent.executed
  refine ⟨walked, course.walked.2, walks, halts.through_or_tooDeep, exceeds,
    descent.depthExceeded_iff halts, ⟨steps, executes, descent.ordered, ?_, descent.mem_iff_lt, ?_⟩,
    course.endingOf_eq, ?_, ?_⟩
  · intro step member
    obtain ⟨-, short, -⟩ := (descent.mem_iff_lt step.path).mp ⟨step, member, rfl⟩
    exact ⟨short, (descent.located step member).2⟩
  · intro attempt member step
    obtain ⟨executed, among, same⟩ := walks.attributed yields attempt member step
    obtain ⟨taken, isTaken, rfl⟩ := List.mem_map.mp (executes ▸ among)
    exact ⟨taken, isTaken, same⟩
  · intro graph built acyclic few
    refine halts.through_or_tooDeep.resolve_right fun tooDeep => ?_
    obtain ⟨path, overlong⟩ := exceeds.mp tooDeep
    exact not_overlong_of_acyclic built acyclic few path overlong
  · intro nodeId leads cycle
    exact exceeds.mpr (exists_overlong_of_onCycle cycle leads)

/-- A workflow of two nodes in which a connection leads from the first node back to it. -/
def circling : Workflow where
  id := ⟨⟨0⟩⟩
  name := "circling"
  nodes := [{ id := "start", name := "Start", config := .manual },
    { id := "end", name := "End", config := .manual }]
  connections := [{ source := "start", target := "end" }, { source := "start", target := "start" }]
  trigger := "start"
  createdAt := ⟨0, 0⟩
  updatedAt := ⟨0, 0⟩

/-- The first path of two connections around the cycle leaves it again at its end. -/
theorem circling_overlong :
    Overlong circling { maxDepth := 1 } [1, 0] ∧
      ∀ path, Overlong circling { maxDepth := 1 } path → ¬ path < [1, 0] := by
  refine ⟨⟨by decide, rfl⟩, fun path overlong => ?_⟩
  obtain ⟨connected, length⟩ := overlong
  have around : path = [1, 0] ∨ path = [1, 1] := by
    rcases path with _ | ⟨_ | _ | _, _ | ⟨_ | _ | _, _ | ⟨_, _⟩⟩⟩ <;>
      simp [Workflow.endpoint?, circling] at connected length ⊢
  rcases around with rfl | rfl <;> decide

/-- A walk that may follow one connection comes too deep on its way around a cycle, at the
node next to it. -/
theorem execute_depthExceeded_circling :
    ∃ events record walked,
      (execute { maxDepth := 1 } circling ⟨⟨1⟩⟩ .null).Yields events record ∧
      circling.validate = .ok () ∧
      (∀ connection ∈ circling.connections, connection.guard = none) ∧
      (∀ executed ∈ executions { maxDepth := 1 } events,
        executed.Tolerated { maxDepth := 1 }) ∧
      (∀ held, ⟨.load ⟨⟨1⟩⟩, .ok held⟩ ∈ events → held.record.status ≠ .cancelled) ∧
      Walked { maxDepth := 1 } circling ⟨⟨1⟩⟩ .null events walked
        (.error (.depthExceeded "end" 1)) ∧
      endingOf record = ⟨.failed, some ⟨"walk depth exceeded 1 at node end", none⟩⟩ := by
  obtain ⟨events, record, yields, undisturbed⟩ :=
    @exists_yields surroundings _ (Undisturbed { maxDepth := 1 })
      (exists_undisturbed { maxDepth := 1 }) (execute { maxDepth := 1 } circling ⟨⟨1⟩⟩ .null)
  have valid : circling.validate = .ok () := rfl
  have unguarded : ∀ connection ∈ circling.connections, connection.guard = none := by
    simp [circling]
  have tolerated : ∀ executed ∈ executions { maxDepth := 1 } events,
      executed.Tolerated { maxDepth := 1 } := by
    intro executed member
    obtain ⟨event, among, decided⟩ := List.mem_filterMap.mp member
    exact (undisturbed event among).tolerated executed decided
  have uncancelled (held : Versioned) (member : ⟨.load ⟨⟨1⟩⟩, .ok held⟩ ∈ events) :
      held.record.status ≠ .cancelled :=
    ((undisturbed _ member).unread _ held rfl).elim
  obtain ⟨-, runs⟩ :=
    execute_depthExceeded_iff { maxDepth := 1 } circling ⟨⟨1⟩⟩ .null valid unguarded
  obtain ⟨walked, outcome, walks, -, -, decides, -, ending, -⟩ :=
    runs events record yields tolerated uncancelled
  obtain rfl := (decides "end").mpr
    ⟨[1, 0], circling_overlong.1, by decide, circling_overlong.2⟩
  refine ⟨events, record, walked, yields, valid, unguarded, tolerated, uncancelled, walks, ?_⟩
  exact (ending fun event member => (undisturbed event member).unconflicted).trans rfl

end Runs

end Flowline.Engine
