import Flowline.Proofs.Engine.Executions
import Flowline.Proofs.Workflow.Index

/-!
# The order of a walk

A walk executes a node once for every path that leads to it and whose guards hold,
and takes the paths in lexicographic order.  A guard is evaluated in the context
that the executions on all smaller paths have left.
-/

namespace Flowline

open Engine Program Flowline.Path

/-- A guard that is absent or holds lets a walk pass. -/
def Workflow.Passes (workflow : Workflow) (position : Nat) (context : Context) : Prop :=
  ∀ connection guard, workflow.connections[position]? = some connection →
    connection.guard = some guard → Guard.holds guard context = true

namespace Engine

/-- An execution of the node at the end of a path. -/
structure Step extends Executed where
  path : List Nat

/-- What is known after some steps. -/
def learnAll (input : Json) (steps : List Step) : Context :=
  steps.foldl (fun context step => step.toExecuted.learn context) (.start input)

/-- What is known when a walk comes to a path: what the steps on smaller paths have
added. -/
def contextBefore (input : Json) (steps : List Step) (path : List Nat) : Context :=
  learnAll input (steps.filter fun step => step.path < path)

/-- A path of connections from the trigger on, whose guards from some point on hold
when a walk with the given steps comes to them. -/
structure OpenFrom (workflow : Workflow) (input : Json) (steps : List Step) (here path : List Nat) :
    Prop where
  connected : (workflow.endpoint? workflow.trigger path).isSome = true
  passes : ∀ before position, here <+: before → before ++ [position] <+: path →
    workflow.Passes position (contextBefore input steps (before ++ [position]))

/-! ## Contexts -/

section Contexts

variable {input : Json} {steps more : List Step} {path : List Nat}

theorem learnAll_snoc (step : Step) :
    learnAll input (steps ++ [step]) = step.toExecuted.learn (learnAll input steps) := by
  simp [learnAll]

/-- What comes after a path does not count before it. -/
theorem contextBefore_append (later : ∀ step ∈ more, ¬ step.path < path) :
    contextBefore input (steps ++ more) path = contextBefore input steps path := by
  have none : (more.filter fun step => step.path < path) = [] := by
    simpa [List.filter_eq_nil_iff] using later
  rw [contextBefore, List.filter_append, none, List.append_nil, contextBefore]

theorem contextBefore_eq (earlier : ∀ step ∈ steps, step.path < path)
    (later : ∀ step ∈ more, ¬ step.path < path) :
    contextBefore input (steps ++ more) path = learnAll input steps := by
  rw [contextBefore_append later, contextBefore, List.filter_eq_self.mpr]
  simpa using earlier

end Contexts

/-! ## Surveys -/

/-- What a part of a walk has done: new steps after those of the past, all in some
region of the paths from a point on.  They are in order, they are those on the open
paths of the region, and each knows what the steps before it have added. -/
structure Survey (workflow : Workflow) (settings : Settings) (input : Json) (here : List Nat)
    (region : List Nat → Prop) (past new : List Step) (events : List (Event surroundings))
    (context : Context) : Prop where
  executed : executions settings events = new.map Step.toExecuted
  within : ∀ step ∈ new, region step.path
  ordered : (past ++ new).Pairwise fun left right => left.path < right.path
  known : context = learnAll input (past ++ new)
  mem_iff : ∀ path, region path →
    ((∃ step ∈ new, step.path = path) ↔ OpenFrom workflow input (past ++ new) here path)
  located : ∀ step ∈ new, step.node ∈ workflow.nodes ∧
    workflow.endpoint? workflow.trigger step.path = some step.node.id
  informed : ∀ step ∈ new, step.context = contextBefore input (past ++ new) step.path

/-- The paths along some branches. -/
def Along (here : List Nat) (branches : List (Connection × Nat)) (path : List Nat) : Prop :=
  ∃ branch ∈ branches, here ++ [branch.2] <+: path

namespace Along

variable {here path : List Nat} {branches : List (Connection × Nat)}

theorem begins (along : Along here branches path) : here <+: path := by
  obtain ⟨branch, -, begins⟩ := along
  exact (List.prefix_append _ _).trans begins

theorem lt (along : Along here branches path) : here < path := by
  refine lt_of_begins along.begins ?_
  rintro rfl
  obtain ⟨branch, -, begins⟩ := along
  simpa using begins.length_le

/-- A path that goes on from where another ends goes on along a branch. -/
theorem of_connected {workflow : Workflow} {reached : String}
    (arrives : workflow.endpoint? workflow.trigger here = some reached) (begins : here <+: path)
    (longer : here ≠ path) (connected : (workflow.endpoint? workflow.trigger path).isSome = true) :
    Along here (workflow.branches reached) path := by
  obtain ⟨rest, rfl⟩ := begins
  cases rest with
  | nil => simp at longer
  | cons position rest =>
      obtain ⟨connection, isBranch⟩ := Workflow.exists_branch arrives connected
      exact ⟨(connection, position), isBranch, by simp⟩

end Along

section Surveys

variable {workflow : Workflow} {settings : Settings} {input : Json} {here : List Nat}
  {past new rest : List Step} {events more : List (Event surroundings)} {context : Context}
  {branch : Connection × Nat} {branches : List (Connection × Nat)}

/-- Steps along later branches do not count along an earlier one. -/
theorem not_lt_of_along (sorted : ∀ other ∈ branches, branch.2 < other.2) {path : List Nat}
    (begins : here ++ [branch.2] <+: path) (within : ∀ step ∈ rest, Along here branches step.path) :
    ∀ step ∈ rest, ¬ step.path < path := by
  intro step member
  obtain ⟨other, isBranch, along⟩ := within step member
  exact not_lt_of_branches (sorted other isBranch) begins along

/-- Nor do they lie on it. -/
theorem ne_of_along (sorted : ∀ other ∈ branches, branch.2 < other.2) {path : List Nat}
    (begins : here ++ [branch.2] <+: path) (within : ∀ step ∈ rest, Along here branches step.path) :
    ∀ step ∈ rest, step.path ≠ path := by
  rintro step member rfl
  obtain ⟨other, isBranch, along⟩ := within step member
  exact absurd (eq_of_branches begins along) (Nat.ne_of_lt (sorted other isBranch))

/-- Steps along a branch and along those after it are steps along all of them. -/
theorem along_append (within : ∀ step ∈ new, here ++ [branch.2] <+: step.path)
    (withinRest : ∀ step ∈ rest, Along here branches step.path) :
    ∀ step ∈ new ++ rest, Along here (branch :: branches) step.path := by
  rw [List.forall_mem_append]
  constructor
  · intro step member
    exact ⟨branch, List.mem_cons_self, within step member⟩
  · intro step member
    obtain ⟨other, isBranch, along⟩ := withinRest step member
    exact ⟨other, List.mem_cons_of_mem _ isBranch, along⟩

/-- A path along a branch is taken there, if at all. -/
theorem exists_append_iff_left (sorted : ∀ other ∈ branches, branch.2 < other.2) {path : List Nat}
    (begins : here ++ [branch.2] <+: path)
    (withinRest : ∀ step ∈ rest, Along here branches step.path) :
    (∃ step ∈ new ++ rest, step.path = path) ↔ ∃ step ∈ new, step.path = path := by
  have absent : ¬ ∃ step ∈ rest, step.path = path := by
    rintro ⟨step, member, ends⟩
    exact ne_of_along sorted begins withinRest step member ends
  simp only [List.mem_append, or_and_right, exists_or]
  exact or_iff_left absent

/-- A path along a later branch is not taken along an earlier one. -/
theorem exists_append_iff_right (sorted : ∀ other ∈ branches, branch.2 < other.2)
    {path : List Nat} {other : Connection × Nat} (isBranch : other ∈ branches)
    (begins : here ++ [other.2] <+: path)
    (within : ∀ step ∈ new, here ++ [branch.2] <+: step.path) :
    (∃ step ∈ new ++ rest, step.path = path) ↔ ∃ step ∈ rest, step.path = path := by
  have absent : ¬ ∃ step ∈ new, step.path = path := by
    rintro ⟨step, member, rfl⟩
    exact absurd (eq_of_branches (within step member) begins)
      (Nat.ne_of_lt (sorted other isBranch))
  simp only [List.mem_append, or_and_right, exists_or]
  exact or_iff_right absent

/-- Along a branch that lets the walk pass, the paths that are open beyond the branch
are those that are open before it. -/
theorem openFrom_iff (sorted : ∀ other ∈ branches, branch.2 < other.2) {path : List Nat}
    (begins : here ++ [branch.2] <+: path)
    (earlier : ∀ step ∈ past, step.path < here ++ [branch.2])
    (passes : workflow.Passes branch.2 (learnAll input past))
    (within : ∀ step ∈ new, here ++ [branch.2] <+: step.path)
    (withinRest : ∀ step ∈ rest, Along here branches step.path) :
    OpenFrom workflow input (past ++ new) (here ++ [branch.2]) path ↔
      OpenFrom workflow input (past ++ new ++ rest) here path := by
  have same {before : List Nat} (beyond : here ++ [branch.2] <+: before) :
      contextBefore input (past ++ new ++ rest) before = contextBefore input (past ++ new) before :=
    contextBefore_append (not_lt_of_along sorted beyond withinRest)
  constructor
  · intro isOpen
    refine ⟨isOpen.connected, fun before position further leads => ?_⟩
    by_cases atOnce : here = before
    · subst atOnce
      obtain rfl := eq_of_branches begins leads
      rw [List.append_assoc, contextBefore_eq earlier]
      · exact passes
      · refine List.forall_mem_append.mpr ⟨fun step member => ?_, ?_⟩
        · exact not_lt_of_begins (within step member)
        · exact not_lt_of_along sorted List.prefix_rfl withinRest
    · have longer : (here ++ [branch.2]).length ≤ before.length := by
        have shorter := further.length_le
        have different : here.length ≠ before.length := fun equal =>
          atOnce (further.eq_of_length equal)
        simp only [List.length_append, List.length_singleton]
        omega
      have beyond := List.prefix_of_prefix_length_le begins
        ((List.prefix_append before [position]).trans leads) longer
      rw [same (beyond.trans (List.prefix_append _ _))]
      exact isOpen.passes before position beyond leads
  · intro isOpen
    constructor
    · exact isOpen.connected
    · intro before position beyond leads
      rw [← same (beyond.trans (List.prefix_append _ _))]
      exact isOpen.passes before position ((List.prefix_append _ _).trans beyond) leads

theorem Survey.nil (ordered : past.Pairwise fun left right => left.path < right.path) :
    Survey workflow settings input here (Along here []) past [] [] (learnAll input past) where
  executed := rfl
  within := by simp
  ordered := by simpa using ordered
  known := by simp
  mem_iff := by simp [Along]
  located := by simp
  informed := by simp

/-- A branch whose guard does not hold adds nothing. -/
theorem Survey.skip (sorted : ∀ other ∈ branches, branch.2 < other.2)
    (earlier : ∀ step ∈ past, step.path < here ++ [branch.2])
    (aside : executions settings events = [])
    (blocked : ¬ workflow.Passes branch.2 (learnAll input past))
    (survey : Survey workflow settings input here (Along here branches) past rest more context) :
    Survey workflow settings input here (Along here (branch :: branches)) past rest
      (events ++ more) context where
  executed := by rw [executions_append, aside, List.nil_append, survey.executed]
  within step member := by
    obtain ⟨other, isBranch, along⟩ := survey.within step member
    exact ⟨other, List.mem_cons_of_mem _ isBranch, along⟩
  ordered := survey.ordered
  known := survey.known
  mem_iff path region := by
    obtain ⟨other, isBranch, along⟩ := region
    rcases List.mem_cons.mp isBranch with rfl | isBranch
    · have shut : ¬ OpenFrom workflow input (past ++ rest) here path := by
        intro isOpen
        have passes := isOpen.passes here other.2 List.prefix_rfl along
        rw [contextBefore_eq earlier
          (not_lt_of_along sorted List.prefix_rfl survey.within)] at passes
        exact blocked passes
      constructor
      · rintro ⟨step, member, ends⟩
        exact (ne_of_along sorted along survey.within step member ends).elim
      · intro isOpen
        exact (shut isOpen).elim
    · exact survey.mem_iff path ⟨other, isBranch, along⟩
  located := survey.located
  informed := survey.informed

/-- Two parts of a walk in a row, along a branch and along the branches after it. -/
theorem Survey.append (sorted : ∀ other ∈ branches, branch.2 < other.2)
    (earlier : ∀ step ∈ past, step.path < here ++ [branch.2])
    (passes : workflow.Passes branch.2 (learnAll input past)) {between : Context}
    (first : Survey workflow settings input (here ++ [branch.2]) (here ++ [branch.2] <+: ·) past new
      events between)
    (second : Survey workflow settings input here (Along here branches) (past ++ new) rest more
      context) :
    Survey workflow settings input here (Along here (branch :: branches)) past (new ++ rest)
      (events ++ more) context where
  executed := by rw [executions_append, first.executed, second.executed, List.map_append]
  within := along_append first.within second.within
  ordered := by simpa using second.ordered
  known := by simpa using second.known
  mem_iff path region := by
    rw [← List.append_assoc]
    obtain ⟨other, isBranch, along⟩ := region
    rcases List.mem_cons.mp isBranch with rfl | isBranch
    · rw [exists_append_iff_left sorted along second.within, first.mem_iff path along]
      exact openFrom_iff sorted along earlier passes first.within second.within
    · rw [exists_append_iff_right sorted isBranch along first.within]
      exact second.mem_iff path ⟨other, isBranch, along⟩
  located := List.forall_mem_append.mpr ⟨first.located, second.located⟩
  informed := by
    rw [← List.append_assoc, List.forall_mem_append]
    constructor
    · intro step member
      rw [contextBefore_append (not_lt_of_along sorted (first.within step member) second.within)]
      exact first.informed step member
    · exact second.informed

/-- A node is executed first, and then the branches that leave it are followed. -/
theorem Survey.cons {step : Step} {reached : String}
    (arrives : workflow.endpoint? workflow.trigger step.path = some reached)
    (earlier : ∀ other ∈ past, other.path < step.path)
    (executed : executions settings events = [step.toExecuted])
    (located : step.node ∈ workflow.nodes ∧ step.node.id = reached)
    (informed : step.context = learnAll input past)
    (survey : Survey workflow settings input step.path
      (Along step.path (workflow.branches reached)) (past ++ [step]) new more context) :
    Survey workflow settings input step.path (step.path <+: ·) past (step :: new) (events ++ more)
      context where
  executed := by
    rw [executions_append, executed, survey.executed]
    rfl
  within := List.forall_mem_cons.mpr
    ⟨List.prefix_rfl, fun other member => (survey.within other member).begins⟩
  ordered := by simpa using survey.ordered
  known := by simpa using survey.known
  mem_iff path begins := by
    rw [List.append_cons]
    by_cases same : step.path = path
    · subst same
      refine ⟨fun _ => ⟨by simp [arrives], ?_⟩, fun _ => ⟨step, List.mem_cons_self, rfl⟩⟩
      intro before position further leads
      have shorter := further.length_le
      have longer := leads.length_le
      simp only [List.length_append, List.length_singleton] at longer
      omega
    · simp only [List.mem_cons, exists_eq_or_imp, same, false_or]
      by_cases along : Along step.path (workflow.branches reached) path
      · exact survey.mem_iff path along
      · constructor
        · rintro ⟨other, member, rfl⟩
          exact (along (survey.within other member)).elim
        · intro isOpen
          exact (along (.of_connected arrives begins same isOpen.connected)).elim
  located := by
    refine List.forall_mem_cons.mpr ⟨⟨located.1, ?_⟩, survey.located⟩
    rw [arrives, located.2]
  informed := by
    rw [List.append_cons]
    refine List.forall_mem_cons.mpr ⟨?_, survey.informed⟩
    rw [List.append_assoc, contextBefore_eq earlier, informed]
    exact List.forall_mem_cons.mpr ⟨not_lt_of_begins List.prefix_rfl, fun other member =>
      not_lt_of_begins (survey.within other member).begins⟩

end Surveys

/-! ## Walking -/

/-- A trace without a failure that stops the walk, and in which no cancelled record is
read. -/
structure Calm (settings : Settings) (events : List (Event surroundings)) : Prop where
  tolerated : ∀ executed ∈ executions settings events, executed.Tolerated settings
  uncancelled : ∀ id held, ⟨.load id, .ok held⟩ ∈ events → held.record.status ≠ .cancelled

theorem Calm.of_append {settings : Settings} {events more : List (Event surroundings)}
    (calm : Calm settings (events ++ more)) : Calm settings events ∧ Calm settings more := by
  constructor
  · refine ⟨fun executed member => calm.tolerated executed ?_, fun id held member =>
      calm.uncancelled id held (List.mem_append_left _ member)⟩
    rw [executions_append]
    exact List.mem_append_left _ member
  · refine ⟨fun executed member => calm.tolerated executed ?_, fun id held member =>
      calm.uncancelled id held (List.mem_append_right _ member)⟩
    rw [executions_append]
    exact List.mem_append_right _ member

/-- In a sequence that stays calm each part does. -/
theorem Calm.bind {α β : Type} {settings : Settings} {program : Action α} {rest : α → Action β}
    {first : List (Event surroundings) → α → Prop} {post : List (Event surroundings) → β → Prop}
    (ensures : program.Ensures first)
    (continues : ∀ events value, Calm settings events → first events value →
      (rest value).Ensures fun more result => Calm settings more → post (events ++ more) result) :
    (program.bind rest).Ensures fun events result => Calm settings events → post events result := by
  apply Ensures.bind ensures
  intro events value described
  by_cases calm : Calm settings events
  · apply (continues events value calm described).mono
    intro more result holds calmer
    exact holds calmer.of_append.2
  · exact .of_forall fun more result calmer => (calm calmer.of_append.1).elim

theorem isCancelled_calm (plan : Plan) (run : Run) :
    (isCancelled plan run).Ensures fun events found =>
      executions plan.settings events = [] ∧ (Calm plan.settings events → found = false) := by
  unfold isCancelled
  split
  · intro reply
    cases reply with
    | error error => exact ⟨rfl, fun _ => rfl⟩
    | ok held =>
        constructor
        · rfl
        · intro calm
          simpa using calm.uncancelled _ held List.mem_cons_self
  · exact ⟨rfl, fun _ => rfl⟩

/-- A walk that stays calm first takes a step at the node that it has come to, and then
follows the branches that leave it. -/
theorem walk_calm {plan : Plan} (valid : plan.workflow.validate = .ok ())
    (built : Graph.build plan.workflow = .ok plan.graph) {allowed : Nat} {here : List Nat}
    {nodeId : String} (arrives : plan.workflow.endpoint? plan.workflow.trigger here = some nodeId)
    (run : Run) {post : List (Event surroundings) → Run × Except RunError Unit → Prop}
    (unmoved : ∀ events path last, post events (last, .ok ()) →
      post events ({ last with path }, .ok ()))
    (follows : ∀ (step : Step) events (after : Run),
      executions plan.settings events = [step.toExecuted] → step.path = here →
      step.context = run.context → step.node ∈ plan.workflow.nodes ∧ step.node.id = nodeId →
      after.context = step.toExecuted.learn run.context →
      (follow (walk plan allowed) ((plan.workflow.branches nodeId).map Prod.fst) after).Ensures
        fun more result => Calm plan.settings more → post (events ++ more) result) :
    (walk plan (allowed + 1) nodeId run).Ensures fun events result =>
      Calm plan.settings events → post events result := by
  rw [walk]
  apply Calm.bind (isCancelled_calm plan run)
  rintro events found calm ⟨quiet, uncancelled⟩
  obtain rfl := uncancelled calm
  obtain ⟨node, isNode, rfl, vertex⟩ := Workflow.vertex?_of_mem built
    (Workflow.endpoint?_mem valid (Workflow.mem_nodeIds_of_validate valid).1 arrives)
  simp only [Bool.false_eq_true, if_false, vertex]
  apply Calm.bind (runNode_executes plan node _)
  rintro more ⟨after, result⟩ calm ⟨outcome, executed, going⟩
  obtain ⟨rfl, learned⟩ := going (calm.tolerated _ (by simp [executed]))
  have executes : executions plan.settings (events ++ more) = [⟨node, run.context, outcome⟩] := by
    rw [executions_append, quiet, executed, List.nil_append]
  apply Calm.bind (follows ⟨⟨node, run.context, outcome⟩, here⟩ _ after executes rfl rfl
    ⟨isNode, rfl⟩ learned)
  rintro others ⟨last, ending⟩ calm followed
  have walked := followed calm
  rw [List.append_assoc] at walked
  cases ending with
  | ok _ => exact fun _ => by simpa using unmoved _ last.path.dropLast last walked
  | error error => exact fun _ => by simpa using walked

/-- What a walk may start from when it comes to a path. -/
structure Ready (workflow : Workflow) (input : Json) (here : List Nat) (nodeId : String)
    (past : List Step) (run : Run) : Prop where
  arrives : workflow.endpoint? workflow.trigger here = some nodeId
  ordered : past.Pairwise fun left right => left.path < right.path
  earlier : ∀ step ∈ past, step.path < here
  known : run.context = learnAll input past

namespace Ready

variable {workflow : Workflow} {input : Json} {here : List Nat} {nodeId : String}
  {past : List Step} {run : Run} {step : Step}

/-- A step at the path comes after all steps of the past. -/
theorem ordered_snoc (ready : Ready workflow input here nodeId past run) (ends : step.path = here) :
    (past ++ [step]).Pairwise fun left right => left.path < right.path := by
  refine List.pairwise_append.mpr ⟨ready.ordered, List.pairwise_singleton _ _, ?_⟩
  simpa [ends] using ready.earlier

/-- All these steps come before the branches that go on from the path. -/
theorem earlier_snoc (ready : Ready workflow input here nodeId past run) (ends : step.path = here)
    (position : Nat) : ∀ other ∈ past ++ [step], other.path < here ++ [position] := by
  have beyond : here < here ++ [position] := lt_of_begins (List.prefix_append _ _) (by simp)
  rw [List.forall_mem_append, List.forall_mem_singleton, ends]
  constructor
  · intro other member
    exact List.lt_trans (ready.earlier other member) beyond
  · exact beyond

end Ready

/-- Whoever replies, a part of a walk surveys a region if nothing stops it. -/
def Surveys (plan : Plan) (input : Json) (here : List Nat) (region : List Nat → Prop)
    (past : List Step) (events : List (Event surroundings)) (result : Run × Except RunError Unit) :
    Prop :=
  Calm plan.settings events → result.2 = .ok () ∧ ∃ new,
    Survey plan.workflow plan.settings input here region past new events result.1.context

/-- Following branches in turn surveys the paths along them, if every visit surveys
the paths beyond its branch. -/
theorem follow_surveys {plan : Plan} {input : Json} {here : List Nat} {reached : String}
    (arrives : plan.workflow.endpoint? plan.workflow.trigger here = some reached)
    {visit : String → Run → Action (Run × Except RunError Unit)}
    (visiting : ∀ position nodeId past run,
      Ready plan.workflow input (here ++ [position]) nodeId past run →
      (visit nodeId run).Ensures
        (Surveys plan input (here ++ [position]) (here ++ [position] <+: ·) past))
    (branches : List (Connection × Nat)) (declared : branches ⊆ plan.workflow.branches reached)
    (sorted : branches.Pairwise fun left right => left.2 < right.2) (past : List Step)
    (ordered : past.Pairwise fun left right => left.path < right.path)
    (earlier : ∀ step ∈ past, ∀ branch ∈ branches, step.path < here ++ [branch.2]) (run : Run)
    (known : run.context = learnAll input past) :
    (follow visit (branches.map Prod.fst) run).Ensures
      (Surveys plan input here (Along here branches) past) := by
  induction branches generalizing past run with
  | nil =>
      intro calm
      exact ⟨rfl, [], known ▸ .nil ordered⟩
  | cons branch branches ih =>
      obtain ⟨isBranch, declared⟩ := List.cons_subset.mp declared
      obtain ⟨before, sorted⟩ := List.pairwise_cons.mp sorted
      obtain ⟨isDeclared, -⟩ := Workflow.mem_branches.mp isBranch
      have here_earlier : ∀ step ∈ past, step.path < here ++ [branch.2] := fun step member =>
        earlier step member branch List.mem_cons_self
      have rest_earlier : ∀ step ∈ past, ∀ other ∈ branches, step.path < here ++ [other.2] :=
        fun step member other isOther => earlier step member other (List.mem_cons_of_mem _ isOther)
      rw [List.map_cons, follow]
      split
      next guard fails =>
        obtain ⟨hasGuard, shut⟩ := Option.filter_eq_some_iff.mp fails
        apply Calm.bind (runNote_aside run _ _ _)
        rintro events skipped - ⟨aside, same⟩
        apply (ih declared sorted past ordered rest_earlier skipped (same.trans known)).mono
        intro more result remaining calm
        obtain ⟨ended, new, survey⟩ := remaining calm
        refine ⟨ended, new, survey.skip before here_earlier (executions_of_aside aside) ?_⟩
        intro passes
        have holds := passes branch.1 guard isDeclared hasGuard
        rw [← known] at holds
        simp [holds] at shut
      next holds =>
        have passes : plan.workflow.Passes branch.2 (learnAll input past) := by
          intro connection guard same hasGuard
          obtain rfl := Option.some.inj (isDeclared.symm.trans same)
          simpa [known] using Option.filter_eq_none_iff.mp holds guard hasGuard
        apply Calm.bind (visiting branch.2 branch.1.target past run
          ⟨Workflow.endpoint?_snoc arrives isBranch, ordered, here_earlier, known⟩)
        rintro events ⟨after, outcome⟩ calm visited
        obtain ⟨rfl, new, survey⟩ := visited calm
        refine (ih declared sorted (past ++ new) survey.ordered ?_ after survey.known).mono
          fun more result remaining calm => ?_
        · rw [List.forall_mem_append]
          constructor
          · exact rest_earlier
          · intro step member other isOther
            exact lt_of_branches (before other isOther) (survey.within step member) List.prefix_rfl
        · obtain ⟨ended, rest, surveyRest⟩ := remaining calm
          exact ⟨ended, new ++ rest, survey.append before here_earlier passes surveyRest⟩

/-- A walk of a valid workflow from a path on surveys all paths beyond it, if none is
longer than the walk may be. -/
theorem walk_surveys {plan : Plan} (valid : plan.workflow.validate = .ok ())
    (built : Graph.build plan.workflow = .ok plan.graph)
    (bounded : ∀ path, (plan.workflow.endpoint? plan.workflow.trigger path).isSome = true →
      path.length ≤ plan.settings.maxDepth) (input : Json) (allowed : Nat) (here : List Nat)
    (nodeId : String) (depth : allowed + here.length = plan.settings.maxDepth + 1)
    (past : List Step) (run : Run) (ready : Ready plan.workflow input here nodeId past run) :
    (walk plan allowed nodeId run).Ensures (Surveys plan input here (here <+: ·) past) := by
  induction allowed generalizing here nodeId past run with
  | zero =>
      have short := bounded here (by simp [ready.arrives])
      omega
  | succ allowed ih =>
      refine walk_calm valid built ready.arrives run (fun _ _ _ surveyed => surveyed) fun step events
        after executes ends informed isNode learned => ?_
      have known : after.context = learnAll input (past ++ [step]) := by
        rw [learned, learnAll_snoc, ← ready.known]
      subst ends
      apply (follow_surveys ready.arrives (fun position nodeId past run ready =>
        ih (step.path ++ [position]) nodeId (by simp; omega) past run ready) _ (List.Subset.refl _)
        (Workflow.branches_pairwise _) _ (ready.ordered_snoc rfl)
        (fun other member branch _ => ready.earlier_snoc rfl branch.2 other member) after known).mono
      intro more result followed calm
      obtain ⟨ended, new, survey⟩ := followed calm
      exact ⟨ended, step :: new, .cons ready.arrives ready.earlier executes isNode
        (informed.trans ready.known) survey⟩

end Engine

end Flowline
