import Flowline.Proofs.Engine.Alarm

/-!
# Attempts at a node

All attempts that one execution makes are at one node and in one context, numbered from
one, and the error handlers that its failure calls follow them.  So every attempt of a
run is made for an execution.
-/

namespace Flowline.Engine

open Program

/-- So many attempts at a node, one after the other. -/
def tries (settings : Settings) (node : Node) (context : Context) (number count : Nat) :
    List Attempt :=
  (List.range' number count).map fun number =>
    ⟨.step, node, context, number, (AttemptPolicy.forNode node settings).timeout⟩

/-- What an execution attempts: its node several times, and then what its failure calls. -/
def Executed.Attempts (settings : Settings) (workflow : Workflow) (id : ExecutionId)
    (executed : Executed) (attempted : List Attempt) : Prop :=
  ∃ count, 0 < count ∧ count ≤ (AttemptPolicy.forNode executed.node settings).maxAttempts ∧
    attempted = tries settings executed.node executed.context 1 count ++
      executed.alarms settings workflow id

/-- Steps of the walk are attempted for executions. -/
def Attributed (settings : Settings) (events : List (Event surroundings)) : Prop :=
  ∀ attempt ∈ attempts events, attempt.role = .step →
    ∃ executed ∈ executions settings events,
      executed.node = attempt.node ∧ executed.context = attempt.context

variable {settings : Settings} {workflow : Workflow} {id : ExecutionId}
  {events more : List (Event surroundings)}

theorem tries_succ (node : Node) (context : Context) (number count : Nat) :
    tries settings node context number (count + 1) =
      ⟨.step, node, context, number, (AttemptPolicy.forNode node settings).timeout⟩ ::
        tries settings node context (number + 1) count := by
  simp [tries, List.range'_succ]

theorem mem_tries {node : Node} {context : Context} {number count : Nat} {attempt : Attempt}
    (member : attempt ∈ tries settings node context number count) :
    attempt.role = .step ∧ attempt.node = node ∧ attempt.context = context := by
  obtain ⟨_, -, rfl⟩ := List.mem_map.mp member
  exact ⟨rfl, rfl, rfl⟩

theorem Tried.tries {node : Node} {context : Context} {left number : Nat} {record : Execution}
    {result : Execution × Except NodeFailure Json}
    (tried : Tried node context (.forNode node settings) left number record events result) :
    ∃ count, 0 < count ∧ count ≤ 1 + left ∧
      attempts events = Engine.tries settings node context number count := by
  induction tried with
  | succeeds _ _ => exact ⟨1, by simp, by simp, rfl⟩
  | fails _ _ _ => exact ⟨1, by simp, by simp, rfl⟩
  | retries left number _ _ _ ih =>
      obtain ⟨count, positive, few, tried⟩ := ih
      exact ⟨count + 1, by simp, by omega, by simp [tried, tries_succ]⟩

theorem Ran.attempts {plan : Plan} {node : Node} {run : Run} {outcome : Except NodeError Json}
    {result : Run × Except RunError Unit} (ran : Ran plan node run outcome events result) :
    Executed.Attempts plan.settings plan.workflow run.record.id ⟨node, run.context, outcome⟩
      (Engine.attempts events) := by
  have total := (AttemptPolicy.forNode node plan.settings).one_add_left
  cases ran with
  | completes value tried =>
      obtain ⟨count, positive, few, attempted⟩ := tried.tries
      exact ⟨count, positive, few.trans_eq total, by simp [attempted, Executed.alarms]⟩
  | continues failure _ tried told =>
      obtain ⟨count, positive, few, attempted⟩ := tried.tries
      exact ⟨count, positive, few.trans_eq total, by simp [attempted, (told.alarms (.inr rfl)).1]⟩
  | stops failure _ tried told =>
      obtain ⟨count, positive, few, attempted⟩ := tried.tries
      exact ⟨count, positive, few.trans_eq total, by simp [attempted, (told.alarms (.inl rfl)).1]⟩

/-- Running a node attempts what its execution does. -/
theorem runNode_attempts (plan : Plan) (node : Node) (run : Run) :
    (runNode plan node run).Ensures fun events _ =>
      ∃ outcome, executions plan.settings events = [⟨node, run.context, outcome⟩] ∧
        Executed.Attempts plan.settings plan.workflow run.record.id ⟨node, run.context, outcome⟩
          (attempts events) := by
  apply (runNode_ran plan node run).mono
  rintro events result ⟨outcome, ran⟩
  exact ⟨outcome, ran.executes, ran.attempts⟩

/-! ## Every attempt is made for an execution -/

theorem Attributed.append (earlier : Attributed settings events)
    (later : Attributed settings more) : Attributed settings (events ++ more) := by
  intro attempt member step
  rw [attempts_append, List.mem_append] at member
  rw [executions_append]
  rcases member with member | member
  · obtain ⟨executed, among, same⟩ := earlier attempt member step
    exact ⟨executed, List.mem_append_left _ among, same⟩
  · obtain ⟨executed, among, same⟩ := later attempt member step
    exact ⟨executed, List.mem_append_right _ among, same⟩

theorem Attributed.of_unattempted (nothing : attempts events = []) :
    Attributed settings events := by
  simp [Attributed, nothing]

theorem composable_attributed :
    Composable fun events _ _ _ => Attributed settings events where
  idle _ := .of_unattempted rfl
  append earlier later := earlier.append later

theorem Executed.role_of_mem_alarms {executed : Executed} {attempt : Attempt}
    (member : attempt ∈ executed.alarms settings workflow id) : attempt.role = .errorHandler := by
  unfold Executed.alarms at member
  split at member
  · cases member
  · obtain ⟨handler, -, rfl⟩ := List.mem_map.mp member
    rfl

theorem runNode_attributed (plan : Plan) (node : Node) (run : Run) :
    (runNode plan node run).Ensures fun events _ => Attributed plan.settings events := by
  apply (runNode_attempts plan node run).mono
  rintro events result ⟨outcome, executed, count, -, -, attempted⟩ attempt member step
  rw [attempted, List.mem_append] at member
  rcases member with member | member
  · obtain ⟨-, sameNode, sameContext⟩ := mem_tries member
    exact ⟨_, executed ▸ List.mem_singleton_self _, sameNode.symm, sameContext.symm⟩
  · cases step.symm.trans (Executed.role_of_mem_alarms member)

theorem walk_attributed (plan : Plan) (allowed : Nat) (nodeId : String) (run : Run) :
    (walk plan allowed nodeId run).Ensures fun events _ => Attributed plan.settings events := by
  refine walk_ensures composable_attributed ?_ ?_ ?_ ?_ (runNode_attributed plan) ?_ allowed
    nodeId run
  · exact fun _ _ => .of_unattempted rfl
  · intro run
    unfold isCancelled
    split
    · intro reply
      cases reply <;> exact .of_unattempted rfl
    · exact .of_unattempted rfl
  · exact fun _ _ => .of_unattempted rfl
  · exact fun _ _ => .of_unattempted rfl
  · exact fun run message nodeId => (runNote_unattempted run .info message nodeId).mono
      fun _ _ noted => .of_unattempted noted.1

/-! ## Nothing is attempted around a walk -/

theorem attempts_of_clock (clock : ∀ event ∈ events, event.asked = .now) : attempts events = [] :=
  attempts_eq_nil_iff.mpr fun event member attempt same => by
    simp [clock event member] at same

theorem executions_of_unattempted (nothing : attempts events = []) :
    executions settings events = [] :=
  executions_of_aside fun event member =>
    Request.aside_of_ne (attempts_eq_nil_iff.mp nothing event member)

/-- What a run does before its walk and after it attempts nothing. -/
theorem Walked.surrounded {input : Json} {record : Execution} {walked : List (Event surroundings)}
    {outcome : Except RunError Unit}
    (yields : (execute settings workflow id input).Yields events record)
    (walks : Walked settings workflow id input events walked outcome) :
    ∃ before after, events = before ++ (walked ++ after) ∧ attempts before = [] ∧
      attempts after = [] := by
  obtain ⟨course⟩ := exists_course yields
  obtain ⟨graph, inspected, noted, run, -, middle, inspects, -⟩ := course.middle_of_walked walks
  obtain ⟨before, after⟩ := List.forall_mem_append.mp course.unattempted_around
  refine ⟨course.before ++ inspected, course.closing ++ course.written, ?_, ?_,
    attempts_eq_nil_iff.mpr after⟩
  · simp [course.events_eq, middle]
  · rw [attempts_append, attempts_eq_nil_iff.mpr before,
      attempts_of_clock ((inspect_tells _ _).of_yields inspects).clock, List.append_nil]

/-- A run attempts what its walk attempts. -/
theorem Walked.attempts_eq {input : Json} {record : Execution}
    {walked : List (Event surroundings)} {outcome : Except RunError Unit}
    (walks : Walked settings workflow id input events walked outcome)
    (yields : (execute settings workflow id input).Yields events record) :
    attempts events = attempts walked := by
  obtain ⟨before, after, rfl, idleBefore, idleAfter⟩ := walks.surrounded yields
  rw [attempts_append, attempts_append, idleBefore, idleAfter, List.nil_append, List.append_nil]

/-- A run executes what its walk executes. -/
theorem Walked.executions_eq {input : Json} {record : Execution}
    {walked : List (Event surroundings)} {outcome : Except RunError Unit}
    (walks : Walked settings workflow id input events walked outcome)
    (yields : (execute settings workflow id input).Yields events record) :
    executions settings events = executions settings walked := by
  obtain ⟨before, after, rfl, idleBefore, idleAfter⟩ := walks.surrounded yields
  rw [executions_append, executions_append, executions_of_unattempted idleBefore,
    executions_of_unattempted idleAfter, List.nil_append, List.append_nil]

/-- Every step that a run attempts is made for one of its executions. -/
theorem Walked.attributed {input : Json} {record : Execution}
    {walked : List (Event surroundings)} {outcome : Except RunError Unit}
    (walks : Walked settings workflow id input events walked outcome)
    (yields : (execute settings workflow id input).Yields events record) :
    Attributed settings events := by
  obtain ⟨before, after, rfl, idleBefore, idleAfter⟩ := walks.surrounded yields
  obtain ⟨_, _, _, goes, _⟩ := walks
  exact (Attributed.of_unattempted idleBefore).append
    (((walk_attributed _ _ _ _).of_yields goes).append (.of_unattempted idleAfter))

end Flowline.Engine
