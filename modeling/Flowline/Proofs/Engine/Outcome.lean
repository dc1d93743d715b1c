import Flowline.Proofs.Engine.Finalisation

/-!
# What a run ends with

Every trace of a run is the trace of its parts one after the other.  The status
that a run ends with is that of its walk, unless a write was refused because the
record had moved on.
-/

namespace Flowline.Engine

open Program Execution Flowline.Engine.Action

/-! ## Up to the end of the walk -/

theorem warnAll_tells {messages : List String}
    (others : ∀ message ∈ messages, message ≠ LogLine.cancellation) (record : Execution) :
    (warnAll messages record).Ensures fun events after => Tells events record after := by
  induction messages generalizing record with
  | nil => exact .nil record
  | cons message rest ih =>
      obtain ⟨other, others⟩ := List.forall_mem_cons.mp others
      exact Ensures.bind (note_tells record .warn other) fun events noted first =>
        (ih others noted).mono fun more after second => first.append second

theorem inspect_tells (plan : Plan) (record : Execution) :
    (inspect plan record).Ensures fun events after => Tells events record after := by
  rw [inspect_eq]
  refine warnAll_tells (fun message member => ?_) record
  simp only [Plan.warnings, List.mem_append, List.mem_ite_nil_left, List.mem_ite_nil_right,
    List.mem_singleton] at member
  rcases member with (⟨-, rfl⟩ | ⟨-, rfl⟩) | ⟨-, rfl⟩
  · rw [String.append_assoc]
    exact LogLine.append_ne_cancellation (by decide) _
  · exact LogLine.append_ne_cancellation (by decide) _
  · exact LogLine.append_ne_cancellation (by decide) _

variable {settings : Settings} {workflow : Workflow} {id : ExecutionId} {input : Json}

theorem build_eq (workflow : Workflow) :
    (∃ error, workflow.validate = .error error ∧ Graph.build workflow = .error error) ∨
      ∃ graph, workflow.validate = .ok () ∧ Graph.build workflow = .ok graph := by
  unfold Graph.build
  cases workflow.validate with
  | error error => exact .inl ⟨error, rfl, rfl⟩
  | ok _ => exact .inr ⟨_, rfl, rfl⟩

/-- A workflow that is not valid is not walked through at all. -/
theorem traverse_yields {stored : Bool} {record : Execution} {events : List (Event surroundings)}
    {walked : Execution × Except RunError Unit}
    (yields : (traverse settings workflow input stored record).Yields events walked) :
    (∃ error, workflow.validate = .error error ∧ events = [] ∧
      walked = (record, .error (.invalidWorkflow error.message))) ∨
    ∃ graph inspected noted steps run, workflow.validate = .ok () ∧
      Graph.build workflow = .ok graph ∧ events = inspected ++ steps ∧
      (inspect ⟨workflow, graph, settings, stored⟩ record).Yields inspected noted ∧
      (walkAll ⟨workflow, graph, settings, stored⟩ ⟨noted, .start input, []⟩).Yields steps
        (run, walked.2) ∧
      walked.1 = run.record := by
  unfold traverse at yields
  rcases build_eq workflow with ⟨error, invalid, built⟩ | ⟨graph, valid, built⟩
  · rw [built] at yields
    cases yields
    exact .inl ⟨error, invalid, rfl, rfl⟩
  · rw [built] at yields
    obtain ⟨inspected, noted, rest, rfl, inspects, yields⟩ := yields.of_bind
    obtain ⟨steps, ⟨run, outcome⟩, last, rfl, walks, yields⟩ := yields.of_bind
    cases yields
    exact .inr ⟨graph, inspected, noted, steps, run, valid, built, by simp, inspects, walks, rfl⟩

/-- Up to the end of the walk the log of the record grows, nothing is written, and
the walk only ends as cancelled if it has read the record as cancelled. -/
theorem traverse_grown (settings : Settings) (workflow : Workflow) (input : Json) (stored : Bool)
    (record : Execution) :
    (traverse settings workflow input stored record).Ensures fun events walked =>
      record.Grown LogLine.OfRun walked.1 ∧ (∀ event ∈ events, event.asked.Quiet record.id) ∧
        (walked.2 = .error .cancelled →
          ∃ held, ⟨.load record.id, .ok held⟩ ∈ events ∧ held.record.status = .cancelled) := by
  apply (ensures_iff _ _).mpr
  intro events walked yields
  rcases traverse_yields yields with
    ⟨error, -, rfl, rfl⟩ | ⟨graph, inspected, noted, steps, run, -, -, rfl, inspects, walks, same⟩
  · exact ⟨.refl record, by simp⟩
  · have told := (inspect_tells _ _).of_yields inspects
    have passage := (walk_passage _ _ _ _).of_yields walks
    rw [same]
    refine ⟨told.grown.trans (passage.grown.mono fun _ => LogLine.AboutNode.ofRun), ?_, ?_⟩
    · intro event member
      rcases List.mem_append.mp member with member | member
      · simp [told.clock event member, Request.Quiet]
      · simpa [told.grown.id_eq] using passage.quiet event member
    · intro cancelled
      obtain ⟨held, member, status⟩ := passage.cancelled_iff.mp cancelled
      rw [told.grown.id_eq] at member
      exact ⟨held, List.mem_append_right _ member, status⟩

/-- What a run asks during its walk, and how the walk ends. -/
inductive Walked (settings : Settings) (workflow : Workflow) (id : ExecutionId) (input : Json)
    (events walked : List (Event surroundings)) (outcome : Except RunError Unit) : Prop where
  | intro {graph : Graph} {before inspected after : List (Event surroundings)}
      {opened : Execution × Option Revision} {noted : Execution} {run : Run}
      (built : Graph.build workflow = .ok graph)
      (opens : (opening workflow id).Yields before opened)
      (inspects : (inspect ⟨workflow, graph, settings, opened.2.isSome⟩ opened.1).Yields
        inspected noted)
      (walks : (walkAll ⟨workflow, graph, settings, opened.2.isSome⟩
        ⟨noted, .start input, []⟩).Yields walked (run, outcome))
      (parts : events = before ++ (inspected ++ (walked ++ after)))

/-- A run makes one walk. -/
theorem Walked.unique {events walked other : List (Event surroundings)}
    {outcome result : Except RunError Unit}
    (first : Walked settings workflow id input events walked outcome)
    (second : Walked settings workflow id input events other result) :
    walked = other ∧ outcome = result := by
  obtain ⟨built, opens, inspects, walks, rfl⟩ := first
  obtain ⟨builtAgain, opensAgain, inspectsAgain, walksAgain, parts⟩ := second
  obtain rfl := Except.ok.inj (built.symm.trans builtAgain)
  obtain ⟨-, rfl, parts⟩ := opens.unique opensAgain parts
  obtain ⟨-, rfl, parts⟩ := inspects.unique inspectsAgain parts
  obtain ⟨same, results, -⟩ := walks.unique walksAgain parts
  exact ⟨same, (Prod.mk.inj results).2⟩

/-- The walk of a run whose requests are answered by a function ends as the part of the run does
that it is in. -/
theorem exists_walked_trace (settings : Settings) (id : ExecutionId) (input : Json)
    (valid : workflow.validate = .ok ()) (answer : (asked : Request) → Reply asked) :
    let opened := ((opening workflow id).trace answer).2
    ∃ walked, Walked settings workflow id input
      ((execute settings workflow id input).trace answer).1 walked
      ((traverse settings workflow input opened.2.isSome opened.1).trace answer).2.2 := by
  intro opened
  have opens := trace_yields answer (opening workflow id)
  have traverses := trace_yields answer (traverse settings workflow input opened.2.isSome opened.1)
  rcases traverse_yields traverses with
    ⟨error, invalid, -, -⟩ | ⟨graph, inspected, noted, steps, run, -, built, parts, inspects, goes, -⟩
  · simp [valid] at invalid
  · obtain ⟨after, whole⟩ : ∃ after, ((execute settings workflow id input).trace answer).1 =
        ((opening workflow id).trace answer).1 ++ (inspected ++ steps ++ after) := by
      rw [execute_eq, trace_bind, trace_bind, ← parts]
      exact ⟨_, rfl⟩
    rw [List.append_assoc] at whole
    exact ⟨steps, .intro built opens inspects goes whole⟩

/-! ## The run as a whole -/

theorem statusOf_eq_success {outcome : Except RunError Unit} :
    statusOf outcome = .success ↔ outcome = .ok () := by
  unfold statusOf
  split <;> simp_all

theorem statusOf_eq_cancelled {outcome : Except RunError Unit} :
    statusOf outcome = .cancelled ↔ outcome = .error .cancelled := by
  unfold statusOf
  split <;> simp_all

/-- The parts of a run in order, each with its events and with what it leaves. -/
structure Course (settings : Settings) (workflow : Workflow) (id : ExecutionId) (input : Json)
    (events : List (Event surroundings)) (record : Execution) where
  before : List (Event surroundings)
  opened : Execution × Option Revision
  middle : List (Event surroundings)
  walked : Execution × Except RunError Unit
  closing : List (Event surroundings)
  finished : Execution
  written : List (Event surroundings)
  events_eq : events = before ++ (middle ++ (closing ++ written))
  opens : (opening workflow id).Yields before opened
  walks : (traverse settings workflow input opened.2.isSome opened.1).Yields middle walked
  finishes : (finish walked.1 walked.2).Yields closing finished
  persists : (persist finished opened.2).Yields written record

variable {events : List (Event surroundings)} {record : Execution}

theorem exists_course (yields : (execute settings workflow id input).Yields events record) :
    Nonempty (Course settings workflow id input events record) := by
  rw [execute_eq] at yields
  obtain ⟨before, opened, rest, rfl, opens, yields⟩ := yields.of_bind
  obtain ⟨middle, walked, rest, rfl, walks, yields⟩ := yields.of_bind
  obtain ⟨closing, finished, written, rfl, finishes, persists⟩ := yields.of_bind
  exact ⟨before, opened, middle, walked, closing, finished, written, rfl, opens, walks, finishes,
    persists⟩

namespace Course

variable (course : Course settings workflow id input events record)

theorem opened_running : Running id course.opened.1 :=
  ((opening_running workflow id).of_yields course.opens).1

theorem walked_running : Running id course.walked.1 :=
  course.opened_running.of_grown ((traverse_grown _ _ _ _ _).of_yields course.walks).1

theorem ended : Ended course.walked.1 course.walked.2 course.finished :=
  ((finish_ended course.walked_running _).of_yields course.finishes).1

theorem settled : Settled course.finished course.written record :=
  ((persist_settled course.ended.toFinalised _).of_yields course.persists).1

theorem finished_id : course.finished.id = id :=
  course.ended.id_eq.trans course.walked_running.id_eq

/-- Unless a write conflicts, the record ends as its walk does. -/
theorem status_eq (unconflicted : ∀ event ∈ events, ¬ Conflicted event) :
    record.status = statusOf course.walked.2 ∧
      (record.error.isSome = true ↔ record.status = .failed) := by
  have among : ∀ event ∈ course.written, event ∈ events := by
    intro event member
    simp [course.events_eq, member]
  obtain ⟨status, error, -⟩ :=
    ((persist_settled course.ended.toFinalised _).of_yields course.persists).2
      fun event member => unconflicted event (among event member)
  rw [status, error]
  exact ⟨course.ended.status_eq, course.ended.error_isSome⟩

/-- A workflow that is not valid is not walked through; any other one is, and the
walk ends as cancelled exactly if it has read the record as cancelled. -/
theorem invalid_or_walked :
    (∃ error, workflow.validate = .error error ∧ course.middle = [] ∧
      course.walked.2 = .error (.invalidWorkflow error.message)) ∨
    (workflow.validate = .ok () ∧ ∃ steps,
      Walked settings workflow id input events steps course.walked.2 ∧
      (course.walked.2 = .error .cancelled ↔
        ∃ held, ⟨.load id, .ok held⟩ ∈ steps ∧ held.record.status = .cancelled)) := by
  rcases traverse_yields course.walks with
    ⟨error, invalid, nothing, walked⟩ |
      ⟨graph, inspected, noted, steps, run, valid, built, middle, inspects, walks, -⟩
  · exact .inl ⟨error, invalid, nothing, by rw [walked]⟩
  · have whole := course.events_eq
    rw [middle, List.append_assoc] at whole
    refine .inr ⟨valid, steps, .intro built course.opens inspects walks whole, ?_⟩
    have told := (inspect_tells _ _).of_yields inspects
    have passage := (walk_passage _ _ _ _).of_yields walks
    rw [passage.cancelled_iff, told.grown.id_eq.trans course.opened_running.id_eq]

/-- The walk of a run is what its middle part asks behind the survey of the workflow. -/
theorem middle_of_walked {walked : List (Event surroundings)} {outcome : Except RunError Unit}
    (walks : Walked settings workflow id input events walked outcome) :
    ∃ graph inspected noted run, Graph.build workflow = .ok graph ∧
      course.middle = inspected ++ walked ∧
      (inspect ⟨workflow, graph, settings, course.opened.2.isSome⟩ course.opened.1).Yields
        inspected noted ∧
      (walkAll ⟨workflow, graph, settings, course.opened.2.isSome⟩ ⟨noted, .start input, []⟩).Yields
        walked (run, outcome) ∧
      course.walked = (run.record, outcome) := by
  rcases traverse_yields course.walks with
    ⟨error, invalid, -, -⟩ |
      ⟨graph, inspected, noted, steps, run, -, built, middle, inspects, goes, left⟩
  · obtain ⟨built, -⟩ := walks
    simp [Graph.build, invalid] at built
  · have whole := course.events_eq
    rw [middle, List.append_assoc] at whole
    obtain ⟨rfl, rfl⟩ := walks.unique (.intro built course.opens inspects goes whole)
    exact ⟨graph, inspected, noted, run, built, middle, inspects, goes, Prod.ext left rfl⟩

theorem success_iff : course.walked.2 = .ok () ↔
    workflow.validate = .ok () ∧
      ∃ steps, Walked settings workflow id input events steps (.ok ()) := by
  rcases course.invalid_or_walked with ⟨error, invalid, -, outcome⟩ | ⟨valid, steps, walked, -⟩
  · simp [outcome, invalid]
  · constructor
    · intro outcome
      exact ⟨valid, steps, outcome ▸ walked⟩
    · rintro ⟨-, others, succeeded⟩
      exact (walked.unique succeeded).2

theorem cancelled_iff : course.walked.2 = .error .cancelled ↔
    ∃ steps outcome held, Walked settings workflow id input events steps outcome ∧
      ⟨.load id, .ok held⟩ ∈ steps ∧ held.record.status = .cancelled := by
  rcases course.invalid_or_walked with ⟨error, invalid, -, outcome⟩ | ⟨-, steps, walked, iff⟩
  · constructor
    · intro cancelled
      rw [outcome] at cancelled
      cases cancelled
    · rintro ⟨steps, other, held, ⟨built, -, -, -, -⟩, -⟩
      simp [Graph.build, invalid] at built
  · rw [iff]
    constructor
    · rintro ⟨held, member, cancelled⟩
      exact ⟨steps, _, held, walked, member, cancelled⟩
    · rintro ⟨others, outcome, held, again, member, cancelled⟩
      obtain ⟨rfl, -⟩ := walked.unique again
      exact ⟨held, member, cancelled⟩

include course

/-- Only the walk attempts nodes. -/
theorem unattempted_around : ∀ event ∈ course.before ++ (course.closing ++ course.written),
    ∀ attempt, event.asked ≠ .attempt attempt := by
  intro event member attempt same
  rw [List.mem_append, List.mem_append] at member
  rcases member with member | member | member
  · have unseeing := ((opening_running workflow id).of_yields course.opens).2 event member
    simp [same, Request.Unseeing] at unseeing
  · have clock := ((finish_ended course.walked_running _).of_yields course.finishes).2 event member
    simp [same] at clock
  · exact course.settled.unattempted event member attempt same

/-- No node of a workflow that is not valid is attempted. -/
theorem unattempted {error : GraphError} (invalid : workflow.validate = .error error) :
    ∀ event ∈ events, ∀ attempt, event.asked ≠ .attempt attempt := by
  have nothing : course.middle = [] := by
    rcases course.invalid_or_walked with ⟨_, -, nothing, -⟩ | ⟨valid, -⟩
    · exact nothing
    · simp [invalid] at valid
  rw [course.events_eq, nothing, List.nil_append]
  exact course.unattempted_around

/-- A run ends as its walk does, unless the store had another final status for its
record when a write conflicted. -/
theorem status_eq_or_read : record.status = statusOf course.walked.2 ∨
    (∃ event ∈ events, Conflicted event) ∧ ReadFinal id record.status events := by
  by_cases conflicted : ∃ event ∈ events, Conflicted event
  · rcases course.settled.status_eq with kept | ⟨held, member, final⟩
    · exact .inl (kept.trans course.ended.status_eq)
    · refine .inr ⟨conflicted, held, ?_, final⟩
      rw [course.finished_id] at member
      simp [course.events_eq, member]
  · simp only [not_exists, not_and] at conflicted
    exact .inl (course.status_eq conflicted).1

theorem failed_of_invalid {error : GraphError} (invalid : workflow.validate = .error error) :
    record.status = .failed ∨
      (∃ event ∈ events, Conflicted event) ∧ ReadFinal id record.status events := by
  have failed : statusOf course.walked.2 = .failed := by
    rcases course.invalid_or_walked with ⟨_, -, -, outcome⟩ | ⟨valid, -⟩
    · rw [outcome]
      rfl
    · simp [invalid] at valid
  exact failed ▸ course.status_eq_or_read

end Course

/-- A workflow without nodes. -/
def bare : Workflow where
  id := ⟨⟨0⟩⟩
  name := "bare"
  nodes := []
  trigger := "start"
  createdAt := ⟨0, 0⟩
  updatedAt := ⟨0, 0⟩

end Flowline.Engine
