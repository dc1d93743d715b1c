import Mathlib.Order.Lattice
import Flowline.Proofs.Execution.Growth

/-!
# The life of a record

A record is begun, moved from status to status and written into, in any order and by any clock.
What may not be done is refused and leaves the record alone, so its status, its times and its
error always fit together, and nothing of them changes once it is final.
-/

namespace Flowline.Execution

/-! ## What is done with a record -/

/-- What may be asked of a record. -/
inductive Operation where
  | start
  | transition (next : Status)
  | fail (summary : ErrorSummary)
  | cancel
  | log (level : LogLevel) (message : String) (nodeId : Option String)
  deriving DecidableEq, Repr

/-- The status that an operation is to lead to, if it is to lead to one. -/
def Operation.target? : Operation → Option Status
  | start => some .running
  | transition next => some next
  | fail _ => some .failed
  | cancel => some .cancelled
  | log _ _ _ => none

/-- An operation and what the clock shows at it. -/
structure Deed where
  operation : Operation
  time : Instant
  deriving DecidableEq, Repr

/-- What comes of an operation. -/
def perform (record : Execution) (deed : Deed) : Except TransitionError Execution :=
  match deed.operation with
  | .start => record.start deed.time
  | .transition next => record.transition next deed.time
  | .fail summary => record.fail summary deed.time
  | .cancel => record.cancel deed.time
  | .log level message nodeId => .ok (record.log level message nodeId deed.time)

/-- The record behind an operation: whoever is refused goes on with the record as it was. -/
def after (record : Execution) (deed : Deed) : Execution :=
  match record.perform deed with
  | .ok changed => changed
  | .error _ => record

/-- The record behind some operations in a row. -/
def afterAll (record : Execution) (deeds : List Deed) : Execution := deeds.foldl after record

/-! ## What holds of it -/

/-- Which run of which workflow a record is about. -/
structure Subject where
  id : ExecutionId
  workflowId : WorkflowId
  workflowName : String
  workflowVersion : Nat
  deriving DecidableEq, Repr

def subject (record : Execution) : Subject :=
  ⟨record.id, record.workflowId, record.workflowName, record.workflowVersion⟩

/-- A record whose status, times and error fit together. -/
structure WellKept (record : Execution) : Prop where
  completed_iff : record.completedAt.isSome = true ↔ record.status.isFinal = true
  timed_iff : record.duration.isSome = true ↔ record.status.isFinal = true
  /-- The whole milliseconds from start to completion, and none if the clock went backwards. -/
  duration_eq : ∀ {completed duration}, record.completedAt = some completed →
    record.duration = some duration →
    (duration : Int) = max 0 ((completed.position - record.startedAt.position) / 1000000)
  failed_of_error : record.error.isSome = true → record.status = .failed

/-- What stays between two moments in the life of a record. -/
structure Outlives (before after : Execution) : Prop where
  subject_eq : after.subject = before.subject
  logs_prefix : before.logs <+: after.logs
  /-- A record that is final only grows in its log. -/
  settled : before.status.isFinal = true → after = { before with logs := after.logs }

theorem Outlives.refl (record : Execution) : record.Outlives record :=
  ⟨rfl, List.prefix_rfl, fun _ => rfl⟩

theorem Outlives.trans {first second third : Execution} (earlier : first.Outlives second)
    (later : second.Outlives third) : first.Outlives third where
  subject_eq := later.subject_eq.trans earlier.subject_eq
  logs_prefix := earlier.logs_prefix.trans later.logs_prefix
  settled final := by
    have same := earlier.settled final
    have still : second.status.isFinal = true := by rwa [same]
    rw [later.settled still, same]

theorem wellKept_new (workflow : Workflow) (id : ExecutionId) (created : Instant) :
    WellKept (workflow.newExecution id created) := by
  constructor <;> simp [Workflow.newExecution, Status.isFinal]

theorem subject_new (workflow : Workflow) (id : ExecutionId) (created : Instant) :
    (workflow.newExecution id created).subject =
      ⟨id, workflow.id, workflow.name, workflow.version⟩ := rfl

/-! ## One operation -/

variable {record : Execution}

theorem WellKept.log (kept : record.WellKept) (level : LogLevel) (message : String)
    (nodeId : Option String) (time : Instant) : (record.log level message nodeId time).WellKept :=
  ⟨kept.completed_iff, kept.timed_iff, kept.duration_eq, kept.failed_of_error⟩

theorem outlives_log (record : Execution) (level : LogLevel) (message : String)
    (nodeId : Option String) (time : Instant) :
    record.Outlives (record.log level message nodeId time) :=
  ⟨rfl, List.prefix_append _ _, fun _ => rfl⟩

theorem WellKept.enter (kept : record.WellKept) {next : Status}
    (allowed : record.status.allows next = true) (time : Instant) :
    (record.enter next time).WellKept := by
  have unfinal : record.status.isFinal = false := by
    cases final : record.status.isFinal with
    | false => rfl
    | true => simp [Status.allows_eq_false_of_isFinal final] at allowed
  have incomplete : record.completedAt = none := by simpa [unfinal] using kept.completed_iff
  have untimed : record.duration = none := by simpa [unfinal] using kept.timed_iff
  have unfailed : record.error = none := by
    rw [Option.eq_none_iff_forall_ne_some]
    intro error held
    have failed := kept.failed_of_error (by simp [held])
    simp [failed, Status.isFinal] at unfinal
  by_cases final : next.isFinal = true
  · refine ⟨by simp [Execution.enter, final], by simp [Execution.enter, final], ?_, ?_⟩
    · simp only [Execution.enter, final, if_true, Option.some.injEq]
      rintro _ _ rfl rfl
      exact (Int.toNat_eq_max _).trans (max_comm _ _)
    · simp [unfailed]
  · refine ⟨?_, ?_, ?_, ?_⟩ <;> simp [Execution.enter, final, incomplete, untimed, unfailed]

theorem enter_outlives {next : Status} (allowed : record.status.allows next = true)
    (time : Instant) : record.Outlives (record.enter next time) where
  subject_eq := by cases next <;> rfl
  logs_prefix := (enter_logs record next time).symm ▸ List.prefix_rfl
  settled final := by simp [Status.allows_eq_false_of_isFinal final] at allowed

/-- An operation is refused exactly if it is to lead to a status that may not be entered, and
says which status that is and which one the record has. -/
theorem perform_eq_error {deed : Deed} {error : TransitionError} :
    record.perform deed = .error error ↔ ∃ target, deed.operation.target? = some target ∧
      record.status.allows target = false ∧ error = ⟨record.status, target⟩ := by
  obtain ⟨operation, time⟩ := deed
  have moves (target : Status) : record.transition target time = .error error ↔
      record.status.allows target = false ∧ error = ⟨record.status, target⟩ := by
    unfold transition
    by_cases allowed : record.status.allows target = true
    · simp [allowed]
    · simp [allowed, eq_comm]
  cases operation with
  | start | transition | cancel => simpa [perform, start, cancel, Operation.target?] using moves _
  | fail summary =>
      simp only [perform, fail, Operation.target?, Option.some.injEq, exists_eq_left', ← moves]
      cases record.transition .failed time <;> simp [Except.map]
  | log => simp [perform, Operation.target?]

/-- What an operation that is not refused does: it enters a status, as failed with an error, or
it appends a line. -/
theorem perform_cases {deed : Deed} {changed : Execution}
    (performed : record.perform deed = .ok changed) :
    (∃ target, record.status.allows target = true ∧ changed = record.enter target deed.time) ∨
      (∃ summary, record.status.allows .failed = true ∧
        changed = { record.enter .failed deed.time with error := some summary }) ∨
      ∃ level message nodeId, changed = record.log level message nodeId deed.time := by
  obtain ⟨operation, time⟩ := deed
  have moves {target : Status} {moved : Execution}
      (moving : record.transition target time = .ok moved) :
      record.status.allows target = true ∧ moved = record.enter target time := by
    unfold transition at moving
    split at moving
    next allowed => exact ⟨allowed, (Except.ok.inj moving).symm⟩
    next => cases moving
  cases operation with
  | start | transition | cancel => exact .inl ⟨_, moves performed⟩
  | fail summary =>
      simp only [perform, fail] at performed
      cases moving : record.transition .failed time with
      | error error => simp [moving, Except.map] at performed
      | ok failed =>
          obtain ⟨allowed, rfl⟩ := moves moving
          rw [moving] at performed
          exact .inr (.inl ⟨summary, allowed, (Except.ok.inj performed).symm⟩)
  | log level message nodeId =>
      exact .inr (.inr ⟨level, message, nodeId, (Except.ok.inj performed).symm⟩)

/-- An operation keeps a record well, and what has to stay of it stays. -/
theorem WellKept.after (kept : record.WellKept) (deed : Deed) :
    (record.after deed).WellKept ∧ record.Outlives (record.after deed) := by
  rw [Execution.after]
  split
  next changed performed =>
    rcases perform_cases performed with
      ⟨target, allowed, rfl⟩ | ⟨summary, allowed, rfl⟩ | ⟨level, message, nodeId, rfl⟩
    · exact ⟨kept.enter allowed deed.time, enter_outlives allowed deed.time⟩
    · obtain ⟨completed, timed, duration, -⟩ := kept.enter allowed deed.time
      obtain ⟨subject, logs, -⟩ := enter_outlives allowed deed.time
      refine ⟨⟨completed, timed, duration, fun _ => enter_status _ _ _⟩, subject, logs, ?_⟩
      intro final
      simp [Status.allows_eq_false_of_isFinal final] at allowed
    · exact ⟨kept.log level message nodeId deed.time, outlives_log record level message nodeId _⟩
  next => exact ⟨kept, .refl record⟩

/-! ## Any number of operations -/

theorem WellKept.afterAll (kept : record.WellKept) (deeds : List Deed) :
    (record.afterAll deeds).WellKept ∧ record.Outlives (record.afterAll deeds) := by
  induction deeds generalizing record with
  | nil => exact ⟨kept, .refl record⟩
  | cons deed rest ih =>
      obtain ⟨first, stays⟩ := kept.after deed
      obtain ⟨last, remains⟩ := ih first
      exact ⟨last, stays.trans remains⟩

theorem afterAll_append (record : Execution) (deeds more : List Deed) :
    record.afterAll (deeds ++ more) = (record.afterAll deeds).afterAll more :=
  List.foldl_append

/-- Whatever was done with a new record, by whatever clock, its status, its times and its error
fit together.  Whatever is done with it then, it stays about the same run and keeps the lines of
its log, and a final record keeps all but its log.  An operation is refused exactly if it is to
lead to a status that may not be entered; that is what it reports, and the record stays as it
is. -/
theorem lifecycle (workflow : Workflow) (id : ExecutionId) (created : Instant)
    (deeds more : List Deed) :
    let record := (workflow.newExecution id created).afterAll deeds
    record.WellKept ∧
      record.subject = ⟨id, workflow.id, workflow.name, workflow.version⟩ ∧
      record.Outlives ((workflow.newExecution id created).afterAll (deeds ++ more)) ∧
      ∀ deed error,
        (record.perform deed = .error error ↔ ∃ target, deed.operation.target? = some target ∧
          record.status.allows target = false ∧ error = ⟨record.status, target⟩) ∧
        (record.perform deed = .error error → record.after deed = record) := by
  intro record
  obtain ⟨kept, outlives⟩ := (wellKept_new workflow id created).afterAll deeds
  refine ⟨kept, outlives.subject_eq.trans (subject_new workflow id created), ?_, ?_⟩
  · rw [afterAll_append]
    exact (WellKept.afterAll kept more).2
  · intro deed error
    refine ⟨perform_eq_error, fun refused => ?_⟩
    rw [after, refused]

/-- A workflow without nodes. -/
def errand : Workflow where
  id := ⟨⟨7⟩⟩
  name := "errand"
  nodes := []
  trigger := "start"
  createdAt := ⟨0, 0⟩
  updatedAt := ⟨0, 0⟩

/-- A run that is begun and fails, by a clock that is set back in between. -/
def setBack : List Deed :=
  [⟨.start, ⟨100, 0⟩⟩, ⟨.log .info "on the way" none, ⟨70, 0⟩⟩,
    ⟨.fail ⟨"it broke", none⟩, ⟨40, 999999999⟩⟩]

/-- The run has taken no time, and it cannot be cancelled any more. -/
theorem lifecycle_setBack :
    let record := (errand.newExecution ⟨⟨1⟩⟩ ⟨90, 0⟩).afterAll setBack
    record.WellKept ∧ record.status = .failed ∧ record.completedAt = some ⟨40, 999999999⟩ ∧
      record.duration = some 0 ∧
      record.perform ⟨.cancel, ⟨200, 0⟩⟩ = .error ⟨.failed, .cancelled⟩ ∧
      record.after ⟨.cancel, ⟨200, 0⟩⟩ = record ∧
      record.Outlives ((errand.newExecution ⟨⟨1⟩⟩ ⟨90, 0⟩).afterAll
        (setBack ++ [⟨.log .warn "too late" none, ⟨201, 0⟩⟩])) := by
  obtain ⟨kept, -, outlives, refused⟩ := lifecycle errand ⟨⟨1⟩⟩ ⟨90, 0⟩ setBack
    [⟨.log .warn "too late" none, ⟨201, 0⟩⟩]
  obtain ⟨reports, stays⟩ := refused ⟨.cancel, ⟨200, 0⟩⟩ ⟨.failed, .cancelled⟩
  have rejected := reports.mpr ⟨.cancelled, rfl, by decide +kernel, by decide +kernel⟩
  exact ⟨kept, by decide +kernel, by decide +kernel, by decide +kernel, rejected, stays rejected,
    outlives⟩

end Flowline.Execution
