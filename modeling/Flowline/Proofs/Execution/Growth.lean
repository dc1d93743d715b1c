import Flowline.Workflow.Definition

/-!
# How a record changes

Appending lines to the log changes nothing else in a record, and entering a status
leaves the log as it is.  The lines that a run appends are told apart from the one
that a cancellation appends by their text.
-/

namespace Flowline

/-- A line about a node. -/
def LogLine.AboutNode (line : LogLine) : Prop := line.nodeId.isSome = true

/-- The text of the line that a cancellation appends. -/
def LogLine.cancellation : String := "Execution cancelled"

/-- A line that is not that of a cancellation. -/
def LogLine.OfRun (line : LogLine) : Prop :=
  line.message = cancellation → line.nodeId.isSome = true

/-- A text that begins otherwise is not that of a cancellation. -/
theorem LogLine.append_ne_cancellation {head : String}
    (departs : head.toList.isPrefixOf cancellation.toList = false) (rest : String) :
    head ++ rest ≠ cancellation := by
  intro same
  have begins : head.toList <+: cancellation.toList := by
    rw [← same, String.toList_append]
    exact List.prefix_append _ _
  rw [List.isPrefixOf_iff_prefix.mpr begins] at departs
  contradiction

theorem LogLine.OfRun.of_ne {line : LogLine} (other : line.message ≠ cancellation) : line.OfRun :=
  fun same => (other same).elim

theorem LogLine.AboutNode.ofRun {line : LogLine} (about : line.AboutNode) : line.OfRun :=
  fun _ => about

/-- Between two moments only lines of some kind were appended to the log of a
record. -/
def Execution.Grown (kind : LogLine → Prop) (before after : Execution) : Prop :=
  ∃ lines, (∀ line ∈ lines, kind line) ∧ after = { before with logs := before.logs ++ lines }

namespace Execution.Grown

variable {kind : LogLine → Prop} {first second third : Execution}

theorem refl (record : Execution) : Grown kind record record := ⟨[], by simp⟩

theorem trans (earlier : Grown kind first second) (later : Grown kind second third) :
    Grown kind first third := by
  obtain ⟨lines, kinds, rfl⟩ := earlier
  obtain ⟨more, moreKinds, rfl⟩ := later
  refine ⟨lines ++ more, ?_, by simp⟩
  intro line member
  exact (List.mem_append.mp member).elim (kinds line) (moreKinds line)

theorem mono {wider : LogLine → Prop} (grown : Grown kind first second)
    (widens : ∀ line, kind line → wider line) : Grown wider first second := by
  obtain ⟨lines, kinds, rfl⟩ := grown
  exact ⟨lines, fun line member => widens line (kinds line member), rfl⟩

theorem log (record : Execution) (level : LogLevel) (message : String)
    (nodeId : Option String) (time : Instant) (fits : kind ⟨time, level, message, nodeId⟩) :
    Grown kind record (record.log level message nodeId time) :=
  ⟨[⟨time, level, message, nodeId⟩], by simpa using fits, rfl⟩

theorem id_eq (grown : Grown kind first second) : second.id = first.id := by
  obtain ⟨lines, -, rfl⟩ := grown
  rfl

theorem status_eq (grown : Grown kind first second) : second.status = first.status := by
  obtain ⟨lines, -, rfl⟩ := grown
  rfl

theorem error_eq (grown : Grown kind first second) : second.error = first.error := by
  obtain ⟨lines, -, rfl⟩ := grown
  rfl

theorem logs_prefix (grown : Grown kind first second) : first.logs <+: second.logs := by
  obtain ⟨lines, -, rfl⟩ := grown
  exact List.prefix_append _ _

/-- A kind of lines that the log had is the kind of all its lines. -/
theorem forall_mem (grown : Grown kind first second) (held : ∀ line ∈ first.logs, kind line) :
    ∀ line ∈ second.logs, kind line := by
  obtain ⟨lines, kinds, rfl⟩ := grown
  intro line member
  exact (List.mem_append.mp member).elim (held line) (kinds line)

end Execution.Grown

namespace Execution

/-! ## Entering a status -/

section Enter

variable (record : Execution) (status : Status) (time : Instant)

@[simp] theorem enter_id : (record.enter status time).id = record.id := by
  cases status <;> rfl

@[simp] theorem enter_status : (record.enter status time).status = status := by
  cases status <;> rfl

@[simp] theorem enter_error : (record.enter status time).error = record.error := by
  cases status <;> rfl

@[simp] theorem enter_logs : (record.enter status time).logs = record.logs := by
  cases status <;> rfl

variable {record status}

theorem transition_eq (allowed : record.status.allows status = true) :
    record.transition status time = .ok (record.enter status time) := by
  simp [transition, allowed]

theorem fail_eq (allowed : record.status.allows .failed = true) (summary : ErrorSummary) :
    record.fail summary time =
      .ok { record.enter .failed time with error := some summary } := by
  rw [fail, transition_eq time allowed]
  rfl

end Enter

/-- The record of a run that goes on. -/
structure Running (id : ExecutionId) (record : Execution) : Prop where
  id_eq : record.id = id
  status_eq : record.status = .running
  error_eq : record.error = none

theorem Running.of_grown {id : ExecutionId} {kind : LogLine → Prop} {before after : Execution}
    (running : Running id before) (grown : before.Grown kind after) : Running id after where
  id_eq := grown.id_eq.trans running.id_eq
  status_eq := grown.status_eq.trans running.status_eq
  error_eq := grown.error_eq.trans running.error_eq

theorem Running.log {id : ExecutionId} {record : Execution} (running : Running id record)
    (level : LogLevel) (message : String) (nodeId : Option String) (time : Instant) :
    Running id (record.log level message nodeId time) :=
  { id_eq := running.id_eq, status_eq := running.status_eq, error_eq := running.error_eq }

theorem running_enter (workflow : Workflow) (id : ExecutionId) (created started : Instant) :
    Running id ((workflow.newExecution id created).enter .running started) where
  id_eq := rfl
  status_eq := rfl
  error_eq := rfl

theorem Status.mem_of_isFinal {status : Status} (final : status.isFinal = true) :
    status ∈ [success, failed, cancelled] := by
  cases status <;> simp_all [isFinal]

/-- A record that is final and has its times. -/
structure Finalised (record : Execution) : Prop where
  isFinal : record.status.isFinal = true
  completed : record.completedAt.isSome = true
  timed : record.duration.isSome = true

theorem finalised_enter (record : Execution) {status : Status} (final : status.isFinal = true)
    (time : Instant) : Finalised (record.enter status time) := by
  constructor <;> simp [enter, final]

theorem Grown.finalised {kind : LogLine → Prop} {before after : Execution}
    (grown : before.Grown kind after) (finalised : Finalised before) : Finalised after := by
  obtain ⟨lines, -, rfl⟩ := grown
  exact ⟨finalised.isFinal, finalised.completed, finalised.timed⟩

end Execution

end Flowline
