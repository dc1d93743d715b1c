import Flowline.Proofs.Engine.Confinement
import Flowline.Proofs.Engine.Logbook
import Flowline.Proofs.Engine.Remarks

/-!
# What the log accounts for

Every failure of a run is told by its log once.  An error about a node is the failure of an
execution, an error about none is what has ended the run or the refusal of its last write, and
a warning about a node is a failed attempt or the decision to go on after a failed execution.
-/

namespace Flowline.Engine

open Program

/-- An execution that has failed for good. -/
def Executed.failed (executed : Executed) : Bool := !executed.outcome.toBool

/-- An execution that has failed for good, after which the walk continues. -/
def Executed.continued (settings : Settings) (executed : Executed) : Bool :=
  executed.failed && (AttemptPolicy.forNode executed.node settings).continueOnError

/-- Whether an event is a failed attempt at a node in some role. -/
def failsAs (role : Role) (nodeId : String) : Event surroundings → Bool
  | ⟨.attempt attempt, reply⟩ =>
      attempt.role = role && attempt.node.id = nodeId && !(attempt.result reply).toBool
  | ⟨.now, _⟩ | ⟨.sleep _, _⟩ | ⟨.create _, _⟩ | ⟨.load _, _⟩ | ⟨.save _ _, _⟩ => false

/-- An error other than a cancellation that was noticed has ended a run: its workflow is not
valid, or its walk has failed. -/
def EndsInFault (settings : Settings) (workflow : Workflow) (id : ExecutionId) (input : Json)
    (events : List (Event surroundings)) : Prop :=
  (∃ error, workflow.validate = .error error) ∨
    ∃ steps error, Walked settings workflow id input events steps (.error error) ∧
      error ≠ .cancelled

/-! ## Kinds of lines -/

/-- The node whose failure a remark is about. -/
def Remark.failed? : Remark → Option String
  | .failure nodeId => some nodeId
  | .graph _ | .continuation _ | .fault => none

theorem remark?_failed (line : LogLine) :
    line.remark?.bind Remark.failed? = if line.level = .error then line.nodeId else none := by
  obtain ⟨time, level, message, nodeId⟩ := line
  cases level with
  | debug | info => rfl
  | error => cases nodeId <;> rfl
  | warn =>
      cases nodeId with
      | none => rw [LogLine.remark?_warn_none]; split <;> rfl
      | some nodeId => rw [LogLine.remark?_warn_some]; split <;> rfl

theorem remark?_fault (line : LogLine) :
    line.remark? = some .fault ↔ line.level = .error ∧ line.nodeId = none := by
  obtain ⟨time, level, message, nodeId⟩ := line
  cases level <;> cases nodeId <;> simp

theorem remark?_continuation (line : LogLine) (nodeId : String) :
    line.remark? = some (.continuation nodeId) ↔
      line.level = .warn ∧ line.nodeId = some nodeId ∧ line.isReport = false := by
  obtain ⟨time, level, message, about⟩ := line
  cases level <;> cases about <;> simp [isReport_eq, and_comm]

/-! ## Counting -/

variable {settings : Settings} {workflow : Workflow} {id : ExecutionId} {input : Json}
  {events : List (Event surroundings)} {record : Execution}

/-- The errors about nodes are the remarks on failures. -/
theorem errors_eq (record : Execution) :
    (record.logs.filterMap fun line => if line.level = .error then line.nodeId else none) =
      record.remarks.filterMap Remark.failed? := by
  rw [Execution.remarks, List.filterMap_filterMap]
  exact List.filterMap_congr fun line _ => (remark?_failed line).symm

theorem count_remarks (record : Execution) (remark : Remark) :
    record.remarks.count remark =
      record.logs.countP fun line => line.remark? = some remark := by
  rw [Execution.remarks, List.count, List.countP_filterMap]
  refine List.countP_congr fun line _ => ?_
  cases line.remark? <;> simp

/-- The errors about no node are the remarks on faults. -/
theorem countP_faults (record : Execution) :
    (record.logs.countP fun line => line.level = .error && line.nodeId.isNone) =
      record.remarks.count .fault := by
  rw [count_remarks]
  refine List.countP_congr fun line _ => ?_
  simp [remark?_fault]

/-- The warnings about a node are the reports about it and the remarks that the walk continues
after its failure. -/
theorem countP_warnings (record : Execution) (nodeId : String) :
    (record.logs.countP fun line => line.level = .warn && line.nodeId = some nodeId) =
      (record.reports.countP fun report => report.1 = some nodeId) +
        record.remarks.count (.continuation nodeId) := by
  rw [count_remarks, Execution.reports, List.countP_map, List.countP_filter]
  induction record.logs with
  | nil => rfl
  | cons line rest ih =>
      have parts := remark?_continuation line nodeId
      have isReport := isReport_eq line
      simp only [List.countP_cons, ih]
      cases reports : line.isReport <;> by_cases level : line.level = .warn <;>
        by_cases about : line.nodeId = some nodeId <;> simp_all <;> omega

theorem Executed.remarks_eq (executed : Executed) :
    executed.remarks settings =
      (if executed.failed then [.failure executed.node.id] else []) ++
        if executed.continued settings then [.continuation executed.node.id] else [] := by
  obtain ⟨node, context, outcome⟩ := executed
  cases outcome <;> simp [Executed.remarks, Executed.failed, Executed.continued, Except.toBool]

/-- The failures that are remarked on are those of the executions, in their order. -/
theorem filterMap_failed_remarks (executions : List Executed) :
    (executions.flatMap (Executed.remarks settings)).filterMap Remark.failed? =
      (executions.filter Executed.failed).map fun executed => executed.node.id := by
  induction executions with
  | nil => rfl
  | cons executed rest ih =>
      rw [List.flatMap_cons, List.filterMap_append, ih, Executed.remarks_eq]
      cases failed : executed.failed <;> cases continued : executed.continued settings <;>
        simp [failed, Remark.failed?]

theorem count_continuation_remarks (executions : List Executed) (nodeId : String) :
    (executions.flatMap (Executed.remarks settings)).count (.continuation nodeId) =
      executions.countP fun executed =>
        executed.continued settings && executed.node.id = nodeId := by
  induction executions with
  | nil => rfl
  | cons executed rest ih =>
      rw [List.flatMap_cons, List.count_append, ih, Executed.remarks_eq, List.countP_cons]
      cases failed : executed.failed <;> cases continued : executed.continued settings <;>
        simp [List.count_cons, Nat.add_comm]

theorem count_fault_remarks (executions : List Executed) :
    (executions.flatMap (Executed.remarks settings)).count .fault = 0 := by
  rw [List.count_eq_zero]
  simp only [List.mem_flatMap, Executed.remarks_eq]
  rintro ⟨executed, -, member⟩
  split at member <;> split at member <;> simp at member

theorem graphRemarks_eq (settings : Settings) (workflow : Workflow) :
    ∃ warnings : List String, graphRemarks settings workflow = warnings.map Remark.graph := by
  unfold graphRemarks
  split
  · exact ⟨_, rfl⟩
  · exact ⟨[], rfl⟩

/-- The reports about a node are its failed attempts, in whatever role. -/
theorem countP_reports (events : List (Event surroundings)) (nodeId : String) :
    ((events.filterMap (report? settings)).countP fun report => report.1 = some nodeId) =
      events.countP (failsAs .step nodeId) + events.countP (failsAs .errorHandler nodeId) := by
  induction events with
  | nil => rfl
  | cons event rest ih =>
      obtain ⟨asked, reply⟩ := event
      cases asked with
      | now | sleep | create | load | save =>
          rw [List.filterMap_cons_none rfl, ih, List.countP_cons_of_neg (by simp [failsAs]),
            List.countP_cons_of_neg (by simp [failsAs])]
      | attempt attempt =>
          cases result : attempt.result reply with
          | ok value =>
              rw [List.filterMap_cons_none (report?_ok attempt result), ih,
                List.countP_cons_of_neg (by simp [failsAs, result, Except.toBool]),
                List.countP_cons_of_neg (by simp [failsAs, result, Except.toBool])]
          | error error =>
              have reported : report? settings ⟨.attempt attempt, reply⟩ =
                  some (some attempt.node.id, attempt.report settings error) := by
                simp [report?, result]
              rw [List.filterMap_cons_some reported, List.countP_cons, ih, List.countP_cons,
                List.countP_cons]
              cases role : attempt.role <;> simp [failsAs, result, role, Except.toBool] <;> omega

/-! ## The whole run -/

theorem isFault_iff {outcome : Except RunError Unit} :
    isFault outcome = true ↔ ∃ error, outcome = .error error ∧ error ≠ .cancelled := by
  rcases outcome with error | _
  · cases error <;> simp [isFault]
  · simp [isFault]

theorem Course.endsInFault_iff (course : Course settings workflow id input events record) :
    EndsInFault settings workflow id input events ↔ isFault course.walked.2 = true := by
  rw [isFault_iff]
  rcases course.invalid_or_walked with ⟨error, invalid, -, outcome⟩ | ⟨valid, steps, walks, -⟩
  · constructor
    · exact fun _ => ⟨_, outcome, by simp⟩
    · exact fun _ => .inl ⟨error, invalid⟩
  · constructor
    · rintro (⟨error, invalid⟩ | ⟨others, error, again, fault⟩)
      · cases valid.symm.trans invalid
      · exact ⟨error, (walks.unique again).2, fault⟩
    · rintro ⟨error, outcome, fault⟩
      exact .inr ⟨steps, error, outcome ▸ walks, fault⟩

open Classical in
/-- The log of a run accounts for its failures.  The errors about nodes are the failed
executions in their order; there is one error about no node if the run has ended in a fault and
one if its last write was refused; the warnings about a node are its failed attempts, as a step
and as an error handler, and the failures after which the walk has continued.  The log of every
earlier moment begins that of the record. -/
theorem execute_accounts (settings : Settings) (workflow : Workflow) (id : ExecutionId)
    (input : Json) :
    ∃ logAt : List (Event surroundings) → List LogLine, logAt [] = [] ∧
      ∀ events record, (execute settings workflow id input).Yields events record →
        (record.logs.filterMap fun line => if line.level = .error then line.nodeId else none) =
          ((executions settings events).filter Executed.failed).map
            (fun executed => executed.node.id) ∧
        (record.logs.countP fun line => line.level = .error && line.nodeId.isNone) =
          (if EndsInFault settings workflow id input events then 1 else 0) +
            (if Unsaved events then 1 else 0) ∧
        (∀ nodeId,
          (record.logs.countP fun line => line.level = .warn && line.nodeId = some nodeId) =
            events.countP (failsAs .step nodeId) +
              ((executions settings events).countP fun executed =>
                executed.continued settings && executed.node.id = nodeId) +
              events.countP (failsAs .errorHandler nodeId)) ∧
        Throughout (Advances logAt) events ∧ logAt events = record.logs ∧
        ∀ earlier, earlier <+: events → logAt earlier <+: record.logs := by
  obtain ⟨logAt, begins, runs⟩ := (execute_logs settings workflow id input).exists_logAt
  refine ⟨logAt, begins, fun events record yields => ?_⟩
  obtain ⟨throughout, returned⟩ := runs events record yields
  obtain ⟨course⟩ := exists_course yields
  obtain ⟨warnings, onGraph⟩ := graphRemarks_eq settings workflow
  have remarks := course.remarks_eq
  rw [onGraph] at remarks
  refine ⟨?_, ?_, fun nodeId => ?_, throughout, returned, fun earlier begins => ?_⟩
  · rw [errors_eq, remarks, List.filterMap_append, List.filterMap_append,
      filterMap_failed_remarks, List.filterMap_append]
    have silent : (warnings.map Remark.graph).filterMap Remark.failed? = [] := by
      simp [List.filterMap_map, Function.comp_def, Remark.failed?]
    rw [silent]
    split <;> split <;> simp [Remark.failed?]
  · rw [countP_faults, remarks, List.count_append, List.count_append, count_fault_remarks,
      List.count_append]
    have silent : (warnings.map Remark.graph).count .fault = 0 := by
      simp [List.count_eq_zero]
    rw [silent, if_congr course.endsInFault_iff rfl rfl]
    split <;> split <;> simp
  · have reports := (Program.ensures_iff _ _).mp (execute_reports settings workflow id input)
      events record yields
    rw [countP_warnings, reports, countP_reports, remarks, List.count_append, List.count_append,
      count_continuation_remarks, List.count_append]
    have silent : (warnings.map Remark.graph).count (.continuation nodeId) = 0 := by
      simp [List.count_eq_zero]
    rw [silent]
    split <;> split <;> simp <;> omega
  · exact returned ▸ logAt_prefix throughout begins

/-- The failure of a node leaves one error about it, and one warning about its only attempt. -/
theorem execute_accounts_failure :
    ∃ events record, (execute {} blamed ⟨⟨1⟩⟩ .null).Yields events record ∧
      (record.logs.filterMap fun line => if line.level = .error then line.nodeId else none) =
        ["end"] ∧
      (record.logs.countP fun line => line.level = .warn && line.nodeId = some "end") = 1 := by
  have yields := trace_yields (failingAt "end") (execute {} blamed ⟨⟨1⟩⟩ .null)
  obtain ⟨_, -, runs⟩ := execute_accounts {} blamed ⟨⟨1⟩⟩ .null
  obtain ⟨errors, -, warnings, -⟩ := runs _ _ yields
  exact ⟨_, _, yields, errors.trans (by decide +kernel), (warnings "end").trans (by decide +kernel)⟩

end Flowline.Engine
