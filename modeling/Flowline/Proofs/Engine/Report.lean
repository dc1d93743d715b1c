import Flowline.Proofs.Engine.Bookkeeping
import Flowline.Proofs.Engine.Outcome

/-!
# Reports of failures

Each attempt that fails is reported in the log of its run: by one warning about the node,
in the order of the attempts, with the message of the error.  No other line is a report,
so the reports can be read back from the log.
-/

namespace Flowline

/-- A warning about a node that reports a failed attempt; the other warning about a node
says that the walk continues after it. -/
def LogLine.isReport (line : LogLine) : Bool :=
  line.level = .warn && line.nodeId.isSome && !"Continuing".toList.isPrefixOf line.message.toList

/-- The reports in the log of a record: the node and the text. -/
def Execution.reports (record : Execution) : List (Option String × String) :=
  (record.logs.filter LogLine.isReport).map fun line => (line.nodeId, line.message)

namespace Engine

open Program Flowline.Engine.Action

/-- The text that reports a failed attempt. -/
def Attempt.report (settings : Settings) (attempt : Attempt) (error : NodeError) : String :=
  match attempt.role with
  | .step =>
      let policy := AttemptPolicy.forNode attempt.node settings
      let failed :=
        s!"Node {attempt.node.name} attempt {attempt.number}/{policy.maxAttempts} failed: " ++
          error.message
      if attempt.number < policy.maxAttempts then
        failed ++ "; retrying in " ++ toString policy.retryDelay ++ "ms"
      else failed
  | .errorHandler => s!"Error handler {attempt.node.name} failed: {error.message}"

/-- A report tells which message the error has. -/
theorem Attempt.report_inj (settings : Settings) (attempt : Attempt) {first second : NodeError}
    (same : attempt.report settings first = attempt.report settings second) :
    first.message = second.message := by
  unfold Attempt.report at same
  split at same
  · simp only at same
    split at same
    · rw [String.append_left_inj, String.append_left_inj, String.append_left_inj] at same
      exact (String.append_right_inj _).mp same
    · exact (String.append_right_inj _).mp same
  · exact (String.append_right_inj _).mp same

/-- What is reported of an event, if it is a failed attempt. -/
def report? (settings : Settings) : Event surroundings → Option (Option String × String)
  | ⟨.attempt attempt, reply⟩ =>
      match attempt.result reply with
      | .ok _ => none
      | .error error => some (some attempt.node.id, attempt.report settings error)
  | ⟨.now, _⟩ | ⟨.sleep _, _⟩ | ⟨.create _, _⟩ | ⟨.load _, _⟩ | ⟨.save _ _, _⟩ => none

/-- A part of a run reports the attempts of its events and nothing else. -/
def Reports (settings : Settings) (events : List (Event surroundings)) (before after : Execution) :
    Prop :=
  after.reports = before.reports ++ events.filterMap (report? settings)

namespace Reports

variable {settings : Settings} {first second third : Execution}
  {events more : List (Event surroundings)}

theorem nil (record : Execution) : Reports settings [] record record := by simp [Reports]

theorem append (earlier : Reports settings events first second)
    (later : Reports settings more second third) :
    Reports settings (events ++ more) first third := by
  rw [Reports, later, earlier, List.filterMap_append, List.append_assoc]

/-- An event of which nothing is reported. -/
theorem cons {event : Event surroundings} (silent : report? settings event = none)
    (reports : Reports settings events first second) :
    Reports settings (event :: events) first second := by
  rw [Reports, reports, List.filterMap_cons_none silent]

/-- A part that leaves the log as it is. -/
theorem of_logs_eq (same : second.logs = first.logs)
    (silent : ∀ event ∈ events, report? settings event = none) :
    Reports settings events first second := by
  rw [Reports, List.filterMap_eq_nil_iff.mpr silent, List.append_nil]
  simp [Execution.reports, same]

end Reports

variable {settings : Settings}

theorem reports_log (record : Execution) (level : LogLevel) (message : String)
    (nodeId : Option String) (time : Instant) :
    (record.log level message nodeId time).reports = record.reports ++
      if LogLine.isReport ⟨time, level, message, nodeId⟩ then [(nodeId, message)] else [] := by
  simp only [Execution.reports, Execution.log, List.filter_append, List.map_append]
  cases reporting : LogLine.isReport ⟨time, level, message, nodeId⟩ <;> simp [reporting]

/-- A part that begins with a line that is no report. -/
theorem Reports.cons_line {level : LogLevel} {message : String} {nodeId : Option String}
    {time : Instant} {events : List (Event surroundings)} {first second : Execution}
    (other : LogLine.isReport ⟨time, level, message, nodeId⟩ = false)
    (reports : Reports settings events (first.log level message nodeId time) second) :
    Reports settings (⟨.now, time⟩ :: events) first second := by
  have kept := reports_log first level message nodeId time
  rw [other, if_neg Bool.false_ne_true, List.append_nil] at kept
  rw [Reports, reports, kept, List.filterMap_cons_none rfl]

theorem report_isReport (attempt : Attempt) (error : NodeError) (time : Instant)
    (nodeId : String) :
    LogLine.isReport ⟨time, .warn, attempt.report settings error, some nodeId⟩ = true := by
  have step (rest : String) :
      "Continuing".toList.isPrefixOf ("Node " ++ rest).toList = false := by
    rw [String.toList_append]
    rfl
  have handler (rest : String) :
      "Continuing".toList.isPrefixOf ("Error handler " ++ rest).toList = false := by
    rw [String.toList_append]
    rfl
  suffices other : "Continuing".toList.isPrefixOf (attempt.report settings error).toList = false by
    rw [LogLine.isReport, other]
    rfl
  unfold Attempt.report
  cases attempt.role with
  | step =>
      simp only
      split
      all_goals
        simp only [String.append_assoc]
        exact step _
  | errorHandler =>
      simp only [String.append_assoc]
      exact handler _

theorem continuing_isReport {rest : String} {nodeId : Option String} (time : Instant) :
    LogLine.isReport ⟨time, .warn, "Continuing after failure of node " ++ rest, nodeId⟩ =
      false := by
  have begins : "Continuing".toList.isPrefixOf
      ("Continuing after failure of node " ++ rest).toList = true := by
    rw [String.toList_append]
    rfl
  rw [LogLine.isReport, begins]
  simp

/-- A part that begins with a failed attempt and the line that reports it. -/
theorem Reports.cons_failed {attempt : Attempt} {reply : Option (Except NodeError Json)}
    {error : NodeError} {message : String} {time : Instant} {events : List (Event surroundings)}
    {first second : Execution} (failed : attempt.result reply = .error error)
    (same : message = attempt.report settings error)
    (reports : Reports settings events (first.log .warn message attempt.node.id time) second) :
    Reports settings (⟨.attempt attempt, reply⟩ :: ⟨.now, time⟩ :: events) first second := by
  subst same
  have reported : report? settings ⟨.attempt attempt, reply⟩ =
      some (some attempt.node.id, attempt.report settings error) := by simp [report?, failed]
  have kept := reports_log first .warn (attempt.report settings error) attempt.node.id time
  rw [report_isReport, if_pos rfl] at kept
  rw [Reports, reports, kept, List.filterMap_cons_some reported, List.filterMap_cons_none rfl,
    List.append_assoc]
  rfl

/-! ## The parts of a walk -/

theorem report?_ok (attempt : Attempt) {reply : Option (Except NodeError Json)} {value : Json}
    (result : attempt.result reply = .ok value) :
    report? settings ⟨.attempt attempt, reply⟩ = none := by
  simp [report?, result]

theorem report?_error (settings : Settings) (attempt : Attempt) (error : NodeError) :
    report? settings ⟨.attempt attempt, some (.error error)⟩ =
      some (some attempt.node.id, attempt.report settings error) := rfl

theorem Tried.reports {node : Node} {context : Context} {left number : Nat} {record : Execution}
    {events : List (Event surroundings)} {result : Execution × Except NodeFailure Json}
    (tried : Tried node context (.forNode node settings) left number record events result)
    (total : number + left = (AttemptPolicy.forNode node settings).maxAttempts) :
    Reports settings events record result.1 := by
  induction tried with
  | succeeds _ replied => exact .cons (report?_ok _ replied) (.nil _)
  | fails _ _ replied =>
      exact .cons_failed replied (by simp [Attempt.report, ← total]) (.cons_line rfl (.nil _))
  | retries left number _ replied _ ih =>
      refine .cons_failed replied ?_ (.cons rfl (ih (by omega)))
      have more : number < (AttemptPolicy.forNode node settings).maxAttempts := by omega
      simp only [Attempt.report, if_pos more]

theorem Told.reports {failed : Node} {context : Context} {handlers : List Node}
    {record after : Execution} {events : List (Event surroundings)}
    (told : Told settings failed context handlers record events after) :
    Reports settings events record after := by
  induction told with
  | nil record => exact .nil record
  | cons handler result replied _ ih =>
      cases result with
      | ok value => exact .cons_line rfl (.cons (report?_ok _ replied) (.cons_line rfl ih))
      | error error => exact .cons_line rfl (.cons_failed replied rfl ih)

theorem runNote_reports_none (settings : Settings) (run : Run) (level : LogLevel)
    (message : String) (nodeId : Option String)
    (other : ∀ time, LogLine.isReport ⟨time, level, message, nodeId⟩ = false) :
    (run.note level message nodeId).Ensures fun events after =>
      Reports settings events run.record after.record :=
  fun time => .cons_line (other time) (.nil _)

theorem runNode_reports (plan : Plan) (node : Node) (run : Run) :
    (runNode plan node run).Ensures fun events result =>
      Reports plan.settings events run.record result.1.record := by
  have total := (AttemptPolicy.forNode node plan.settings).one_add_left
  apply (runNode_ran plan node run).mono
  rintro events result ⟨outcome, ran⟩
  cases ran with
  | completes _ tried => exact .cons_line rfl ((tried.reports total).append (.cons_line rfl (.nil _)))
  | continues _ _ tried told =>
      exact .cons_line rfl ((tried.reports total).append
        (told.reports.append (.cons_line (continuing_isReport _) (.nil _))))
  | stops _ _ tried told => exact .cons_line rfl ((tried.reports total).append told.reports)

theorem isCancelled_silent (plan : Plan) (run : Run) :
    (isCancelled plan run).Ensures fun events _ =>
      Reports plan.settings events run.record run.record := by
  unfold isCancelled
  split
  · intro reply
    cases reply <;> exact .of_logs_eq rfl (by simp [report?])
  · exact .nil run.record

theorem walk_reports (plan : Plan) (allowed : Nat) (nodeId : String) (run : Run) :
    (walk plan allowed nodeId run).Ensures fun events result =>
      Reports plan.settings events run.record result.1.record := by
  have composable : Composable fun events before after (_ : Except RunError Unit) =>
      Reports plan.settings events before.record after.record :=
    ⟨fun run => .nil run.record, fun first second => first.append second⟩
  refine walk_ensures composable ?_ ?_ ?_ ?_ ?_ ?_ allowed nodeId run
  · exact fun _ run => .nil run.record
  · exact isCancelled_silent plan
  · exact fun _ run => .nil run.record
  · exact fun _ run => .nil run.record
  · exact runNode_reports plan
  · exact fun run message nodeId => runNote_reports_none plan.settings run .info message nodeId
      fun _ => rfl

/-! ## Around the walk -/

/-- A part of a run that leaves a record with the same reports. -/
def Keeps {α : Type} (program : Action α) (record : Execution) (view : α → Execution) : Prop :=
  program.Ensures fun _ value => (view value).reports = record.reports

theorem filterMap_report?_eq_nil {events : List (Event surroundings)}
    (unattempting : ∀ event ∈ events, event.asked.Unattempting) :
    events.filterMap (report? settings) = [] := by
  refine List.filterMap_eq_nil_iff.mpr fun event member => ?_
  have none := unattempting event member
  obtain ⟨asked, reply⟩ := event
  cases asked <;> first | rfl | exact none.elim

section Keeps

variable {α β : Type} {program : Action α} {rest : α → Action β} {record : Execution}
  {view : α → Execution} {later : β → Execution}

theorem Keeps.bind (first : Keeps program record view)
    (second : ∀ value, Keeps (rest value) (view value) later) :
    Keeps (program.bind rest) record later :=
  Ensures.bind first fun _ value same =>
    (second value).mono fun _ _ further => further.trans same

/-- What attempts no node and keeps the reports. -/
theorem Keeps.reports (settings : Settings) (keeps : Keeps program record view)
    (asks : program.Asks Request.Unattempting) :
    program.Ensures fun events value => Reports settings events record (view value) := by
  refine (asks.ensures.and keeps).mono fun events value told => ?_
  rw [Reports, filterMap_report?_eq_nil told.1, List.append_nil]
  exact told.2

end Keeps

theorem note_keeps (record : Execution) (level : LogLevel) (message : String) :
    Keeps (note record level message) record id := by
  rw [note_eq]
  intro time
  have kept := reports_log record level message none time
  simpa [LogLine.isReport] using kept

theorem reports_enter (record : Execution) (status : Execution.Status) (time : Instant) :
    (record.enter status time).reports = record.reports := by
  simp [Execution.reports]

theorem enterStatus_keeps (record : Execution) (status : Execution.Status) :
    Keeps (enterStatus record status) record id := by
  intro time
  simp only [done_bind, Execution.transition]
  split
  next moved =>
    split at moved
    · cases moved
      exact reports_enter _ _ _
    · cases moved
  next => exact rfl

theorem failWith_keeps (error : RunError) (record : Execution) :
    Keeps (failWith error record) record id := by
  intro time
  simp only [done_bind, Execution.fail, Execution.transition]
  split
  next moved =>
    split at moved
    · cases moved
      exact reports_enter _ _ _
    · cases moved
  next => exact rfl

theorem opening_keeps (workflow : Workflow) (id : ExecutionId) :
    (opening workflow id).Ensures fun _ opened => opened.1.reports = [] := by
  intro time
  simp only [bind_eq_bind, done_bind]
  refine Ensures.bind (enterStatus_keeps _ _) fun _ running same => ?_
  refine Ensures.bind (note_keeps running .info _) fun _ noted further => ?_
  intro reply
  have empty : noted.reports = [] := further.trans same
  cases reply with
  | ok revision => exact empty
  | error error =>
      intro time
      have kept := note_keeps noted .warn
        s!"Failed to persist execution record: {error.message}" time
      exact kept.trans empty

theorem warnAll_keeps (messages : List String) (record : Execution) :
    Keeps (warnAll messages record) record id := by
  induction messages generalizing record with
  | nil => exact rfl
  | cons message rest ih => exact .bind (note_keeps _ _ _) ih

theorem inspect_keeps (plan : Plan) (record : Execution) :
    Keeps (inspect plan record) record id := by
  rw [inspect_eq]
  exact warnAll_keeps _ _

theorem finish_keeps (record : Execution) (outcome : Except RunError Unit) :
    Keeps (finish record outcome) record id := by
  refine .bind ?_ fun concluded => note_keeps concluded .info _
  cases outcome with
  | ok _ => exact enterStatus_keeps _ _
  | error error =>
      by_cases cancelled : error = .cancelled
      · subst cancelled
        exact .bind (note_keeps _ _ _) fun noted => enterStatus_keeps _ _
      · rw [conclude_error record cancelled]
        exact .bind (note_keeps _ _ _) fun noted => failWith_keeps error noted

theorem yieldTo_keeps (record held : Execution) : Keeps (yieldTo record held) record id := by
  unfold yieldTo
  split
  · exact Ensures.bind (note_keeps _ _ _) fun _ noted same => same
  · exact rfl

theorem resolveConflict_keeps (record : Execution) : Keeps (resolveConflict record) record id := by
  intro reply
  cases reply with
  | error error => exact note_keeps record .error _
  | ok held =>
      simp only [bind_eq_bind, done_bind]
      refine Keeps.bind (yieldTo_keeps record held.record) fun kept => ?_
      intro written
      cases written with
      | ok revision => exact rfl
      | error error => exact note_keeps kept .error _

theorem persist_keeps (record : Execution) (revision : Option Revision) :
    Keeps (persist record revision) record id := by
  rw [persist_eq]
  have after (reply : Except StoreError Revision) : Keeps (afterWrite record reply) record id := by
    unfold afterWrite
    split
    · exact rfl
    · exact resolveConflict_keeps record
    · exact note_keeps record .error _
  cases revision <;> exact fun reply => after reply

theorem traverse_reports (settings : Settings) (workflow : Workflow) (input : Json)
    (stored : Bool) (record : Execution) :
    (traverse settings workflow input stored record).Ensures fun events walked =>
      Reports settings events record walked.1 := by
  unfold traverse
  split
  next => exact .nil record
  next graph built =>
    let plan : Plan := { workflow, graph, settings, stored }
    have inspects : (inspect plan record).Ensures fun events inspected =>
        Reports settings events record inspected :=
      (inspect_keeps plan record).reports settings (inspect_asks plan record)
    refine Ensures.bind inspects
      fun events inspected first => ?_
    refine Ensures.bind (walk_reports _ _ _ _) fun more walked second => ?_
    simpa using first.append second

/-- Whoever replies, the log of a run reports each failed attempt once and nothing else. -/
theorem execute_reports (settings : Settings) (workflow : Workflow) (id : ExecutionId)
    (input : Json) :
    (execute settings workflow id input).Ensures fun events record =>
      record.reports = events.filterMap (report? settings) := by
  rw [execute_eq]
  refine Ensures.bind ((opening_asks workflow id).ensures.and (opening_keeps workflow id))
    fun before opened opens => ?_
  refine Ensures.bind (traverse_reports settings workflow input opened.2.isSome opened.1)
    fun middle walked walks => ?_
  refine Ensures.bind ((finish_keeps walked.1 walked.2).reports settings (finish_asks _ _))
    fun closing finished finishes => ?_
  refine ((persist_keeps finished opened.2).reports settings (persist_asks _ _)).mono
    fun written record persists => ?_
  have whole : Reports settings (middle ++ (closing ++ written)) opened.1 record :=
    walks.append (finishes.append persists)
  have silent : before.filterMap (report? settings) = [] := filterMap_report?_eq_nil opens.1
  rw [whole, opens.2, ← silent, ← List.filterMap_append]

end Engine

end Flowline
