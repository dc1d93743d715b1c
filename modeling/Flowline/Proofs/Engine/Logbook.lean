import Flowline.Proofs.Engine.Finalisation
import Mathlib.Tactic.Choose

/-!
# The log as a run goes on

At every moment of a run its record has a log, which depends on what has happened so far
only.  It is what the store is shown, a reading of the clock can append one line to it that
bears the time, and nothing else changes it.  So the log of any moment begins the one that the
run returns.
-/

namespace Flowline.Engine

open Program Flowline.Engine.Action

/-- The record that a request hands to the store. -/
def Request.record? : Request → Option Execution
  | .create record | .save record _ => some record
  | .now | .sleep _ | .load _ | .attempt _ => none

/-- A program that has a log at its beginning and another one at its end.  On the way it
shows the log that it has, and may append a line when it reads the clock. -/
inductive Logs {α : Type} (view : α → List LogLine) : List LogLine → Action α → Prop where
  | done (value : α) : Logs view (view value) (Program.done value)
  | note {log : List LogLine} {next : Instant → Action α} (level : LogLevel) (message : String)
      (nodeId : Option String)
      (further : ∀ time, Logs view (log ++ [⟨time, level, message, nodeId⟩]) (next time)) :
      Logs view log (@Program.ask surroundings _ .now next)
  | other {log : List LogLine} {asked : Request} {next : Reply asked → Action α}
      (shows : ∀ record, asked.record? = some record → record.logs = log)
      (further : ∀ reply, Logs view log (next reply)) :
      Logs view log (@Program.ask surroundings _ asked next)

namespace Logs

variable {α β : Type} {program : Action α} {rest : α → Action β} {log : List LogLine}
  {view : α → List LogLine} {later : β → List LogLine}

theorem bind (first : Logs view log program)
    (second : ∀ value, Logs later (view value) (rest value)) :
    Logs later log (program.bind rest) := by
  induction first with
  | done value => exact second value
  | note level message nodeId _ ih => exact .note level message nodeId ih
  | other shows _ ih => exact .other shows ih

theorem done_of_eq {value : α} (same : view value = log) :
    Logs view log (Program.done value) :=
  same ▸ .done value

/-- A request that is not one to write. -/
theorem ask {asked : Request} {next : Reply asked → Action α} (unwritten : asked.record? = none)
    (further : ∀ reply, Logs view log (next reply)) :
    Logs view log (@Program.ask surroundings _ asked next) :=
  .other (by simp [unwritten]) further

end Logs

/-- The log at a moment is shown to the store, and the next event adds at most the line that
bears its time. -/
def Advances (logAt : List (Event surroundings) → List LogLine)
    (earlier : List (Event surroundings)) (event : Event surroundings) : Prop :=
  (∀ record, event.asked.record? = some record → record.logs = logAt earlier) ∧
    (logAt (earlier ++ [event]) = logAt earlier ∨
      ∃ line, event = ⟨.now, line.timestamp⟩ ∧ logAt (earlier ++ [event]) = logAt earlier ++ [line])

/-- The logs of a program are told by what has happened so far. -/
theorem Logs.exists_logAt {α : Type} {program : Action α} {log : List LogLine}
    {view : α → List LogLine} (logs : Logs view log program) :
    ∃ logAt : List (Event surroundings) → List LogLine, logAt [] = log ∧
      ∀ events value, program.Yields events value →
        Throughout (Advances logAt) events ∧ logAt events = view value := by
  -- Behind a first request the log is that of the program which its reply leads to.
  have behind {asked : Request} {next : Reply asked → Action α} {log : List LogLine}
      {logs : Reply asked → List LogLine}
      (shows : ∀ record, asked.record? = some record → record.logs = log)
      (grows : ∀ reply, logs reply = log ∨
        ∃ line, (⟨asked, reply⟩ : Event surroundings) = ⟨.now, line.timestamp⟩ ∧
          logs reply = log ++ [line])
      (ih : ∀ reply, ∃ logAt : List (Event surroundings) → List LogLine,
        logAt [] = logs reply ∧ ∀ events value, (next reply).Yields events value →
          Throughout (Advances logAt) events ∧ logAt events = view value) :
      ∃ logAt : List (Event surroundings) → List LogLine, logAt [] = log ∧
        ∀ events value, (@Program.ask surroundings _ asked next).Yields events value →
          Throughout (Advances logAt) events ∧ logAt events = view value := by
    choose logAt begins follows using ih
    refine ⟨fun
      | [] => log
      | ⟨request, reply⟩ :: rest =>
          if same : request = asked then logAt (same ▸ reply) rest else log, rfl, ?_⟩
    intro events value yields
    obtain ⟨reply, rest, rfl, onward⟩ := yields_ask.mp yields
    obtain ⟨throughout, returned⟩ := follows reply rest value onward
    refine ⟨Throughout.cons_iff.mpr ⟨⟨shows, ?_⟩, ?_⟩, by simpa using returned⟩
    · simpa [begins reply] using grows reply
    · exact throughout.mono fun earlier event advances => by simpa [Advances] using advances
  induction logs with
  | done value =>
      refine ⟨fun _ => view value, rfl, fun events other yields => ?_⟩
      obtain ⟨rfl, rfl⟩ := yields_done.mp yields
      exact ⟨Throughout.nil, rfl⟩
  | note level message nodeId _ ih =>
      exact behind (by simp [Request.record?])
        (fun time => .inr ⟨⟨time, level, message, nodeId⟩, rfl, rfl⟩) ih
  | other shows _ ih => exact behind shows (fun _ => .inl rfl) ih

/-- The log of a moment begins the log of every later one. -/
theorem logAt_prefix {logAt : List (Event surroundings) → List LogLine}
    {earlier events : List (Event surroundings)} (throughout : Throughout (Advances logAt) events)
    (begins : earlier <+: events) : logAt earlier <+: logAt events := by
  obtain ⟨later, rfl⟩ := begins
  induction later generalizing earlier with
  | nil => simp
  | cons event rest ih =>
      have grown : logAt earlier <+: logAt (earlier ++ [event]) := by
        rcases (throughout earlier event rest rfl).2 with same | ⟨line, -, same⟩
        · exact same ▸ List.prefix_rfl
        · exact same ▸ List.prefix_append _ _
      have parts : earlier ++ event :: rest = (earlier ++ [event]) ++ rest := by simp
      rw [parts] at throughout ⊢
      exact grown.trans (ih throughout)

/-! ## The parts of a run -/

/-- The log of a run. -/
def Run.log (run : Run) : List LogLine := run.record.logs

theorem note_logs (record : Execution) (level : LogLevel) (message : String)
    (nodeId : Option String) :
    Logs Execution.logs record.logs (note record level message nodeId) :=
  .note level message nodeId fun time => .done (record.log level message nodeId time)

theorem runNote_logs (run : Run) (level : LogLevel) (message : String) (nodeId : Option String) :
    Logs Run.log run.log (run.note level message nodeId) :=
  .bind (note_logs run.record level message nodeId) fun record => .done { run with record }

theorem tryFrom_logs (node : Node) (context : Context) (policy : AttemptPolicy)
    (left number : Nat) (record : Execution) :
    Logs (fun result => result.1.logs) record.logs
      (tryFrom node context policy left number record) := by
  induction left generalizing number record with
  | zero =>
      rw [tryFrom, attempt_eq]
      refine .ask rfl fun reply => ?_
      simp only [bind_eq_bind, done_bind]
      cases Attempt.result _ reply with
      | ok value => exact .done_of_eq rfl
      | error error =>
          exact .bind (note_logs record _ _ _) fun noted =>
            .bind (note_logs noted _ _ _) fun failed => .done_of_eq rfl
  | succ left ih =>
      rw [tryFrom, attempt_eq]
      refine .ask rfl fun reply => ?_
      simp only [bind_eq_bind, done_bind]
      cases Attempt.result _ reply with
      | ok value => exact .done_of_eq rfl
      | error error =>
          exact .bind (note_logs record _ _ _) fun noted =>
            .ask rfl fun _ => ih (number + 1) noted

theorem runHandlers_logs (settings : Settings) (failed : Node) (context : Context)
    (handlers : List Node) (record : Execution) :
    Logs Execution.logs record.logs (runHandlers settings failed context handlers record) := by
  induction handlers generalizing record with
  | nil => exact .done record
  | cons handler rest ih =>
      rw [runHandlers, attempt_eq]
      refine .bind (note_logs record _ _ _) fun noted => .ask rfl fun reply => ?_
      simp only [bind_eq_bind, done_bind]
      cases Attempt.result _ reply with
      | ok value => exact .bind (note_logs noted _ _ _) fun told => ih told
      | error error => exact .bind (note_logs noted _ _ _) fun told => ih told

theorem dispatch_logs (plan : Plan) (failed : Node) (message : String) (run : Run) :
    Logs Run.log run.log (dispatch plan failed message run) :=
  .bind (runHandlers_logs _ _ _ _ run.record) fun _ => .done_of_eq rfl

theorem runNode_logs (plan : Plan) (node : Node) (run : Run) :
    Logs (fun result => result.1.log) run.log (runNode plan node run) := by
  refine .bind (runNote_logs run _ _ _) fun started =>
    .bind (tryFrom_logs node started.context _ _ _ started.record) fun tried => ?_
  obtain ⟨record, outcome⟩ := tried
  -- Whatever is known by now, the log is that of the record.
  let known (context : Context) : Run := { started with record, context }
  cases outcome with
  | ok result =>
      exact .bind (runNote_logs (known (started.context.setResult node.id result)) _ _ _)
        fun _ => .done_of_eq rfl
  | error failure =>
      simp only
      split
      · exact .bind (dispatch_logs plan node _ (known (started.context.recordFailure
          (node.failure failure.error.message)))) fun told =>
            .bind (runNote_logs told _ _ _) fun _ => .done_of_eq rfl
      · exact .bind (dispatch_logs plan node _ (known started.context)) fun _ => .done_of_eq rfl

theorem isCancelled_logs (plan : Plan) (run : Run) :
    Logs (fun _ => run.log) run.log (isCancelled plan run) := by
  unfold isCancelled
  split
  · refine .ask rfl fun reply => ?_
    cases reply <;> exact .done _
  · exact .done _

theorem follow_logs {visit : String → Run → Action (Run × Except RunError Unit)}
    (visiting : ∀ nodeId run, Logs (fun result => result.1.log) run.log (visit nodeId run))
    (connections : List Connection) (run : Run) :
    Logs (fun result => result.1.log) run.log (follow visit connections run) := by
  induction connections generalizing run with
  | nil => exact .done_of_eq rfl
  | cons connection rest ih =>
      rw [follow]
      split
      · exact .bind (runNote_logs run _ _ _) fun skipped => ih skipped
      · refine .bind (visiting connection.target run) fun visited => ?_
        obtain ⟨after, outcome⟩ := visited
        cases outcome with
        | ok _ => exact ih after
        | error error => exact .done_of_eq rfl

theorem walk_logs (plan : Plan) (allowed : Nat) (nodeId : String) (run : Run) :
    Logs (fun result => result.1.log) run.log (walk plan allowed nodeId run) := by
  induction allowed generalizing nodeId run with
  | zero => exact .done_of_eq rfl
  | succ allowed ih =>
      rw [walk]
      refine .bind (isCancelled_logs plan run) fun found => ?_
      cases found with
      | true => exact .done_of_eq rfl
      | false =>
          simp only [Bool.false_eq_true, if_false]
          cases plan.graph.vertex? nodeId with
          | none => exact .done_of_eq rfl
          | some vertex =>
              let entered : Run := { run with path := run.path ++ [vertex.node.id] }
              refine .bind (runNode_logs plan vertex.node entered) fun ran => ?_
              obtain ⟨after, outcome⟩ := ran
              cases outcome with
              | error error => exact .done_of_eq rfl
              | ok _ =>
                  refine .bind (follow_logs ih vertex.outgoing after) fun followed => ?_
                  obtain ⟨last, outcome⟩ := followed
                  cases outcome <;> exact .done_of_eq rfl

/-! ## The whole run -/

theorem logs_transition {record moved : Execution} {status : Execution.Status} {time : Instant}
    (moves : record.transition status time = .ok moved) : moved.logs = record.logs := by
  unfold Execution.transition at moves
  split at moves
  · cases moves
    exact Execution.enter_logs record status time
  · cases moves

theorem enterStatus_logs (record : Execution) (status : Execution.Status) :
    Logs Execution.logs record.logs (enterStatus record status) := by
  refine .ask rfl fun time => ?_
  simp only [done_bind]
  split
  next moved moves => exact .done_of_eq (logs_transition moves)
  next => exact .done record

theorem failWith_logs (error : RunError) (record : Execution) :
    Logs Execution.logs record.logs (failWith error record) := by
  refine .ask rfl fun time => ?_
  simp only [done_bind, Execution.fail]
  cases moves : record.transition .failed time with
  | ok moved =>
      have same := logs_transition moves
      exact .done_of_eq same
  | error _ => exact .done record

theorem create_logs (record : Execution) :
    Logs (fun _ => record.logs) record.logs (create record) := by
  refine .other (fun shown same => ?_) fun reply => .done reply
  rw [Option.some.inj same]

theorem save_logs (record : Execution) (expected : Revision) :
    Logs (fun _ => record.logs) record.logs (save record expected) := by
  refine .other (fun shown same => ?_) fun reply => .done reply
  rw [Option.some.inj same]

theorem opening_logs (workflow : Workflow) (id : ExecutionId) :
    Logs (fun opened => opened.1.logs) [] (opening workflow id) := by
  refine .ask rfl fun time => ?_
  simp only [bind_eq_bind, done_bind]
  refine .bind (enterStatus_logs (workflow.newExecution id time) .running) fun running =>
    .bind (note_logs running _ _ _) fun noted => .bind (create_logs noted) fun reply => ?_
  cases reply with
  | ok revision => exact .done_of_eq rfl
  | error error => exact .bind (note_logs noted _ _ _) fun _ => .done_of_eq rfl

theorem warnAll_logs (messages : List String) (record : Execution) :
    Logs Execution.logs record.logs (warnAll messages record) := by
  induction messages generalizing record with
  | nil => exact .done record
  | cons message rest ih => exact .bind (note_logs _ _ _ _) ih

theorem inspect_logs (plan : Plan) (record : Execution) :
    Logs Execution.logs record.logs (inspect plan record) := by
  rw [inspect_eq]
  exact warnAll_logs _ _

theorem traverse_logs (settings : Settings) (workflow : Workflow) (input : Json) (stored : Bool)
    (record : Execution) :
    Logs (fun walked => walked.1.logs) record.logs
      (traverse settings workflow input stored record) := by
  unfold traverse
  split
  · exact .done_of_eq rfl
  · exact .bind (inspect_logs _ record) fun inspected =>
      .bind (walk_logs _ _ _ ⟨inspected, .start input, []⟩) fun walked => .done_of_eq rfl

theorem finish_logs (record : Execution) (outcome : Except RunError Unit) :
    Logs Execution.logs record.logs (finish record outcome) := by
  refine .bind ?_ fun concluded => note_logs concluded _ _ _
  cases outcome with
  | ok _ => exact enterStatus_logs record _
  | error error =>
      by_cases cancelled : error = .cancelled
      · subst cancelled
        exact .bind (note_logs record _ _ _) fun noted => enterStatus_logs noted _
      · rw [conclude_error record cancelled]
        exact .bind (note_logs record _ _ _) fun noted => failWith_logs error noted

theorem yieldTo_logs (record held : Execution) :
    Logs Execution.logs record.logs (yieldTo record held) := by
  unfold yieldTo
  split
  · exact .bind (note_logs record _ _ _) fun _ => .done_of_eq rfl
  · exact .done record

theorem resolveConflict_logs (record : Execution) :
    Logs Execution.logs record.logs (resolveConflict record) := by
  refine .ask rfl fun reply => ?_
  cases reply with
  | error error => exact note_logs record _ _ _
  | ok held =>
      simp only [bind_eq_bind, done_bind]
      refine .bind (yieldTo_logs record held.record) fun kept =>
        .bind (save_logs kept held.revision) fun reply => ?_
      cases reply with
      | ok revision => exact .done kept
      | error error => exact note_logs kept _ _ _

theorem persist_logs (record : Execution) (revision : Option Revision) :
    Logs Execution.logs record.logs (persist record revision) := by
  have after (reply : Except StoreError Revision) :
      Logs Execution.logs record.logs (afterWrite record reply) := by
    unfold afterWrite
    split
    · exact .done record
    · exact resolveConflict_logs record
    · exact note_logs record _ _ _
  rw [persist_eq]
  cases revision with
  | none => exact .bind (create_logs record) after
  | some revision => exact .bind (save_logs record revision) after

/-- Whoever replies, a run has a log at every moment, from the empty one to that of the record
which it returns. -/
theorem execute_logs (settings : Settings) (workflow : Workflow) (id : ExecutionId)
    (input : Json) : Logs Execution.logs [] (execute settings workflow id input) := by
  rw [execute_eq]
  exact .bind (opening_logs workflow id) fun opened =>
    .bind (traverse_logs settings workflow input opened.2.isSome opened.1) fun walked =>
      .bind (finish_logs walked.1 walked.2) fun finished => persist_logs finished opened.2

end Flowline.Engine
