import Flowline.Ident
import Flowline.Instant

/-!
# Execution records

The record of one run of a workflow: its status, its times, why it failed and
what happened on the way.  A status only moves forward, and entering a final one
stamps the time.  The clock is read by whoever changes the record.
-/

namespace Flowline

/-- Where a run stands. -/
inductive Execution.Status where
  | pending
  | running
  | success
  | failed
  | cancelled
  deriving DecidableEq, Repr, Inhabited

namespace Execution.Status

/-- All statuses in the order of their declaration. -/
def all : List Status := [pending, running, success, failed, cancelled]

def name : Status → String
  | pending => "pending"
  | running => "running"
  | success => "success"
  | failed => "failed"
  | cancelled => "cancelled"

/-- Whether a run with this status is over. -/
def isFinal : Status → Bool
  | success | failed | cancelled => true
  | pending | running => false

/-- Whether a status may be left for another one. -/
def allows : Status → Status → Bool
  | pending, running | pending, cancelled => true
  | running, success | running, failed | running, cancelled => true
  | _, _ => false

/-- Final statuses are never left. -/
theorem allows_eq_false_of_isFinal {status : Status} (final : status.isFinal = true)
    (next : Status) : status.allows next = false := by
  cases status <;> cases next <;> simp_all [isFinal, allows]

end Execution.Status

/-- How severe a line of the log is. -/
inductive LogLevel where
  | debug
  | info
  | warn
  | error
  deriving DecidableEq, Repr, Inhabited

namespace LogLevel

def name : LogLevel → String
  | debug => "debug"
  | info => "info"
  | warn => "warn"
  | error => "error"

/-- The rank of a level among the others. -/
def severity : LogLevel → Nat
  | debug => 0
  | info => 1
  | warn => 2
  | error => 3

end LogLevel

/-- A line of the log. -/
structure LogLine where
  timestamp : Instant
  level : LogLevel
  message : String
  nodeId : Option String := none
  deriving DecidableEq, Repr

/-- Why a run failed; the stack is the path to the node that did. -/
structure ErrorSummary where
  message : String
  stack : Option String := none
  deriving DecidableEq, Repr

/-- The record of one run. -/
structure Execution where
  id : ExecutionId
  workflowId : WorkflowId
  workflowName : String
  workflowVersion : Nat
  status : Execution.Status
  startedAt : Instant
  completedAt : Option Instant := none
  /-- Milliseconds from start to completion. -/
  duration : Option Nat := none
  error : Option ErrorSummary := none
  logs : List LogLine := []
  deriving DecidableEq, Repr

/-- A move between statuses that is not allowed. -/
structure TransitionError where
  source : Execution.Status
  target : Execution.Status
  deriving DecidableEq, Repr

/-- What is said of a move that is not allowed, by the names of its ends. -/
def TransitionError.messageOf (source target : String) : String :=
  s!"invalid state transition from {source} to {target}"

def TransitionError.message (error : TransitionError) : String :=
  messageOf error.source.name error.target.name

namespace Execution

/-- Enter a status without asking whether it may be entered. -/
def enter (record : Execution) (next : Status) (now : Instant) : Execution :=
  let startedAt := if next = .running then now else record.startedAt
  if next.isFinal then
    { record with
      status := next
      startedAt
      completedAt := some now
      duration := some (startedAt.millisecondsTo now) }
  else { record with status := next, startedAt }

/-- Move to another status, if that is allowed. -/
def transition (record : Execution) (next : Status) (now : Instant) :
    Except TransitionError Execution :=
  if record.status.allows next then .ok (record.enter next now)
  else .error ⟨record.status, next⟩

/-- Begin the run. -/
def start (record : Execution) (now : Instant) : Except TransitionError Execution :=
  record.transition .running now

/-- End the run as failed. -/
def fail (record : Execution) (summary : ErrorSummary) (now : Instant) :
    Except TransitionError Execution :=
  (record.transition .failed now).map fun failed => { failed with error := some summary }

/-- End the run as cancelled. -/
def cancel (record : Execution) (now : Instant) : Except TransitionError Execution :=
  record.transition .cancelled now

/-- Append a line to the log. -/
def log (record : Execution) (level : LogLevel) (message : String) (nodeId : Option String)
    (now : Instant) : Execution :=
  { record with logs := record.logs ++ [⟨now, level, message, nodeId⟩] }

/-- The lines of one level. -/
def logsAt (record : Execution) (level : LogLevel) : List LogLine :=
  record.logs.filter fun line => line.level = level

end Execution

end Flowline
