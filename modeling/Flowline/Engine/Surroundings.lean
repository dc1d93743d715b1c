import Flowline.Program
import Flowline.Store.Basic
import Flowline.Workflow.Failure

/-!
# What the engine asks

A run reads the clock, sleeps, keeps its record in a store and has handlers
attempt its nodes.  Everything else it works out by itself.
-/

namespace Flowline.Engine

/-- Why a node is attempted. -/
inductive Role where
  /-- As a step of the walk. -/
  | step
  /-- Because another node has failed for good. -/
  | errorHandler
  deriving DecidableEq, Repr

/-- One attempt at a node. -/
structure Attempt where
  role : Role
  node : Node
  context : Context
  /-- Which attempt at the node it is, from one. -/
  number : Nat
  /-- Milliseconds after which it is given up. -/
  limit : Nat
  deriving DecidableEq, Repr

inductive Request where
  | now
  | sleep (milliseconds : Nat)
  | create (record : Execution)
  | load (id : ExecutionId)
  | save (record : Execution) (expected : Revision)
  | attempt (attempt : Attempt)
  deriving DecidableEq, Repr

/-- The reply to a request.  An attempt that is not over when its limit has
passed has no result. -/
abbrev Reply : Request → Type
  | .now => Instant
  | .sleep _ => Unit
  | .create _ => Except StoreError Revision
  | .load _ => Except StoreError Versioned
  | .save _ _ => Except StoreError Revision
  | .attempt _ => Option (Except NodeError Json)

/-- What the engine asks. -/
abbrev surroundings : Interface := ⟨Request, Reply⟩

/-- A program of the engine. -/
abbrev Action := Program surroundings

namespace Action

def now : Action Instant := @Program.request surroundings .now

def sleep (milliseconds : Nat) : Action Unit :=
  @Program.request surroundings (.sleep milliseconds)

def create (record : Execution) : Action (Except StoreError Revision) :=
  @Program.request surroundings (.create record)

def load (id : ExecutionId) : Action (Except StoreError Versioned) :=
  @Program.request surroundings (.load id)

def save (record : Execution) (expected : Revision) : Action (Except StoreError Revision) :=
  @Program.request surroundings (.save record expected)

/-- Attempt a node once; what takes too long counts as a failure. -/
def attempt (attempt : Attempt) : Action (Except NodeError Json) := do
  match ← @Program.request surroundings (.attempt attempt) with
  | some result => return result
  | none => return .error (.timeout attempt.limit)

/-- Append a line to the log of a record. -/
def note (record : Execution) (level : LogLevel) (message : String)
    (nodeId : Option String := none) : Action Execution := do
  return record.log level message nodeId (← now)

end Action

end Flowline.Engine
