import Flowline.Workflow.Document

/-!
# Settings of the engine

Limits that hold for every run, and what a node takes for itself where it does
not say otherwise.  Times are in milliseconds.
-/

namespace Flowline

open Json (Document)
open Json.Document

namespace Engine

/-- The settings of an engine. -/
structure Settings where
  defaultTimeout : Nat := 30000
  defaultRetryDelay : Nat := 1000
  /-- The most connections that a walk follows one after the other. -/
  maxDepth : Nat := 256
  /-- Whether the stored record is read before each node. -/
  checkCancellation : Bool := true
  deriving DecidableEq, Repr, Inhabited

namespace Settings

def decode? (document : Document) : Option Settings := do
  let record ← document.record?
    ["default_timeout_ms", "default_retry_delay_ms", "max_depth", "check_cancellation"]
  some
    { defaultTimeout := ← record.defaulted "default_timeout_ms" count64? 30000
      defaultRetryDelay := ← record.defaulted "default_retry_delay_ms" count64? 1000
      maxDepth := ← record.defaulted "max_depth" count64? 256
      checkCancellation := ← record.defaulted "check_cancellation" bool? true }

def encode (settings : Settings) : Json := .ofMembers [
  ("default_timeout_ms", .ofNat settings.defaultTimeout),
  ("default_retry_delay_ms", .ofNat settings.defaultRetryDelay),
  ("max_depth", .ofNat settings.maxDepth),
  ("check_cancellation", .bool settings.checkCancellation)]

end Settings

/-- How a node is tried, settings of the engine included. -/
structure AttemptPolicy where
  retries : Nat
  retryDelay : Nat
  timeout : Nat
  continueOnError : Bool
  deriving DecidableEq, Repr

namespace AttemptPolicy

/-- The policy of a node; what it does not set is taken from the engine. -/
def forNode (node : Node) (settings : Settings) : AttemptPolicy where
  retries := node.policyOrDefault.retries
  retryDelay := node.policyOrDefault.retryDelay.getD settings.defaultRetryDelay
  timeout := node.policyOrDefault.timeout.getD settings.defaultTimeout
  continueOnError := node.policyOrDefault.continueOnError

/-- How many attempts are made at most.  The count has 32 bits, so the largest
number of retries allows no attempt more than itself. -/
def maxAttempts (policy : AttemptPolicy) : Nat :=
  min (policy.retries + 1) (UInt32.size - 1)

theorem maxAttempts_pos (policy : AttemptPolicy) : 0 < policy.maxAttempts := by
  unfold maxAttempts UInt32.size
  omega

end AttemptPolicy

end Engine

end Flowline
