import Flowline.Engine.Settings
import Flowline.Engine.Surroundings

/-!
# Attempts at a node

A node is tried until it succeeds or its policy allows no more attempts, with a
fixed pause between two attempts.  Each failed attempt leaves one warning in the
log, and a node that has failed for good leaves one error after them.
-/

namespace Flowline.Engine

open Flowline.Engine.Action

/-- A node that failed in every attempt; the error is that of the last one. -/
structure NodeFailure where
  error : NodeError
  attempts : Nat
  deriving DecidableEq, Repr

/-- Try a node, with some attempts left after the one of the given number. -/
def tryFrom (node : Node) (context : Context) (policy : AttemptPolicy) :
    (left number : Nat) → Execution → Action (Execution × Except NodeFailure Json)
  | left, number, record => do
      match ← attempt ⟨.step, node, context, number, policy.timeout⟩ with
      | .ok value => return (record, .ok value)
      | .error error =>
          let failed := s!"Node {node.name} attempt {number}/{policy.maxAttempts} failed: " ++
            error.message
          match left with
          | 0 =>
              let record ← note record .warn failed node.id
              let record ← note record .error
                s!"Node {node.name} failed after {number} attempt(s): {error.message}" node.id
              return (record, .error ⟨error, number⟩)
          | left + 1 =>
              let record ← note record .warn
                s!"{failed}; retrying in {policy.retryDelay}ms" node.id
              sleep policy.retryDelay
              tryFrom node context policy left (number + 1) record

/-- Try a node as often as its policy allows. -/
def tryNode (node : Node) (context : Context) (policy : AttemptPolicy) (record : Execution) :
    Action (Execution × Except NodeFailure Json) :=
  tryFrom node context policy (policy.maxAttempts - 1) 1 record

end Flowline.Engine
