import Flowline.Service
import Flowline.Text.Quoted

/-!
# Failover between backends

Backends are asked in turn until one answers.  A backend that fails in a way
that may pass is asked again after a pause, which doubles from one time to the
next up to a largest one; any other failure, and the last attempt, lead on to
the next backend.
-/

namespace Flowline

/-- Something that generates texts. -/
structure Backend where
  name : String
  /-- The model that is used if a request names none. -/
  model : String
  generate : GenerationRequest → Task (Except GenerationError GenerationResponse)

/-- Backends in the order in which they are asked, each at least once.  Times are in
milliseconds. -/
structure FailoverChain where
  backends : List Backend
  attemptsPerBackend : Nat := 2
  attempts_pos : 0 < attemptsPerBackend := by exact Nat.two_pos
  initialBackoff : Nat := 500
  maxBackoff : Nat := 8000

namespace FailoverChain

/-- A chain whose backends are asked some times each, and at least once. -/
def withAttempts (chain : FailoverChain) (attempts : Nat) : FailoverChain :=
  { chain with attemptsPerBackend := max attempts 1, attempts_pos := Nat.le_max_right attempts 1 }

/-- A chain with a first and a largest pause. -/
def withBackoff (chain : FailoverChain) (initial largest : Nat) : FailoverChain :=
  { chain with initialBackoff := initial, maxBackoff := largest }

def isEmpty (chain : FailoverChain) : Bool := chain.backends.isEmpty

/-- The longest time that can be told: one with a count of seconds of 64 bits. -/
def longest : Nat := (UInt64.size - 1) * 1000 + 999

/-- The pause after an attempt, counted from zero. -/
def backoff (chain : FailoverChain) (attempt : Nat) : Nat :=
  min (min (chain.initialBackoff * min (Nat.pow 2 attempt) (UInt32.size - 1)) longest) chain.maxBackoff

/-- What is kept of the calls that have failed: how many there were, in 32 bits and from zero
again past the largest count, and the error of the last one. -/
structure Tally where
  attempts : UInt32 := 0
  lastError : Option GenerationError := none

/-- One more call has failed. -/
def Tally.failed (tally : Tally) (error : GenerationError) : Tally :=
  ⟨tally.attempts + 1, some error⟩

/-- The error of a chain that has no backend left. -/
def Tally.exhausted (tally : Tally) : GenerationError :=
  .exhausted tally.attempts (tally.lastError.elim "" GenerationError.message)

/-- Ask one backend as long as attempts are left, after some attempts at it. -/
def askBackend (chain : FailoverChain) (backend : Backend) (request : GenerationRequest) :
    (left attempt : Nat) → Tally → Task (Except Tally GenerationResponse)
  | 0, _, tally => return .error tally
  | left + 1, attempt, tally => do
      match ← backend.generate request with
      | .ok response => return .ok response
      | .error error =>
          let tally := tally.failed error
          if error.isRetryable ∧ 0 < left then
            Task.sleep (chain.backoff attempt)
            chain.askBackend backend request left (attempt + 1) tally
          else return .error tally

/-- Ask backends in turn, after others that have failed. -/
def askFrom (chain : FailoverChain) (request : GenerationRequest) :
    List Backend → Tally → Task (Except GenerationError GenerationResponse)
  | [], tally => return .error tally.exhausted
  | backend :: rest, tally => do
      match ← chain.askBackend backend request chain.attemptsPerBackend 0 tally with
      | .ok response => return .ok response
      | .error tally => chain.askFrom request rest tally

/-- Generate a text with the first backend that does. -/
def generate (chain : FailoverChain) (request : GenerationRequest) :
    Task (Except GenerationError GenerationResponse) :=
  if chain.isEmpty then return .error .notConfigured
  else chain.askFrom request chain.backends {}

/-- A line about the chain. -/
def describe (chain : FailoverChain) : String :=
  "FailoverChain \x7b backends: " ++ Text.quotedList (chain.backends.map Backend.name) ++
    s!", attempts_per_backend: {chain.attemptsPerBackend}, .. \x7d"

end FailoverChain

end Flowline
