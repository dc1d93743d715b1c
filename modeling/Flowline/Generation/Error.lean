/-!
# Errors of text generation
-/

namespace Flowline

/-- Why a text was not generated. -/
inductive GenerationError where
  | requestFailed (backend reason : String)
  | refused (backend : String) (status : Nat) (body : String)
  | rateLimited (backend : String) (retryAfter : Option Nat)
  | timeout (backend : String)
  | invalidResponse (backend reason : String)
  /-- There is no backend to ask. -/
  | notConfigured
  /-- Every backend failed.  The count of attempts has 32 bits. -/
  | exhausted (attempts : UInt32) (lastError : String)
  deriving DecidableEq, Repr

namespace GenerationError

def message : GenerationError → String
  | requestFailed backend reason => s!"request to {backend} failed: {reason}"
  | refused backend status body => s!"{backend} returned HTTP {status}: {body}"
  | rateLimited backend (some seconds) => s!"{backend} rate limited, retry after {seconds}s"
  | rateLimited backend none => s!"{backend} rate limited"
  | timeout backend => s!"{backend} timed out"
  | invalidResponse backend reason => s!"invalid response from {backend}: {reason}"
  | notConfigured => "no generation backends configured"
  | exhausted attempts lastError =>
      s!"all generation backends failed after {attempts} attempt(s); last error: {lastError}"

/-- Whether the same backend may do better when it is asked again. -/
def isRetryable : GenerationError → Bool
  | requestFailed _ _ | rateLimited _ _ | timeout _ => true
  | refused _ status _ => 500 ≤ status
  | invalidResponse _ _ | notConfigured | exhausted _ _ => false

end GenerationError

end Flowline
