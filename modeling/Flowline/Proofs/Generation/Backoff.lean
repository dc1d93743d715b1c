import Flowline.Proofs.Generation.Failover
import Mathlib.Algebra.GroupWithZero.Nat
import Mathlib.Algebra.Order.BigOperators.Group.List
import Mathlib.Algebra.Order.Group.Nat

/-!
# Pauses between the calls of a backend

Within the turn of a backend the pauses grow from one to the next until they are as long as they
may be, and they start anew with the next backend.  Since a turn has no more pauses than calls
that may be retried, the time that a chain rests is bounded by the number of its backends.
-/

namespace Flowline.FailoverChain

open Program
open Backend (settles)

/-- The times for which a chain rests in some steps. -/
def pauses (steps : List Step) : List Nat :=
  steps.filterMap fun
    | .call _ => none
    | .pause milliseconds => some milliseconds

/-- In a turn a chain pauses between two calls, and nowhere else: after an error that may pass,
for a time that doubles with each attempt up to the largest one. -/
structure Paced (chain : FailoverChain) (turn : Turn) : Prop where
  calls : ∀ number, (turn.steps chain 0)[2 * number]? = turn.calls[number]?.map Step.call
  between : ∀ number, (turn.steps chain 0)[2 * number + 1]? =
    if number + 1 < turn.calls.length then
      some (.pause
        (min (min (chain.initialBackoff * min (2 ^ number) (2 ^ 32 - 1)) longest) chain.maxBackoff))
    else none
  retried : ∀ number call, number + 1 < turn.calls.length → turn.calls[number]? = some call →
    ∃ error, call.outcome = .error error ∧ error.isRetryable = true
  few : turn.calls.length ≤ chain.attemptsPerBackend
  growing : (pauses (turn.steps chain 0)).Pairwise (· ≤ ·)
  capped : ∀ pause ∈ pauses (turn.steps chain 0), pause ≤ chain.maxBackoff

variable {chain : FailoverChain} {backend : Backend} {request : GenerationRequest} {turn : Turn}
  {turns : List Turn}

theorem backoff_eq (chain : FailoverChain) (attempt : Nat) :
    chain.backoff attempt =
      min (min (chain.initialBackoff * min (2 ^ attempt) (2 ^ 32 - 1)) longest) chain.maxBackoff :=
  rfl

theorem backoff_le (chain : FailoverChain) (attempt : Nat) :
    chain.backoff attempt ≤ chain.maxBackoff :=
  Nat.min_le_right _ _

theorem backoff_mono (chain : FailoverChain) {earlier later : Nat} (before : earlier ≤ later) :
    chain.backoff earlier ≤ chain.backoff later := by
  have factor : min (2 ^ earlier) (2 ^ 32 - 1) ≤ min (2 ^ later) (2 ^ 32 - 1) :=
    min_le_min_right _ (Nat.pow_le_pow_right Nat.two_pos before)
  rw [backoff_eq, backoff_eq]
  exact min_le_min_right _ (min_le_min_right _ (Nat.mul_le_mul_left _ factor))

example : (List.range 6).map (FailoverChain.backoff { backends := [] }) =
    [500, 1000, 2000, 4000, 8000, 8000] := by decide

namespace Turn

theorem steps_call (turn : Turn) (attempt number : Nat) :
    (turn.steps chain attempt)[2 * number]? = turn.calls[number]?.map Step.call := by
  induction turn using Turn.induction generalizing attempt number with
  | single call => cases number <;> rfl
  | after turn call ih =>
      cases number with
      | zero => rfl
      | succ number => exact ih (attempt + 1) number

theorem steps_between (turn : Turn) (attempt number : Nat) :
    (turn.steps chain attempt)[2 * number + 1]? =
      if number + 1 < turn.calls.length then some (.pause (chain.backoff (attempt + number)))
      else none := by
  induction turn using Turn.induction generalizing attempt number with
  | single call => simp
  | after turn call ih =>
      cases number with
      | zero => exact (if_pos (Nat.succ_lt_succ (by simp))).symm
      | succ number =>
          have further : number + 1 + 1 < (turn.after call).calls.length ↔
              number + 1 < turn.calls.length := Nat.succ_lt_succ_iff
          rw [← Nat.succ_add_eq_add_succ attempt, if_congr further rfl rfl]
          exact ih (attempt + 1) number

/-- The pauses of a turn follow the schedule of the chain. -/
theorem pauses_steps (turn : Turn) (attempt : Nat) :
    pauses (turn.steps chain attempt) =
      (List.range' attempt turn.retried.length).map chain.backoff := by
  induction turn using Turn.induction generalizing attempt with
  | single call => rfl
  | after turn call ih => exact congrArg (chain.backoff attempt :: ·) (ih (attempt + 1))

/-- The calls of a turn after which the backend is called again fail in a way that may pass. -/
theorem Taken.retryable {allowed : Nat} (taken : Taken request allowed backend turn) {number : Nat}
    {call : Backend.Call} (again : number + 1 < turn.calls.length)
    (found : turn.calls[number]? = some call) :
    ∃ error, call.outcome = .error error ∧ error.isRetryable = true := by
  have early : number < turn.retried.length := by simpa [calls] using again
  rw [calls, List.getElem?_append_left early] at found
  have passes := taken.retried call (List.mem_of_getElem? found)
  obtain ⟨error, fails⟩ := error_of_passes passes
  exact ⟨error, fails, by simpa [fails, settles] using passes⟩

theorem Taken.paced (taken : Taken request chain.attemptsPerBackend backend turn) :
    chain.Paced turn where
  calls := turn.steps_call 0
  between number := by
    rw [steps_between, Nat.zero_add]
    rfl
  retried _ _ := taken.retryable
  few := taken.calls_le
  growing := by
    rw [pauses_steps, List.pairwise_map]
    exact List.pairwise_le_range'.imp (backoff_mono chain)
  capped := by
    rw [pauses_steps]
    exact List.forall_mem_map.mpr fun attempt _ => backoff_le chain attempt

end Turn

theorem pauses_append (steps more : List Step) :
    pauses (steps ++ more) = pauses steps ++ pauses more :=
  List.filterMap_append

/-- In some turns a chain rests no longer than one longest pause for each call that may be
retried. -/
theorem sum_pauses_le {allowed : Nat} (few : ∀ turn ∈ turns, turn.retried.length < allowed) :
    (pauses (turns.flatMap (·.steps chain 0))).sum ≤
      turns.length * ((allowed - 1) * chain.maxBackoff) := by
  induction turns with
  | nil => simp [pauses]
  | cons turn turns ih =>
      obtain ⟨first, others⟩ := List.forall_mem_cons.mp few
      have rests : (pauses (turn.steps chain 0)).sum ≤ turn.retried.length * chain.maxBackoff := by
        rw [Turn.pauses_steps]
        refine (List.sum_le_card_nsmul _ chain.maxBackoff ?_).trans_eq (by simp)
        exact List.forall_mem_map.mpr fun attempt _ => backoff_le chain attempt
      calc (pauses ((turn :: turns).flatMap (·.steps chain 0))).sum
        _ = (pauses (turn.steps chain 0)).sum +
            (pauses (turns.flatMap (·.steps chain 0))).sum := by
          rw [List.flatMap_cons, pauses_append, List.sum_append]
        _ ≤ (allowed - 1) * chain.maxBackoff +
            turns.length * ((allowed - 1) * chain.maxBackoff) :=
          Nat.add_le_add (rests.trans (Nat.mul_le_mul_right _ (Nat.le_sub_one_of_lt first)))
            (ih others)
        _ = (turn :: turns).length * ((allowed - 1) * chain.maxBackoff) := by
          rw [List.length_cons, Nat.succ_mul, Nat.add_comm]

theorem InTurn.length_le {allowed : Nat} {backends : List Backend}
    (inTurn : InTurn request allowed backends turns) : turns.length ≤ backends.length := by
  simpa using inTurn.taken.length_eq.ge

/-- Whatever comes of the calls, a chain goes through turns of its backends that it paces each
from the beginning of its schedule, and rests for no longer than they allow in all. -/
theorem generate_pauses {events : List (Event services)} {result : Backend.Outcome}
    (yields : (chain.generate request).Yields events result) :
    ∃ turns : List Turn, events = (turns.flatMap (·.steps chain 0)).flatMap Step.events ∧
      List.Forall₂ (Turn.Taken request chain.attemptsPerBackend) (chain.backends.take turns.length)
        turns ∧
      (∀ turn ∈ turns, chain.Paced turn) ∧
      (pauses (turns.flatMap (·.steps chain 0))).sum ≤
        chain.backends.length * ((chain.attemptsPerBackend - 1) * chain.maxBackoff) := by
  by_cases none : chain.backends = []
  · rw [generate_of_none none] at yields
    obtain ⟨rfl, rfl⟩ := yields_done.mp yields
    exact ⟨[], rfl, .nil, fun _ none => absurd none List.not_mem_nil, Nat.zero_le _⟩
  · rw [generate_of_some none] at yields
    obtain ⟨turns, inTurn, rfl, -⟩ := exists_inTurn yields
    refine ⟨turns, rfl, inTurn.taken, fun turn member => ?_, ?_⟩
    · obtain ⟨backend, -, taken⟩ := inTurn.taken_of_mem member
      exact taken.paced
    · refine (sum_pauses_le fun turn member => ?_).trans
        (Nat.mul_le_mul_right _ inTurn.length_le)
      obtain ⟨backend, -, taken⟩ := inTurn.taken_of_mem member
      exact taken.few

/-- Between the two calls of each of two backends is the first pause of the schedule. -/
theorem generate_pauses_relayed :
    let request : GenerationRequest := { prompt := "" }
    (relayed.generate request).Yields (relayedEvents request) (.ok distant) ∧
      ∃ turns : List Turn,
        relayedEvents request = (turns.flatMap (·.steps relayed 0)).flatMap Step.events ∧
        List.Forall₂ (Turn.Taken request 3) (relayed.backends.take turns.length) turns ∧
        (∀ turn ∈ turns, relayed.Paced turn) ∧
        (pauses (turns.flatMap (·.steps relayed 0))).sum ≤ 2 * (2 * 8000) := by
  intro request
  exact ⟨relayed_yields request, generate_pauses (relayed_yields request)⟩

end Flowline.FailoverChain
