import Flowline.Generation.Failover
import Flowline.Proofs.Program.Trace
import Mathlib.Data.List.Forall2

/-!
# Turns of backends

A chain gives its backends turns, one after the other.  In its turn a backend is called until an
outcome settles the matter or it has been called as often as it may be, with a pause between two
calls; the chain is done when a turn ends with a response, or when every backend has had its turn.
These turns are taken apart here from whatever the calls themselves ask, so that nothing is said
about how a backend works.
-/

namespace Flowline

open Program

/-- What a call of a backend comes to. -/
abbrev Backend.Outcome := Except GenerationError GenerationResponse

/-- A call of a backend: what passes until it is over, and what it comes to. -/
structure Backend.Call where
  events : List (Event services)
  outcome : Backend.Outcome

/-- A backend makes a call when it is asked. -/
def Backend.Makes (backend : Backend) (request : GenerationRequest) (call : Backend.Call) : Prop :=
  (backend.generate request).Yields call.events call.outcome

/-- An outcome settles a turn unless it is an error that may pass. -/
def Backend.settles : Backend.Outcome → Bool
  | .ok _ => true
  | .error error => !error.isRetryable

namespace FailoverChain

open Backend (settles)

/-- What a chain does: it calls a backend, or it pauses. -/
inductive Step where
  | call (made : Backend.Call)
  | pause (milliseconds : Nat)

/-- What passes in a step. -/
def Step.events : Step → List (Event services)
  | call made => made.events
  | pause milliseconds => [⟨.sleep milliseconds, ()⟩]

/-- The turn of a backend: the calls after which it is called again, and the last one. -/
structure Turn where
  retried : List Backend.Call
  last : Backend.Call

namespace Turn

/-- The calls of a turn, in their order. -/
def calls (turn : Turn) : List Backend.Call := turn.retried ++ [turn.last]

/-- The steps of a turn: every call but the last is followed by the pause that is due after
so many attempts. -/
def steps (chain : FailoverChain) (turn : Turn) (attempt : Nat) : List Step :=
  ((turn.retried.zipIdx attempt).flatMap fun (call, attempt) =>
    [.call call, .pause (chain.backoff attempt)]) ++ [.call turn.last]

/-- A backend has taken a turn in which it may be called so many times. -/
structure Taken (request : GenerationRequest) (allowed : Nat) (backend : Backend) (turn : Turn) :
    Prop where
  made : ∀ call ∈ turn.calls, backend.Makes request call
  few : turn.retried.length < allowed
  retried : ∀ call ∈ turn.retried, settles call.outcome = false
  last : settles turn.last.outcome = true ∨ turn.calls.length = allowed

/-- The calls of a turn come to the outcomes of a sequence, from its beginning on. -/
def Follows (outcomes : Nat → Backend.Outcome) (turn : Turn) : Prop :=
  ∀ index call, turn.calls[index]? = some call → call.outcome = outcomes index

/-- A turn of one call. -/
def single (call : Backend.Call) : Turn := ⟨[], call⟩

/-- One more call in front of a turn. -/
def after (turn : Turn) (call : Backend.Call) : Turn :=
  { turn with retried := call :: turn.retried }

end Turn

/-- The place of the first outcome that settles the matter among so many of a sequence, counted
from one, or the number of all of them if none does. -/
def callsUpTo (allowed : Nat) (outcomes : Nat → Backend.Outcome) : Nat :=
  match (List.range allowed).find? fun index => settles (outcomes index) with
  | some index => index + 1
  | none => allowed

/-- The calls of the turns come to the outcomes that the backends have in store. -/
def Follows (outcomes : Nat → Nat → Backend.Outcome) (turns : List Turn) : Prop :=
  ∀ (place : Nat) (turn : Turn), turns[place]? = some turn → turn.Follows (outcomes place)

/-- What a chain does for a request and what comes of it if each backend may be called so many
times: turns that the backends take from the first on, and whose calls all fail but for the final
one, which decides on the result.  If that one fails too, the count of all calls is reported in
32 bits, and as it is where it fits them. -/
structure Course (chain : FailoverChain) (allowed : Nat) (request : GenerationRequest)
    (events : List (Event services)) (result : Backend.Outcome) (turns : List Turn)
    (failed : List Backend.Call) (final : Backend.Call) : Prop where
  passes : events = (turns.flatMap (·.steps chain 0)).flatMap Step.events
  taken : List.Forall₂ (Turn.Taken request allowed) (chain.backends.take turns.length) turns
  counts : ∀ outcomes, Follows outcomes turns → ∀ place turn, turns[place]? = some turn →
    turn.calls.length = callsUpTo allowed (outcomes place)
  few : (turns.flatMap Turn.calls).length ≤ chain.backends.length * allowed
  calls : turns.flatMap Turn.calls = failed ++ [final]
  failed : ∀ call ∈ failed, ∃ error, call.outcome = .error error
  response : ∀ response, final.outcome = .ok response → result = .ok response
  exhausted : ∀ error, final.outcome = .error error → turns.length = chain.backends.length ∧
    ∃ attempts, result = .error (.exhausted attempts error.message) ∧
      attempts = UInt32.ofNat (turns.flatMap Turn.calls).length ∧
      ((turns.flatMap Turn.calls).length < UInt32.size →
        attempts.toNat = (turns.flatMap Turn.calls).length)

variable {chain : FailoverChain} {backend : Backend} {backends : List Backend}
  {request : GenerationRequest} {turn : Turn} {turns : List Turn} {call : Backend.Call}
  {left attempt : Nat} {tally : Tally}

/-! ## One turn -/

@[simp] theorem callsUpTo_zero (outcomes : Nat → Backend.Outcome) : callsUpTo 0 outcomes = 0 := rfl

theorem callsUpTo_succ (allowed : Nat) (outcomes : Nat → Backend.Outcome) :
    callsUpTo (allowed + 1) outcomes =
      if settles (outcomes 0) then 1
      else callsUpTo allowed (fun index => outcomes (index + 1)) + 1 := by
  rw [callsUpTo, List.range_succ_eq_map, List.find?_cons]
  cases settles (outcomes 0) with
  | true => rfl
  | false =>
      simp only [List.find?_map, callsUpTo, Function.comp_def, Nat.succ_eq_add_one]
      cases (List.range allowed).find? fun index => settles (outcomes (index + 1)) <;> rfl

namespace Turn

@[simp] theorem calls_single : (single call).calls = [call] := rfl

@[simp] theorem calls_after : (turn.after call).calls = call :: turn.calls := rfl

@[simp] theorem steps_single : (single call).steps chain attempt = [.call call] := rfl

@[simp] theorem steps_after : (turn.after call).steps chain attempt =
    .call call :: .pause (chain.backoff attempt) :: turn.steps chain (attempt + 1) := rfl

theorem taken_single : Taken request (left + 1) backend (single call) ↔
    backend.Makes request call ∧ (settles call.outcome = true ∨ left = 0) := by
  constructor
  · intro taken
    exact ⟨taken.made call (by simp), taken.last.imp_right fun all => (Nat.succ.inj all).symm⟩
  · rintro ⟨makes, ends⟩
    constructor
    · simpa using makes
    · exact Nat.succ_pos left
    · exact fun _ none => absurd none List.not_mem_nil
    · exact ends.imp_right fun none => by rw [none]; rfl

theorem taken_after : Taken request (left + 1) backend (turn.after call) ↔
    backend.Makes request call ∧ settles call.outcome = false ∧
      Taken request left backend turn := by
  constructor
  · intro taken
    obtain ⟨makes, others⟩ := List.forall_mem_cons.mp taken.made
    obtain ⟨passes, further⟩ := List.forall_mem_cons.mp taken.retried
    exact ⟨makes, passes, others, Nat.lt_of_succ_lt_succ taken.few, further,
      taken.last.imp_right Nat.succ.inj⟩
  · rintro ⟨makes, passes, taken⟩
    exact ⟨List.forall_mem_cons.mpr ⟨makes, taken.made⟩, Nat.succ_lt_succ taken.few,
      List.forall_mem_cons.mpr ⟨passes, taken.retried⟩, taken.last.imp_right (congrArg Nat.succ)⟩

/-- A turn is one call, or one more call in front of a turn. -/
@[elab_as_elim]
theorem induction {motive : Turn → Prop} (single : ∀ call, motive (single call))
    (after : ∀ turn call, motive turn → motive (after turn call)) (turn : Turn) : motive turn := by
  obtain ⟨retried, last⟩ := turn
  induction retried with
  | nil => exact single last
  | cons call retried ih => exact after ⟨retried, last⟩ call ih

theorem Follows.of_after {outcomes : Nat → Backend.Outcome}
    (follows : Follows outcomes (turn.after call)) :
    call.outcome = outcomes 0 ∧ turn.Follows fun index => outcomes (index + 1) :=
  ⟨follows 0 call rfl, fun index other found => follows (index + 1) other found⟩

theorem Follows.after {outcomes : Nat → Backend.Outcome} (same : call.outcome = outcomes 0)
    (follows : turn.Follows fun index => outcomes (index + 1)) :
    Follows outcomes (turn.after call)
  | 0, _, found => Option.some.inj found ▸ same
  | index + 1, other, found => follows index other found

theorem follows_single {outcomes : Nat → Backend.Outcome} (same : call.outcome = outcomes 0) :
    (single call).Follows outcomes
  | 0, _, found => Option.some.inj found ▸ same

theorem Taken.calls_le {allowed : Nat} (taken : Taken request allowed backend turn) :
    turn.calls.length ≤ allowed := by
  rw [calls, List.length_append]
  exact taken.few

/-- A turn has as many calls as the outcomes that they come to say. -/
theorem Taken.count {allowed : Nat} (taken : Taken request allowed backend turn)
    {outcomes : Nat → Backend.Outcome} (follows : turn.Follows outcomes) :
    turn.calls.length = callsUpTo allowed outcomes := by
  obtain ⟨left, rfl⟩ := Nat.exists_eq_add_one.mpr (Nat.zero_lt_of_lt taken.few)
  induction turn using Turn.induction generalizing left outcomes with
  | single call =>
      have same : call.outcome = outcomes 0 := follows 0 call rfl
      obtain ⟨-, settled | rfl⟩ := taken_single.mp taken
      · rw [callsUpTo_succ, ← same, if_pos settled]
        rfl
      · rw [callsUpTo_succ, callsUpTo_zero, ite_self]
        rfl
  | after turn call ih =>
      obtain ⟨same, further⟩ := follows.of_after
      obtain ⟨-, passes, rest⟩ := taken_after.mp taken
      obtain ⟨left, rfl⟩ := Nat.exists_eq_add_one.mpr (Nat.zero_lt_of_lt rest.few)
      rw [callsUpTo_succ, ← same, passes, if_neg Bool.false_ne_true, ← ih further left rest]
      rfl

/-- A backend can take a turn with the calls that it has in store. -/
theorem exists_taken {calls : Nat → Backend.Call}
    (makes : ∀ index, backend.Makes request (calls index)) (left : Nat) :
    ∃ turn : Turn, Taken request (left + 1) backend turn ∧
      turn.Follows fun index => (calls index).outcome := by
  induction left generalizing calls with
  | zero => exact ⟨single (calls 0), taken_single.mpr ⟨makes 0, .inr rfl⟩, follows_single rfl⟩
  | succ left ih =>
      cases settled : settles (calls 0).outcome with
      | true =>
          exact ⟨single (calls 0), taken_single.mpr ⟨makes 0, .inl settled⟩, follows_single rfl⟩
      | false =>
          obtain ⟨turn, taken, follows⟩ := ih fun index => makes (index + 1)
          exact ⟨turn.after (calls 0), taken_after.mpr ⟨makes 0, settled, taken⟩,
            follows.after rfl⟩

end Turn

/-! ## The tally of a turn -/

theorem Tally.failed_attempts (tally : Tally) (error : GenerationError) (more : Nat) :
    (tally.failed error).attempts + UInt32.ofNat more =
      tally.attempts + UInt32.ofNat (more + 1) := by
  rw [Nat.add_comm more, UInt32.ofNat_add]
  exact UInt32.add_assoc tally.attempts 1 (UInt32.ofNat more)

/-- Past the largest count the tally starts over. -/
example (error : GenerationError) :
    (Tally.failed ⟨UInt32.ofNat (UInt32.size - 1), none⟩ error).attempts = 0 := rfl

namespace Turn

/-- What comes of a turn after some failed calls: the response of its last call, or what is kept
of all calls. -/
def result (tally : Tally) (turn : Turn) : Except Tally GenerationResponse :=
  turn.last.outcome.mapError fun error =>
    ⟨tally.attempts + UInt32.ofNat turn.calls.length, some error⟩

theorem result_of_ok {response : GenerationResponse} (responds : turn.last.outcome = .ok response) :
    turn.result tally = .ok response := by
  rw [result, responds]
  rfl

theorem result_of_error {error : GenerationError} (fails : turn.last.outcome = .error error) :
    turn.result tally =
      .error ⟨tally.attempts + UInt32.ofNat turn.calls.length, some error⟩ := by
  rw [result, fails]
  rfl

theorem result_after (tally : Tally) (turn : Turn) (call : Backend.Call)
    (error : GenerationError) :
    (turn.after call).result tally = turn.result (tally.failed error) := by
  simp only [result, tally.failed_attempts error]
  rfl

end Turn

/-- After an error a backend is not called again if the error settles its turn or no attempt is
left. -/
theorem not_again_iff {error : GenerationError} :
    ¬ (error.isRetryable ∧ 0 < left) ↔ settles (.error error) = true ∨ left = 0 := by
  rw [Decidable.not_and_iff_or_not, Nat.not_lt, Nat.le_zero, settles, Bool.not_eq_true',
    Bool.not_eq_true]

/-- To ask a backend is to let it take a turn. -/
theorem exists_turn {events : List (Event services)} {result : Except Tally GenerationResponse}
    (some : 0 < left)
    (yields : (chain.askBackend backend request left attempt tally).Yields events result) :
    ∃ turn : Turn, turn.Taken request left backend ∧
      events = (turn.steps chain attempt).flatMap Step.events ∧ result = turn.result tally := by
  -- On the attempts that are left; the number of the attempt only says how long the pause is.
  induction left generalizing attempt tally events with
  | zero => cases some
  | succ left ih =>
      rw [askBackend] at yields
      obtain ⟨before, came, after, rfl, makes, goesOn⟩ := yields.of_bind
      cases came with
      | ok response =>
          obtain ⟨rfl, rfl⟩ := yields_done.mp goesOn
          exact ⟨.single ⟨before, .ok response⟩, Turn.taken_single.mpr ⟨makes, .inl rfl⟩,
            by simp [Step.events], rfl⟩
      | error error =>
          dsimp only at goesOn
          by_cases again : error.isRetryable ∧ 0 < left
          · rw [if_pos again] at goesOn
            obtain ⟨⟨⟩, rest, rfl, asks⟩ := yields_ask.mp goesOn
            obtain ⟨turn, taken, rfl, rfl⟩ := ih again.2 asks
            exact ⟨turn.after ⟨before, .error error⟩, Turn.taken_after.mpr
              ⟨makes, by simp [settles, again.1], taken⟩, by simp [Step.events],
              (turn.result_after tally _ error).symm⟩
          · rw [if_neg again] at goesOn
            obtain ⟨rfl, rfl⟩ := yields_done.mp goesOn
            exact ⟨.single ⟨before, .error error⟩,
              Turn.taken_single.mpr ⟨makes, not_again_iff.mp again⟩, by simp [Step.events], rfl⟩

/-- A turn that a backend can take is one that it takes when it is asked. -/
theorem Turn.Taken.yields (taken : turn.Taken request left backend) (attempt : Nat)
    (tally : Tally) :
    (chain.askBackend backend request left attempt tally).Yields
      ((turn.steps chain attempt).flatMap Step.events) (turn.result tally) := by
  obtain ⟨left, rfl⟩ := Nat.exists_eq_add_one.mpr (Nat.zero_lt_of_lt taken.few)
  induction turn using Turn.induction generalizing left attempt tally with
  | single call =>
      obtain ⟨makes, ends⟩ := taken_single.mp taken
      obtain ⟨events, outcome⟩ := call
      rw [askBackend]
      refine makes.bind ?_
      cases outcome with
      | ok response => exact .done _
      | error error =>
          dsimp only
          rw [if_neg (not_again_iff.mpr ends)]
          exact .done _
  | after turn call ih =>
      obtain ⟨makes, passes, rest⟩ := taken_after.mp taken
      obtain ⟨left, rfl⟩ := Nat.exists_eq_add_one.mpr (Nat.zero_lt_of_lt rest.few)
      obtain ⟨events, outcome⟩ := call
      rw [askBackend, steps_after, List.flatMap_cons]
      refine makes.bind ?_
      cases outcome with
      | ok response => cases passes
      | error error =>
          have retryable : error.isRetryable = true := by simpa [settles] using passes
          dsimp only
          rw [if_pos ⟨retryable, left.succ_pos⟩, turn.result_after tally _ error]
          exact .ask (ih (attempt + 1) (tally.failed error) left rest)

/-! ## Turn after turn -/

/-- Backends take turns in their order, as long as the turns end with errors. -/
inductive InTurn (request : GenerationRequest) (allowed : Nat) :
    List Backend → List Turn → Prop where
  | nil : InTurn request allowed [] []
  | responds {backend : Backend} {rest : List Backend} {turn : Turn}
      {response : GenerationResponse} (taken : turn.Taken request allowed backend)
      (responds : turn.last.outcome = .ok response) :
      InTurn request allowed (backend :: rest) [turn]
  | fails {backend : Backend} {rest : List Backend} {turn : Turn} {turns : List Turn}
      {error : GenerationError} (taken : turn.Taken request allowed backend)
      (fails : turn.last.outcome = .error error) (goesOn : InTurn request allowed rest turns) :
      InTurn request allowed (backend :: rest) (turn :: turns)

/-- What comes out in the end of turns after some failed calls. -/
def conclude (tally : Tally) : List Turn → Backend.Outcome
  | [] => .error tally.exhausted
  | turn :: turns => match turn.result tally with
    | .ok response => .ok response
    | .error tally => conclude tally turns

/-- To ask some backends is to let them take turns. -/
theorem exists_inTurn {events : List (Event services)} {result : Backend.Outcome}
    (yields : (chain.askFrom request backends tally).Yields events result) :
    ∃ turns, InTurn request chain.attemptsPerBackend backends turns ∧
      events = (turns.flatMap (·.steps chain 0)).flatMap Step.events ∧
      result = conclude tally turns := by
  induction backends generalizing tally events with
  | nil =>
      obtain ⟨rfl, rfl⟩ := yields_done.mp yields
      exact ⟨[], .nil, rfl, rfl⟩
  | cons backend backends ih =>
      rw [askFrom] at yields
      obtain ⟨before, came, after, rfl, asks, goesOn⟩ := yields.of_bind
      obtain ⟨turn, taken, rfl, rfl⟩ := exists_turn chain.attempts_pos asks
      cases last : turn.last.outcome with
      | ok response =>
          rw [Turn.result_of_ok last] at goesOn
          obtain ⟨rfl, rfl⟩ := yields_done.mp goesOn
          exact ⟨[turn], .responds taken last, by simp, by rw [conclude, Turn.result_of_ok last]⟩
      | error error =>
          rw [Turn.result_of_error last] at goesOn
          obtain ⟨turns, inTurn, rfl, rfl⟩ := ih goesOn
          exact ⟨turn :: turns, .fails taken last inTurn, by simp,
            by rw [conclude, Turn.result_of_error last]⟩

/-- Turns that backends can take are turns that they take when they are asked. -/
theorem InTurn.yields (inTurn : InTurn request chain.attemptsPerBackend backends turns)
    (tally : Tally) :
    (chain.askFrom request backends tally).Yields
      ((turns.flatMap (·.steps chain 0)).flatMap Step.events) (conclude tally turns) := by
  induction backends generalizing turns tally with
  | nil =>
      cases inTurn
      exact .done _
  | cons backend backends ih =>
      rw [askFrom]
      cases inTurn with
      | responds taken last =>
          rw [List.flatMap_cons, List.flatMap_append]
          refine (taken.yields 0 tally).bind ?_
          rw [conclude, Turn.result_of_ok last]
          exact .done _
      | fails taken last inTurn =>
          rw [List.flatMap_cons, List.flatMap_append]
          refine (taken.yields 0 tally).bind ?_
          rw [conclude, Turn.result_of_error last]
          exact ih inTurn _

theorem InTurn.taken {allowed : Nat} (inTurn : InTurn request allowed backends turns) :
    List.Forall₂ (Turn.Taken request allowed) (backends.take turns.length) turns := by
  induction inTurn with
  | nil => exact .nil
  | responds taken _ => exact .cons taken .nil
  | fails taken _ _ ih => exact .cons taken ih

theorem InTurn.taken_of_mem {allowed : Nat} (inTurn : InTurn request allowed backends turns)
    (member : turn ∈ turns) : ∃ backend ∈ backends, turn.Taken request allowed backend := by
  induction inTurn with
  | nil => cases member
  | responds taken _ =>
      cases List.mem_singleton.mp member
      exact ⟨_, List.mem_cons_self, taken⟩
  | fails taken _ _ ih =>
      rcases List.mem_cons.mp member with rfl | later
      · exact ⟨_, List.mem_cons_self, taken⟩
      · obtain ⟨backend, among, taken⟩ := ih later
        exact ⟨backend, List.mem_cons_of_mem _ among, taken⟩

theorem error_of_passes {outcome : Backend.Outcome} (passes : settles outcome = false) :
    ∃ error, outcome = .error error := by
  cases outcome with
  | ok response => cases passes
  | error error => exact ⟨error, rfl⟩

/-- Backends are called no more often than they all may be. -/
theorem InTurn.calls_le {allowed : Nat} (inTurn : InTurn request allowed backends turns) :
    (turns.flatMap Turn.calls).length ≤ backends.length * allowed := by
  induction inTurn with
  | nil => exact Nat.zero_le _
  | responds taken _ =>
      rw [List.flatMap_singleton, List.length_cons, Nat.succ_mul]
      exact Nat.le_add_left_of_le taken.calls_le
  | fails taken _ _ ih =>
      rw [List.flatMap_cons, List.length_append, List.length_cons, Nat.succ_mul, Nat.add_comm]
      exact Nat.add_le_add ih taken.calls_le

/-- All calls fail but for a final one, which decides on what comes out. -/
theorem InTurn.decided {allowed : Nat} (inTurn : InTurn request allowed backends turns)
    (some : backends ≠ []) (tally : Tally) :
    ∃ failed final, turns.flatMap Turn.calls = failed ++ [final] ∧
      (∀ call ∈ failed, ∃ error, call.outcome = .error error) ∧
      (∀ response, final.outcome = .ok response → conclude tally turns = .ok response) ∧
      ∀ error, final.outcome = .error error → turns.length = backends.length ∧
        conclude tally turns = .error (.exhausted
          (tally.attempts + UInt32.ofNat (turns.flatMap Turn.calls).length) error.message) := by
  induction inTurn generalizing tally with
  | nil => exact absurd rfl some
  | @responds _ _ turn response taken responds =>
      refine ⟨turn.retried, turn.last, by simp [Turn.calls],
        fun call member => error_of_passes (taken.retried call member), ?_, ?_⟩
      · rintro _ same
        rw [conclude, Turn.result_of_ok same]
      · intro error fails
        cases responds.symm.trans fails
  | @fails _ rest turn turns error taken fails goesOn ih =>
      have earlier : ∀ call ∈ turn.retried, ∃ error, call.outcome = .error error :=
        fun call member => error_of_passes (taken.retried call member)
      -- A turn that ends with an error decides only if there is no backend behind it.
      by_cases alone : rest = []
      · subst alone
        cases goesOn
        refine ⟨turn.retried, turn.last, by simp [Turn.calls], earlier, ?_, ?_⟩
        · intro response responds
          cases fails.symm.trans responds
        · rintro _ same
          rw [conclude, Turn.result_of_error same, List.flatMap_singleton]
          exact ⟨rfl, rfl⟩
      · obtain ⟨failed, final, calls, later, response, exhausted⟩ :=
          ih alone ⟨tally.attempts + UInt32.ofNat turn.calls.length, error⟩
        refine ⟨turn.calls ++ failed, final, by rw [List.flatMap_cons, calls, List.append_assoc],
          ?_, ?_, ?_⟩
        · rw [Turn.calls, List.forall_mem_append, List.forall_mem_append]
          exact ⟨⟨earlier, by simpa using ⟨error, fails⟩⟩, later⟩
        · intro came same
          rw [conclude, Turn.result_of_error fails]
          exact response came same
        · intro came same
          obtain ⟨all, result⟩ := exhausted came same
          rw [conclude, Turn.result_of_error fails, List.flatMap_cons, List.length_append,
            UInt32.ofNat_add, ← UInt32.add_assoc]
          exact ⟨congrArg Nat.succ all, result⟩

theorem conclude_ne_notConfigured : conclude tally turns ≠ .error .notConfigured := by
  induction turns generalizing tally with
  | nil => simp [conclude, Tally.exhausted]
  | cons turn turns ih =>
      rw [conclude]
      split
      · simp
      · exact ih

/-- Backends can take turns with the outcomes that they have in store. -/
theorem exists_follows {outcomes : Nat → Nat → Backend.Outcome}
    (possible : ∀ place backend, backends[place]? = some backend → ∀ index,
      ∃ call, backend.Makes request call ∧ call.outcome = outcomes place index) {allowed : Nat}
    (positive : 0 < allowed) :
    ∃ turns, InTurn request allowed backends turns ∧ Follows outcomes turns := by
  obtain ⟨left, rfl⟩ := Nat.exists_eq_add_one.mpr positive
  induction backends generalizing outcomes with
  | nil => exact ⟨[], .nil, fun _ _ none => by cases none⟩
  | cons backend backends ih =>
      choose calls makes same using possible 0 backend rfl
      obtain ⟨turn, taken, follows⟩ := Turn.exists_taken makes left
      simp only [same] at follows
      cases last : turn.last.outcome with
      | ok response =>
          refine ⟨[turn], .responds taken last, ?_⟩
          rintro (_ | place) _ ⟨⟩
          exact follows
      | error error =>
          obtain ⟨turns, inTurn, others⟩ := ih fun place => possible (place + 1)
          refine ⟨turn :: turns, .fails taken last inTurn, ?_⟩
          rintro (_ | place) other found
          · cases found
            exact follows
          · exact others place other found

theorem InTurn.course {allowed : Nat} (inTurn : InTurn request allowed chain.backends turns)
    (some : chain.backends ≠ []) :
    ∃ failed final, chain.Course allowed request
      ((turns.flatMap (·.steps chain 0)).flatMap Step.events) (conclude {} turns) turns failed
        final := by
  obtain ⟨failed, final, calls, errors, response, exhausted⟩ := inTurn.decided some {}
  refine ⟨failed, final, rfl, inTurn.taken, ?_, inTurn.calls_le, calls, errors, response, ?_⟩
  · intro outcomes follows place turn found
    obtain ⟨backend, -, taken⟩ := inTurn.taken_of_mem (List.mem_of_getElem? found)
    exact taken.count (follows place turn found)
  · intro error fails
    obtain ⟨all, result⟩ := exhausted error fails
    rw [UInt32.zero_add] at result
    exact ⟨all, _, result, rfl, UInt32.toNat_ofNat_of_lt⟩

theorem generate_of_none (none : chain.backends = []) :
    chain.generate request = done (.error .notConfigured) := by
  rw [generate, isEmpty, none]
  rfl

theorem generate_of_some (some : chain.backends ≠ []) :
    chain.generate request = chain.askFrom request chain.backends {} := by
  rw [generate, isEmpty, if_neg (by simpa using some)]

theorem backends_withAttempts (chain : FailoverChain) (attempts : Nat) :
    (chain.withAttempts attempts).backends = chain.backends := rfl

/-- A backend that lives outside. -/
def relay (name : String) : Backend := ⟨name, "", Task.generate name⟩

/-- A call of a backend that lives outside. -/
def relayCall (name : String) (request : GenerationRequest) (outcome : Backend.Outcome) :
    Backend.Call :=
  ⟨[⟨.generate name request, outcome⟩], outcome⟩

/-- Whatever may come of a call can come of one to a backend that lives outside. -/
theorem relay_makes (name : String) (request : GenerationRequest) (outcome : Backend.Outcome) :
    (relay name).Makes request (relayCall name request outcome) :=
  .ask (.done outcome)

/-- A chain of two backends. -/
def relays : FailoverChain := { backends := [relay "near", relay "far"] }

/-- Two backends that may be called three times each. -/
def relayed : FailoverChain := relays.withAttempts 3

/-- A response of the second of two backends. -/
def distant : GenerationResponse := ⟨"text", "model", "far", {}⟩

/-- A backend that is slow and then refuses, and one that is busy until it responds. -/
def inStore : Nat → Nat → Backend.Outcome
  | 0, 0 => .error (.timeout "near")
  | 0, _ => .error (.refused "near" 400 "")
  | _, 0 => .error (.rateLimited "far" none)
  | _, _ => .ok distant

/-- The turns of two backends that are called twice each. -/
def twoTurns (request : GenerationRequest) : List Turn := [
  ⟨[relayCall "near" request (inStore 0 0)], relayCall "near" request (inStore 0 1)⟩,
  ⟨[relayCall "far" request (inStore 1 0)], relayCall "far" request (inStore 1 1)⟩]

theorem inTurn_twoTurns (request : GenerationRequest) :
    InTurn request relayed.attemptsPerBackend relayed.backends (twoTurns request) := by
  refine .fails ?_ rfl (.responds ?_ rfl)
  · exact Turn.taken_after.mpr ⟨relay_makes _ _ _, rfl,
      Turn.taken_single.mpr ⟨relay_makes _ _ _, .inl rfl⟩⟩
  · exact Turn.taken_after.mpr ⟨relay_makes _ _ _, rfl,
      Turn.taken_single.mpr ⟨relay_makes _ _ _, .inl rfl⟩⟩

/-- What passes while two backends are called twice each. -/
def relayedEvents (request : GenerationRequest) : List (Event services) := [
  ⟨.generate "near" request, .error (.timeout "near")⟩, ⟨.sleep 500, ()⟩,
  ⟨.generate "near" request, .error (.refused "near" 400 "")⟩,
  ⟨.generate "far" request, .error (.rateLimited "far" none)⟩, ⟨.sleep 500, ()⟩,
  ⟨.generate "far" request, .ok distant⟩]

theorem relayed_yields (request : GenerationRequest) :
    (relayed.generate request).Yields (relayedEvents request) (.ok distant) := by
  rw [generate_of_some (List.cons_ne_nil _ _)]
  exact (inTurn_twoTurns request).yields {}

end FailoverChain

end Flowline
