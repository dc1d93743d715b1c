import Flowline.Program.Deadline
import Flowline.Proofs.Program.Trace
import Mathlib.Algebra.GroupWithZero.Nat

/-!
# Programs over time

A program that is left alone comes to its value after all that its replies take.  Within a
limit it comes to the same value at the same time, unless that is after the limit; then it is
dropped as soon as the limit has passed, wherever it is.
-/

namespace Flowline

/-- A request and the reply to it, the state in which it is made, and how long the reply takes. -/
structure Moment (interface : Interface) (σ : Type) where
  before : σ
  event : Event interface
  cost : Nat

namespace Program

variable {interface : Interface} {α β σ : Type} {answer : TimedAnswers interface σ}

/-- What a program that is left alone comes to, after how long, and the state behind it. -/
def alone (answer : TimedAnswers interface σ) : Program interface α → σ → α × Nat × σ
  | done value, state => (value, 0, state)
  | ask request next, state =>
      let (reply, cost, after) := answer request state
      let (value, more, last) := (next reply).alone answer after
      (value, cost + more, last)

/-- What passes until a program that is left alone has its value. -/
def moments (answer : TimedAnswers interface σ) :
    Program interface α → σ → List (Moment interface σ)
  | done _, _ => []
  | ask request next, state =>
      let (reply, cost, after) := answer request state
      ⟨state, ⟨request, reply⟩, cost⟩ :: (next reply).moments answer after

@[simp] theorem alone_done (value : α) (state : σ) :
    (done value : Program interface α).alone answer state = (value, 0, state) := rfl

@[simp] theorem moments_done (value : α) (state : σ) :
    (done value : Program interface α).moments answer state = [] := rfl

theorem alone_ask (request : interface.Request)
    (next : interface.Reply request → Program interface α) (state : σ) :
    (ask request next).alone answer state =
      (((next (answer request state).1).alone answer (answer request state).2.2).1,
        (answer request state).2.1 +
          ((next (answer request state).1).alone answer (answer request state).2.2).2.1,
        ((next (answer request state).1).alone answer (answer request state).2.2).2.2) := rfl

theorem moments_ask (request : interface.Request)
    (next : interface.Reply request → Program interface α) (state : σ) :
    (ask request next).moments answer state =
      ⟨state, ⟨request, (answer request state).1⟩, (answer request state).2.1⟩ ::
        (next (answer request state).1).moments answer (answer request state).2.2 := rfl

theorem runWithin_ask (limit : Nat) (request : interface.Request)
    (next : interface.Reply request → Program interface α) (spent : Nat) (state : σ) :
    (ask request next).runWithin (some limit) answer spent state =
      if spent + (answer request state).2.1 ≤ limit then
        (next (answer request state).1).runWithin (some limit) answer
          (spent + (answer request state).2.1) (answer request state).2.2
      else (none, limit, (answer request state).2.2) := rfl

/-- Without a limit a program is left alone. -/
theorem runWithin_none (program : Program interface α) (spent : Nat) (state : σ) :
    program.runWithin none answer spent state =
      (some (program.alone answer state).1, spent + (program.alone answer state).2.1,
        (program.alone answer state).2.2) := by
  induction program generalizing spent state with
  | done value => rfl
  | ask request next ih => simp [runWithin, alone, ih, Nat.add_assoc]

/-- Within a limit a program comes to its value unless it is too late for that, and in this case
it takes all the time that there is. -/
theorem runWithin_some {limit : Nat} (program : Program interface α) {spent : Nat}
    (early : spent ≤ limit) (state : σ) :
    (program.runWithin (some limit) answer spent state).1 =
        (if spent + (program.alone answer state).2.1 ≤ limit then
          some (program.alone answer state).1 else none) ∧
      (program.runWithin (some limit) answer spent state).2.1 =
        min (spent + (program.alone answer state).2.1) limit := by
  induction program generalizing spent state with
  | done value => simp [runWithin, early]
  | ask request next ih =>
      rw [runWithin_ask, alone_ask]
      dsimp only
      by_cases inTime : spent + (answer request state).2.1 ≤ limit
      · rw [if_pos inTime, ← Nat.add_assoc]
        exact ih (answer request state).1 inTime (answer request state).2.2
      · have late : limit ≤ spent + ((answer request state).2.1 +
            ((next (answer request state).1).alone answer (answer request state).2.2).2.1) := by
          omega
        rw [if_neg inTime, if_neg (by omega), Nat.min_eq_right late]
        exact ⟨rfl, rfl⟩

/-- The moments of a program are a trace of it. -/
theorem moments_yields (program : Program interface α) (state : σ) :
    program.Yields ((program.moments answer state).map Moment.event)
      (program.alone answer state).1 := by
  induction program generalizing state with
  | done value => exact .done value
  | ask request next ih => exact .ask (ih _ _)

/-- A program takes as long as its moments take together. -/
theorem alone_time (program : Program interface α) (state : σ) :
    (program.alone answer state).2.1 =
      ((program.moments answer state).map Moment.cost).sum := by
  induction program generalizing state with
  | done value => rfl
  | ask request next ih => simp [alone, moments, ih]

end Program

end Flowline
