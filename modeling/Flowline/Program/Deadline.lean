import Flowline.Program

/-!
# Programs within a limit

Replies take time.  A program that is given a limit is dropped when the limit
has passed before the reply that it waits for; work that ends exactly at the
limit is not too late.
-/

namespace Flowline.Program

variable {interface : Interface} {α σ : Type}

/-- How requests are answered: the reply and the milliseconds that it takes. -/
abbrev TimedAnswers (interface : Interface) (σ : Type) :=
  (request : interface.Request) → σ → interface.Reply request × Nat × σ

/-- Run a program within a limit, if there is one, of which some time is spent
already.  What comes back is the value, unless the program was dropped, and the
time spent in the end. -/
def runWithin (limit : Option Nat) (answer : TimedAnswers interface σ) :
    Program interface α → (spent : Nat) → σ → Option α × Nat × σ
  | done value, spent, state => (some value, spent, state)
  | ask request next, spent, state =>
      let (reply, cost, state) := answer request state
      match limit with
      | some limit =>
          if spent + cost ≤ limit then
            (next reply).runWithin (some limit) answer (spent + cost) state
          else (none, limit, state)
      | none => (next reply).runWithin none answer (spent + cost) state

end Flowline.Program
