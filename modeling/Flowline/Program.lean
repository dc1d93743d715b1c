/-!
# Programs that ask

A program either is done or asks its surroundings something and goes on with the
reply.  What may be asked is given by an interface.  A program does not say who
replies, so one and the same program runs against real services, on a rehearsal
stage, or interleaved with others.
-/

namespace Flowline

/-- What may be asked, and the type of the reply to each request. -/
structure Interface where
  Request : Type
  Reply : Request → Type

/-- A program over an interface. -/
inductive Program (interface : Interface) (α : Type) where
  | done (value : α)
  | ask (request : interface.Request) (next : interface.Reply request → Program interface α)

namespace Program

variable {interface : Interface} {α β γ σ : Type}

/-- Go on with the value of a program. -/
def bind : Program interface α → (α → Program interface β) → Program interface β
  | done value, rest => rest value
  | ask request next, rest => ask request fun reply => (next reply).bind rest

instance : Monad (Program interface) where
  pure := done
  bind := bind

/-- Ask one thing and be done with the reply. -/
def request (asked : interface.Request) : Program interface (interface.Reply asked) :=
  ask asked done

@[simp] theorem pure_eq_done (value : α) : (pure value : Program interface α) = done value := rfl

@[simp] theorem bind_eq_bind (program : Program interface α) (rest : α → Program interface β) :
    program >>= rest = program.bind rest := rfl

@[simp] theorem done_bind (value : α) (rest : α → Program interface β) :
    (done value).bind rest = rest value := rfl

@[simp] theorem ask_bind (asked : interface.Request)
    (next : interface.Reply asked → Program interface α) (rest : α → Program interface β) :
    (ask asked next).bind rest = ask asked fun reply => (next reply).bind rest := rfl

@[simp] theorem request_bind (asked : interface.Request)
    (rest : interface.Reply asked → Program interface β) :
    (request asked).bind rest = ask asked rest := rfl

@[simp] theorem bind_done (program : Program interface α) : program.bind done = program := by
  induction program with
  | done value => rfl
  | ask asked next ih => simp [ih]

theorem bind_assoc (program : Program interface α) (first : α → Program interface β)
    (second : β → Program interface γ) :
    (program.bind first).bind second = program.bind fun value => (first value).bind second := by
  induction program with
  | done value => rfl
  | ask asked next ih => simp [ih]

/-- Answer every request from a state that the answers may change. -/
def run (answer : (asked : interface.Request) → σ → interface.Reply asked × σ) :
    Program interface α → σ → α × σ
  | done value, state => (value, state)
  | ask asked next, state =>
      let (reply, state) := answer asked state
      (next reply).run answer state

@[simp] theorem run_bind (answer : (asked : interface.Request) → σ → interface.Reply asked × σ)
    (program : Program interface α) (rest : α → Program interface β) (state : σ) :
    (program.bind rest).run answer state =
      (rest (program.run answer state).1).run answer (program.run answer state).2 := by
  induction program generalizing state with
  | done value => rfl
  | ask asked next ih => simp [run, ih]

/-- Answer every request in a monad. -/
def runM {m : Type → Type} [Monad m]
    (answer : (asked : interface.Request) → m (interface.Reply asked)) :
    Program interface α → m α
  | done value => Pure.pure value
  | ask asked next => do (next (← answer asked)).runM answer

/-- Replace every request by a program over another interface. -/
def embed {target : Interface}
    (translate : (asked : interface.Request) → Program target (interface.Reply asked)) :
    Program interface α → Program target α
  | done value => done value
  | ask asked next => (translate asked).bind fun reply => (next reply).embed translate

@[simp] theorem embed_bind {target : Interface}
    (translate : (asked : interface.Request) → Program target (interface.Reply asked))
    (program : Program interface α) (rest : α → Program interface β) :
    (program.bind rest).embed translate =
      (program.embed translate).bind fun value => (rest value).embed translate := by
  induction program with
  | done value => rfl
  | ask asked next ih => simp [embed, ih, bind_assoc]

end Program

end Flowline
