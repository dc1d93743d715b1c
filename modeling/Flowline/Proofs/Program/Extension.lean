import Flowline.Proofs.Program.Trace

/-!
# Added requests

A program may leave to its surroundings what it could work out by itself.  The
requests for that are added to its interface; answering them by a function gives
the program back that does not ask.  So a statement about every trace with the
added requests holds of every trace without them.
-/

namespace Flowline

/-- An interface with the requests of another one added to it. -/
abbrev Interface.extend (base added : Interface) : Interface where
  Request := base.Request ⊕ added.Request
  Reply := Sum.elim base.Reply added.Reply

variable {base added : Interface} {α β : Type}

namespace Event

/-- An event of the base. -/
def own (event : Event base) : Event (base.extend added) :=
  ⟨.inl event.asked, event.reply⟩

/-- The event of the base, unless the request was added. -/
def own? : Event (base.extend added) → Option (Event base)
  | ⟨.inl asked, reply⟩ => some ⟨asked, reply⟩
  | ⟨.inr _, _⟩ => none

/-- The events of the base among those of an extension. -/
def owns (events : List (Event (base.extend added))) : List (Event base) :=
  events.filterMap own?

@[simp] theorem own?_own (event : Event base) :
    (event.own : Event (base.extend added)).own? = some event := rfl

@[simp] theorem owns_nil : owns ([] : List (Event (base.extend added))) = [] := rfl

@[simp] theorem owns_append (events more : List (Event (base.extend added))) :
    owns (events ++ more) = owns events ++ owns more := List.filterMap_append

@[simp] theorem owns_own (event : Event base) (events : List (Event (base.extend added))) :
    owns (event.own :: events) = event :: owns events := rfl

@[simp] theorem owns_added (asked : added.Request) (reply : added.Reply asked)
    (events : List (Event (base.extend added))) :
    owns (⟨.inr asked, reply⟩ :: events) = owns events := rfl

@[simp] theorem owns_map_own (events : List (Event base)) :
    owns (events.map own : List (Event (base.extend added))) = events := by
  induction events with
  | nil => rfl
  | cons event rest ih => simp [ih]

end Event

namespace Program

/-- A program that makes no use of the added requests. -/
def lift : Program base α → Program (base.extend added) α
  | done value => done value
  | ask asked next => @ask (base.extend added) _ (.inl asked) fun reply => (next reply).lift

/-- Answer the added requests by a function. -/
def resolve (answer : (asked : added.Request) → added.Reply asked) :
    Program (base.extend added) α → Program base α
  | done value => done value
  | ask (.inl asked) next => ask asked fun reply => (next reply).resolve answer
  | ask (.inr asked) next => (next (answer asked)).resolve answer

variable (answer : (asked : added.Request) → added.Reply asked)

@[simp] theorem resolve_added (asked : added.Request)
    (next : added.Reply asked → Program (base.extend added) α) :
    (@ask (base.extend added) _ (.inr asked) next).resolve answer =
      (next (answer asked)).resolve answer := rfl

@[simp] theorem resolve_lift (program : Program base α) :
    (program.lift : Program (base.extend added) α).resolve answer = program := by
  induction program with
  | done value => rfl
  | ask asked next ih => simp [lift, resolve, ih]

@[simp] theorem resolve_bind (program : Program (base.extend added) α)
    (rest : α → Program (base.extend added) β) :
    (program.bind rest).resolve answer =
      (program.resolve answer).bind fun value => (rest value).resolve answer := by
  induction program with
  | done value => rfl
  | ask asked next ih =>
      cases asked with
      | inl asked => exact congrArg (ask asked) (funext fun reply => ih reply)
      | inr asked => exact ih (answer asked)

/-- A program that is lifted has the traces that it had. -/
theorem ensures_lift (program : Program base α)
    (post : List (Event (base.extend added)) → α → Prop) :
    (program.lift : Program (base.extend added) α).Ensures post ↔
      program.Ensures fun events value => post (events.map Event.own) value := by
  induction program generalizing post with
  | done value => rfl
  | ask asked next ih => exact forall_congr' fun reply => ih reply _

/-- A trace without the added requests is one with them in which they are answered by
the function. -/
theorem Yields.of_resolve {program : Program (base.extend added) α} {events : List (Event base)}
    {value : α} (yields : (program.resolve answer).Yields events value) :
    ∃ moments, program.Yields moments value ∧ Event.owns moments = events ∧
      ∀ asked reply, ⟨.inr asked, reply⟩ ∈ moments → reply = answer asked := by
  induction program generalizing events with
  | done value =>
      cases yields
      exact ⟨[], .done value, rfl, by simp⟩
  | ask asked next ih =>
      cases asked with
      | inl asked =>
          cases yields with
          | @ask _ _ reply _ _ yields =>
              obtain ⟨moments, others, same, fits⟩ := ih reply yields
              refine ⟨⟨.inl asked, reply⟩ :: moments, .ask others, ?_, ?_⟩
              · exact congrArg (List.cons _) same
              · intro added reply member
                rcases List.mem_cons.mp member with same | member
                · cases same
                · exact fits added reply member
      | inr asked =>
          obtain ⟨moments, others, same, fits⟩ := ih (answer asked) yields
          refine ⟨⟨.inr asked, answer asked⟩ :: moments, .ask others, same, ?_⟩
          intro added reply member
          rcases List.mem_cons.mp member with same | member
          · cases same
            rfl
          · exact fits added reply member

end Program

end Flowline
