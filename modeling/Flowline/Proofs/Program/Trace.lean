import Flowline.Program

/-!
# Traces of programs

A program does not say how its requests are answered.  A trace is the list of
the requests that it makes and of the replies that it gets, from its beginning
to its value.  A statement about every trace holds whoever replies.
-/

namespace Flowline

/-- A request and the reply to it. -/
structure Event (interface : Interface) where
  asked : interface.Request
  reply : interface.Reply asked

instance {interface : Interface} [DecidableEq interface.Request]
    [∀ asked, DecidableEq (interface.Reply asked)] : DecidableEq (Event interface)
  | ⟨asked, reply⟩, ⟨other, answer⟩ =>
      if same : asked = other then
        decidable_of_iff (same ▸ reply = answer) (by subst same; simp)
      else isFalse (by simp [same])

namespace Program

variable {interface : Interface} {α β σ : Type}

/-- The events of a program from its beginning to its value. -/
inductive Yields : Program interface α → List (Event interface) → α → Prop where
  | done (value : α) : Yields (done value) [] value
  | ask {asked : interface.Request} {next : interface.Reply asked → Program interface α}
      {reply : interface.Reply asked} {events : List (Event interface)} {value : α} :
      Yields (next reply) events value → Yields (ask asked next) (⟨asked, reply⟩ :: events) value

theorem yields_done {value other : α} {events : List (Event interface)} :
    (done value).Yields events other ↔ events = [] ∧ other = value := by
  constructor
  · rintro ⟨⟩
    exact ⟨rfl, rfl⟩
  · rintro ⟨rfl, rfl⟩
    exact .done _

theorem yields_ask {asked : interface.Request}
    {next : interface.Reply asked → Program interface α} {value : α}
    {events : List (Event interface)} :
    (ask asked next).Yields events value ↔
      ∃ reply rest, events = ⟨asked, reply⟩ :: rest ∧ (next reply).Yields rest value := by
  constructor
  · rintro (_ | yields)
    exact ⟨_, _, rfl, yields⟩
  · rintro ⟨reply, rest, rfl, yields⟩
    exact .ask yields

/-- Every trace of a program and the value at its end are as described. -/
def Ensures : Program interface α → (List (Event interface) → α → Prop) → Prop
  | done value, post => post [] value
  | ask asked next, post =>
      ∀ reply, (next reply).Ensures fun events => post (⟨asked, reply⟩ :: events)

@[simp] theorem ensures_done (value : α) (post : List (Event interface) → α → Prop) :
    (done value).Ensures post ↔ post [] value := Iff.rfl

@[simp] theorem ensures_ask (asked : interface.Request)
    (next : interface.Reply asked → Program interface α)
    (post : List (Event interface) → α → Prop) :
    (ask asked next).Ensures post ↔
      ∀ reply, (next reply).Ensures fun events => post (⟨asked, reply⟩ :: events) := Iff.rfl

theorem ensures_iff (program : Program interface α) (post : List (Event interface) → α → Prop) :
    program.Ensures post ↔ ∀ events value, program.Yields events value → post events value := by
  induction program generalizing post with
  | done value =>
      constructor
      · rintro holds events other ⟨⟩
        exact holds
      · intro every
        exact every [] value (.done value)
  | ask asked next ih =>
      constructor
      · rintro holds events value (_ | yields)
        exact (ih _ _).mp (holds _) _ _ yields
      · intro every reply
        exact (ih _ _).mpr fun events value yields => every _ _ (.ask yields)

theorem Ensures.of_yields {program : Program interface α}
    {post : List (Event interface) → α → Prop} (ensures : program.Ensures post)
    {events : List (Event interface)} {value : α} (yields : program.Yields events value) :
    post events value :=
  (ensures_iff program post).mp ensures events value yields

theorem Ensures.mono {program : Program interface α}
    {weak strong : List (Event interface) → α → Prop} (ensures : program.Ensures strong)
    (weaker : ∀ events value, strong events value → weak events value) :
    program.Ensures weak :=
  (ensures_iff program weak).mpr fun events value yields =>
    weaker events value (ensures.of_yields yields)

theorem Ensures.of_forall {program : Program interface α}
    {post : List (Event interface) → α → Prop} (every : ∀ events value, post events value) :
    program.Ensures post :=
  (ensures_iff program post).mpr fun events value _ => every events value

theorem Ensures.and {program : Program interface α}
    {left right : List (Event interface) → α → Prop} (first : program.Ensures left)
    (second : program.Ensures right) :
    program.Ensures fun events value => left events value ∧ right events value :=
  (ensures_iff program _).mpr fun _ _ yields => ⟨first.of_yields yields, second.of_yields yields⟩

/-- The trace of a sequence is the trace of its first part followed by the trace
of the second. -/
theorem ensures_bind (program : Program interface α) (rest : α → Program interface β)
    (post : List (Event interface) → β → Prop) :
    (program.bind rest).Ensures post ↔
      program.Ensures fun events value =>
        (rest value).Ensures fun more result => post (events ++ more) result := by
  induction program generalizing post with
  | done value => rfl
  | ask asked next ih => exact forall_congr' fun reply => ih reply _

/-- A sequence meets its description if each part meets its own. -/
theorem Ensures.bind {program : Program interface α} {rest : α → Program interface β}
    {first : List (Event interface) → α → Prop} {post : List (Event interface) → β → Prop}
    (ensures : program.Ensures first)
    (continues : ∀ events value, first events value →
      (rest value).Ensures fun more result => post (events ++ more) result) :
    (program.bind rest).Ensures post :=
  (ensures_bind program rest post).mpr (ensures.mono continues)

theorem Yields.of_bind {program : Program interface α} {rest : α → Program interface β}
    {events : List (Event interface)} {result : β}
    (yields : (program.bind rest).Yields events result) :
    ∃ before value after, events = before ++ after ∧
      program.Yields before value ∧ (rest value).Yields after result := by
  induction program generalizing events with
  | done value => exact ⟨[], value, events, rfl, .done value, yields⟩
  | ask asked next ih =>
      cases yields with
      | ask yields =>
          obtain ⟨before, value, after, rfl, first, second⟩ := ih _ yields
          exact ⟨_, value, after, rfl, .ask first, second⟩

/-- A program has at most one trace within a list of events from its beginning. -/
theorem Yields.unique {program : Program interface α}
    {left right more rest : List (Event interface)} {value other : α}
    (first : program.Yields left value) (second : program.Yields right other)
    (same : left ++ more = right ++ rest) : left = right ∧ value = other ∧ more = rest := by
  induction first generalizing right with
  | done value =>
      cases second
      exact ⟨rfl, rfl, same⟩
  | ask _ ih =>
      cases second with
      | ask yields =>
          simp only [List.cons_append, List.cons.injEq, Event.mk.injEq, true_and] at same
          obtain ⟨replies, same⟩ := same
          cases replies
          obtain ⟨rfl, rfl, rfl⟩ := ih yields same
          exact ⟨rfl, rfl, rfl⟩

theorem Yields.bind {program : Program interface α} {rest : α → Program interface β}
    {events more : List (Event interface)} {value : α} {result : β}
    (first : program.Yields events value) (second : (rest value).Yields more result) :
    (program.bind rest).Yields (events ++ more) result := by
  induction first with
  | done value => exact second
  | ask _ ih => exact .ask (ih second)

/-- Wherever two traces make the same request at the same turn, they get the same reply. -/
def Agree (left right : List (Event interface)) : Prop :=
  ∀ asked first second,
    ((⟨asked, first⟩, ⟨asked, second⟩) : Event interface × Event interface) ∈ left.zip right →
      first = second

theorem Agree.refl (events : List (Event interface)) : Agree events events := by
  intro asked first second member
  rw [List.zip_eq_zipWith, List.zipWith_self] at member
  simp only [List.mem_map, Prod.mk.injEq] at member
  obtain ⟨event, -, rfl, same⟩ := member
  cases same
  rfl

/-- Two traces of a program are the same, or there is a first request to which the replies
differ. -/
theorem Yields.eq_or_diverge {program : Program interface α}
    {left right : List (Event interface)} {value other : α} (first : program.Yields left value)
    (second : program.Yields right other) :
    (left = right ∧ value = other) ∨
      ∃ earlier asked reply answer more rest, reply ≠ answer ∧
        left = earlier ++ ⟨asked, reply⟩ :: more ∧ right = earlier ++ ⟨asked, answer⟩ :: rest := by
  induction first generalizing right with
  | done value =>
      cases second
      exact .inl ⟨rfl, rfl⟩
  | @ask asked next reply events value _ ih =>
      cases second with
      | @ask _ _ answer others _ yields =>
          by_cases same : reply = answer
          · subst same
            rcases ih yields with
              ⟨rfl, rfl⟩ | ⟨earlier, later, one, two, more, rest, differ, rfl, rfl⟩
            · exact .inl ⟨rfl, rfl⟩
            · exact .inr ⟨⟨asked, reply⟩ :: earlier, later, one, two, more, rest, differ, rfl, rfl⟩
          · exact .inr ⟨[], asked, reply, answer, events, others, same, rfl, rfl⟩

/-- A program that gets the same replies makes the same requests. -/
theorem Yields.eq_of_agree {program : Program interface α} {left right : List (Event interface)}
    {value other : α} (first : program.Yields left value) (second : program.Yields right other)
    (agree : Agree left right) : left = right ∧ value = other := by
  rcases first.eq_or_diverge second with
    same | ⟨earlier, asked, reply, answer, more, rest, differ, rfl, rfl⟩
  · exact same
  · exact (differ (agree asked reply answer (by simp [List.zip_append]))).elim

/-- A program only makes some requests. -/
def Asks (allowed : interface.Request → Prop) : Program interface α → Prop
  | done _ => True
  | ask asked next => allowed asked ∧ ∀ reply, (next reply).Asks allowed

theorem Asks.bind {allowed : interface.Request → Prop} {program : Program interface α}
    {rest : α → Program interface β} (first : program.Asks allowed)
    (second : ∀ value, (rest value).Asks allowed) : (program.bind rest).Asks allowed := by
  induction program with
  | done value => exact second value
  | ask asked next ih => exact ⟨first.1, fun reply => ih reply (first.2 reply)⟩

theorem Asks.ensures {allowed : interface.Request → Prop} {program : Program interface α}
    (asks : program.Asks allowed) :
    program.Ensures fun events _ => ∀ event ∈ events, allowed event.asked := by
  induction program with
  | done value => simp
  | ask asked next ih =>
      intro reply
      exact (ih reply (asks.2 reply)).mono fun events value others =>
        List.forall_mem_cons.mpr ⟨asks.1, others⟩

/-- What is left of a program after some of its events. -/
inductive Leaves : Program interface α → List (Event interface) → Program interface α → Prop where
  | nil (program : Program interface α) : Leaves program [] program
  | ask {asked : interface.Request} {next : interface.Reply asked → Program interface α}
      {reply : interface.Reply asked} {events : List (Event interface)}
      {rest : Program interface α} :
      Leaves (next reply) events rest → Leaves (ask asked next) (⟨asked, reply⟩ :: events) rest

/-- One more reply leaves one request less. -/
theorem Leaves.snoc {program : Program interface α} {events : List (Event interface)}
    {asked : interface.Request} {next : interface.Reply asked → Program interface α}
    (leaves : program.Leaves events (Program.ask asked next)) (reply : interface.Reply asked) :
    program.Leaves (events ++ [⟨asked, reply⟩]) (next reply) := by
  generalize rest : Program.ask asked next = pending at leaves
  induction leaves with
  | nil program =>
      subst rest
      exact .ask (.nil _)
  | ask _ ih => exact .ask (ih rest)

/-- What is left of a program goes on from the events before it. -/
theorem Leaves.yields {program rest : Program interface α} {events more : List (Event interface)}
    {value : α} (leaves : program.Leaves events rest) (yields : rest.Yields more value) :
    program.Yields (events ++ more) value := by
  induction leaves with
  | nil program => exact yields
  | ask _ ih => exact .ask (ih yields)

/-- A program leaves its value behind its trace. -/
theorem Yields.leaves {program : Program interface α} {events : List (Event interface)} {value : α}
    (yields : program.Yields events value) : program.Leaves events (Program.done value) := by
  induction yields with
  | done value => exact .nil _
  | ask _ ih => exact .ask ih

/-- What is left of a program makes only the requests that the program makes. -/
theorem Asks.of_leaves {allowed : interface.Request → Prop} {program rest : Program interface α}
    {events : List (Event interface)} (asks : program.Asks allowed)
    (leaves : program.Leaves events rest) :
    (∀ event ∈ events, allowed event.asked) ∧ rest.Asks allowed := by
  induction leaves with
  | nil program => exact ⟨by simp, asks⟩
  | ask _ ih =>
      obtain ⟨others, remaining⟩ := ih (asks.2 _)
      exact ⟨List.forall_mem_cons.mpr ⟨asks.1, others⟩, remaining⟩

theorem Leaves.of_append {program rest : Program interface α} {events more : List (Event interface)}
    (leaves : program.Leaves (events ++ more) rest) :
    ∃ between, program.Leaves events between ∧ between.Leaves more rest := by
  induction events generalizing program with
  | nil => exact ⟨program, .nil program, leaves⟩
  | cons event events ih =>
      cases leaves with
      | ask leaves =>
          obtain ⟨between, first, second⟩ := ih leaves
          exact ⟨between, .ask first, second⟩

/-- What is left of a program after some events, if it makes their requests. -/
def resume? [DecidableEq interface.Request] :
    List (Event interface) → Program interface α → Option (Program interface α)
  | [], program => some program
  | _ :: _, done _ => none
  | ⟨asked, reply⟩ :: events, ask request next =>
      if same : asked = request then (next (same ▸ reply)).resume? events else none

theorem exists_leaves [DecidableEq interface.Request] {program : Program interface α}
    {events : List (Event interface)} (resumes : (program.resume? events).isSome = true) :
    ∃ rest, program.Leaves events rest := by
  induction events generalizing program with
  | nil => exact ⟨program, .nil program⟩
  | cons event events ih =>
      cases program with
      | done value => cases resumes
      | ask request next =>
          rw [resume?] at resumes
          split at resumes
          next same =>
            subst same
            obtain ⟨rest, leaves⟩ := ih resumes
            exact ⟨rest, .ask leaves⟩
          next => cases resumes

/-- Whoever answers from a state, a program runs to a value along one of its
traces. -/
theorem run_yields
    (answer : (asked : interface.Request) → σ → interface.Reply asked × σ)
    (program : Program interface α) (state : σ) :
    ∃ events, program.Yields events (program.run answer state).1 := by
  induction program generalizing state with
  | done value => exact ⟨[], .done value⟩
  | ask asked next ih =>
      obtain ⟨events, yields⟩ := ih (answer asked state).1 (answer asked state).2
      exact ⟨_, .ask yields⟩

/-- The trace of a program whose requests are answered by a function, and its value. -/
def trace (answer : (asked : interface.Request) → interface.Reply asked) :
    Program interface α → List (Event interface) × α
  | done value => ([], value)
  | ask asked next =>
      let (events, value) := (next (answer asked)).trace answer
      (⟨asked, answer asked⟩ :: events, value)

theorem trace_yields (answer : (asked : interface.Request) → interface.Reply asked)
    (program : Program interface α) :
    program.Yields (program.trace answer).1 (program.trace answer).2 := by
  induction program with
  | done value => exact .done value
  | ask asked next ih => exact .ask (ih (answer asked))

theorem trace_reply (answer : (asked : interface.Request) → interface.Reply asked)
    (program : Program interface α) :
    ∀ event ∈ (program.trace answer).1, event.reply = answer event.asked := by
  induction program with
  | done value => simp [trace]
  | ask asked next ih => exact List.forall_mem_cons.mpr ⟨rfl, ih (answer asked)⟩

/-- Programs whose requests are answered by one function get the same replies. -/
theorem trace_agree (answer : (asked : interface.Request) → interface.Reply asked)
    (program : Program interface α) (other : Program interface β) :
    Agree (program.trace answer).1 (other.trace answer).1 := by
  intro asked first second member
  obtain ⟨left, right⟩ := List.of_mem_zip member
  exact (trace_reply answer program _ left).trans (trace_reply answer other _ right).symm

theorem trace_bind (answer : (asked : interface.Request) → interface.Reply asked)
    (program : Program interface α) (rest : α → Program interface β) :
    (program.bind rest).trace answer =
      ((program.trace answer).1 ++ ((rest (program.trace answer).2).trace answer).1,
        ((rest (program.trace answer).2).trace answer).2) := by
  induction program with
  | done value => rfl
  | ask asked next ih => simp [trace, ih]

/-- If every request can be answered in a fair way, a program has a fair trace. -/
theorem exists_yields {fair : Event interface → Prop}
    (answerable : ∀ asked, ∃ reply, fair ⟨asked, reply⟩) (program : Program interface α) :
    ∃ events value, program.Yields events value ∧ ∀ event ∈ events, fair event := by
  induction program with
  | done value => exact ⟨[], value, .done value, by simp⟩
  | ask asked next ih =>
      obtain ⟨reply, isFair⟩ := answerable asked
      obtain ⟨events, value, yields, others⟩ := ih reply
      exact ⟨_, value, .ask yields, List.forall_mem_cons.mpr ⟨isFair, others⟩⟩

end Program

/-- Something holds of every event and of the events before it. -/
def Throughout {interface : Interface}
    (holds : List (Event interface) → Event interface → Prop) (events : List (Event interface)) :
    Prop :=
  ∀ earlier event later, events = earlier ++ event :: later → holds earlier event

namespace Throughout

variable {interface : Interface} {holds weak : List (Event interface) → Event interface → Prop}
  {events more : List (Event interface)} {event : Event interface}

@[simp] theorem nil : Throughout holds [] := by
  intro earlier event later parts
  simp at parts

theorem mono (throughout : Throughout holds events)
    (weaker : ∀ earlier event, holds earlier event → weak earlier event) :
    Throughout weak events :=
  fun earlier event later parts => weaker earlier event (throughout earlier event later parts)

theorem of_forall (every : ∀ event ∈ events, ∀ earlier, holds earlier event) :
    Throughout holds events := by
  rintro earlier event later rfl
  exact every event (by simp) earlier

theorem cons_iff : Throughout holds (event :: events) ↔
    holds [] event ∧ Throughout (fun earlier => holds (event :: earlier)) events := by
  constructor
  · intro throughout
    constructor
    · exact throughout [] event events rfl
    · rintro earlier other later rfl
      exact throughout (event :: earlier) other later rfl
  · rintro ⟨first, rest⟩ earlier other later parts
    rcases earlier with _ | ⟨head, earlier⟩
    · obtain ⟨rfl, rfl⟩ := List.cons.inj parts
      exact first
    · obtain ⟨rfl, rfl⟩ := List.cons.inj parts
      exact rest earlier other later rfl

theorem append_iff : Throughout holds (events ++ more) ↔
    Throughout holds events ∧ Throughout (fun earlier => holds (events ++ earlier)) more := by
  induction events generalizing holds with
  | nil => simp
  | cons event rest ih => rw [List.cons_append, cons_iff, cons_iff, ih, and_assoc]; rfl

end Throughout

/-- What stands in two parts in a row stands in one of them. -/
theorem split_append {α : Type} {left right sooner rest : List α} {value : α}
    (parts : left ++ right = sooner ++ value :: rest) :
    (∃ tail, left = sooner ++ value :: tail ∧ rest = tail ++ right) ∨
      ∃ between, sooner = left ++ between ∧ right = between ++ value :: rest := by
  rcases List.append_eq_append_iff.mp parts with reached | ⟨between, same, others⟩
  · exact .inr reached
  · cases between with
    | nil => exact .inr ⟨[], by simp [same], others.symm⟩
    | cons head tail =>
        obtain ⟨rfl, rfl⟩ := List.cons.inj others
        exact .inl ⟨tail, same, rfl⟩

/-- What is not in the first of two parts stands in the second. -/
theorem split_of_not_mem {α : Type} {left right sooner rest : List α} {value : α}
    (absent : value ∉ left) (parts : left ++ right = sooner ++ value :: rest) :
    ∃ between, sooner = left ++ between ∧ right = between ++ value :: rest := by
  refine (split_append parts).resolve_left ?_
  rintro ⟨tail, rfl, -⟩
  exact absent (by simp)

end Flowline
