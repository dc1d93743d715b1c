import Flowline.Handler.BuiltIn
import Flowline.Proofs.Engine.Trying
import Flowline.Proofs.Program.Timing
import Mathlib.Algebra.Order.BigOperators.Group.List

/-!
# How long a node is tried

An attempt is the work of a handler within the limit of the policy, so it takes the time that
the work takes by itself, but never more than the limit, and only work that is done by then has
a result.  Between two attempts is a pause, and nothing else takes time.
-/

namespace Flowline.Engine

open Program

variable {σ : Type}

/-- Surroundings whose timers are exact: to read the clock takes no time, a pause takes as long as
it should, and an attempt is the work of the handler of its node, within its limit. -/
structure Punctual (registry : HandlerRegistry) (serve : TimedAnswers services σ)
    (answer : TimedAnswers surroundings σ) : Prop where
  now (state : σ) : (answer .now state).2.1 = 0
  sleep (milliseconds : Nat) (state : σ) : (answer (.sleep milliseconds) state).2.1 = milliseconds
  attempt (asked : Attempt) (state : σ) :
    answer (.attempt asked) state =
      (registry.attempt asked.node asked.context).runWithin (some asked.limit) serve 0 state

/-- The states in which the attempts among some moments begin. -/
def starts (moments : List (Moment surroundings σ)) : List σ :=
  moments.flatMap fun moment => match moment.event.asked with
    | .attempt _ => [moment.before]
    | _ => []

/-- The requests among some events that take time: all but those for the time. -/
def lasting (events : List (Event surroundings)) : List Request :=
  (events.map Event.asked).filter (· ≠ .now)

/-- So many attempts at a node, with a pause between one and the next. -/
def schedule (node : Node) (context : Context) (policy : AttemptPolicy) (number count : Nat) :
    List Request :=
  ((List.range' number count).map fun number =>
    Request.attempt (attemptAt node context policy number)).intersperse (.sleep policy.retryDelay)

/-- How long attempts that begin in some states take, and the pauses between them: the time that
the work takes by itself, but no longer than the limit. -/
def spent (work : σ → Except NodeError Json × Nat × σ) (policy : AttemptPolicy)
    (starts : List σ) : Nat :=
  (starts.map fun start => min (work start).2.1 policy.timeout).sum +
    (starts.length - 1) * policy.retryDelay

/-- Some moments are attempts with pauses between them, made one after the other in states in
which the work by itself would come to something after some time. -/
structure Scheduled (work : σ → Except NodeError Json × Nat × σ) (node : Node)
    (context : Context) (policy : AttemptPolicy) (number left : Nat)
    (moments : List (Moment surroundings σ)) : Prop where
  some : 0 < (starts moments).length
  few : (starts moments).length ≤ left + 1
  order : lasting (moments.map Moment.event) =
    schedule node context policy number (starts moments).length
  outcomes : replies (moments.map Moment.event) = (starts moments).map fun start =>
    if (work start).2.1 ≤ policy.timeout then Option.some (work start).1 else none
  takes : (moments.map Moment.cost).sum = spent work policy (starts moments)

/-! ## Attempts and pauses -/

/-- The clock is read, and no time passes. -/
def Quiet (moments : List (Moment surroundings σ)) : Prop :=
  ∀ moment ∈ moments, moment.event.asked = .now ∧ moment.cost = 0

/-- The moment of a request. -/
def momentOf (answer : TimedAnswers surroundings σ) (asked : Request) (state : σ) :
    Moment surroundings σ :=
  ⟨state, ⟨asked, (answer asked state).1⟩, (answer asked state).2.1⟩

section Moments

variable {answer : TimedAnswers surroundings σ} {moments more : List (Moment surroundings σ)}
  {events others : List (Event surroundings)}

@[simp] theorem momentOf_cost (asked : Request) (state : σ) :
    (momentOf answer asked state).cost = (answer asked state).2.1 := rfl

@[simp] theorem starts_append : starts (moments ++ more) = starts moments ++ starts more :=
  List.flatMap_append

@[simp] theorem starts_attempt (attempt : Attempt) (state : σ) :
    starts (momentOf answer (.attempt attempt) state :: moments) = state :: starts moments := rfl

@[simp] theorem starts_pause (milliseconds : Nat) (state : σ) :
    starts (momentOf answer (.sleep milliseconds) state :: moments) = starts moments := rfl

@[simp] theorem lasting_append : lasting (events ++ others) = lasting events ++ lasting others := by
  simp [lasting]

@[simp] theorem lasting_attempt (attempt : Attempt) (state : σ) :
    lasting ((momentOf answer (.attempt attempt) state).event :: events) =
      .attempt attempt :: lasting events := rfl

@[simp] theorem lasting_pause (milliseconds : Nat) (state : σ) :
    lasting ((momentOf answer (.sleep milliseconds) state).event :: events) =
      .sleep milliseconds :: lasting events := rfl

@[simp] theorem replies_append : replies (events ++ others) = replies events ++ replies others :=
  List.flatMap_append

@[simp] theorem replies_attempt (attempt : Attempt) (state : σ) :
    replies ((momentOf answer (.attempt attempt) state).event :: events) =
      (answer (.attempt attempt) state).1 :: replies events := rfl

@[simp] theorem replies_pause (milliseconds : Nat) (state : σ) :
    replies ((momentOf answer (.sleep milliseconds) state).event :: events) =
      replies events := rfl

theorem Quiet.nothing {clocks : List (Moment surroundings σ)} (quiet : Quiet clocks) :
    starts clocks = [] ∧ lasting (clocks.map Moment.event) = [] ∧
      replies (clocks.map Moment.event) = [] ∧ (clocks.map Moment.cost).sum = 0 := by
  induction clocks with
  | nil => exact ⟨rfl, rfl, rfl, rfl⟩
  | cons moment clocks ih =>
      obtain ⟨⟨asks, free⟩, rest⟩ := List.forall_mem_cons.mp quiet
      obtain ⟨begun, asked, replied, taken⟩ := ih rest
      obtain ⟨before, ⟨request, reply⟩, cost⟩ := moment
      obtain rfl : request = .now := asks
      obtain rfl : cost = 0 := free
      exact ⟨begun, asked, replied, by simpa using taken⟩

end Moments

section Schedule

variable {registry : HandlerRegistry} {serve : TimedAnswers services σ}
  {answer : TimedAnswers surroundings σ} {node : Node} {context : Context}
  {policy : AttemptPolicy} {number left : Nat} {clocks moments : List (Moment surroundings σ)}

theorem schedule_succ (count : Nat) :
    schedule node context policy number (count + 2) =
      .attempt (attemptAt node context policy number) :: .sleep policy.retryDelay ::
        schedule node context policy (number + 1) (count + 1) := by
  simp only [schedule, List.range'_succ, List.map_cons, List.intersperse_cons_cons]

/-- What an attempt comes to and what it takes, by what its work does if it is left alone. -/
theorem Punctual.attempt_eq (punctual : Punctual registry serve answer) (node : Node)
    (context : Context) (policy : AttemptPolicy) (number : Nat) (state : σ) :
    (answer (.attempt (attemptAt node context policy number)) state).1 =
        (if ((registry.attempt node context).alone serve state).2.1 ≤ policy.timeout then
          some ((registry.attempt node context).alone serve state).1 else none) ∧
      (answer (.attempt (attemptAt node context policy number)) state).2.1 =
        min ((registry.attempt node context).alone serve state).2.1 policy.timeout := by
  rw [punctual.attempt]
  simpa only [attemptAt, Nat.zero_add] using
    runWithin_some (registry.attempt node context) (Nat.zero_le policy.timeout) state

/-- One attempt alone. -/
theorem Scheduled.last (punctual : Punctual registry serve answer) (quiet : Quiet clocks)
    (state : σ) :
    Scheduled ((registry.attempt node context).alone serve) node context policy number left
      (momentOf answer (.attempt (attemptAt node context policy number)) state :: clocks) := by
  obtain ⟨begun, asked, replied, taken⟩ := quiet.nothing
  obtain ⟨comes, takes⟩ := punctual.attempt_eq node context policy number state
  constructor
  · simp
  · simp [begun]
  · simp [begun, asked, schedule]
  · simp [begun, replied, comes]
  · simp [begun, taken, takes, spent]

/-- An attempt and a pause in front of further attempts. -/
theorem Scheduled.again (punctual : Punctual registry serve answer) (quiet : Quiet clocks)
    (state after : σ) (rest : Scheduled ((registry.attempt node context).alone serve) node context
      policy (number + 1) left moments) :
    Scheduled ((registry.attempt node context).alone serve) node context policy number (left + 1)
      (momentOf answer (.attempt (attemptAt node context policy number)) state ::
        (clocks ++ momentOf answer (.sleep policy.retryDelay) after :: moments)) := by
  obtain ⟨begun, asked, replied, taken⟩ := quiet.nothing
  obtain ⟨comes, takes⟩ := punctual.attempt_eq node context policy number state
  obtain ⟨count, counted⟩ := Nat.exists_eq_add_one_of_ne_zero (Nat.ne_of_gt rest.some)
  constructor
  · simp
  · simpa [begun] using rest.few
  · simp [begun, asked, rest.order, counted, schedule_succ]
  · simp [begun, replied, rest.outcomes, comes]
  · have pause := punctual.sleep policy.retryDelay after
    have others := rest.takes
    simp only [spent, counted, Nat.add_sub_cancel] at others
    simp only [spent, starts_attempt, starts_append, starts_pause, begun, List.nil_append,
      List.map_cons, List.map_append, List.sum_cons, List.sum_append, List.length_cons,
      momentOf_cost, takes, taken, pause, others, counted, Nat.add_sub_cancel, Nat.add_one_mul]
    omega

theorem Punctual.quiet_now (punctual : Punctual registry serve answer) (state : σ) :
    Quiet [momentOf answer .now state] :=
  List.forall_mem_singleton.mpr ⟨rfl, punctual.now state⟩

/-- Attempts that are made one after the other are scheduled. -/
theorem tryFrom_scheduled (punctual : Punctual registry serve answer) (node : Node)
    (context : Context) (policy : AttemptPolicy) (left number : Nat) (record : Execution)
    (state : σ) :
    Scheduled ((registry.attempt node context).alone serve) node context policy number left
      ((tryFrom node context policy left number record).moments answer state) := by
  induction left generalizing number record state with
  | zero =>
      rw [tryFrom, Engine.attempt_eq]
      simp only [bind_eq_bind, ask_bind, done_bind, moments_ask]
      cases Attempt.result _ _ with
      | ok value => exact .last punctual (by simp [Quiet]) state
      | error error =>
          exact .last punctual (by simp [Quiet, note_eq, moments_ask, punctual.now]) state
  | succ left ih =>
      rw [tryFrom, Engine.attempt_eq]
      simp only [bind_eq_bind, ask_bind, done_bind, moments_ask]
      cases Attempt.result _ _ with
      | ok value => exact .last punctual (by simp [Quiet]) state
      | error error =>
          exact .again punctual (punctual.quiet_now _) state _ (ih (number + 1) _ _)

end Schedule

/-! ## Attempts that are all alike -/

section Alike

variable {registry : HandlerRegistry} {serve : TimedAnswers services σ}
  {answer : TimedAnswers surroundings σ} {node : Node} {context : Context}
  {policy : AttemptPolicy}

theorem spent_le (work : σ → Except NodeError Json × Nat × σ) {starts : List σ}
    (few : starts.length ≤ policy.maxAttempts) :
    spent work policy starts ≤
      policy.maxAttempts * policy.timeout + (policy.maxAttempts - 1) * policy.retryDelay := by
  have clipped := List.sum_le_card_nsmul
    (starts.map fun start => min (work start).2.1 policy.timeout) policy.timeout (by
      intro time member
      obtain ⟨start, -, rfl⟩ := List.mem_map.mp member
      exact Nat.min_le_right _ _)
  rw [List.length_map, Nat.nsmul_eq_mul] at clipped
  exact Nat.add_le_add (clipped.trans (Nat.mul_le_mul_right _ few))
    (Nat.mul_le_mul_right _ (Nat.sub_le_sub_right few 1))

theorem spent_of_late {work : σ → Except NodeError Json × Nat × σ} {starts : List σ}
    (late : ∀ start, policy.timeout < (work start).2.1) :
    spent work policy starts =
      starts.length * policy.timeout + (starts.length - 1) * policy.retryDelay := by
  have clipped : (fun start => min (work start).2.1 policy.timeout) =
      fun _ => policy.timeout := funext fun start => Nat.min_eq_right (late start).le
  rw [spent, clipped, List.map_const', List.sum_replicate, Nat.nsmul_eq_mul]

theorem length_starts (moments : List (Moment surroundings σ)) :
    (starts moments).length = (attempts (moments.map Moment.event)).length := by
  induction moments with
  | nil => rfl
  | cons moment moments ih =>
      obtain ⟨before, ⟨asked, reply⟩, cost⟩ := moment
      cases asked with
      | attempt attempt => exact congrArg Nat.succ ih
      | now | sleep milliseconds | create record | load id | save record expected => exact ih

/-- If all attempts would come to the same, they follow a sequence that does not change. -/
theorem follows_of_alike {work : σ → Except NodeError Json × Nat × σ}
    {moments : List (Moment surroundings σ)} {number left : Nat}
    (scheduled : Scheduled work node context policy number left moments)
    (outcome : Option (Except NodeError Json))
    (alike : ∀ start,
      (if (work start).2.1 ≤ policy.timeout then some (work start).1 else none) = outcome) :
    Follows (fun _ => outcome) (moments.map Moment.event) := by
  intro index reply found
  have member := List.mem_of_getElem? found
  rw [scheduled.outcomes, List.mem_map] at member
  obtain ⟨start, -, rfl⟩ := member
  exact alike start

/-- A node that succeeds in time does so in its first attempt. -/
theorem tryNode_of_early (punctual : Punctual registry serve answer) (policy : AttemptPolicy)
    (record : Execution) (state : σ) {value : Json} (early : ∀ start,
      ((registry.attempt node context).alone serve start).2.1 ≤ policy.timeout ∧
        ((registry.attempt node context).alone serve start).1 = .ok value) :
    ((tryNode node context policy record).alone answer state).1.2 = .ok value := by
  have positive := policy.maxAttempts_pos
  have scheduled :=
    tryFrom_scheduled punctual node context policy (policy.maxAttempts - 1) 1 record state
  have follows := follows_of_alike scheduled (some (.ok value)) fun start => by
    rw [if_pos (early start).1, (early start).2]
  have succeeds := Tried.recovers (by simp) (by omega)
    ((tryFrom_tried _ _ _ _ _ _).of_yields (moments_yields _ state)) follows failsWith_nil rfl
  exact succeeds.2.2

/-- A node that is always too late is tried as often as it may be. -/
theorem tryNode_of_late (punctual : Punctual registry serve answer) (record : Execution)
    (state : σ) (late : ∀ start,
      policy.timeout < ((registry.attempt node context).alone serve start).2.1) :
    ((tryNode node context policy record).alone answer state).1.2 =
        .error ⟨.timeout policy.timeout, policy.maxAttempts⟩ ∧
      (starts ((tryNode node context policy record).moments answer state)).length =
        policy.maxAttempts := by
  have positive := policy.maxAttempts_pos
  have scheduled :=
    tryFrom_scheduled punctual node context policy (policy.maxAttempts - 1) 1 record state
  have follows := follows_of_alike scheduled none fun start =>
    if_neg (Nat.not_le.mpr (late start))
  have fails : FailsWith policy (fun _ => none)
      (List.replicate policy.maxAttempts (.timeout policy.timeout)) := by
    intro index error found
    rw [List.eq_of_mem_replicate (List.mem_of_getElem? found)]
    rfl
  have final : (List.replicate policy.maxAttempts (NodeError.timeout policy.timeout)).getLast? =
      some (.timeout policy.timeout) := by
    rw [List.getLast?_replicate, if_neg (Nat.ne_of_gt positive)]
  have exhausts := Tried.exhausts (by simp; omega) (by omega)
    ((tryFrom_tried _ _ _ _ _ _).of_yields (moments_yields _ state)) follows fails final
  refine ⟨exhausts.2.2, ?_⟩
  rw [length_starts]
  exact (congrArg List.length exhausts.1).trans (by simp)

/-- A pause takes as long as it should and then succeeds. -/
theorem attempt_delay (context : Context) {duration : Nat}
    (configured : node.config = .delay duration)
    (registered : registry.get .delay = .ok Handler.delay)
    (exact : ∀ start, (serve (.sleep duration) start).2.1 = duration) (start : σ) :
    ((registry.attempt node context).alone serve start).2.1 = duration ∧
      ((registry.attempt node context).alone serve start).1 =
        .ok (.ofMembers [("delayedMs", .ofNat duration)]) := by
  have type : node.type = .delay := by rw [Node.type, configured]; rfl
  rw [HandlerRegistry.attempt, type, registered]
  simp only [Handler.delay, configured]
  exact ⟨exact start, rfl⟩

/-- Without a handler an attempt fails at once. -/
theorem attempt_missing (context : Context) {error : NodeError}
    (missing : registry.get node.type = .error error) (start : σ) :
    ((registry.attempt node context).alone serve start).1 = .error error ∧
      ((registry.attempt node context).alone serve start).2.1 = 0 := by
  have fails : registry.attempt node context = done (.error error) := by
    rw [HandlerRegistry.attempt, missing]
    rfl
  rw [fails]
  exact ⟨rfl, rfl⟩

/-- A pause as a node is in time in each attempt or in none. -/
theorem tryNode_pause (punctual : Punctual registry serve answer) (context : Context)
    (policy : AttemptPolicy) (record : Execution) (state : σ) {duration : Nat}
    (configured : node.config = .delay duration)
    (registered : registry.get .delay = .ok Handler.delay)
    (exact : ∀ start, (serve (.sleep duration) start).2.1 = duration) :
    ((∃ value, ((tryNode node context policy record).alone answer state).1.2 = .ok value) ↔
        duration ≤ policy.timeout) ∧
      (policy.timeout < duration →
        spent ((registry.attempt node context).alone serve) policy
            (starts ((tryNode node context policy record).moments answer state)) =
          policy.maxAttempts * policy.timeout + (policy.maxAttempts - 1) * policy.retryDelay) := by
  have pauses := attempt_delay context configured registered exact
  by_cases early : duration ≤ policy.timeout
  · have succeeds := tryNode_of_early punctual policy record state fun start =>
      ⟨(pauses start).1.trans_le early, (pauses start).2⟩
    exact ⟨⟨fun _ => early, fun _ => ⟨_, succeeds⟩⟩, fun late => absurd early (by omega)⟩
  · have late (start : σ) :
        policy.timeout < ((registry.attempt node context).alone serve start).2.1 :=
      (Nat.lt_of_not_le early).trans_eq (pauses start).1.symm
    obtain ⟨fails, all⟩ := tryNode_of_late punctual record state late
    refine ⟨⟨fun ⟨value, succeeds⟩ => ?_, fun inTime => absurd inTime early⟩, fun _ => ?_⟩
    · cases fails.symm.trans succeeds
    · rw [spent_of_late late, all]

end Alike

/-! ## A node over time -/

/-- A node that is tried takes exactly the time of its attempts and of the pauses between them,
whatever handlers, services and states there are.  The attempts begin in some states, at least
one and at most as many as are allowed, and each is followed by a pause unless it is the last
one.  What an attempt comes to is what its work would come to by itself from the state in which it
begins, if that takes no longer than the limit, and otherwise that it took too long; the time that
it takes is that of its work or the limit.  A look-up that fails takes no time.  A pause as a node
succeeds exactly if it is no longer than the limit, and otherwise takes all the time that there
is. -/
theorem tryNode_in_time {registry : HandlerRegistry} {serve : TimedAnswers services σ}
    {answer : TimedAnswers surroundings σ} (punctual : Punctual registry serve answer) (node : Node)
    (context : Context) (policy : AttemptPolicy) (record : Execution) (state : σ) :
    let work := (registry.attempt node context).alone serve
    let moments := (tryNode node context policy record).moments answer state
    let began := starts moments
    let time := (began.map fun start => min (work start).2.1 policy.timeout).sum +
      (began.length - 1) * policy.retryDelay
    let longest := policy.maxAttempts * policy.timeout +
      (policy.maxAttempts - 1) * policy.retryDelay
    ∃ final after, (tryNode node context policy record).runWithin none answer 0 state =
        (some final, time, after) ∧
      0 < began.length ∧ began.length ≤ policy.maxAttempts ∧
      lasting (moments.map Moment.event) = schedule node context policy 1 began.length ∧
      ((replies (moments.map Moment.event)).map policy.outcome = began.map fun start =>
        if (work start).2.1 ≤ policy.timeout then (work start).1
        else .error (.timeout policy.timeout)) ∧
      time ≤ longest ∧
      (∀ error, registry.get node.type = .error error →
        ∀ start, (work start).1 = .error error ∧ (work start).2.1 = 0) ∧
      ∀ duration, node.config = .delay duration → registry.get .delay = .ok Handler.delay →
        (∀ start, (serve (.sleep duration) start).2.1 = duration) →
        ((∃ value, final.2 = .ok value) ↔ duration ≤ policy.timeout) ∧
        (policy.timeout < duration → time = longest) := by
  intro work moments began time longest
  have positive := policy.maxAttempts_pos
  have scheduled : Scheduled work node context policy 1 (policy.maxAttempts - 1) moments :=
    tryFrom_scheduled punctual node context policy (policy.maxAttempts - 1) 1 record state
  have few : began.length ≤ policy.maxAttempts :=
    scheduled.few.trans_eq (Nat.sub_add_cancel positive)
  refine ⟨((tryNode node context policy record).alone answer state).1,
    ((tryNode node context policy record).alone answer state).2.2, ?_, scheduled.some, few,
    scheduled.order, ?_, spent_le work few, ?_, ?_⟩
  · rw [runWithin_none, alone_time, scheduled.takes, Nat.zero_add]
    rfl
  · rw [scheduled.outcomes, List.map_map]
    refine List.map_congr_left fun start _ => ?_
    simp only [Function.comp_apply, AttemptPolicy.outcome]
    split <;> rfl
  · exact fun error missing => attempt_missing context missing
  · exact fun duration => tryNode_pause punctual context policy record state

/-- Surroundings that keep exact time around handlers and services, and in which nothing can be
stored. -/
def clockwork (registry : HandlerRegistry) (serve : TimedAnswers services σ) :
    TimedAnswers surroundings σ
  | .now, state => (default, 0, state)
  | .sleep milliseconds, state => ((), milliseconds, state)
  | .attempt asked, state =>
      (registry.attempt asked.node asked.context).runWithin (some asked.limit) serve 0 state
  | .create _, state | .load _, state | .save _ _, state => (.error (.storage ""), 0, state)

theorem punctual_clockwork (registry : HandlerRegistry) (serve : TimedAnswers services σ) :
    Punctual registry serve (clockwork registry serve) :=
  ⟨fun _ => rfl, fun _ _ => rfl, fun _ _ => rfl⟩

/-- The handlers that are there from the start, without connectors and backends. -/
def plainHandlers : HandlerRegistry := .builtIn [] { backends := [] }

/-- The pause of 90 milliseconds is too long for three attempts of 50 with 5 between them, and
just short enough for one of 90; without a handler only the pauses between the attempts take
time. -/
theorem tryNode_in_time_restless :
    (Punctual plainHandlers unconnected (clockwork plainHandlers unconnected) ∧
      restless.config = .delay 90 ∧ plainHandlers.get .delay = .ok Handler.delay ∧
      (∀ start, (unconnected (.sleep 90) start).2.1 = 90) ∧
      (∃ final after, (tryNode restless (.start .null) patient begun).runWithin none
        (clockwork plainHandlers unconnected) 0 () = (some final, 160, after) ∧
          ¬∃ value, final.2 = .ok value) ∧
      ∃ final after,
        (tryNode restless (.start .null) { patient with timeout := 90 } begun).runWithin none
          (clockwork plainHandlers unconnected) 0 () = (some final, 90, after) ∧
          ∃ value, final.2 = .ok value) ∧
    Punctual [] unconnected (clockwork [] unconnected) ∧
      HandlerRegistry.get [] restless.type = .error (.handlerNotRegistered .delay) ∧
      ∃ final after, (tryNode restless (.start .null) patient begun).runWithin none
        (clockwork [] unconnected) 0 () = (some final, 10, after) := by
  have punctual := punctual_clockwork plainHandlers unconnected
  have unhandled := punctual_clockwork [] unconnected
  refine ⟨⟨punctual, rfl, rfl, fun _ => rfl, ?_, ?_⟩, unhandled, rfl, ?_⟩
  · obtain ⟨final, after, runs, -, -, -, -, -, -, pauses⟩ :=
      tryNode_in_time punctual restless (.start .null) patient begun ()
    obtain ⟨succeeds, takes⟩ := pauses 90 rfl rfl fun _ => rfl
    refine ⟨final, after, runs.trans ?_, fun value => absurd (succeeds.mp value) (by decide)⟩
    rw [takes (by decide)]
    rfl
  · obtain ⟨final, after, runs, -, -, -, -, -, -, pauses⟩ :=
      tryNode_in_time punctual restless (.start .null) { patient with timeout := 90 } begun ()
    obtain ⟨succeeds, -⟩ := pauses 90 rfl rfl fun _ => rfl
    refine ⟨final, after, runs.trans (congrArg (some final, ·, after) ?_),
      succeeds.mpr (by decide)⟩
    decide +kernel
  · obtain ⟨final, after, runs, -⟩ :=
      tryNode_in_time unhandled restless (.start .null) patient begun ()
    refine ⟨final, after, runs.trans (congrArg (some final, ·, after) ?_)⟩
    decide +kernel

end Flowline.Engine
