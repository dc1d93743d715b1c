import Flowline.Proofs.Engine.Race
import Flowline.Proofs.Engine.Visits

/-!
# Runs that are stopped

A walk ends where it reads a cancelled record.  When a cancellation comes through, the run
has created its record and not closed it; from then on every look finds a cancelled record.
So at most the visit that is under way is brought to its end, and the next look is the last.
-/

namespace Flowline.Engine

open Program Execution

variable {settings : Settings} {workflow : Workflow} {id : ExecutionId} {input : Json}
  {events more : List (Event surroundings)} {record : Execution}

/-! ## The end of a walk -/

/-- A cancelled record is the last that is read, and ends a part of a walk. -/
def Stops (events : List (Event surroundings)) (outcome : Except RunError Unit) : Prop :=
  ∀ sooner id held rest, events = sooner ++ ⟨.load id, .ok held⟩ :: rest →
    held.record.status = .cancelled → rest = [] ∧ outcome = .error .cancelled

theorem Stops.of_unread {outcome : Except RunError Unit} (unread : Unread events) :
    Stops events outcome := by
  rintro sooner id held rest rfl -
  exact (unread ⟨.load id, .ok held⟩ (by simp) id rfl).elim

theorem composable_stops : Composable fun events _ _ outcome => Stops events outcome where
  idle _ := .of_unread (by simp [Unread])
  append := by
    intro first second before between after outcome earlier later sooner id held rest parts called
    have absent : ⟨.load id, .ok held⟩ ∉ first := by
      intro member
      obtain ⟨sooner, rest, parts⟩ := List.append_of_mem member
      cases (earlier _ _ _ _ parts called).2
    obtain ⟨between, -, parts⟩ := split_of_not_mem absent parts
    exact later _ _ _ _ parts called

theorem isCancelled_stops (plan : Plan) (run : Run) :
    (isCancelled plan run).Ensures fun events found =>
      Stops events (if found then .error .cancelled else .ok ()) := by
  unfold isCancelled
  split
  · intro reply
    cases reply with
    | error error =>
        rintro (_ | ⟨head, sooner⟩) id held rest parts -
        · cases parts
        · simp at parts
    | ok held =>
        rintro (_ | ⟨head, sooner⟩) id other rest parts called
        · cases parts
          simp [called]
        · simp at parts
  · exact .of_unread (by simp [Unread])

theorem walk_stops (plan : Plan) (allowed : Nat) (nodeId : String) (run : Run) :
    (walk plan allowed nodeId run).Ensures fun events result => Stops events result.2 := by
  refine walk_ensures composable_stops ?_ (isCancelled_stops plan) ?_ ?_ ?_ ?_ allowed nodeId run
  · exact fun _ _ => .of_unread (by simp [Unread])
  · exact fun _ _ => .of_unread (by simp [Unread])
  · exact fun _ _ => .of_unread (by simp [Unread])
  · exact fun node run => (runNode_block plan node run).mono fun _ _ ran => .of_unread ran.2.1
  · intro run message nodeId
    apply (runNote_writes run .info message nodeId).mono
    intro events after noted
    exact .of_unread fun event member id same => noted.1 event member (same ▸ trivial)

/-! ## What a run writes -/

/-- A run that could not create its record has written nothing when its walk begins. -/
theorem opening_unwritten (workflow : Workflow) (id : ExecutionId) :
    (opening workflow id).Ensures fun events opened =>
      opened.2.isSome = true ∨ events.filterMap written? = [] := by
  rw [opening_eq]
  apply Ensures.bind (beginning_begun workflow id)
  rintro events begun ⟨quiet, -⟩ reply
  cases reply with
  | ok revision => exact .inl rfl
  | error error =>
      intro noted
      right
      simp [(unwritten_of_quiet quiet).1, written?]

/-- All that is written is final. -/
def ClosesOnly (events : List (Event surroundings)) : Prop :=
  ∀ event ∈ events, ∀ version, written? event = some version →
    version.record.status.isFinal = true

theorem ClosesOnly.of_clock (clock : ∀ event ∈ events, event.asked = .now) :
    ClosesOnly events := by
  rintro ⟨asked, reply⟩ member version written
  obtain rfl : asked = .now := clock _ member
  cases written

theorem ClosesOnly.append (earlier : ClosesOnly events) (later : ClosesOnly more) :
    ClosesOnly (events ++ more) :=
  List.forall_mem_append.mpr ⟨earlier, later⟩

theorem ClosesOnly.cons {event : Event surroundings}
    (closes : ∀ version, written? event = some version → version.record.status.isFinal = true)
    (others : ClosesOnly events) : ClosesOnly (event :: events) :=
  List.forall_mem_cons.mpr ⟨closes, others⟩

theorem closes_save {record : Execution} {expected : Revision}
    {reply : Except StoreError Revision} (finalised : Finalised record) (version : Versioned)
    (written : written? ⟨.save record expected, reply⟩ = some version) :
    version.record.status.isFinal = true := by
  cases reply with
  | ok revision =>
      cases written
      exact finalised.isFinal
  | error error => cases written

theorem resolveConflict_closesOnly {record : Execution} (finalised : Finalised record) :
    (resolveConflict record).Ensures fun events _ => ClosesOnly events := by
  rw [resolveConflict_eq]
  intro reply
  cases reply with
  | error error =>
      apply (notePersistFailure_tells record error).mono
      intro events after noted
      exact .cons (by simp [written?]) (.of_clock noted.clock)
  | ok held =>
      apply Ensures.bind (yieldTo_yielded finalised held.record)
      rintro events kept ⟨clock, yielded⟩ reply
      have closes := @closes_save kept held.revision reply yielded.toFinalised
      have earlier : ClosesOnly (⟨.load record.id, .ok held⟩ :: events) :=
        .cons (by simp [written?]) (.of_clock clock)
      cases reply with
      | ok revision => exact earlier.append (.cons closes (.of_clock (by simp)))
      | error error =>
          apply (notePersistFailure_tells kept error).mono
          intro more after noted
          exact earlier.append (.cons closes (.of_clock noted.clock))

theorem afterWrite_closesOnly {record : Execution} (finalised : Finalised record)
    (reply : Except StoreError Revision) :
    (afterWrite record reply).Ensures fun events _ => ClosesOnly events := by
  rcases reply with (_ | _ | _ | _ | _) | _
  case error.conflict => exact resolveConflict_closesOnly finalised
  case ok => exact .of_clock (by simp)
  all_goals exact (notePersistFailure_tells record _).mono fun _ _ noted => .of_clock noted.clock

/-- A run that is over writes its end and nothing else. -/
theorem persist_closesOnly {record : Execution} (finalised : Finalised record)
    (revision : Option Revision) :
    (persist record revision).Ensures fun events _ => ClosesOnly events := by
  rw [persist_eq]
  cases revision with
  | some revision =>
      intro reply
      exact (afterWrite_closesOnly finalised reply).mono fun _ _ => .cons (closes_save finalised)
  | none =>
      intro reply
      refine (afterWrite_closesOnly finalised reply).mono fun _ _ => .cons fun version written => ?_
      cases reply with
      | ok revision =>
          cases written
          exact finalised.isFinal
      | error error => cases written

namespace Course

variable (course : Course settings workflow id input events record)

/-- A run that has written what is not final has created its record before its walk. -/
theorem opened_isSome {version : Versioned} (wrote : version ∈ events.filterMap written?)
    (unfinal : version.record.status.isFinal = false) : course.opened.2.isSome = true := by
  refine ((opening_unwritten workflow id).of_yields course.opens).resolve_right fun nothing => ?_
  have walking := ((traverse_grown _ _ _ _ _).of_yields course.walks).2.1
  have clock := ((finish_ended course.walked_running _).of_yields course.finishes).2
  have ending : ClosesOnly (course.closing ++ course.written) :=
    .append (.of_clock clock) ((persist_closesOnly course.ended.toFinalised _).of_yields
      course.persists)
  rw [course.events_eq, List.filterMap_append, nothing, List.nil_append, List.filterMap_append,
    (unwritten_of_quiet walking).1, List.nil_append] at wrote
  obtain ⟨event, member, written⟩ := List.mem_filterMap.mp wrote
  simp [ending event member version written] at unfinal

/-- A run that has created its record writes before it reads again after its walk. -/
theorem saves_ne_nil (opened : course.opened.2.isSome = true)
    {sooner rest : List (Event surroundings)} {event : Event surroundings}
    (reads : ∀ record expected, event.asked ≠ .save record expected)
    (parts : course.written = sooner ++ event :: rest) : saves sooner ≠ [] := by
  have persists := course.persists
  obtain ⟨revision, same⟩ := Option.isSome_iff_exists.mp opened
  rw [same, persist_eq, parts] at persists
  cases sooner with
  | nil =>
      cases persists with
      | ask _ => exact (reads _ _ rfl).elim
  | cons first sooner =>
      cases persists with
      | ask _ => simp [saves]

/-- A cancelled record that a run reads before its first save ends its walk. -/
theorem stopped (opened : course.opened.2.isSome = true) {sooner rest : List (Event surroundings)}
    {held : Versioned} (parts : events = sooner ++ ⟨.load id, .ok held⟩ :: rest)
    (unsaved : saves sooner = []) (called : held.record.status = .cancelled) :
    ∃ steps, Walked settings workflow id input (sooner ++ [⟨.load id, .ok held⟩])
      (steps ++ [⟨.load id, .ok held⟩]) (.error .cancelled) := by
  have whole := course.events_eq.symm.trans parts
  have opening : ⟨.load id, .ok held⟩ ∉ course.before := fun member =>
    ((opening_running workflow id).of_yields course.opens).2 _ member
  have closing : ⟨.load id, .ok held⟩ ∉ course.closing := fun member => by
    cases ((finish_ended course.walked_running _).of_yields course.finishes).2 _ member
  obtain ⟨between, rfl, onward⟩ := split_of_not_mem opening whole
  rcases split_append onward with ⟨tail, middle, -⟩ | ⟨later, rfl, ending⟩
  · rcases traverse_yields course.walks with
      ⟨error, -, nothing, -⟩ |
        ⟨graph, inspected, noted, walked, run, -, built, parts, inspects, walks, -⟩
    · simp [nothing] at middle
    · have looking : ⟨.load id, .ok held⟩ ∉ inspected := fun member => by
        cases ((inspect_tells _ _).of_yields inspects).clock _ member
      obtain ⟨steps, rfl, rfl⟩ := split_of_not_mem looking (parts.symm.trans middle)
      obtain ⟨rfl, outcome⟩ := (walk_stops _ _ _ _).of_yields walks _ _ _ _ rfl called
      have through : course.before ++ (inspected ++ steps) ++ [⟨.load id, .ok held⟩] =
          course.before ++ (inspected ++ ((steps ++ [⟨.load id, .ok held⟩]) ++ [])) := by simp
      exact ⟨steps, .intro built course.opens inspects (outcome ▸ walks) through⟩
  · obtain ⟨last, rfl, written⟩ := split_of_not_mem closing ending
    have saved := course.saves_ne_nil opened (by simp) written
    simp [saved] at unsaved

end Course

theorem Walked.append {walked : List (Event surroundings)} {outcome : Except RunError Unit}
    (walks : Walked settings workflow id input events walked outcome)
    (more : List (Event surroundings)) :
    Walked settings workflow id input (events ++ more) walked outcome := by
  obtain ⟨built, opens, inspects, goes, rfl⟩ := walks
  simp only [List.append_assoc]
  exact .intro built opens inspects goes rfl

/-! ## What begins once -/

/-- The first attempt at a node of the walk. -/
def Attempt.Starts (attempt : Attempt) : Prop := attempt.role = .step ∧ attempt.number = 1

instance (attempt : Attempt) : Decidable attempt.Starts := inferInstanceAs (Decidable (_ ∧ _))

/-- An execution starts one node. -/
theorem Executed.Attempts.countP_starts {executed : Executed} {attempted : List Attempt}
    (made : executed.Attempts settings workflow id attempted) :
    attempted.countP (fun attempt => attempt.Starts) = 1 := by
  obtain ⟨count, positive, -, rfl⟩ := made
  obtain ⟨count, rfl⟩ := Nat.exists_eq_succ_of_ne_zero positive.ne'
  have retried : (tries settings executed.node executed.context 2 count).countP
      (fun attempt => attempt.Starts) = 0 := by
    refine List.countP_eq_zero.mpr fun attempt member => ?_
    obtain ⟨number, among, rfl⟩ := List.mem_map.mp member
    have later := (List.mem_range'_1.mp among).1
    simp only [Attempt.Starts, true_and, decide_eq_true_eq]
    omega
  have told : (executed.alarms settings workflow id).countP
      (fun attempt => attempt.Starts) = 0 := by
    refine List.countP_eq_zero.mpr fun attempt member => ?_
    simp [Attempt.Starts, Executed.role_of_mem_alarms member]
  rw [List.countP_append, tries_succ, List.countP_cons, retried, told]
  simp [Attempt.Starts]

/-! ## After a cancellation -/

section Scenes

variable {callers σ : Type} [DecidableEq callers] {store : AtomicStore σ}
  {refuses : StoreError → Prop} {state : σ}
  {scene later : Scene surroundings (@Party.Result callers) σ} {name : callers} {marked : Execution}

/-- Once a cancellation has come through, a look at the record is due to find it cancelled. -/
theorem race_reads_cancelled (fresh : store.cell id state = none)
    (reaches : Scene.Reaches (store.answers refuses)
      (race callers settings workflow id input state) scene)
    (cancelled : scene.threads (.caller name) = .done (.ok marked))
    (further : Scene.Reaches (store.answers refuses) scene later)
    (owned : later.world.own .run = scene.world.own .run ++ events)
    {reply : Except StoreError Versioned} (member : ⟨.load id, reply⟩ ∈ events) :
    ∃ held, held.record.status = .cancelled ∧ AtomicStore.Due refuses (.ok held) reply := by
  obtain ⟨mark, listed⟩ := (race_cancelled_iff reaches name).mp ⟨marked, cancelled⟩
  obtain ⟨between, next, earlier, answered⟩ := further.exists_answered owned member
  have good := race_reaches_good fresh (reaches.trans earlier)
  have listed := (World.chronicle_prefix earlier.history).subset listed
  obtain ⟨-, last, ends, status⟩ := good.sound.cancelled_of_marked listed
  have due := AtomicStore.answers_load_due answered.allowed
  rw [good.cell_eq, ends] at due
  exact ⟨last, status, due⟩

/-- A run whose looks find a cancelled record can go on to its end in the same way. -/
theorem exists_called_course (fresh : store.cell id state = none)
    (reaches : Scene.Reaches (store.answers refuses)
      (race callers settings workflow id input state) scene)
    (cancelled : scene.threads (.caller name) = .done (.ok marked))
    (further : Scene.Reaches (store.answers refuses) scene later)
    (owned : later.world.own .run = scene.world.own .run ++ events)
    (reads : ∀ error, ⟨.load id, .error error⟩ ∉ events) :
    ∃ more record, ∃ course : Course settings workflow id input
        (scene.world.own .run ++ (events ++ more)) record, course.opened.2.isSome = true ∧
      ∀ reply, ⟨.load id, reply⟩ ∈ events ++ more →
        ∃ held, reply = .ok held ∧ held.record.status = .cancelled := by
  obtain ⟨mark, listed⟩ := (race_cancelled_iff reaches name).mp ⟨marked, cancelled⟩
  obtain ⟨⟨version, member, created⟩, last, -, status⟩ :=
    (race_reaches_good fresh reaches).sound.cancelled_of_marked listed
  have answerable (asked : Request) : ∃ reply : Reply asked,
      ∀ other, (⟨asked, reply⟩ : Event surroundings) = ⟨.load id, other⟩ →
        ∃ held, other = .ok held ∧ held.record.status = .cancelled := by
    by_cases same : asked = .load id
    · subst same
      refine ⟨.ok last, ?_⟩
      rintro other ⟨⟩
      exact ⟨last, rfl, status⟩
    · obtain ⟨reply⟩ := nonempty_reply asked
      exact ⟨reply, fun other equal => (same (congrArg Event.asked equal)).elim⟩
  obtain ⟨more, record, yields, fair⟩ := @exists_yields surroundings _
    (fun event => ∀ other, event = ⟨.load id, other⟩ →
      ∃ held, other = .ok held ∧ held.record.status = .cancelled) answerable (later.threads .run)
  obtain ⟨asked, own, leaves⟩ := Scene.Reaches.leaves (reaches.trans further) .run
  obtain rfl : scene.world.own .run ++ events = asked := owned.symm.trans own
  have whole := leaves.yields yields
  rw [List.append_assoc] at whole
  obtain ⟨course⟩ := exists_course whole
  have wrote : version ∈
      (scene.world.own .run ++ (events ++ more)).filterMap written? := by
    rw [List.filterMap_append]
    exact List.mem_append_left _ (World.mem_chronicle_iff.mp member)
  have unfinal : version.record.status.isFinal = false := by
    rw [created.status_eq]
    rfl
  refine ⟨more, record, course, course.opened_isSome wrote unfinal, fun reply member => ?_⟩
  rcases List.mem_append.mp member with member | member
  · obtain ⟨held, status, due | ⟨error, -, rfl⟩⟩ :=
      race_reads_cancelled fresh reaches cancelled further owned member
    · exact ⟨held, due, status⟩
    · exact (reads error member).elim
  · exact fair _ member reply rfl

end Scenes

/-- A run that looks out for cancellations and any number of cancellations of it ask a store in
any order.  From when a cancellation has come through, let every look of the run at its record
get a reply.
Nothing is attempted after such a look.  What is attempted before it belongs to the one visit
that is under way, whose look came before the cancellation: it is a retry of the node that is
visited, or an error handler for it.  So at most one node more is started.  The first such look
is the end of the walk, which ends as cancelled; only a look that resolves a conflict of the
last write comes later. -/
theorem race_stops_walk {callers σ : Type} [DecidableEq callers] (store : AtomicStore σ)
    (refuses : StoreError → Prop) (settings : Settings) (workflow : Workflow) (id : ExecutionId)
    (input : Json) (state : σ) (checks : settings.checkCancellation = true)
    (fresh : store.load id state = .error (.notFound id))
    (scene later : Scene surroundings (@Party.Result callers) σ)
    (reaches : Scene.Reaches (store.answers refuses)
      (race callers settings workflow id input state) scene)
    (name : callers) (marked : Execution)
    (cancelled : scene.threads (.caller name) = .done (.ok marked))
    (further : Scene.Reaches (store.answers refuses) scene later)
    (events : List (Event surroundings))
    (owned : later.world.own .run = scene.world.own .run ++ events)
    (reads : ∀ error, ⟨.load id, .error error⟩ ∉ events) :
    (∀ sooner reply rest, events = sooner ++ ⟨.load id, reply⟩ :: rest → attempts rest = []) ∧
    (attempts events = [] ∨ ∃ sooner reply block executed attempted,
      scene.world.own .run = sooner ++ ⟨.load id, reply⟩ :: block ∧ Clear reply ∧ Unread block ∧
        Executed.Attempts settings workflow id executed attempted ∧
        attempts block ++ attempts events <+: attempted) ∧
    (attempts events).countP (fun attempt => attempt.Starts) ≤ 1 ∧
    (∀ sooner reply rest, events = sooner ++ ⟨.load id, reply⟩ :: rest →
      saves (scene.world.own .run ++ sooner) = [] →
      ∃ steps, Walked settings workflow id input (later.world.own .run)
        (steps ++ [⟨.load id, reply⟩]) (.error .cancelled)) := by
  have empty := (AtomicStore.load_eq_error.mp fresh).1
  obtain ⟨more, record, course, opened, called⟩ :=
    exists_called_course empty reaches cancelled further owned reads
  obtain ⟨finished, last⟩ := (course.visits checks opened).cut fun reply member clear => by
    obtain ⟨held, rfl, status⟩ := called reply member
    exact clear held rfl status
  have begun : attempts events = [] ∨ ∃ sooner reply block executed attempted,
      scene.world.own .run = sooner ++ ⟨.load id, reply⟩ :: block ∧ Clear reply ∧ Unread block ∧
        Executed.Attempts settings workflow id executed attempted ∧
        attempts block ++ attempts events <+: attempted := by
    rw [attempts_append] at last
    rcases last with nothing | ⟨sooner, reply, block, executed, parts, clear, unread, made⟩
    · exact .inl (List.append_eq_nil_iff.mp nothing).1
    · rw [← List.append_assoc] at made
      exact .inr ⟨sooner, reply, block, executed, _, parts, clear, unread, made,
        List.prefix_append _ _⟩
  refine ⟨fun sooner reply rest parts => ?_, begun, ?_, fun sooner reply rest parts unsaved => ?_⟩
  · have nothing := finished sooner reply (rest ++ more) (by simp [parts])
    rw [attempts_append] at nothing
    exact (List.append_eq_nil_iff.mp nothing).1
  · rcases begun with nothing | ⟨-, -, block, executed, attempted, -, -, -, made, begins⟩
    · simp [nothing]
    · rw [← made.countP_starts]
      exact ((List.sublist_append_right _ _).trans begins.sublist).countP_le
  · obtain ⟨held, rfl, status⟩ := called reply (by simp [parts])
    have whole : scene.world.own .run ++ (events ++ more) =
        scene.world.own .run ++ sooner ++ ⟨.load id, .ok held⟩ :: (rest ++ more) := by
      simp [parts]
    obtain ⟨steps, walked⟩ := course.stopped opened whole unsaved status
    refine ⟨steps, ?_⟩
    rw [owned, parts]
    simpa using walked.append rest

/-- A workflow of two nodes, one after the other. -/
def chained : Workflow where
  id := ⟨⟨0⟩⟩
  name := "chained"
  nodes := [{ id := "first", name := "First", config := .manual },
    { id := "second", name := "Second", config := .manual }]
  connections := [{ source := "first", target := "second" }]
  trigger := "first"
  createdAt := ⟨0, 0⟩
  updatedAt := ⟨0, 0⟩

/-- What a run of two nodes creates. -/
def chainedCreated : Versioned := ⟨newborn chained ⟨⟨1⟩⟩, .first⟩

/-- The mark of a cancellation of it. -/
def chainedMark : Versioned :=
  ⟨marking chainedCreated.record ⟨0, 0⟩ ⟨0, 0⟩, chainedCreated.revision.next⟩

/-- The first attempt at the first of two nodes. -/
def firstAttempt : Attempt :=
  ⟨.step, { id := "first", name := "First", config := .manual }, .start .null, 1, 30000⟩

/-- The events of a run of two nodes up to its first attempt, if the clock stands still. -/
def approach : List (Event surroundings) :=
  birth chained ⟨⟨1⟩⟩ ++
    [⟨.now, ⟨0, 0⟩⟩, ⟨.load ⟨⟨1⟩⟩, .ok chainedCreated⟩, ⟨.now, ⟨0, 0⟩⟩]

/-- The events of that run from its first attempt up to its next look, which finds the mark. -/
def flight : List (Event surroundings) :=
  [⟨.attempt firstAttempt, some (.ok .null)⟩, ⟨.now, ⟨0, 0⟩⟩, ⟨.load ⟨⟨1⟩⟩, .ok chainedMark⟩]

/-- The first attempt of a run of two nodes can be made after a cancellation. -/
theorem exists_in_flight :
    ∃ scene later, Scene.Reaches (Store.Memory.atomic.answers fun _ => False)
        (race Unit {} chained ⟨⟨1⟩⟩ .null []) scene ∧
      scene.world.own .run = approach ∧
      scene.threads (.caller ()) = .done (.ok chainedMark.record) ∧
      Scene.Reaches (Store.Memory.atomic.answers fun _ => False) scene later ∧
      later.world.own .run = scene.world.own .run ++ flight := by
  let start := race Unit {} chained ⟨⟨1⟩⟩ .null ([] : Store.Memory)
  obtain ⟨ending, leaves⟩ : ∃ ending, (start.threads .run).Leaves (approach ++ flight) ending :=
    exists_leaves (by decide +kernel)
  obtain ⟨rest, looks, goesOn⟩ := leaves.of_append
  obtain ⟨reply, cell⟩ :=
    @AtomicStore.create_of_none _ Store.Memory.atomic chainedCreated.record [] rfl
  have allows : Scene.Allows (Store.Memory.atomic.answers fun _ => False) start.world.state
      approach (Store.Memory.atomic.create chainedCreated.record []).2 :=
    .cons rfl <| .cons rfl <| .cons rfl <| .cons (.inl (Prod.ext reply.symm rfl)) <| .cons rfl <|
      .cons (.inl ⟨(AtomicStore.load_eq_ok.mpr cell).symm, rfl⟩) <| .cons rfl (.nil _)
  obtain ⟨looking, reaches, left, kept, owned, others⟩ := Scene.exists_passage looks allows
  have running : Running ⟨⟨1⟩⟩ chainedCreated.record :=
    (running_enter chained ⟨⟨1⟩⟩ ⟨0, 0⟩ ⟨0, 0⟩).log _ _ _ _
  obtain ⟨state, intervenes, marks⟩ :=
    @intervention_allows _ Store.Memory.atomic (fun _ => False) ⟨⟨1⟩⟩ _ _ (kept ▸ cell) running
  have pending : looking.threads (.caller ()) = cancel ⟨⟨1⟩⟩ := (others (.caller ()) (by simp)).1
  obtain ⟨scene, further, ended, keptThen, -, waits⟩ :=
    Scene.exists_passage (pending ▸ intervention_leaves running) intervenes
  obtain ⟨waited, silent⟩ := waits .run (by simp)
  have looksAgain : Scene.Allows (Store.Memory.atomic.answers fun _ => False) scene.world.state
      flight scene.world.state :=
    .cons rfl <| .cons rfl <|
      .cons (.inl ⟨(AtomicStore.load_eq_ok.mpr (keptThen ▸ marks)).symm, rfl⟩) (.nil _)
  rw [left] at waited
  obtain ⟨later, last, -, -, own, -⟩ := Scene.exists_passage (waited ▸ goesOn) looksAgain
  exact ⟨scene, later, reaches.trans further, silent.trans owned, ended, last, own⟩

/-- A run of two nodes that is cancelled between its look for the first one and the attempt at
it does not come to the second one. -/
theorem race_stops_walk_in_flight :
    ∃ scene later steps, Scene.Reaches (Store.Memory.atomic.answers fun _ => False)
        (race Unit {} chained ⟨⟨1⟩⟩ .null []) scene ∧
      Store.Memory.load ⟨⟨1⟩⟩ [] = .error (.notFound ⟨⟨1⟩⟩) ∧
      scene.threads (.caller ()) = .done (.ok chainedMark.record) ∧
      Scene.Reaches (Store.Memory.atomic.answers fun _ => False) scene later ∧
      later.world.own .run = scene.world.own .run ++ flight ∧
      (∀ error, ⟨.load ⟨⟨1⟩⟩, .error error⟩ ∉ flight) ∧
      attempts flight = [firstAttempt] ∧
      Walked {} chained ⟨⟨1⟩⟩ .null (later.world.own .run)
        (steps ++ [⟨.load ⟨⟨1⟩⟩, .ok chainedMark⟩]) (.error .cancelled) := by
  obtain ⟨scene, later, reaches, owned, ended, further, own⟩ := exists_in_flight
  have reads (error : StoreError) : ⟨.load ⟨⟨1⟩⟩, .error error⟩ ∉ flight := by simp [flight]
  obtain ⟨-, -, -, stops⟩ := race_stops_walk Store.Memory.atomic (fun _ => False) {} chained ⟨⟨1⟩⟩
    .null [] rfl rfl scene later reaches () _ ended further flight own reads
  obtain ⟨steps, walked⟩ :=
    stops [⟨.attempt firstAttempt, some (.ok .null)⟩, ⟨.now, ⟨0, 0⟩⟩] _ [] rfl (by rw [owned]; rfl)
  exact ⟨scene, later, steps, reaches, rfl, ended, further, own, reads, rfl, walked⟩

end Flowline.Engine
