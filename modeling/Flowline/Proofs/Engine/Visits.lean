import Flowline.Proofs.Engine.Attempts

/-!
# The visits of a walk

A walk that looks out for cancellations visits one node after the other.  Each visit
begins with a look at the stored record, which is not cancelled, and all that it attempts
belongs to one execution; nothing is attempted between visits.  So once every look finds
a cancellation, only what was begun before is brought to its end.
-/

namespace Flowline.Engine

open Program

/-- A look at a record that finds no cancellation. -/
def Clear (reply : Except StoreError Versioned) : Prop :=
  ∀ held, reply = .ok held → held.record.status ≠ .cancelled

/-- Events among which no record is read. -/
def Unread (events : List (Event surroundings)) : Prop :=
  ∀ event ∈ events, ∀ id, event.asked ≠ .load id

theorem Unread.not_mem {id : ExecutionId} {reply : Except StoreError Versioned}
    {events : List (Event surroundings)} (unread : Unread events) : ⟨.load id, reply⟩ ∉ events :=
  fun member => unread _ member id rfl

/-- Events that are visits of nodes, with nothing attempted between them. -/
inductive Visits (settings : Settings) (workflow : Workflow) (id : ExecutionId) :
    List (Event surroundings) → Prop where
  | nil : Visits settings workflow id []
  | idle {event : Event surroundings} {events : List (Event surroundings)}
      (unattempted : ∀ attempt, event.asked ≠ .attempt attempt)
      (visits : Visits settings workflow id events) : Visits settings workflow id (event :: events)
  | visit {reply : Except StoreError Versioned} {block events : List (Event surroundings)}
      {executed : Executed} (clear : Clear reply) (unread : Unread block)
      (attempted : executed.Attempts settings workflow id (attempts block))
      (visits : Visits settings workflow id events) :
      Visits settings workflow id (⟨.load id, reply⟩ :: (block ++ events))

variable {settings : Settings} {workflow : Workflow} {id : ExecutionId}
  {events more : List (Event surroundings)}

namespace Visits

theorem append (first : Visits settings workflow id events)
    (second : Visits settings workflow id more) : Visits settings workflow id (events ++ more) := by
  induction first with
  | nil => exact second
  | idle unattempted _ ih => exact .idle unattempted ih
  | visit clear unread attempted _ ih =>
      rw [List.cons_append, List.append_assoc]
      exact .visit clear unread attempted ih

theorem of_unattempted (nothing : attempts events = []) : Visits settings workflow id events := by
  rw [attempts_eq_nil_iff] at nothing
  induction events with
  | nil => exact .nil
  | cons event events ih =>
      obtain ⟨first, others⟩ := List.forall_mem_cons.mp nothing
      exact .idle first (ih others)

/-- Nothing is attempted where no look is clear. -/
theorem attempts_eq_nil (visits : Visits settings workflow id events)
    (called : ∀ reply, ⟨.load id, reply⟩ ∈ events → ¬ Clear reply) : attempts events = [] := by
  induction visits with
  | nil => rfl
  | @idle event events unattempted _ ih =>
      have others := ih fun reply member => called reply (List.mem_cons_of_mem _ member)
      rw [attempts_eq_nil_iff] at others ⊢
      exact List.forall_mem_cons.mpr ⟨unattempted, others⟩
  | visit clear => exact (called _ List.mem_cons_self clear).elim

/-- If no look is clear from some point on, then nothing is attempted after a look there.  What
is attempted before ends the last visit that was begun. -/
theorem cut {first second : List (Event surroundings)}
    (visits : Visits settings workflow id (first ++ second))
    (called : ∀ reply, ⟨.load id, reply⟩ ∈ second → ¬ Clear reply) :
    (∀ sooner reply rest, second = sooner ++ ⟨.load id, reply⟩ :: rest → attempts rest = []) ∧
    (attempts second = [] ∨ ∃ sooner reply block executed,
      first = sooner ++ ⟨.load id, reply⟩ :: block ∧ Clear reply ∧ Unread block ∧
        Executed.Attempts settings workflow id executed (attempts block ++ attempts second)) := by
  have finished (nothing : attempts second = []) (sooner : List (Event surroundings))
      (reply : Except StoreError Versioned) (rest : List (Event surroundings))
      (parts : second = sooner ++ ⟨.load id, reply⟩ :: rest) : attempts rest = [] := by
    rw [parts, attempts_append] at nothing
    exact (List.append_eq_nil_iff.mp nothing).2
  generalize whole : first ++ second = events at visits
  induction visits generalizing first with
  | nil =>
      obtain ⟨rfl, rfl⟩ := List.append_eq_nil_iff.mp whole
      exact ⟨finished rfl, .inl rfl⟩
  | @idle event events unattempted visits ih =>
      cases first with
      | nil =>
          have nothing : attempts second = [] := by
            obtain rfl : second = event :: events := whole
            exact (Visits.idle unattempted visits).attempts_eq_nil called
          exact ⟨finished nothing, .inl nothing⟩
      | cons head first =>
          obtain ⟨rfl, rest⟩ := List.cons.inj whole
          obtain ⟨after, nothing | ⟨sooner, reply, block, executed, rfl, begun⟩⟩ := ih rest
          · exact ⟨after, .inl nothing⟩
          · exact ⟨after, .inr ⟨head :: sooner, reply, block, executed, rfl, begun⟩⟩
  | @visit reply block events executed clear unread attempted visits ih =>
      cases first with
      | nil =>
          obtain rfl : second = _ := whole
          exact (called reply List.mem_cons_self clear).elim
      | cons head first =>
          obtain ⟨rfl, rest⟩ := List.cons.inj whole
          rcases List.append_eq_append_iff.mp rest with ⟨left, rfl, parts⟩ | ⟨left, parts, rfl⟩
          · -- The visit was under way and is ended first.
            subst parts
            have nothing := visits.attempts_eq_nil fun reply member =>
              called reply (List.mem_append_right left member)
            obtain ⟨begun, remaining⟩ := List.forall_mem_append.mp unread
            refine ⟨fun sooner other last whole => ?_, .inr ⟨[], reply, first, executed, rfl, clear,
              begun, ?_⟩⟩
            · obtain ⟨between, -, rfl⟩ := split_of_not_mem (Unread.not_mem remaining) whole
              rw [attempts_append] at nothing
              exact (List.append_eq_nil_iff.mp nothing).2
            · simpa [nothing] using attempted
          · subst parts
            obtain ⟨after, nothing | ⟨sooner, other, last, another, rfl, begun⟩⟩ := ih rfl
            · exact ⟨after, .inl nothing⟩
            · exact ⟨after, .inr ⟨⟨.load id, reply⟩ :: (block ++ sooner), other, last, another,
                by simp, begun⟩⟩

end Visits

/-! ## Walks -/

/-- A part of a walk, which keeps to its run, by its visits. -/
def Visited (settings : Settings) (workflow : Workflow) (events : List (Event surroundings))
    (before after : Run) : Prop :=
  Visits settings workflow before.record.id events ∧ after.record.id = before.record.id

theorem Visited.append {before between after : Run}
    (first : Visited settings workflow events before between)
    (second : Visited settings workflow more between after) :
    Visited settings workflow (events ++ more) before after :=
  ⟨first.1.append (first.2 ▸ second.1), second.2.trans first.2⟩

theorem composable_visited :
    Composable fun events before after _ => Visited settings workflow events before after where
  idle _ := ⟨.nil, rfl⟩
  append := .append

/-- A walk that looks out for cancellations reads the record once before each node. -/
theorem isCancelled_clear {plan : Plan} (checks : plan.settings.checkCancellation = true)
    (stored : plan.stored = true) (run : Run) :
    (isCancelled plan run).Ensures fun events found =>
      ∃ reply, events = [⟨.load run.record.id, reply⟩] ∧ (found = false → Clear reply) := by
  unfold isCancelled
  simp only [checks, stored, Bool.and_self, if_true]
  intro reply
  cases reply with
  | error error => exact ⟨_, rfl, fun _ held same => by cases same⟩
  | ok held =>
      refine ⟨_, rfl, fun clear other same => ?_⟩
      cases same
      simpa using clear

theorem runNode_block (plan : Plan) (node : Node) (run : Run) :
    (runNode plan node run).Ensures fun events result =>
      (∃ executed : Executed, executed.Attempts plan.settings plan.workflow run.record.id
        (attempts events)) ∧ Unread events ∧ result.1.record.id = run.record.id := by
  apply ((runNode_attempts plan node run).and (runNode_writes plan node run)).mono
  rintro events result ⟨⟨outcome, -, attempted⟩, ⟨aside, grown⟩, -⟩
  refine ⟨⟨_, attempted⟩, fun event member id same => aside event member ?_, grown.id_eq⟩
  rw [same]
  trivial

/-- What a walk attempts it attempts on visits. -/
theorem walk_visits {plan : Plan} (checks : plan.settings.checkCancellation = true)
    (stored : plan.stored = true) (allowed : Nat) (nodeId : String) (run : Run) :
    (walk plan allowed nodeId run).Ensures fun events result =>
      Visited plan.settings plan.workflow events run result.1 := by
  induction allowed generalizing nodeId run with
  | zero => exact ⟨.nil, rfl⟩
  | succ allowed ih =>
      rw [walk]
      apply Ensures.bind (isCancelled_clear checks stored run)
      rintro _ found ⟨reply, rfl, clear⟩
      have looked : Visits plan.settings plan.workflow run.record.id
          [⟨.load run.record.id, reply⟩] := .of_unattempted rfl
      cases found with
      | true => exact ⟨looked, rfl⟩
      | false =>
          simp only [Bool.false_eq_true, if_false]
          cases plan.graph.vertex? nodeId with
          | none => exact ⟨looked, rfl⟩
          | some vertex =>
              apply Ensures.bind (runNode_block plan vertex.node _)
              rintro block ⟨after, outcome⟩ ⟨⟨executed, attempted⟩, unread, same⟩
              have visit : Visits plan.settings plan.workflow run.record.id
                  (⟨.load run.record.id, reply⟩ :: (block ++ [])) :=
                .visit (clear rfl) unread attempted .nil
              rw [List.append_nil] at visit
              have visited : Visited plan.settings plan.workflow
                  ([⟨.load run.record.id, reply⟩] ++ block) run after := ⟨visit, same⟩
              cases outcome with
              | error error => simpa using visited
              | ok _ =>
                  have skipping (run : Run) (message nodeId : String) :
                      (run.note .info message nodeId).Ensures fun events after =>
                        Visited plan.settings plan.workflow events run after :=
                    (runNote_unattempted run .info message nodeId).mono fun _ _ noted =>
                      ⟨.of_unattempted noted.1, noted.2.2⟩
                  apply Ensures.bind
                    (follow_ensures composable_visited skipping ih vertex.outgoing after)
                  rintro others ⟨last, outcome⟩ followed
                  have walked := visited.append followed
                  cases outcome <;> simpa [Visited] using walked

variable {input : Json} {record : Execution}

/-- What a run attempts it attempts on visits, if it looks out for cancellations and the store
holds its record. -/
theorem Course.visits (course : Course settings workflow id input events record)
    (checks : settings.checkCancellation = true) (stored : course.opened.2.isSome = true) :
    Visits settings workflow id events := by
  obtain ⟨before, after⟩ := List.forall_mem_append.mp course.unattempted_around
  have opening : Visits settings workflow id course.before :=
    .of_unattempted (attempts_eq_nil_iff.mpr before)
  have ending : Visits settings workflow id (course.closing ++ course.written) :=
    .of_unattempted (attempts_eq_nil_iff.mpr after)
  have walking : Visits settings workflow id course.middle := by
    rcases traverse_yields course.walks with
      ⟨error, -, nothing, -⟩ |
        ⟨graph, inspected, noted, steps, run, -, -, middle, inspects, walks, -⟩
    · exact nothing ▸ .nil
    · have told := (inspect_tells _ _).of_yields inspects
      have visited := (walk_visits checks stored _ _ _).of_yields walks
      have same : noted.id = id := told.grown.id_eq.trans course.opened_running.id_eq
      rw [middle]
      exact (Visits.of_unattempted (attempts_of_clock told.clock)).append (same ▸ visited.1)
  rw [course.events_eq]
  exact opening.append (walking.append ending)

end Flowline.Engine
