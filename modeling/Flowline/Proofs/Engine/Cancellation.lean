import Flowline.Proofs.Engine.Chronicle
import Flowline.Proofs.Engine.Outcome

/-!
# Runs and their cancellations

A run and any number of cancellations of it ask the store in any order.  Each of
them keeps the chronicle of the record sound, so the store ends with the record
that the run returns, and that is cancelled exactly if a cancellation came through.
-/

namespace Flowline.Engine

open Program Execution Flowline.Engine.Action

variable {callers σ : Type} {store : AtomicStore σ} {refuses : StoreError → Prop}
  {id : ExecutionId}

/-! ## Cancelling -/

/-- What a cancellation writes in place of a record. -/
def marking (record : Execution) (time noted : Instant) : Execution :=
  (record.enter .cancelled time).log .warn LogLine.cancellation none noted

/-- What a cancellation ends with. -/
def cancelled (id : ExecutionId) (record : Execution) :
    Except StoreError Revision → Except CancelError Execution
  | .ok _ => .ok record
  | .error error => .error ⟨id, .store error⟩

theorem cancel_eq (id : ExecutionId) :
    cancel id = @ask surroundings _ (.load id) fun
      | .error error => done (.error ⟨id, .store error⟩)
      | .ok held => @ask surroundings _ .now fun time =>
          if held.record.status.allows .cancelled then
            @ask surroundings _ .now fun noted =>
              @ask surroundings _ (.save (marking held.record time noted) held.revision)
                fun written => done (cancelled id (marking held.record time noted) written)
          else done (.error ⟨id, .transition ⟨held.record.status, .cancelled⟩⟩) := by
  refine congrArg (@ask surroundings _ (.load id)) (funext fun reply => ?_)
  cases reply with
  | error error => rfl
  | ok held =>
      refine congrArg (@ask surroundings _ .now) (funext fun time => ?_)
      by_cases allowed : held.record.status.allows .cancelled = true
      · simp only [done_bind, Execution.cancel, transition_eq time allowed, if_pos allowed]
        refine congrArg (@ask surroundings _ .now) (funext fun noted => ?_)
        refine congrArg (@ask surroundings _ (.save _ _)) (funext fun written => ?_)
        cases written <;> rfl
      · simp only [done_bind, Execution.cancel, transition, if_neg allowed]
        rfl

theorem marking_marked {created : Versioned} (first : Created id created) (time noted : Instant) :
    Marked created ⟨marking created.record time noted, created.revision.next⟩ where
  id_eq := rfl
  status_eq := rfl
  error_eq := first.error_eq
  revision_eq := rfl
  logs_eq := by
    refine ⟨⟨noted, .warn, LogLine.cancellation, none⟩, fun ofRun => ?_, rfl⟩
    simpa using ofRun rfl

/-- A cancellation keeps the chronicle sound: it only succeeds if it has read what
the run created. -/
theorem cancel_upholds (name : callers) (world : World surroundings (Party callers) σ) :
    (cancel id).Upholds (store.answers refuses) (Good store id) (.caller name) world
      fun _ _ => True := by
  rw [cancel_eq]
  intro asking _ good reply loaded answered
  have goodLoaded := good.quiet answered rfl
  refine ⟨goodLoaded, ?_⟩
  cases reply with
  | error error => exact fun _ _ _ => trivial
  | ok held =>
      obtain ⟨writer, member⟩ := goodLoaded.seen (.caller name) held (by simp [answered.recorded])
      intro timing timingLater good time timed timedAnswered
      refine ⟨good.quiet timedAnswered trivial, ?_⟩
      dsimp only
      split
      next allowed =>
        intro noting notingLater good noted told toldAnswered
        refine ⟨good.quiet toldAnswered trivial, ?_⟩
        intro saving savingLater good written after savedAnswered
        have grows := timingLater.history_prefix.trans <|
          timedAnswered.history_prefix.trans <| notingLater.history_prefix.trans <|
            toldAnswered.history_prefix.trans savingLater.history_prefix
        have member := (World.chronicle_prefix grows).subset member
        refine ⟨good.answered savedAnswered (good.sound.id_eq member) ?_, fun _ _ _ => trivial⟩
        rintro version - ⟨last, ends, same, rfl⟩
        obtain ⟨created, alone⟩ := good.sound.eq_created member allowed ends same
        rw [alone]
        exact .marked created (marking_marked created time noted)
      next => exact fun _ _ _ => trivial

/-- A cancellation writes once and comes through with what it wrote, or it has
written nothing and does not come through. -/
theorem cancel_leaves {events : List (Event surroundings)}
    {rest : Action (Except CancelError Execution)} (leaves : (cancel id).Leaves events rest) :
    (events.filterMap written? = [] ∧ ∀ record, rest ≠ done (.ok record)) ∨
      ∃ record revision, events.filterMap written? = [⟨record, revision⟩] ∧
        rest = done (.ok record) := by
  rw [cancel_eq] at leaves
  cases leaves with
  | nil => exact .inl ⟨rfl, by simp⟩
  | @ask _ _ reply _ _ leaves =>
      cases reply with
      | error error =>
          cases leaves
          exact .inl ⟨rfl, by simp⟩
      | ok held =>
          cases leaves with
          | nil => exact .inl ⟨rfl, by simp⟩
          | ask leaves =>
              dsimp only at leaves
              split at leaves
              · cases leaves with
                | nil => exact .inl ⟨rfl, by simp⟩
                | ask leaves =>
                    cases leaves with
                    | nil => exact .inl ⟨rfl, by simp⟩
                    | @ask _ _ written _ _ leaves =>
                        cases leaves
                        cases written with
                        | ok revision => exact .inr ⟨_, revision, rfl, rfl⟩
                        | error error => exact .inl ⟨rfl, by simp [cancelled]⟩
              · cases leaves
                exact .inl ⟨rfl, by simp⟩

end Flowline.Engine
