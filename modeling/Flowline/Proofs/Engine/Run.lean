import Flowline.Proofs.Engine.Closing

/-!
# A run beside its cancellations

The run of a new record keeps the chronicle of the record sound, whoever cancels
it in the meantime, and its last write lands if the store refuses nothing.
-/

namespace Flowline.Engine

open Program Execution Flowline.Engine.Action

variable {callers σ : Type} [DecidableEq callers] {store : AtomicStore σ}
  {refuses : StoreError → Prop} {id : ExecutionId}

/-- A run up to the creation of its record. -/
def beginning (workflow : Workflow) (id : ExecutionId) : Action Execution := do
  let record := workflow.newExecution id (← now)
  let record ← enterStatus record .running
  note record .info
    s!"Execution started for workflow {workflow.name} (version {workflow.version})"

theorem opening_eq (workflow : Workflow) (id : ExecutionId) :
    opening workflow id = (beginning workflow id).bind fun record =>
      @ask surroundings _ (.create record) fun
        | .ok revision => done (record, some revision)
        | .error error => (note record .warn
            s!"Failed to persist execution record: {error.message}").bind fun noted =>
              done (noted, none) := by
  unfold opening beginning
  simp only [bind_eq_bind, bind_assoc]
  refine congrArg _ (funext fun time => congrArg _ (funext fun running =>
    congrArg _ (funext fun noted => ?_)))
  refine congrArg (@ask surroundings _ (.create noted)) (funext fun created => ?_)
  cases created <;> rfl

/-- A running record with no line but those of its run. -/
structure Begun (id : ExecutionId) (record : Execution) : Prop extends Running id record where
  ofRun : ∀ line ∈ record.logs, line.OfRun

theorem Begun.of_grown {before after : Execution} (begun : Begun id before)
    (grown : before.Grown LogLine.OfRun after) : Begun id after where
  toRunning := begun.toRunning.of_grown grown
  ofRun := grown.forall_mem begun.ofRun

theorem beginning_begun (workflow : Workflow) (id : ExecutionId) :
    (beginning workflow id).Ensures fun events record =>
      (∀ event ∈ events, event.asked.Quiet id) ∧ Begun id record := by
  intro created
  simp only [bind_eq_bind, done_bind]
  rw [enterStatus_eq rfl]
  intro started
  refine (note_tells _ .info ?_).mono fun events record told => ⟨?_, ?_⟩
  · simp only [String.append_assoc]
    exact LogLine.append_ne_cancellation (by decide) _
  · have silent (event : Event surroundings) (member : event ∈ events) :
        event.asked.Quiet id := by
      rw [told.clock event member]
      trivial
    simpa [Request.Quiet] using silent
  · refine Begun.of_grown ⟨running_enter workflow id created started, ?_⟩ told.grown
    simp [Workflow.newExecution]

/-- How a run has opened: it has created its record, or the store refused. -/
structure Opened (refuses : StoreError → Prop) (id : ExecutionId)
    (world : World surroundings (Party callers) σ) (opened : Execution × Option Revision) :
    Prop where
  begun : Begun id opened.1
  unsaved : saves (world.own .run) = []
  written :
    (∃ created, opened.2 = some created.revision ∧ Created id created ∧
      (world.own .run).filterMap written? = [created] ∧
      created.record.logs <+: opened.1.logs) ∨
    (opened.2 = none ∧ (world.own .run).filterMap written? = [] ∧ ∃ error, refuses error)

theorem opening_upholds (workflow : Workflow) {world : World surroundings (Party callers) σ}
    (fresh : world.own .run = []) :
    (opening workflow id).Upholds (store.answers refuses) (Good store id) .run world
      (Opened refuses id) := by
  rw [opening_eq]
  refine .bind (quiet_upholds ((beginning_begun workflow id).mono fun _ _ begun => begun.1))
    fun begun record _ told => ?_
  obtain ⟨-, events, yields, owned⟩ := told
  obtain ⟨quiet, running⟩ := (beginning_begun workflow id).of_yields yields
  obtain ⟨unwritten, unsaved⟩ := unwritten_of_quiet quiet
  rw [fresh, List.nil_append] at owned
  rw [← owned] at unwritten unsaved
  intro creating creatingLater good reply after answered
  rw [← creatingLater.own_eq] at unwritten unsaved
  have empty : creating.chronicle = [] :=
    good.sound.eq_nil ((World.written_own _ _).symm.trans unwritten)
  have saved : saves (after.own .run) = [] := by
    rw [answered.own_eq, saves_append, unsaved]
    rfl
  have created : Created id ⟨record, .first⟩ := ⟨running.toRunning, rfl, running.ofRun⟩
  refine ⟨good.answered answered running.id_eq ?_, ?_⟩
  · rintro version - ⟨-, rfl⟩
    rw [empty]
    exact .created created
  have due := AtomicStore.answers_create_due answered.allowed
  rw [running.id_eq, good.cell_eq, empty] at due
  cases reply with
  | ok revision =>
      obtain rfl : revision = .first := by
        simpa [AtomicStore.Due, Cell.create] using due
      intro later laterFollows _
      refine ⟨running, by rwa [laterFollows.own_eq], .inl ⟨_, rfl, created, ?_, List.prefix_rfl⟩⟩
      rw [laterFollows.own_eq, answered.own_eq, List.filterMap_append, unwritten]
      rfl
  | error error =>
      have refused : ∃ error, refuses error := by
        rcases due with due | ⟨other, refused, -⟩
        · cases due
        · exact ⟨other, refused⟩
      intro noting notingLater good time noted answeredNote
      refine ⟨good.quiet answeredNote trivial, ?_⟩
      intro later laterFollows _
      refine ⟨running.of_grown (.log record .warn _ none time (.of_ne ?_)), ?_,
        .inr ⟨rfl, ?_, refused⟩⟩
      · exact LogLine.append_ne_cancellation (by decide) _
      · rw [laterFollows.own_eq, answeredNote.own_eq, notingLater.own_eq, saves_append, saved]
        rfl
      · rw [laterFollows.own_eq, answeredNote.own_eq, notingLater.own_eq, answered.own_eq]
        simp [unwritten, written?]

/-- A run of a new record keeps the chronicle sound, and its last write lands. -/
theorem execute_upholds (settings : Settings) (workflow : Workflow) (input : Json)
    {world : World surroundings (Party callers) σ} (fresh : world.own .run = []) :
    (execute settings workflow id input).Upholds (store.answers refuses) (Good store id) .run world
      (Landed refuses id) := by
  rw [execute_eq]
  refine .bind (opening_upholds workflow fresh) fun opening opened _ start => ?_
  have traversal := traverse_grown settings workflow input opened.2.isSome opened.1
  rw [start.begun.id_eq] at traversal
  refine .bind (quiet_upholds (traversal.mono fun _ _ walked => walked.2.1))
    fun walking walked goodWalk told => ?_
  obtain ⟨grown, steps, yields, owned⟩ := told
  obtain ⟨grew, quiet, reading⟩ := traversal.of_yields yields
  have walkedBegun := start.begun.of_grown grew
  have ending := finish_ended walkedBegun.toRunning walked.2
  have clock : (finish walked.1 walked.2).Ensures fun events _ =>
      ∀ event ∈ events, event.asked.Quiet id :=
    ending.mono fun _ _ ended event member => by
      rw [ended.2 event member]
      trivial
  refine .bind (quiet_upholds clock) fun finishing finished goodEnd told => ?_
  obtain ⟨grownAgain, notes, finishes, ownedAgain⟩ := told
  have ended := (ending.of_yields finishes).1
  obtain ⟨lines, logs, kinds⟩ := ended.logs_grown
  obtain ⟨unwritten, unsaved⟩ := unwritten_of_quiet quiet
  obtain ⟨unwrittenAgain, unsavedAgain⟩ := unwritten_of_quiet (clock.of_yields finishes)
  have writes : (finishing.own .run).filterMap written? =
      (opening.own .run).filterMap written? := by
    rw [ownedAgain, owned, List.filterMap_append, List.filterMap_append, unwritten,
      unwrittenAgain, List.append_nil, List.append_nil]
  have closed {earlier : List LogLine} (begins : earlier <+: opened.1.logs) :
      Closed id earlier finished :=
    { toFinalised := ended.toFinalised
      id_eq := ended.id_eq.trans walkedBegun.id_eq
      logs_prefix := logs ▸ (begins.trans grew.logs_prefix).trans (List.prefix_append _ _)
      ofRun := by
        rw [logs]
        intro line member
        exact (List.mem_append.mp member).elim (walkedBegun.ofRun line) (kinds line) }
  have marked (cancelled : finished.status = .cancelled) : ∃ writer held,
      (writer, held) ∈ finishing.chronicle ∧ held.record.status = .cancelled := by
    obtain ⟨held, member, status⟩ :=
      reading (statusOf_eq_cancelled.mp (ended.status_eq.symm.trans cancelled))
    have read : (.run, ⟨.load id, .ok held⟩) ∈ walking.history := by
      rw [← World.mem_own_iff, owned]
      exact List.mem_append_right _ member
    obtain ⟨writer, listed⟩ := goodWalk.seen .run held read
    exact ⟨writer, held, (World.chronicle_prefix grownAgain).subset listed, status⟩
  rcases start.written with ⟨created, revision, first, wrote, begins⟩ | ⟨revision, wrote, refused⟩
  · rw [revision]
    refine persist_upholds ⟨closed begins, first, writes.trans wrote, ?_, marked⟩ ?_
    · intro cancelled
      have unfailed := mt ended.error_isSome.mp (by simp [cancelled])
      simpa using unfailed
    · rw [ownedAgain, owned, saves_append, saves_append, start.unsaved, unsaved, unsavedAgain]
      rfl
  · rw [revision]
    have unwritten := writes.trans wrote
    refine persist_upholds_of_none (closed List.nil_prefix) (fun cancelled => ?_) unwritten refused
    obtain ⟨writer, held, member, -⟩ := marked cancelled
    rw [goodEnd.sound.eq_nil ((World.written_own _ _).symm.trans unwritten)] at member
    cases member

end Flowline.Engine
