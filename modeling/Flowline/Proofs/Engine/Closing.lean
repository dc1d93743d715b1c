import Flowline.Proofs.Engine.Chronicle
import Flowline.Proofs.Engine.Outcome

/-!
# How a run closes its record

A run creates its record, walks, and closes the record with one more write.  If
that is refused because somebody has marked the record meanwhile, the run gives
way to the mark and writes again; nobody can come between a second time.
-/

namespace Flowline.Engine

open Program Execution Flowline.Engine.Action

variable {callers σ : Type} [DecidableEq callers] {store : AtomicStore σ}
  {refuses : StoreError → Prop} {id : ExecutionId}

/-- The replies to the writes of a record that was created before. -/
def saves (events : List (Event surroundings)) : List (Except StoreError Revision) :=
  events.filterMap fun
    | ⟨.save _ _, reply⟩ => some reply
    | _ => none

@[simp] theorem saves_append (events more : List (Event surroundings)) :
    saves (events ++ more) = saves events ++ saves more := List.filterMap_append

/-- A request that leaves the store alone is no write. -/
theorem unwritten_of_quiet {events : List (Event surroundings)}
    (quiet : ∀ event ∈ events, event.asked.Quiet id) :
    events.filterMap written? = [] ∧ saves events = [] := by
  constructor
  · exact List.filterMap_eq_nil_iff.mpr fun event member =>
      (quiet event member).unwritten event.reply
  · apply List.filterMap_eq_nil_iff.mpr
    intro event member
    obtain ⟨asked, reply⟩ := event
    have silent := quiet _ member
    cases asked <;> simp_all [Request.Quiet]

/-- A record with which a run may close the version that it created. -/
structure Closing (id : ExecutionId) (created : Versioned)
    (world : World surroundings (Party callers) σ) (record : Execution) : Prop
    extends Closed id created.record.logs record where
  first : Created id created
  writes : (world.own .run).filterMap written? = [created]
  error_eq : record.status = .cancelled → record.error = none
  cancelled : record.status = .cancelled →
    ∃ writer held, (writer, held) ∈ world.chronicle ∧ held.record.status = .cancelled

namespace Closing

variable {created : Versioned} {before after : World surroundings (Party callers) σ}
  {record : Execution}

/-- The run is the only one to prevent its record from being closed. -/
theorem mono (closing : Closing id created before record)
    (grows : before.history <+: after.history)
    (writes : (after.own .run).filterMap written? = (before.own .run).filterMap written?) :
    Closing id created after record where
  toClosed := closing.toClosed
  first := closing.first
  writes := writes.trans closing.writes
  error_eq := closing.error_eq
  cancelled same := by
    obtain ⟨writer, held, member, status⟩ := closing.cancelled same
    exact ⟨writer, held, (World.chronicle_prefix grows).subset member, status⟩

theorem later (closing : Closing id created before record)
    (later : World.Later (.run : Party callers) before after) : Closing id created after record :=
  closing.mono later.history_prefix (by rw [later.own_eq])

theorem quiet {asked : Request} {reply : Reply asked}
    (closing : Closing id created before record)
    (answered : World.Answered (store.answers refuses) .run asked reply before after)
    (quiet : asked.Quiet id) : Closing id created after record := by
  apply closing.mono answered.history_prefix
  rw [answered.own_eq, List.filterMap_append]
  simp [quiet.unwritten]

/-- At most one mark stands beside the version that a run created. -/
theorem created_or_marked (closing : Closing id created before record)
    (good : Good store id before) :
    before.chronicle = [(.run, created)] ∨ ∃ name mark, Marked created mark ∧
      before.chronicle = [(.run, created), (.caller name, mark)] :=
  (good.sound.created_or_marked ((World.written_own _ _).symm.trans closing.writes)
    closing.first.status_eq).2

theorem eq_of_begins (closing : Closing id created before record) (good : Good store id before)
    {name : callers} {mark : Versioned}
    (begins : [(.run, created), (.caller name, mark)] <+: before.chronicle) :
    before.chronicle = [(.run, created), (.caller name, mark)] := by
  rcases closing.created_or_marked good with alone | ⟨other, again, -, both⟩
  · simpa [alone] using begins.length_le
  · rw [both] at begins ⊢
    exact (begins.eq_of_length rfl).symm

/-- Closing a record keeps the world good, if the run has given way to a mark. -/
theorem answered {source : Versioned} {reply : Except StoreError Revision}
    (closing : Closing id created before record) (good : Good store id before)
    (answered : World.Answered (store.answers refuses) .run (.save record source.revision) reply
      before after)
    (based : ∃ writer, (writer, source) ∈ before.chronicle)
    (yields : source.record.status = .cancelled → record.status = .cancelled) :
    Good store id after := by
  apply good.answered answered closing.id_eq
  rintro version - ⟨last, ends, same, rfl⟩
  obtain ⟨writer, member⟩ := based
  rcases closing.created_or_marked good with alone | ⟨name, mark, marked, both⟩
  · rw [alone] at ends member ⊢
    obtain ⟨-, rfl⟩ : writer = .run ∧ source = created := by simpa using member
    refine .closed closing.first closing.toClosed (fun status => ?_) rfl
    obtain ⟨writer, held, member, cancelled⟩ := closing.cancelled status
    rw [alone] at member
    obtain ⟨-, rfl⟩ : writer = .run ∧ held = source := by simpa using member
    simp [closing.first.status_eq] at cancelled
  · rw [both] at ends member ⊢
    obtain rfl : mark = last := Option.some.inj ends
    have overruling : source = mark := by
      simp only [List.mem_cons, Prod.mk.injEq, List.not_mem_nil, or_false] at member
      rcases member with ⟨-, rfl⟩ | ⟨-, rfl⟩
      · exact (source.revision.next_ne (marked.revision_eq ▸ same)).elim
      · rfl
    subst overruling
    have status := yields marked.status_eq
    exact .overruled closing.first marked closing.toClosed status (closing.error_eq status) rfl

/-- Giving way to what is held leaves a record to close with. -/
theorem yielded {held : Versioned} {kept : Execution}
    (closing : Closing id created before record) (good : Good store id before)
    (based : ∃ writer, (writer, held) ∈ before.chronicle)
    (yielded : Yielded record held.record kept) :
    Closing id created before kept ∧
      (held.record.status = .cancelled → kept.status = .cancelled) := by
  obtain ⟨lines, logs, kinds⟩ := yielded.logs_grown
  have closed : Closed id created.record.logs kept :=
    { toFinalised := yielded.toFinalised
      id_eq := yielded.id_eq.trans closing.id_eq
      logs_prefix := logs ▸ closing.logs_prefix.trans (List.prefix_append _ _)
      ofRun := by
        rw [logs]
        intro line member
        exact (List.mem_append.mp member).elim (closing.ofRun line) (kinds line) }
  rcases yielded.kept_or_yielded with ⟨status, error, same⟩ | ⟨status, error, final⟩
  · refine ⟨⟨closed, closing.first, closing.writes, ?_, ?_⟩, fun cancelled => ?_⟩
    · rw [status, error]
      exact closing.error_eq
    · rw [status]
      exact closing.cancelled
    · rw [status, ← same (by rw [cancelled]; rfl), cancelled]
  · obtain ⟨writer, member⟩ := based
    have marked : held.record.status = .cancelled ∧ held.record.error = none := by
      rcases closing.created_or_marked good with alone | ⟨name, mark, marked, both⟩
      · rw [alone] at member
        obtain ⟨-, rfl⟩ : writer = .run ∧ held = created := by simpa using member
        simp [closing.first.status_eq, Status.isFinal] at final
      · rw [both] at member
        simp only [List.mem_cons, Prod.mk.injEq, List.not_mem_nil, or_false] at member
        rcases member with ⟨-, rfl⟩ | ⟨-, rfl⟩
        · simp [closing.first.status_eq, Status.isFinal] at final
        · exact ⟨marked.status_eq, marked.error_eq⟩
    refine ⟨⟨closed, closing.first, closing.writes, ?_, ?_⟩, fun cancelled => ?_⟩
    · exact fun _ => error.trans marked.2
    · exact fun _ => ⟨writer, held, member, marked.1⟩
    · rw [status, cancelled]

/-- The store holds the record of a run that has created it. -/
theorem exists_cell (closing : Closing id created before record) (good : Good store id before) :
    ∃ held, store.cell id before.state = some held := by
  rw [good.cell_eq]
  rcases closing.created_or_marked good with alone | ⟨name, mark, marked, both⟩
  · exact ⟨created, by rw [alone]; rfl⟩
  · exact ⟨mark, by rw [both]; rfl⟩

end Closing

/-- The store refuses some calls, or the run has written its record, at once or
after one conflict. -/
def Landed (refuses : StoreError → Prop) (id : ExecutionId)
    (world : World surroundings (Party callers) σ) (record : Execution) : Prop :=
  (∃ error, refuses error) ∨ ∃ revision, (.run, ⟨record, revision⟩) ∈ world.chronicle ∧
    Finalised record ∧ (saves (world.own .run) = [.ok revision] ∨
      ∃ expected actual,
        saves (world.own .run) = [.error (.conflict id expected actual), .ok revision])

theorem Landed.later {before after : World surroundings (Party callers) σ} {record : Execution}
    (landed : Landed refuses id before record)
    (later : World.Later (.run : Party callers) before after) : Landed refuses id after record := by
  refine landed.imp_right fun ⟨revision, member, finalised, written⟩ => ?_
  rw [later.own_eq]
  exact ⟨revision, (World.chronicle_prefix later.history_prefix).subset member, finalised, written⟩

theorem resolveConflict_eq (record : Execution) :
    resolveConflict record = @ask surroundings _ (.load record.id) fun
      | .error error => notePersistFailure record error
      | .ok held => (yieldTo record held.record).bind fun kept =>
          @ask surroundings _ (.save kept held.revision) fun
            | .ok _ => done kept
            | .error error => notePersistFailure kept error := by
  refine congrArg (@ask surroundings _ (.load record.id)) (funext fun reply => ?_)
  cases reply with
  | error error => rfl
  | ok held =>
      refine congrArg (Program.bind (yieldTo record held.record)) (funext fun kept => ?_)
      refine congrArg (@ask surroundings _ (.save kept held.revision)) (funext fun written => ?_)
      cases written <;> rfl

/-- A failure to write is only noted if the store refuses some calls. -/
theorem notePersistFailure_upholds (refused : ∃ error, refuses error) (record : Execution)
    (error : StoreError) (world : World surroundings (Party callers) σ) :
    (notePersistFailure record error).Upholds (store.answers refuses) (Good store id) .run world
      (Landed refuses id) := by
  intro noting _ good time noted answered
  exact ⟨good.quiet answered trivial, fun _ _ _ => .inl refused⟩

/-- The second write lands in place of the mark that the first one met. -/
theorem saveAgain_upholds {created held : Versioned} {kept : Execution}
    {world : World surroundings (Party callers) σ} (closing : Closing id created world kept)
    (based : ∃ writer, (writer, held) ∈ world.chronicle)
    (yields : held.record.status = .cancelled → kept.status = .cancelled)
    (conflicted : (∃ error, refuses error) ∨
      ((∃ expected actual, saves (world.own .run) = [.error (.conflict id expected actual)]) ∧
        ∃ name, [(.run, created), (.caller name, held)] <+: world.chronicle)) :
    (@ask surroundings _ (.save kept held.revision) fun
      | .ok _ => done kept
      | .error error => notePersistFailure kept error).Upholds (store.answers refuses)
        (Good store id) .run world (Landed refuses id) := by
  intro saving savingLater good written after answered
  have closing := closing.later savingLater
  have grows := World.chronicle_prefix savingLater.history_prefix
  have based : ∃ writer, (writer, held) ∈ saving.chronicle :=
    based.imp fun writer member => grows.subset member
  refine ⟨closing.answered good answered based yields, ?_⟩
  have idle (refused : ∃ error, refuses error) :
      (match written with
        | .ok _ => done kept
        | .error error => notePersistFailure kept error).Upholds (store.answers refuses)
          (Good store id) .run after (Landed refuses id) := by
    cases written with
    | ok revision => exact fun _ _ _ => .inl refused
    | error error => exact notePersistFailure_upholds refused kept error after
  rcases conflicted with refused | ⟨⟨expected, actual, saved⟩, name, begins⟩
  · exact idle refused
  · have both := closing.eq_of_begins good (begins.trans grows)
    have cell : store.cell kept.id saving.state = some held := by
      rw [closing.id_eq, good.cell_eq, both]
      rfl
    rcases AtomicStore.answers_save_due answered.allowed with due | ⟨error, refused, -⟩
    · rw [cell, Cell.save, if_neg (by simp)] at due
      subst due
      intro later laterFollows _
      refine Landed.later (.inr ⟨held.revision.next, ?_, closing.toFinalised,
        .inr ⟨expected, actual, ?_⟩⟩) laterFollows
      · simp [answered.chronicle_eq, written?]
      · rw [answered.own_eq, savingLater.own_eq, saves_append, saved]
        rfl
    · exact idle ⟨error, refused⟩

/-- After a conflict the run gives way to the mark that is in its place, and its
write lands. -/
theorem resolveConflict_upholds {created : Versioned} {record : Execution}
    {world : World surroundings (Party callers) σ} (closing : Closing id created world record)
    (conflicted : (∃ error, refuses error) ∨
      ((∃ expected actual, saves (world.own .run) = [.error (.conflict id expected actual)]) ∧
        ∃ name mark, Marked created mark ∧
          [(.run, created), (.caller name, mark)] <+: world.chronicle)) :
    (resolveConflict record).Upholds (store.answers refuses) (Good store id) .run world
      (Landed refuses id) := by
  rw [resolveConflict_eq]
  intro asking askingLater good reply loaded answered
  have closing := closing.later askingLater
  have quiet : (Request.load record.id).Quiet id := closing.id_eq
  refine ⟨good.quiet answered quiet, ?_⟩
  cases reply with
  | error error =>
      refine notePersistFailure_upholds ?_ record error loaded
      obtain ⟨held, cell⟩ := closing.exists_cell good
      rcases AtomicStore.answers_load_due answered.allowed with due | ⟨other, refused, -⟩
      · rw [closing.id_eq, cell] at due
        cases due
      · exact ⟨other, refused⟩
  | ok held =>
      have cell := AtomicStore.cell_of_load answered.allowed
      rw [closing.id_eq, good.cell_eq] at cell
      obtain ⟨⟨writer, held⟩, isLast, rfl⟩ := Option.map_eq_some_iff.mp cell
      have member : (writer, held) ∈ asking.chronicle := List.mem_of_getLast? isLast
      have kept := yieldTo_yielded closing.toFinalised held.record
      refine .bind (quiet_upholds (kept.mono fun _ _ told event member => ?_))
        fun yielding kept goodYielding told => ?_
      · rw [told.1 event member]
        trivial
      · obtain ⟨grown, events, yields, owned⟩ := told
        obtain ⟨clock, yielded⟩ :=
          (yieldTo_yielded closing.toFinalised held.record).of_yields yields
        have silent : events.filterMap written? = [] ∧ saves events = [] :=
          unwritten_of_quiet fun event member => show event.asked.Quiet id by
            rw [clock event member]
            trivial
        obtain ⟨keptClosing, gaveWay⟩ := closing.yielded good ⟨writer, member⟩ yielded
        have grows := World.chronicle_prefix (answered.history_prefix.trans grown)
        refine saveAgain_upholds ((keptClosing.quiet answered quiet).mono grown ?_)
          ⟨writer, grows.subset member⟩ gaveWay ?_
        · rw [owned, List.filterMap_append, silent.1, List.append_nil]
        · apply conflicted.imp_right
          rintro ⟨⟨expected, actual, saved⟩, name, mark, marked, begins⟩
          have both := closing.eq_of_begins good <|
            begins.trans (World.chronicle_prefix askingLater.history_prefix)
          obtain ⟨rfl, rfl⟩ : writer = .caller name ∧ held = mark := by
            rw [both] at isLast
            simpa [eq_comm] using isLast
          refine ⟨⟨expected, actual, ?_⟩, name, ?_⟩
          · rw [owned, answered.own_eq, askingLater.own_eq, saves_append, saves_append, saved,
              silent.2]
            rfl
          · rw [← both]
            exact grows

/-- The last write of a run that has created its record lands. -/
theorem persist_upholds {created : Versioned} {record : Execution}
    {world : World surroundings (Party callers) σ} (closing : Closing id created world record)
    (unsaved : saves (world.own .run) = []) :
    (persist record (some created.revision)).Upholds (store.answers refuses) (Good store id) .run
      world (Landed refuses id) := by
  rw [persist_eq]
  intro saving savingLater good reply after answered
  have closing := closing.later savingLater
  have member : (.run, created) ∈ saving.chronicle := by
    simp [World.mem_chronicle_iff, closing.writes]
  have saved : saves (after.own .run) = [reply] := by
    rw [answered.own_eq, savingLater.own_eq, saves_append, unsaved]
    rfl
  have unlanded {error : StoreError} (failed : reply = .error error) :
      Closing id created after record := by
    apply closing.mono answered.history_prefix
    rw [answered.own_eq, List.filterMap_append, failed]
    exact List.append_nil _
  refine ⟨closing.answered good answered ⟨_, member⟩ fun cancelled => ?_, ?_⟩
  · simp [closing.first.status_eq] at cancelled
  rcases AtomicStore.answers_save_due answered.allowed with due | ⟨error, refused, rfl⟩
  · rw [closing.id_eq, good.cell_eq] at due
    rcases closing.created_or_marked good with alone | ⟨name, mark, marked, both⟩
    · rw [alone] at due
      obtain rfl : reply = .ok created.revision.next := by simpa [Cell.save] using due
      intro later laterFollows _
      refine Landed.later (.inr ⟨created.revision.next, ?_, closing.toFinalised, .inl saved⟩)
        laterFollows
      simp [answered.chronicle_eq, written?]
    · rw [both] at due
      have moved : mark.revision ≠ created.revision :=
        marked.revision_eq ▸ created.revision.next_ne
      obtain rfl : reply =
          .error (.conflict record.id created.revision.number mark.revision.number) := by
        simpa [Cell.save, moved] using due
      rw [closing.id_eq] at saved
      refine resolveConflict_upholds (unlanded rfl) (.inr ⟨⟨_, _, saved⟩, name, mark, marked, ?_⟩)
      rw [← both]
      exact World.chronicle_prefix answered.history_prefix
  · cases error with
    | conflict other expected actual =>
        exact resolveConflict_upholds (unlanded rfl) (.inl ⟨_, refused⟩)
    | notFound | alreadyExists | storage | serialization =>
        exact notePersistFailure_upholds ⟨_, refused⟩ record _ after

/-- A run that could not create its record may still write its end, as the first
version. -/
theorem persist_upholds_of_none {record : Execution} {world : World surroundings (Party callers) σ}
    (closed : Closed id [] record) (uncancelled : record.status ≠ .cancelled)
    (unwritten : (world.own .run).filterMap written? = [])
    (refused : ∃ error, refuses error) :
    (persist record none).Upholds (store.answers refuses) (Good store id) .run world
      (Landed refuses id) := by
  have empty {later : World surroundings (Party callers) σ}
      (good : Good store id later) (unwritten : (later.own .run).filterMap written? = []) :
      later.chronicle = [] :=
    good.sound.eq_nil ((World.written_own _ _).symm.trans unwritten)
  rw [persist_eq]
  intro creating creatingLater good reply after answered
  have unwritten : (creating.own .run).filterMap written? = [] := by
    rwa [creatingLater.own_eq]
  refine ⟨good.answered answered closed.id_eq ?_, ?_⟩
  · rintro version - ⟨-, rfl⟩
    rw [empty good unwritten]
    exact .late closed uncancelled rfl
  · cases reply with
    | ok revision => exact fun _ _ _ => .inl refused
    | error error =>
        cases error with
        | conflict other expected actual =>
            have silent : (after.own .run).filterMap written? = [] := by
              rw [answered.own_eq, List.filterMap_append, unwritten]
              rfl
            simp only [afterWrite, done_bind]
            rw [resolveConflict_eq]
            intro asking askingLater good reply loaded answered
            refine ⟨good.quiet answered closed.id_eq, ?_⟩
            cases reply with
            | error error => exact notePersistFailure_upholds refused record error loaded
            | ok held =>
                have cell := AtomicStore.cell_of_load answered.allowed
                rw [closed.id_eq, good.cell_eq, empty good (by rwa [askingLater.own_eq])] at cell
                cases cell
        | notFound | alreadyExists | storage | serialization =>
            exact notePersistFailure_upholds refused record _ after

end Flowline.Engine
