import ChoiceMind.Foundation.Feed
import ChoiceMind.TaskPersistence.Observation

/-!
# Following a task's events while transactions overlap

Transactions insert run events and commit in any order. A row takes its cursor from the
identity sequence when it is inserted and is visible from the commit of its transaction.
One client calls `listEvents` for a task again and again, with the greatest cursor that it
has received.
-/

namespace ChoiceMind.TaskPersistence

set_option autoImplicit false

open Contracts Transition

section Log
variable {env : Environment} {db db' : Store} {now : Instant} {action : Action} {reply : Reply}

theorem Change.runOperation_kept (h : Change env db now action reply db')
    (hunpurged : reply.isPurged = false) {run operation : String}
    (hrun : db.runOperation run = some operation) : db'.runOperation run = some operation := by
  cases h with
  | frame hsame hreply =>
    rw [Store.runOperation, hsame.agentRuns]
    exact hrun
  | submitted hops hreqs hdrawn hruns => exact hruns.runOperation hrun
  | claimed hrow hclaimable hops hreqs hclaimed =>
    cases hclaimed with
    | current hstate hsame hdrawn hruns => rwa [hruns.runOperation]
    | retried hstate hnew hdrawn hruns => exact hruns.runOperation hrun
  | controlRejected hrequest hclaimable hops hreqs hdrawn hruns => rwa [hruns.runOperation]
  | controlClaimed hrequest hclaimable hoperation hconsistent hops hreqs hclaim hof hdrawn
      hruns => rwa [hruns.runOperation]
  | completed hrow hdecoded hcompletable hsettle hcommitted hops hreqs hdrawn hruns =>
    rwa [hruns.runOperation]
  | resumeRequested hoperation hpaused hops hreqs hdrawn hruns => rwa [hruns.runOperation]
  | cancelled hoperation hops hreqs hdrawn hruns => rwa [hruns.runOperation]
  | purged => cases hunpurged

theorem Change.runOwner_kept (h : Change env db now action reply db')
    (hunpurged : reply.isPurged = false) {run owner : String}
    (howner : db.runOwner run = some owner) : db'.runOwner run = some owner := by
  rw [runOwner_eq, Option.bind_eq_some_iff] at howner ⊢
  obtain ⟨operation, hrun, hof⟩ := howner
  exact ⟨operation, h.runOperation_kept hunpurged hrun,
    h.operationOwner_kept hof (commitsPurge_of_not_purged hunpurged _)⟩

/-- New events are of runs that were opened for existing operations. -/
theorem Change.event_run (hregistered : Registered db) (h : Change env db now action reply db')
    (hunpurged : reply.isPurged = false) {event : RunEvent} (hevent : event ∈ db'.events) :
    event ∈ db.events ∨
      ∃ row ∈ db'.operations, db'.runOperation event.agentRunId = some row.operationId := by
  -- an old run of an old operation stays one
  have hkept : ∀ row ∈ db.operations, db.runOperation event.agentRunId = some row.operationId →
      ∃ later ∈ db'.operations,
        db'.runOperation event.agentRunId = some later.operationId := by
    intro row hrow hrun
    obtain ⟨later, hlater, hsame⟩ := h.operation_kept hrow fun owner _ =>
      commitsPurge_of_not_purged hunpurged owner
    exact ⟨later, hlater, hsame.operationId ▸ h.runOperation_kept hunpurged hrun⟩
  have hcurrent : ∀ row ∈ db.operations, event.agentRunId = row.agentRunId →
      ∃ later ∈ db'.operations,
        db'.runOperation event.agentRunId = some later.operationId := by
    intro row hrow hof
    exact hkept row hrow (hof ▸ hregistered.operations row hrow)
  have hlogged : ∀ {agentRunId : String} {events : List RunEvent},
      LogsOnly agentRunId events db db' → event ∈ db.events ∨ event.agentRunId = agentRunId := by
    rintro agentRunId events ⟨hlog, hof⟩
    rw [hlog, List.mem_append] at hevent
    exact hevent.imp id (hof event)
  cases h with
  | frame hsame hreply =>
    rw [Store.events, hsame.runEvents] at hevent
    exact .inl hevent
  | submitted hops hreqs hdrawn hruns =>
    obtain ⟨events, -, hlog⟩ := hruns.events
    refine (hlogged hlog).imp id fun hof => ⟨_, (Table.mem_insert? hops).mpr (.inr rfl), ?_⟩
    rw [hof]
    exact hruns.runOperation_self
  | @claimed workerId leaseDurationMs claim row _ hrow hclaimable hops hreqs hclaimed =>
    obtain ⟨hmem, hkey⟩ := Table.find?_eq_some.mp hrow
    cases hclaimed with
    | current hstate hsame hdrawn hruns =>
      obtain ⟨events, hlog⟩ := hruns.events
      exact (hlogged hlog).imp id fun hof => hcurrent row hmem (hof.trans hsame)
    | retried hstate hnew hdrawn hruns =>
      obtain ⟨events, -, hlog⟩ := hruns.events
      refine (hlogged hlog).imp id fun hof => ?_
      rw [hof, hruns.runOperation_self, hops]
      exact ⟨_, Table.mem_update.mpr ⟨row, hmem, rfl⟩, by rw [if_pos hkey]; rfl⟩
  | controlRejected hrequest hclaimable hops hreqs hdrawn hruns hquiet =>
    obtain ⟨events, hlog⟩ := hruns.events
    rcases hquiet with hquiet | ⟨row, rfl, hoperation, -⟩
    · exact .inl (hquiet ▸ hevent)
    · obtain ⟨hmem, hkey⟩ := Table.find?_eq_some.mp hoperation
      refine (hlogged hlog).imp id fun hof => hkept row.operation hmem ?_
      rw [hof, hkey]
      exact hregistered.requests _ hrequest
  | @controlClaimed workerId leaseDurationMs skipped row claim _ hrequest hclaimable hoperation
      hconsistent hops hreqs hclaim hrun hdrawn hruns =>
    obtain ⟨events, hlog⟩ := hruns.events
    obtain ⟨hmem, hkey⟩ := Table.find?_eq_some.mp hoperation
    refine (hlogged hlog).imp id fun hof => hkept row.operation hmem ?_
    rw [hof, hkey]
    exact hregistered.requests _ hrequest
  | completed hrow hdecoded hcompletable hsettle hcommitted hops hreqs hdrawn hruns =>
    obtain ⟨events, hlog⟩ := hruns.events
    exact (hlogged hlog).imp id (hcurrent _ (Table.find?_eq_some.mp hrow).1)
  | resumeRequested hoperation hpaused hops hreqs hdrawn hruns =>
    obtain ⟨events, hlog⟩ := hruns.events
    exact (hlogged hlog).imp id (hcurrent _ hoperation)
  | cancelled hoperation hops hreqs hdrawn hruns =>
    obtain ⟨events, hlog⟩ := hruns.events
    exact (hlogged hlog).imp id (hcurrent _ hoperation)
  | purged => cases hunpurged

/-- Every logged event belongs to somebody. -/
def EventsOwned (db : Store) : Prop :=
  ∀ event ∈ db.events, ∃ owner, db.runOwner event.agentRunId = some owner

theorem EventsOwned.change (h : EventsOwned db) (hregistered : Registered db)
    (hrecorded : Recorded env db') (hchange : Change env db now action reply db')
    (hunpurged : reply.isPurged = false) : EventsOwned db' := by
  intro event hevent
  rcases hchange.event_run hregistered hunpurged hevent with hold | ⟨row, hrow, hrun⟩
  · obtain ⟨owner, howner⟩ := h event hold
    exact ⟨owner, hchange.runOwner_kept hunpurged howner⟩
  · obtain ⟨submission, hmem, hkey, -⟩ := hrecorded.submitted row hrow
    refine ⟨submission.ownerUserId, ?_⟩
    rw [runOwner_eq, hrun, Option.bind_some, operationOwner_of_mem hrow, ownerOf_eq_some]
    exact ⟨submission, hmem, rfl, hkey⟩

theorem eventsOwned_of_run {es : List (Entry Store (Instant × Action) Reply)}
    (h : Run (step env) Store.empty es db)
    (hunpurged : ∀ e ∈ es, e.reply.isPurged = false) : EventsOwned db := by
  have hrun : ∀ {s : Store}, Run (step env) s es db → Registered s → Recorded env s →
      EventsOwned s → EventsOwned db := by
    clear h
    intro s h hregistered hrecorded howned
    induction h with
    | nil => exact howned
    | cons hstep _ ih =>
      have hchange := step_change hstep
      have hnext := hrecorded.change hchange
      exact ih (fun e he => hunpurged e (List.mem_cons_of_mem _ he))
        (hregistered.change hchange) hnext
        (howned.change hregistered hnext hchange (hunpurged _ List.mem_cons_self))
  exact hrun h registered_empty recorded_empty fun event hevent => by cases hevent

theorem Change.logGrows (h : Change env db now action reply db')
    (hunpurged : reply.isPurged = false) : LogGrows db db' := by
  cases h with
  | frame hsame hreply => exact .of_eq hsame.runEvents hsame.cursor_le
  | submitted hops hreqs hdrawn hruns => exact hruns.cursors
  | claimed hrow hclaimable hops hreqs hclaimed =>
    cases hclaimed with
    | current hstate hsame hdrawn hruns => exact hruns.cursors
    | retried hstate hnew hdrawn hruns => exact hruns.cursors
  | controlRejected hrequest hclaimable hops hreqs hdrawn hruns => exact hruns.cursors
  | controlClaimed hrequest hclaimable hoperation hconsistent hops hreqs hclaim hof hdrawn
      hruns => exact hruns.cursors
  | completed hrow hdecoded hcompletable hsettle hcommitted hops hreqs hdrawn hruns =>
    exact hruns.cursors
  | resumeRequested hoperation hpaused hops hreqs hdrawn hruns => exact hruns.cursors
  | cancelled hoperation hops hreqs hdrawn hruns => exact hruns.cursors
  | purged => cases hunpurged

end Log

namespace Pagination

/-- What is committed, the rows of open transactions and what the client has received. -/
structure World where
  db : Store
  pending : List (Nat × RunEventRow)
  received : List (Nat × RunEvent)

inductive Statement
  /-- `insertRunEvent` in an open transaction -/
  | insertRunEvent (transaction : Nat) (event : RunEvent) (persistedAt : Instant)
  /-- `COMMIT`, which leaves the given tables -/
  | commit (transaction : Nat) (committed : Store)
  | rollback (transaction : Nat)
  /-- the client's next `listEvents` -/
  | listEvents

namespace World

def start : World := ⟨.empty, [], []⟩

/-- The rows that a transaction has inserted so far. -/
def rowsOf (w : World) (transaction : Nat) : List RunEventRow :=
  (w.pending.filter fun entry => entry.1 = transaction).map Prod.snd

def close (w : World) (transaction : Nat) (db : Store) : World :=
  { w with db, pending := w.pending.filter fun entry => entry.1 ≠ transaction }

/-- The greatest cursor that the client has received. -/
def lastSeenCursor (w : World) : Option Nat := (w.received.map Prod.fst).max?

/-- A commit makes the rows of its transaction visible, takes no cursor back and leaves the
owners of visible rows. -/
def commits (w : World) (transaction : Nat) (committed : Store) : Bool :=
  committed.runEvents.rows = w.db.runEvents.rows ++ w.rowsOf transaction &&
    w.db.nextCursor ≤ committed.nextCursor &&
    w.db.runEvents.rows.all fun row =>
      committed.runOwner row.event.agentRunId = w.db.runOwner row.event.agentRunId

/-- One statement. Events are `RunEventV1` values, which the contract accepts. -/
def step (decisionTaskId ownerUserId : String) (w : World) : Statement → Option (Unit × World)
  | .insertRunEvent transaction event persistedAt =>
    if (decodePersistedRunEventV1 event).isOk then
      some ((),
        { w with
          db := { w.db with nextCursor := w.db.nextCursor + 1 }
          pending := w.pending ++ [(transaction, ⟨w.db.nextCursor, event, persistedAt⟩)] })
    else none
  | .commit transaction committed =>
    if w.commits transaction committed then some ((), w.close transaction committed) else none
  | .rollback transaction => some ((), w.close transaction w.db)
  | .listEvents =>
    match listEvents decisionTaskId ownerUserId w.lastSeenCursor w.db with
    | .ok events => some ((), { w with received := w.received ++ events })
    | .error _ => some ((), w)

end World

/-- The committed events of a task and owner, with their cursors. -/
def committedEvents (db : Store) (decisionTaskId ownerUserId : String) :
    List (Nat × RunEvent) :=
  (db.runEvents.select fun row =>
    row.event.decisionTaskId = decisionTaskId &&
      db.runOwner row.event.agentRunId = some ownerUserId).map fun row => (row.cursor, row.event)

/-- The client has received every committed event of the task and owner exactly once and in
strictly increasing cursor order. -/
def ReceivedExactly (decisionTaskId ownerUserId : String) (w : World) : Prop :=
  w.received.Pairwise (fun a b => a.1 < b.1) ∧
    ∀ event, event ∈ w.received ↔ event ∈ committedEvents w.db decisionTaskId ownerUserId

/-- A commit makes no event of the task and owner visible at or below a cursor that the
client has already received. -/
def CommitsAhead (decisionTaskId ownerUserId : String) (w : World) : Statement → Prop
  | .commit transaction committed => ∀ row ∈ w.rowsOf transaction,
      row.event.decisionTaskId = decisionTaskId →
      committed.runOwner row.event.agentRunId = some ownerUserId →
      ∀ event ∈ w.received, event.1 < row.cursor
  | _ => True

instance (decisionTaskId ownerUserId : String) (w : World) :
    ∀ statement, Decidable (CommitsAhead decisionTaskId ownerUserId w statement)
  | .commit transaction committed =>
    inferInstanceAs (Decidable (∀ row ∈ w.rowsOf transaction,
      row.event.decisionTaskId = decisionTaskId →
      committed.runOwner row.event.agentRunId = some ownerUserId →
      ∀ event ∈ w.received, event.1 < row.cursor))
  | .insertRunEvent .. => .isTrue trivial
  | .rollback _ => .isTrue trivial
  | .listEvents => .isTrue trivial

/-- Every event that is visible or waits for its commit is accepted by the contract. -/
structure Decodable (w : World) : Prop where
  committed : ∀ row ∈ w.db.runEvents, (decodePersistedRunEventV1 row.event).isOk = true
  pending : ∀ entry ∈ w.pending, (decodePersistedRunEventV1 entry.2.event).isOk = true

section Runs
variable {decisionTaskId ownerUserId : String} {w w' : World} {statement : Statement} {r : Unit}

theorem mem_rowsOf {transaction : Nat} {row : RunEventRow} :
    row ∈ w.rowsOf transaction ↔ (transaction, row) ∈ w.pending := by
  unfold World.rowsOf
  simp

theorem commits_iff {transaction : Nat} {committed : Store} :
    w.commits transaction committed = true ↔
      committed.runEvents.rows = w.db.runEvents.rows ++ w.rowsOf transaction ∧
        w.db.nextCursor ≤ committed.nextCursor ∧
        ∀ row ∈ w.db.runEvents,
          committed.runOwner row.event.agentRunId = w.db.runOwner row.event.agentRunId := by
  unfold World.commits
  simp only [Bool.and_eq_true, decide_eq_true_eq, List.all_eq_true, and_assoc]
  exact Iff.rfl

theorem decodable_start : Decodable .start where
  committed _ hrow := absurd hrow (Table.not_mem_empty _)
  pending := nofun

theorem Decodable.step (h : Decodable w)
    (hstep : w.step decisionTaskId ownerUserId statement = some (r, w')) : Decodable w' := by
  cases statement with
  | insertRunEvent transaction event persistedAt =>
    simp only [World.step] at hstep
    split at hstep
    · rename_i hdecoded
      cases hstep
      refine ⟨h.committed, ?_⟩
      intro entry hentry
      rcases List.mem_append.mp hentry with hold | hnew
      · exact h.pending entry hold
      · rw [List.mem_singleton.mp hnew]
        exact hdecoded
    · cases hstep
  | commit transaction committed =>
    simp only [World.step] at hstep
    split at hstep
    · rename_i hcommits
      cases hstep
      refine ⟨?_, fun entry hentry => h.pending entry (List.mem_of_mem_filter hentry)⟩
      intro row hrow
      rw [← Table.mem_rows, World.close, (commits_iff.mp hcommits).1, List.mem_append] at hrow
      rcases hrow with hold | hnew
      · exact h.committed row hold
      · exact h.pending _ (mem_rowsOf.mp hnew)
    · cases hstep
  | rollback transaction =>
    cases hstep
    exact ⟨h.committed, fun entry hentry => h.pending entry (List.mem_of_mem_filter hentry)⟩
  | listEvents =>
    simp only [World.step] at hstep
    split at hstep <;> cases hstep <;> exact ⟨h.committed, h.pending⟩

/-- `listEvents` over events that decode is the page after the given cursor. -/
theorem listEvents_eq_page {db : Store} {afterCursor : Option Nat}
    (h : ∀ row ∈ db.runEvents, (decodePersistedRunEventV1 row.event).isOk = true) :
    listEvents decisionTaskId ownerUserId afterCursor db =
      .ok (Feed.page Prod.fst afterCursor (committedEvents db decisionTaskId ownerUserId)) := by
  unfold listEvents
  simp only
  rw [if_pos]
  · unfold Feed.page committedEvents
    rw [List.map_insertionSort (fun a b : RunEventRow => a.cursor ≤ b.cursor)
      (fun a b : Nat × RunEvent => a.1 ≤ b.1), List.filter_map]
    · unfold Table.select
      rw [List.filter_filter]
      congr 4
      funext row
      simp only [Function.comp_apply, Bool.and_comm]
    · exact fun _ _ _ _ => Iff.rfl
  · rw [List.all_eq_true]
    intro row hrow
    rw [List.mem_insertionSort] at hrow
    exact h row (Table.mem_select.mp hrow).1

/-- What the client follows: the committed events of its task and owner. -/
def World.view (decisionTaskId ownerUserId : String) (w : World) : Feed.State (Nat × RunEvent) :=
  ⟨committedEvents w.db decisionTaskId ownerUserId, w.received⟩

theorem committedEvents_nodup {db : Store} :
    ((committedEvents db decisionTaskId ownerUserId).map Prod.fst).Nodup := by
  unfold committedEvents
  rw [List.map_map]
  exact db.runEvents.keys_nodup.sublist (List.filter_sublist.map _)

/-- The rows of a transaction that the client is to receive. -/
def World.added (w : World) (transaction : Nat) (committed : Store)
    (decisionTaskId ownerUserId : String) : List (Nat × RunEvent) :=
  ((w.rowsOf transaction).filter fun row =>
    row.event.decisionTaskId = decisionTaskId &&
      committed.runOwner row.event.agentRunId = some ownerUserId).map fun row =>
        (row.cursor, row.event)

theorem committedEvents_commit {transaction : Nat} {committed : Store}
    (h : w.commits transaction committed = true) :
    committedEvents committed decisionTaskId ownerUserId =
      committedEvents w.db decisionTaskId ownerUserId ++
        w.added transaction committed decisionTaskId ownerUserId := by
  obtain ⟨hrows, -, howners⟩ := commits_iff.mp h
  unfold committedEvents World.added Table.select
  rw [hrows, List.filter_append, List.map_append]
  congr 2
  apply List.filter_congr
  intro row hrow
  rw [howners row hrow]

/-- A commit appends the rows of its transaction to what the client follows. -/
theorem commit_view {transaction : Nat} {committed : Store}
    (h : w.commits transaction committed = true) :
    ∃ move r', Feed.move Prod.fst (w.view decisionTaskId ownerUserId) move =
        some (r', (w.close transaction committed).view decisionTaskId ownerUserId) ∧
      (CommitsAhead decisionTaskId ownerUserId w (.commit transaction committed) ↔
        Feed.Ahead Prod.fst (w.view decisionTaskId ownerUserId) move) := by
  have hlog : committedEvents committed decisionTaskId ownerUserId =
      committedEvents w.db decisionTaskId ownerUserId ++
        w.added transaction committed decisionTaskId ownerUserId := committedEvents_commit h
  refine ⟨.append (w.added transaction committed decisionTaskId ownerUserId), (), ?_, ?_⟩
  · have hdistinct : ((committedEvents w.db decisionTaskId ownerUserId ++
        w.added transaction committed decisionTaskId ownerUserId).map Prod.fst).Nodup := by
      rw [← hlog]
      exact committedEvents_nodup
    rw [Feed.move_append hdistinct]
    simp only [Feed.State.append, World.view, World.close, hlog]
  · simp only [CommitsAhead, Feed.Ahead, Feed.Passed, World.view, World.added, List.mem_map,
      List.mem_filter, Bool.and_eq_true, decide_eq_true_eq]
    constructor
    · rintro hahead _ ⟨row, ⟨hrow, htask, howner⟩, rfl⟩ ⟨held, hheld, hle⟩
      exact absurd (hahead row hrow htask howner held hheld) (not_lt_of_ge hle)
    · intro hahead row hrow htask howner held hheld
      exact not_le.mp fun hle =>
        hahead _ ⟨row, ⟨hrow, htask, howner⟩, rfl⟩ ⟨held, hheld, hle⟩

/-- Each statement is a move of the client's view, or is not seen by it. -/
theorem step_view (h : Decodable w)
    (hstep : w.step decisionTaskId ownerUserId statement = some (r, w')) :
    w'.view decisionTaskId ownerUserId = w.view decisionTaskId ownerUserId ∧
        CommitsAhead decisionTaskId ownerUserId w statement ∨
      ∃ move r', Feed.move Prod.fst (w.view decisionTaskId ownerUserId) move =
          some (r', w'.view decisionTaskId ownerUserId) ∧
        (CommitsAhead decisionTaskId ownerUserId w statement ↔
          Feed.Ahead Prod.fst (w.view decisionTaskId ownerUserId) move) := by
  cases statement with
  | insertRunEvent transaction event persistedAt =>
    simp only [World.step] at hstep
    split at hstep
    · cases hstep
      exact .inl ⟨rfl, trivial⟩
    · cases hstep
  | commit transaction committed =>
    simp only [World.step] at hstep
    split at hstep
    · rename_i hcommits
      cases hstep
      exact .inr (commit_view hcommits)
    · cases hstep
  | rollback transaction =>
    cases hstep
    exact .inl ⟨rfl, trivial⟩
  | listEvents =>
    simp only [World.step, listEvents_eq_page h.committed] at hstep
    cases hstep
    exact .inr ⟨.poll, (), rfl, Iff.rfl⟩

/-- After a last poll the client holds every committed event of its task and owner exactly
once and in order, if and only if no commit of the run came in behind the client. -/
theorem received_exactly_iff {es : List (Entry World Statement Unit)}
    (hrun : Run (World.step decisionTaskId ownerUserId) .start
      (es ++ [⟨w, .listEvents, r, w'⟩]) w') :
    ReceivedExactly decisionTaskId ownerUserId w' ↔
      Guarded (CommitsAhead decisionTaskId ownerUserId) es := by
  obtain ⟨middle, hbefore, hlast⟩ := hrun.split
  cases hlast with
  | cons hpoll hnil =>
    have hdecodable : Decodable w :=
      hbefore.invariant (fun h _ => h.step) (G := fun _ _ => True) (fun _ _ => trivial)
        decodable_start
    obtain ⟨ms, hmoves, hguard⟩ := hbefore.simulate Decodable.step step_view decodable_start
    simp only [World.step, listEvents_eq_page hdecodable.committed] at hpoll
    cases hpoll
    rw [hguard, ← Feed.exact_iff_of_run hmoves]
    exact Iff.rfl

end Runs

/-! ### The calls of the module are such transactions -/

section Calls
variable {env : Environment} {db db' : Store} {now : Instant} {action : Action} {reply : Reply}
  {decisionTaskId ownerUserId : String} {w : World}

/-- The world at another value of the cursor sequence. -/
def World.at (w : World) (nextCursor : Nat) : World := { w with db := { w.db with nextCursor } }

/-- The world after a transaction has inserted more rows. -/
def World.insert (w : World) (transaction : Nat) (rows : List RunEventRow) : World :=
  { w with pending := w.pending ++ rows.map fun row => (transaction, row) }

/-- Transactions that are rolled back use up cursor values. -/
theorem exists_run_skip {event : RunEvent}
    (hdecoded : (decodePersistedRunEventV1 event).isOk = true)
    (hpending : ∀ entry ∈ w.pending, entry.1 = 0) (count : Nat) :
    ∃ es, Run (World.step decisionTaskId ownerUserId) w es (w.at (w.db.nextCursor + count)) := by
  induction count with
  | zero => exact ⟨[], .nil w⟩
  | succ count ih =>
    obtain ⟨es, hrun⟩ := ih
    have hinsert : (w.at (w.db.nextCursor + count)).step decisionTaskId ownerUserId
        (.insertRunEvent 1 event 0) = some ((), (w.at (w.db.nextCursor + (count + 1))).insert 1
          [⟨w.db.nextCursor + count, event, 0⟩]) := if_pos hdecoded
    have hkept : w.pending.filter (fun entry => entry.1 ≠ 1) = w.pending := by
      rw [List.filter_eq_self]
      intro entry hentry
      simp [hpending entry hentry]
    have hrollback : ((w.at (w.db.nextCursor + (count + 1))).insert 1
        [⟨w.db.nextCursor + count, event, 0⟩]).step decisionTaskId ownerUserId (.rollback 1) =
          some ((), w.at (w.db.nextCursor + (count + 1))) := by
      simp only [World.step, World.close, World.insert, World.at, List.filter_append, hkept]
      simp
    exact ⟨_, hrun.append (.cons hinsert (.cons hrollback (.nil _)))⟩

/-- One transaction inserts rows under the cursor values that a call drew. -/
theorem exists_run_insert {last : Nat} {rows : List RunEventRow}
    (hdrawn : Drawn w.db.nextCursor last rows)
    (hdecoded : ∀ row ∈ rows, (decodePersistedRunEventV1 row.event).isOk = true)
    (hpending : ∀ entry ∈ w.pending, entry.1 = 0) :
    ∃ es nextCursor, nextCursor ≤ last ∧
      Run (World.step decisionTaskId ownerUserId) w es ((w.at nextCursor).insert 0 rows) := by
  induction rows generalizing w with
  | nil =>
    refine ⟨[], w.db.nextCursor, hdrawn.le, ?_⟩
    simpa [World.insert, World.at] using Run.nil w
  | cons row rows ih =>
    obtain ⟨hfirst, hlast⟩ := hdrawn.bounds row List.mem_cons_self
    obtain ⟨es, hskip⟩ : ∃ es, Run (World.step decisionTaskId ownerUserId) w es
        (w.at (w.db.nextCursor + (row.cursor - w.db.nextCursor))) :=
      exists_run_skip (hdecoded row List.mem_cons_self) hpending _
    rw [Nat.add_sub_cancel' hfirst] at hskip
    have hinsert : (w.at row.cursor).step decisionTaskId ownerUserId
        (.insertRunEvent 0 row.event row.persistedAt) =
          some ((), (w.at (row.cursor + 1)).insert 0 [row]) :=
      if_pos (hdecoded row List.mem_cons_self)
    have hrest : Drawn (row.cursor + 1) last rows := by
      obtain ⟨hgreater, hincreasing⟩ := List.pairwise_cons.mp hdrawn.increasing
      refine ⟨hincreasing, fun other hother => ⟨hgreater other hother, ?_⟩, hlast⟩
      exact (hdrawn.bounds other (List.mem_cons_of_mem _ hother)).2
    obtain ⟨fs, nextCursor, hle, hrun⟩ := ih (w := (w.at (row.cursor + 1)).insert 0 [row]) hrest
      (fun other hother => hdecoded other (List.mem_cons_of_mem _ hother)) (by
        intro entry hentry
        rcases List.mem_append.mp hentry with hold | hnew
        · exact hpending entry hold
        · rw [List.mem_singleton.mp hnew])
    have hinserted : Run (World.step decisionTaskId ownerUserId)
        ((w.at (row.cursor + 1)).insert 0 [row]) fs ((w.at nextCursor).insert 0 (row :: rows)) := by
      simpa [World.insert, World.at] using hrun
    exact ⟨_, nextCursor, hle, hskip.append (.cons hinsert hinserted)⟩

/-- A call of the module is a transaction that inserts its events and commits. -/
theorem exists_run_call {es : List (Entry Store (Instant × Action) Reply)}
    (hrun : Run (TaskPersistence.step env) Store.empty es db)
    (hunpurged : ∀ e ∈ es, e.reply.isPurged = false)
    (hstep : TaskPersistence.step env db (now, action) = some (reply, db'))
    (hreply : reply.isPurged = false)
    (hdecoded : ∀ event ∈ db'.events, (decodePersistedRunEventV1 event).isOk = true)
    (received : List (Nat × RunEvent)) :
    ∃ fs, Run (World.step decisionTaskId ownerUserId) ⟨db, [], received⟩ fs
      ⟨db', [], received⟩ := by
  have hchange := step_change hstep
  obtain ⟨rows, hrows, hdrawn, -⟩ := hchange.logGrows hreply
  have hadded : ∀ row ∈ rows, (decodePersistedRunEventV1 row.event).isOk = true := by
    intro row hrow
    refine hdecoded row.event (List.mem_map_of_mem ?_)
    rw [hrows]
    exact List.mem_append_right _ hrow
  obtain ⟨fs, nextCursor, hle, hinserts⟩ : ∃ fs nextCursor, nextCursor ≤ db'.nextCursor ∧
      Run (World.step decisionTaskId ownerUserId) ⟨db, [], received⟩ fs
        ((World.at ⟨db, [], received⟩ nextCursor).insert 0 rows) :=
    exists_run_insert (w := ⟨db, [], received⟩) hdrawn hadded nofun
  have hcommits :
      ((World.at ⟨db, [], received⟩ nextCursor).insert 0 rows).commits 0 db' = true := by
    refine commits_iff.mpr ⟨?_, hle, ?_⟩
    · have hall : (rows.map fun row => (0, row)).filter (fun entry => entry.1 = 0) =
          rows.map fun row => (0, row) := by
        rw [List.filter_eq_self]
        simp
      simp only [World.rowsOf, World.insert, World.at, List.nil_append, hall, hrows]
      simp
    · intro row hrow
      obtain ⟨owner, howner⟩ := eventsOwned_of_run hrun hunpurged row.event
        (List.mem_map_of_mem hrow)
      exact (hchange.runOwner_kept hreply howner).trans howner.symm
  have hcommit : ((World.at ⟨db, [], received⟩ nextCursor).insert 0 rows).step decisionTaskId
      ownerUserId (.commit 0 db') = some ((), ⟨db', [], received⟩) := by
    simp only [World.step]
    rw [if_pos hcommits]
    simp [World.close, World.insert, World.at]
  exact ⟨_, hinserts.append (.single hcommit)⟩

end Calls

section Schedules

/-- What a submission commits when its transaction drew its UUIDs and its cursor earlier. -/
def submitted (env : Environment) (command : ExecuteDecisionTaskCommand) (ownerUserId : String)
    (submittedAt : Instant) (drawn cursor : Nat) (db : Store) : Store :=
  match submit env command ownerUserId submittedAt
      { db with uuidsDrawn := drawn, nextCursor := cursor } with
  | .ok (_, db') => { db' with uuidsDrawn := db.uuidsDrawn, nextCursor := db.nextCursor }
  | .error _ => db

/-- The event of a sample submission that draws its UUIDs from the given one on. -/
def submittedEvent (drawn : Nat) : RunEvent :=
  taskEvent sampleEnv "task" ("agent-run-" ++ uuidText drawn) 1 .taskStateChanged .created
    "决策任务已接受" 0 { Store.empty with uuidsDrawn := drawn + 3 }

def firstCommitted : Store :=
  submitted sampleEnv (sampleCommand "request-1") "owner" 0 0 1 { Store.empty with nextCursor := 2 }

/-- Two submissions of one task, one after the other. -/
def serialSubmissions : List Statement :=
  [.insertRunEvent 1 (submittedEvent 0) 0,
   .commit 1 firstCommitted,
   .listEvents,
   .insertRunEvent 2 (submittedEvent 4) 0,
   .commit 2 (submitted sampleEnv (sampleCommand "request-2") "owner" 0 4 2
     { firstCommitted with nextCursor := 3 })]

theorem received_exactly_serial :
    ∃ es w r w', Run (World.step "task" "owner") .start (es ++ [⟨w, .listEvents, r, w'⟩]) w' ∧
      w'.pending = [] ∧ w'.received.length = 2 ∧ ReceivedExactly "task" "owner" w' := by
  have hcheck : (exec (World.step "task" "owner") .start
      (serialSubmissions ++ [.listEvents])).any
      (fun result => decide (Guarded (CommitsAhead "task" "owner") result.1) &&
        (result.2.pending.isEmpty && result.2.received.length = 2)) = true := by
    decide +kernel
  obtain ⟨es, w', hrun, hlabels, hend⟩ := exists_labelled_run_of_exec hcheck
  simp only [Bool.and_eq_true, decide_eq_true_eq, List.isEmpty_iff] at hend
  obtain ⟨hguard, hpending, hlength⟩ := hend
  obtain ⟨fs, w, r, rfl, hpolled⟩ := hrun.exists_last hlabels
  exact ⟨fs, w, r, w', hpolled, hpending, hlength,
    (received_exactly_iff hpolled).mpr (Guarded.append_iff.mp hguard).1⟩

/-- The same two submissions; the second one commits and is read before the first. -/
def overlappingSubmissions : List Statement :=
  let secondCommitted := submitted sampleEnv (sampleCommand "request-2") "owner" 0 4 2
    { Store.empty with nextCursor := 3 }
  [.insertRunEvent 1 (submittedEvent 0) 0,
   .insertRunEvent 2 (submittedEvent 4) 0,
   .commit 2 secondCommitted,
   .listEvents,
   .commit 1 (submitted sampleEnv (sampleCommand "request-1") "owner" 0 0 1 secondCommitted),
   .listEvents]

theorem overlapping_submissions_skipped :
    ∃ es w, Run (World.step "task" "owner") .start es w ∧
      es.map Entry.label = overlappingSubmissions ∧ w.pending = [] ∧
      ¬ ReceivedExactly "task" "owner" w := by
  have hcheck : (exec (World.step "task" "owner") .start overlappingSubmissions).any
      (fun result => result.2.pending.isEmpty &&
        (committedEvents result.2.db "task" "owner").any fun event =>
          !decide (event ∈ result.2.received)) = true := by
    decide +kernel
  obtain ⟨es, w, hrun, hlabels, hend⟩ := exists_labelled_run_of_exec hcheck
  rw [Bool.and_eq_true, List.isEmpty_iff, List.any_eq_true] at hend
  obtain ⟨hpending, event, hcommitted, hskipped⟩ := hend
  rw [Bool.not_eq_true', decide_eq_false_iff_not] at hskipped
  exact ⟨es, w, hrun, hlabels, hpending, fun hexact =>
    hskipped ((hexact.2 event).mpr hcommitted)⟩

end Schedules

end Pagination

end ChoiceMind.TaskPersistence
