import ChoiceMind.TaskPersistence.Pagination
import ChoiceMind.TaskPersistence.RecoveryRows
import ChoiceMind.TaskPersistence.Uniqueness

/-!
# Numbering of runs and events

The events of a run are numbered from 1 in the order of their cursors, and the runs of an
operation from attempt 1. Both hold of every run that was ever opened, not only of the
current run of its operation.
-/

namespace ChoiceMind.TaskPersistence

set_option autoImplicit false

open Contracts Transition

/-- Two keys that increase along one list order its elements in the same way. -/
theorem lt_iff_lt_of_pairwise {α : Type*} {f g : α → Nat} {xs : List α}
    (hf : xs.Pairwise fun a b => f a < f b) (hg : xs.Pairwise fun a b => g a < g b) :
    ∀ a ∈ xs, ∀ b ∈ xs, f a < f b ↔ g a < g b := by
  induction xs with
  | nil => exact List.forall_mem_nil _
  | cons x xs ih =>
    rw [List.pairwise_cons] at hf hg
    intro a ha b hb
    rcases List.mem_cons.mp ha with rfl | hain
    · rcases List.mem_cons.mp hb with rfl | hbin
      · simp
      · exact iff_of_true (hf.1 b hbin) (hg.1 b hbin)
    · rcases List.mem_cons.mp hb with rfl | hbin
      · have hfa := hf.1 a hain
        have hga := hg.1 a hain
        omega
      · exact ih hf.2 hg.2 a hain b hbin

theorem foldl_max_range' (n : Nat) : (List.range' 1 n).foldl max 0 = n := by
  induction n with
  | zero => rfl
  | succ n ih =>
    rw [List.range'_1_concat, List.foldl_append, ih]
    simp only [List.foldl_cons, List.foldl_nil]
    omega

variable {env : Environment} {db db' : Store} {now : Instant} {action : Action} {reply : Reply}

/-! ### Cursors and event ids -/

/-- Cursors increase along the log and were drawn before, and event ids are unique. -/
structure Keyed (db : Store) : Prop where
  increasing : db.runEvents.rows.Pairwise fun a b => a.cursor < b.cursor
  drawn : ∀ row ∈ db.runEvents, row.cursor < db.nextCursor
  ids : EventIdsUnique db.runEvents

theorem keyed_empty : Keyed Store.empty where
  increasing := .nil
  drawn := fun row hrow => absurd hrow (Table.not_mem_empty row)
  ids := .nil

theorem Keyed.grows (h : Keyed db) (hgrows : LogGrows db db') : Keyed db' := by
  obtain ⟨added, hrows, hdrawn, hids⟩ := hgrows
  refine ⟨?_, ?_, hids h.ids⟩
  · rw [hrows, List.pairwise_append]
    refine ⟨h.increasing, hdrawn.increasing, fun a ha b hb => ?_⟩
    exact lt_of_lt_of_le (h.drawn a ha) (hdrawn.bounds b hb).1
  · intro row hrow
    rw [← Table.mem_rows, hrows, List.mem_append] at hrow
    rcases hrow with hold | hnew
    · exact lt_of_lt_of_le (h.drawn row hold) hdrawn.le
    · exact (hdrawn.bounds row hnew).2

theorem Keyed.erased (h : Keyed db) (ownerUserId : String) : Keyed (db.erased env ownerUserId) where
  increasing := h.increasing.sublist List.filter_sublist
  drawn row hrow := h.drawn row (Table.mem_deleteWhere.mp hrow).1
  ids := h.ids.sublist List.filter_sublist

theorem Keyed.step (h : Keyed db) (hstep : step env db (now, action) = some (reply, db')) :
    Keyed db' := by
  have hgrows := (step_change hstep).logGrows
  cases hpurged : reply.isPurged with
  | false => exact h.grows (hgrows hpurged)
  | true =>
    rcases step_cases hstep with hperform | ⟨⟨error, rfl⟩, rfl⟩
    · cases step_change hstep with
      | frame hsame => exact h.grows (.of_eq hsame.runEvents hsame.cursor_le)
      | purged =>
        simp only [perform, bind_eq_ok] at hperform
        obtain ⟨⟨result, _⟩, hpurge, hperform⟩ := hperform
        cases hperform
        obtain rfl := purgePrivateDataForOwner_ok hpurge
        exact h.erased _
      | _ => cases hpurged
    · exact h

/-! ### The logs -/

/-- The log of every run is numbered from 1 and starts with its creation. -/
structure Sequenced (db : Store) : Prop where
  numbered : ∀ agentRunId, (db.logOf agentRunId).map RunEvent.sequence =
    List.range' 1 (db.logOf agentRunId).length
  created : ∀ agentRunId, ∀ event, (db.logOf agentRunId).head? = some event →
    event.taskState = .created

theorem sequenced_empty : Sequenced Store.empty where
  numbered _ := rfl
  created _ _ hhead := by cases hhead

/-- Events that a step appends are not among the old ones. -/
theorem Keyed.not_mem_of_append (h : Keyed db') {events : List RunEvent}
    (hevents : db'.events = db.events ++ events) : ∀ event ∈ events, event ∉ db.events := by
  have hids : db'.events.Pairwise fun a b => a.eventId ≠ b.eventId :=
    List.pairwise_map.mpr h.ids
  rw [hevents, List.pairwise_append] at hids
  exact fun event hevent hold => hids.2.2 event hold event hevent rfl

/-- The events that a step appends to the log of one run continue it. -/
theorem appended_sequences (hlogged : Logged env db) (hkeyed : Keyed db')
    (hstep : step env db (now, action) = some (reply, db')) {agentRunId : String}
    {events : List RunEvent} (hlog : LogsOnly agentRunId events db db') :
    events.map RunEvent.sequence =
      List.range' ((db.logOf agentRunId).length + 1) events.length := by
  obtain ⟨hevents, hof⟩ := hlog
  obtain ⟨agreed, hchange, -⟩ := step_log hlogged hstep
  cases hchange with
  | kept hops hlogs hold hdrawn =>
    have hnone : events = [] := by
      rw [List.eq_nil_iff_forall_not_mem]
      intro event hevent
      have hin : event ∈ db'.events := hevents ▸ List.mem_append_right db.events hevent
      exact hkeyed.not_mem_of_append hevents event hevent (hold event hin)
    rw [hnone]
    rfl
  | @changed row appended _ hops hadded hcontinues hdrawn hrun =>
    obtain rfl := List.append_cancel_left (hadded.symm.trans hevents)
    cases hfirst : appended with
    | nil => rfl
    | cons event rest =>
      rw [← hfirst]
      have hmem : event ∈ appended := hfirst ▸ List.mem_cons_self
      obtain rfl : row.agentRunId = agentRunId :=
        (hcontinues.agentRunId event hmem).symm.trans (hof event hmem)
      rw [hcontinues.sequence]
      have hcurrent : db.runEventsOf row.decisionTaskId row.agentRunId =
          db.logOf row.agentRunId := by
        rcases hrun with ⟨hfresh, -⟩ | ⟨old, hold, -, hsame, htask⟩
        · rw [hfresh, hlogged.logOf_fresh, ← hfresh]
          exact currentLog_fresh hlogged row hfresh
        · rw [← hsame, ← htask]
          exact hlogged.currentLog hold
      rw [hcurrent]

theorem Sequenced.of_appended (h : Sequenced db) {agentRunId : String} {events : List RunEvent}
    (hlog : LogsOnly agentRunId events db db')
    (hsequences : events.map RunEvent.sequence =
      List.range' ((db.logOf agentRunId).length + 1) events.length)
    (hcreated : db.logOf agentRunId = [] → ∀ event, events.head? = some event →
      event.taskState = .created) : Sequenced db' := by
  have happend := logOf_append hlog.1 hlog.2
  constructor
  · intro other
    rw [happend]
    split
    · rename_i hsame
      rw [hsame, List.map_append, h.numbered, hsequences, List.length_append, Nat.add_comm _ 1,
        List.range'_append_1]
    · exact h.numbered other
  · intro other event hhead
    rw [happend] at hhead
    split at hhead
    · rename_i hsame
      rw [hsame] at hhead
      cases hfirst : db.logOf agentRunId with
      | nil =>
        rw [hfirst, List.nil_append] at hhead
        exact hcreated hfirst event hhead
      | cons logged rest =>
        rw [hfirst, List.cons_append, List.head?_cons] at hhead
        refine h.created agentRunId event ?_
        rw [hfirst, List.head?_cons, hhead]
    · exact h.created other event hhead

/-- A run to which a step only appends events has a log already. -/
theorem logOf_ne_nil_of_kept (hregistered : Registered db) {agentRunId : String}
    (hkeeps : KeepsRuns agentRunId db db') {event : RunEvent}
    (hrun : ∃ row ∈ db'.operations, db'.runOperation event.agentRunId = some row.operationId) :
    db.logOf event.agentRunId ≠ [] := by
  obtain ⟨row, -, hoperation⟩ := hrun
  rw [Store.runOperation, hkeeps.agentRuns, Option.map_eq_some_iff] at hoperation
  obtain ⟨run, hfound, -⟩ := hoperation
  obtain ⟨hmem, hkey⟩ := Table.find?_eq_some.mp hfound
  obtain ⟨logged, hlogged, hof⟩ := hregistered.logged run hmem
  have hin : logged ∈ db.logOf event.agentRunId :=
    List.mem_filter.mpr ⟨hlogged, decide_eq_true (hof.trans hkey)⟩
  exact List.ne_nil_of_mem hin

/-- An event of the log is old or belongs to a run of an operation. -/
theorem Change.old_or_registered (h : Change env db now action reply db')
    (hregistered : Registered db) {event : RunEvent} (hevent : event ∈ db'.events) :
    event ∈ db.events ∨
      ∃ row ∈ db'.operations, db'.runOperation event.agentRunId = some row.operationId := by
  cases hpurged : reply.isPurged with
  | false => exact h.event_run hregistered hpurged hevent
  | true =>
    cases h with
    | frame hsame =>
      rw [Store.events, hsame.runEvents] at hevent
      exact .inl hevent
    | purged hops hreqs hruns hevents =>
      rw [Store.events, hevents, List.mem_map] at hevent
      obtain ⟨row, hrow, rfl⟩ := hevent
      exact .inl (List.mem_map_of_mem (Table.mem_deleteWhere.mp hrow).1)
    | _ => cases hpurged

/-- A purge keeps the log of a run as a whole or deletes it. -/
theorem logOf_deleted {agentRunIds : List String}
    (hevents : db'.runEvents = db.runEvents.deleteWhere fun row =>
      row.event.agentRunId ∈ agentRunIds) (agentRunId : String) :
    db'.logOf agentRunId = if agentRunId ∈ agentRunIds then [] else db.logOf agentRunId := by
  unfold Store.logOf
  rw [hevents, Table.deleteWhere, List.filter_map, List.filter_map, List.filter_filter]
  split
  · rename_i hin
    rw [List.filter_eq_nil_iff.mpr, List.map_nil]
    intro row _
    by_cases hof : row.event.agentRunId = agentRunId
    · simp [hof, hin]
    · simp [hof]
  · rename_i hout
    congr 1
    apply List.filter_congr
    intro row _
    by_cases hof : row.event.agentRunId = agentRunId
    · simp [hof, hout]
    · simp [hof]

theorem Sequenced.step (h : Sequenced db) (hunique : Unique env db) (hkeyed : Keyed db')
    (hstep : step env db (now, action) = some (reply, db')) : Sequenced db' := by
  have hchange := step_change hstep
  have happended := fun {agentRunId events} =>
    @appended_sequences env db db' now action reply hunique.logged hkeyed hstep agentRunId events
  cases hchange.runs with
  | kept agentRunId hkeeps =>
    obtain ⟨events, hlog⟩ := hkeeps.events
    refine h.of_appended hlog (happended hlog) fun hempty event hhead => ?_
    have hnew : event ∈ events := List.mem_of_mem_head? hhead
    have hin : event ∈ db'.events := hlog.1 ▸ List.mem_append_right db.events hnew
    rcases hchange.old_or_registered hunique.registered hin with hold | hrun
    · exact absurd hold (hkeyed.not_mem_of_append hlog.1 event hnew)
    · rw [← hlog.2 event hnew] at hempty
      exact absurd hempty (logOf_ne_nil_of_kept hunique.registered hkeeps hrun)
  | opened operationId hopens =>
    obtain ⟨events, hne, hlog⟩ := hopens.events
    refine h.of_appended hlog (happended hlog) fun _ event hhead => ?_
    have hfirst := hopens.first events hlog.1
    rw [hhead] at hfirst
    exact Option.some.inj hfirst
  | purged ownerUserId hruns hevents =>
    have hlogs := logOf_deleted hevents
    constructor
    · intro agentRunId
      rw [hlogs]
      split
      · rfl
      · exact h.numbered agentRunId
    · intro agentRunId event hhead
      rw [hlogs] at hhead
      split at hhead
      · cases hhead
      · exact h.created agentRunId event hhead

/-! ### The runs of an operation -/

/-- The runs of an operation in the order in which they were opened. -/
def Store.runsOf (db : Store) (operationId : String) : List AgentRun :=
  db.agentRuns.select fun run => run.operationId = operationId

theorem nextAttempt_eq {operationId : String} {k : Nat}
    (h : (db.runsOf operationId).map AgentRun.attempt = List.range' 1 k) :
    db.nextAttempt operationId = k + 1 := by
  unfold Store.nextAttempt
  rw [← Store.runsOf, h, foldl_max_range']

/-- The attempts of every operation are numbered from 1, and the last one is its current run. -/
structure Attempted (db : Store) : Prop where
  numbered : ∀ operationId, (db.runsOf operationId).map AgentRun.attempt =
    List.range' 1 (db.runsOf operationId).length
  current : ∀ row ∈ db.operations,
    (db.runsOf row.operationId).getLast?.map AgentRun.agentRunId = some row.agentRunId

theorem attempted_empty : Attempted Store.empty where
  numbered _ := rfl
  current row hrow := absurd hrow (Table.not_mem_empty row)

theorem runsOf_insert {run : AgentRun} {agentRuns : Table AgentRun.agentRunId}
    (h : db.agentRuns.insert? run = some agentRuns) (hruns : db'.agentRuns = agentRuns)
    (operationId : String) :
    db'.runsOf operationId =
      if operationId = run.operationId then db.runsOf operationId ++ [run]
      else db.runsOf operationId := by
  unfold Store.runsOf Table.select
  rw [hruns, Table.rows_insert? h, List.filter_append]
  split
  · rename_i hsame
    simp [hsame]
  · rename_i hother
    simp [Ne.symm hother]

theorem runsOf_deleted {operationIds : List String}
    (hruns : db'.agentRuns = db.agentRuns.deleteWhere fun row => row.operationId ∈ operationIds)
    (operationId : String) :
    db'.runsOf operationId = if operationId ∈ operationIds then [] else db.runsOf operationId := by
  unfold Store.runsOf
  rw [hruns]
  split
  · rename_i hin
    rw [List.eq_nil_iff_forall_not_mem]
    intro run hrun
    rw [Table.mem_select, Table.mem_deleteWhere, decide_eq_true_eq, decide_eq_false_iff_not] at hrun
    exact hrun.1.2 (hrun.2 ▸ hin)
  · rename_i hout
    refine Table.select_deleteWhere fun run _ hof => ?_
    rw [decide_eq_true_eq] at hof
    rw [hof, decide_eq_false_iff_not]
    exact hout

/-- A run that is opened is the next attempt. -/
theorem Attempted.attempt_eq (h : Attempted db) {agentRunId operationId : String} {run : AgentRun}
    (hopens : OpensRun agentRunId operationId db db')
    (hinsert : db.agentRuns.insert? run = some db'.agentRuns) :
    run.attempt = (db.runsOf run.operationId).length + 1 := by
  have hnew : run ∈ db'.agentRuns := (Table.mem_insert? hinsert).mpr (.inr rfl)
  have hunknown : run ∉ db.agentRuns := fun hold => Table.key_fresh_of_insert? hinsert run hold rfl
  rcases hopens.numbered run hnew with hold | hone | hnext
  · exact absurd hold hunknown
  · -- attempt 1 is new, so the operation has no attempt yet
    have hnumbered := h.numbered run.operationId
    cases hruns : db.runsOf run.operationId with
    | nil => exact hone
    | cons other rest =>
      rw [hruns, List.map_cons, List.length_cons, List.range'_succ] at hnumbered
      have hother : other ∈ db.runsOf run.operationId := hruns ▸ List.mem_cons_self
      obtain ⟨hmem, hof⟩ := Table.mem_select.mp hother
      rcases hopens.unattempted run hnew with hold | hunattempted
      · exact absurd hold hunknown
      · refine absurd ?_ (hunattempted other hmem (of_decide_eq_true hof))
        rw [hone]
        exact (List.cons.inj hnumbered).1
  · rw [hnext, nextAttempt_eq (h.numbered run.operationId)]

theorem Attempted.numbered_of_runs (h : Attempted db) (hruns : RunsChange env db db') :
    ∀ operationId, (db'.runsOf operationId).map AgentRun.attempt =
      List.range' 1 (db'.runsOf operationId).length := by
  cases hruns with
  | kept agentRunId hkeeps =>
    intro operationId
    rw [Store.runsOf, hkeeps.agentRuns]
    exact h.numbered operationId
  | opened opened hopens =>
    obtain ⟨attempt, createdAt, hinsert⟩ := hopens.agentRuns
    intro operationId
    have hattempt := h.attempt_eq hopens hinsert
    rw [runsOf_insert hinsert rfl]
    split
    · rename_i hsame
      rw [List.map_append, List.length_append, hsame, h.numbered, List.map_singleton, hattempt,
        List.length_singleton, List.range'_1_concat, Nat.add_comm 1]
    · exact h.numbered operationId
  | purged ownerUserId hruns hevents =>
    intro operationId
    rw [runsOf_deleted hruns]
    split
    · rfl
    · exact h.numbered operationId

/-- The operations of a step: each keeps its run and its attempts, or has the run that is
opened for it. -/
theorem Change.current_run (h : Change env db now action reply db') {row : Operation}
    (hrow : row ∈ db'.operations) :
    (∃ old ∈ db.operations, old.operationId = row.operationId ∧
        old.agentRunId = row.agentRunId ∧
        db'.runsOf row.operationId = db.runsOf row.operationId) ∨
      ∃ run, db'.runsOf row.operationId = db.runsOf row.operationId ++ [run] ∧
        run.agentRunId = row.agentRunId := by
  have hsame : ∀ operations, db'.operations = operations → db'.agentRuns = db.agentRuns →
      (∀ r ∈ operations, ∃ old ∈ db.operations, old.operationId = r.operationId ∧
        old.agentRunId = r.agentRunId) →
      ∃ old ∈ db.operations, old.operationId = row.operationId ∧
        old.agentRunId = row.agentRunId ∧
        db'.runsOf row.operationId = db.runsOf row.operationId := by
    intro operations hops hruns hkept
    obtain ⟨old, hold, hid, hrun⟩ := hkept row (hops ▸ hrow)
    refine ⟨old, hold, hid, hrun, ?_⟩
    rw [Store.runsOf, hruns]
    rfl
  have hupdate : ∀ {operationId : String} {f : Operation → Operation}
      {hf : ∀ row, (f row).operationId = row.operationId},
      (∀ old ∈ db.operations, old.operationId = operationId →
        (f old).agentRunId = old.agentRunId) →
      ∀ r ∈ db.operations.update operationId f hf, ∃ old ∈ db.operations,
        old.operationId = r.operationId ∧ old.agentRunId = r.agentRunId := by
    intro operationId f hf hkeeps r hr
    obtain ⟨old, hold, rfl⟩ := Table.mem_update.mp hr
    refine ⟨old, hold, ?_⟩
    split
    · exact ⟨(hf old).symm, (hkeeps old hold ‹_›).symm⟩
    · exact ⟨rfl, rfl⟩
  cases h with
  | frame hkept =>
    exact .inl (hsame _ hkept.operations hkept.agentRuns fun r hr => ⟨r, hr, rfl, rfl⟩)
  | @submitted command _ _ _ hops hreqs hdrawn hruns =>
    obtain ⟨attempt, createdAt, hinsert⟩ := hruns.agentRuns
    rcases (Table.mem_insert? hops).mp hrow with hold | rfl
    · refine .inl ⟨row, hold, rfl, rfl, ?_⟩
      rw [runsOf_insert hinsert rfl, if_neg (Table.key_fresh_of_insert? hops row hold)]
    · have happend :=
        runsOf_insert hinsert rfl (acceptedOperation env command now db).operationId
      rw [if_pos rfl] at happend
      exact .inr ⟨_, happend, rfl⟩
  | claimed hfound hclaimable hops hreqs hclaimed =>
    obtain ⟨hmem, hkey⟩ := Table.find?_eq_some.mp hfound
    cases hclaimed with
    | current hstate hrun hdrawn hruns =>
      refine .inl (hsame _ hops hruns.agentRuns (hupdate fun old hold hof => ?_))
      obtain rfl := Table.eq_of_key_eq hold hmem (hof.trans hkey.symm)
      exact hrun
    | retried hstate hrun hdrawn hruns =>
      obtain ⟨attempt, createdAt, hinsert⟩ := hruns.agentRuns
      rw [hops] at hrow
      rcases Table.mem_update_of_find? hfound hrow with rfl | ⟨hold, hother⟩
      · exact .inr ⟨_, (runsOf_insert hinsert rfl _).trans (if_pos rfl), rfl⟩
      · refine .inl ⟨row, hold, rfl, rfl, ?_⟩
        rw [runsOf_insert hinsert rfl, if_neg fun heq => hother (heq.trans hkey)]
  | controlRejected hrequest hclaimable hops hreqs hdrawn hruns =>
    exact .inl (hsame _ hops hruns.agentRuns fun r hr => ⟨r, hr, rfl, rfl⟩)
  | controlClaimed hrequest hclaimable hoperation hconsistent hops hreqs hclaim hof hdrawn hruns =>
    exact .inl (hsame _ hops hruns.agentRuns (hupdate fun _ _ _ => rfl))
  | completed hfound hdecoded hcompletable hsettle hcommitted hops hreqs hdrawn hruns =>
    exact .inl (hsame _ hops hruns.agentRuns (hupdate fun old _ _ => hsettle.agentRunId old))
  | resumeRequested hoperation hpaused hops hreqs hdrawn hruns =>
    exact .inl (hsame _ hops hruns.agentRuns fun r hr => ⟨r, hr, rfl, rfl⟩)
  | cancelled hoperation hops hreqs hdrawn hruns =>
    exact .inl (hsame _ hops hruns.agentRuns (hupdate fun _ _ _ => rfl))
  | purged hops hreqs hruns hevents =>
    rw [hops, Table.mem_deleteWhere, decide_eq_false_iff_not] at hrow
    refine .inl ⟨row, hrow.1, rfl, rfl, ?_⟩
    rw [runsOf_deleted hruns, if_neg hrow.2]

theorem Attempted.change (h : Attempted db) (hchange : Change env db now action reply db') :
    Attempted db' where
  numbered := h.numbered_of_runs hchange.runs
  current row hrow := by
    rcases hchange.current_run hrow with ⟨old, hold, hid, hrun, hruns⟩ | ⟨run, hruns, hrun⟩
    · rw [hruns, ← hid, ← hrun]
      exact h.current old hold
    · rw [hruns, List.getLast?_concat, Option.map_some, hrun]

/-! ### Every reachable state -/

structure Numbered (env : Environment) (db : Store) : Prop where
  unique : Unique env db
  keyed : Keyed db
  sequenced : Sequenced db
  attempted : Attempted db

theorem Numbered.step (h : Numbered env db)
    (hstep : step env db (now, action) = some (reply, db')) : Numbered env db' := by
  have hkeyed := h.keyed.step hstep
  exact
    { unique := h.unique.step hstep
      keyed := hkeyed
      sequenced := h.sequenced.step h.unique hkeyed hstep
      attempted := h.attempted.change (step_change hstep) }

theorem numbered_of_run {es : List (Entry Store (Instant × Action) Reply)}
    (h : Run (step env) Store.empty es db) : Numbered env db := by
  refine h.invariant (G := fun _ _ => True) ?_ (fun _ _ => trivial)
    ⟨unique_empty, keyed_empty, sequenced_empty, attempted_empty⟩
  intro s t a r hs _ hstep
  exact hs.step hstep

/-- The numbers of the persisted events and attempts. -/
structure EventNumbering (db : Store) : Prop where
  /-- The sequence numbers of a run are 1, 2, … in the order of insertion. -/
  sequences : ∀ agentRunId, (db.logOf agentRunId).map RunEvent.sequence =
    List.range' 1 (db.logOf agentRunId).length
  /-- Every registered run has an event with sequence number 1 … -/
  opened : ∀ run ∈ db.agentRuns, ∃ row ∈ db.runEvents,
    row.event.agentRunId = run.agentRunId ∧ row.event.sequence = 1
  /-- … which is a creation event. -/
  created : ∀ row ∈ db.runEvents, row.event.sequence = 1 → row.event.taskState = .created
  cursors : ∀ a ∈ db.runEvents, ∀ b ∈ db.runEvents, a.event.agentRunId = b.event.agentRunId →
    (a.cursor < b.cursor ↔ a.event.sequence < b.event.sequence)
  ids : ∀ a ∈ db.runEvents, ∀ b ∈ db.runEvents, a.event.eventId = b.event.eventId → a = b
  /-- The attempts of an operation are 1, …, k and its current run is that of attempt k. -/
  attempts : ∀ row ∈ db.operations, ∃ k, 0 < k ∧
    (db.runsOf row.operationId).map AgentRun.attempt = List.range' 1 k ∧
    ∃ run ∈ db.runsOf row.operationId, run.attempt = k ∧ run.agentRunId = row.agentRunId

/-- The rows of one run, in the order of insertion. -/
theorem logOf_eq_map (db : Store) (agentRunId : String) :
    db.logOf agentRunId = (db.runEvents.select fun row =>
      row.event.agentRunId = agentRunId).map RunEventRow.event := by
  unfold Store.logOf Table.select
  rw [List.filter_map]
  rfl

/-- The first event of a log has number 1, and no other one does. -/
theorem Sequenced.first (h : Sequenced db) {agentRunId : String}
    (hne : db.logOf agentRunId ≠ []) :
    ∃ event ∈ db.logOf agentRunId, event.sequence = 1 ∧ event.taskState = .created ∧
      ∀ other ∈ db.logOf agentRunId, other.sequence = 1 → other = event := by
  have hnumbered := h.numbered agentRunId
  have hcreated := h.created agentRunId
  cases hlog : db.logOf agentRunId with
  | nil => exact absurd hlog hne
  | cons event rest =>
    rw [hlog, List.map_cons, List.length_cons, List.range'_succ] at hnumbered
    obtain ⟨hone, hrest⟩ := List.cons.inj hnumbered
    refine ⟨event, List.mem_cons_self, hone, hcreated event (by rw [hlog]; rfl), ?_⟩
    intro other hother hsequence
    rcases List.mem_cons.mp hother with rfl | hin
    · rfl
    · have hmem := List.mem_map_of_mem (f := RunEvent.sequence) hin
      rw [hrest, List.mem_range'_1, hsequence] at hmem
      omega

theorem mem_logOf {row : RunEventRow} (hrow : row ∈ db.runEvents) :
    row.event ∈ db.logOf row.event.agentRunId := by
  rw [logOf_eq_map]
  exact List.mem_map_of_mem (Table.mem_select.mpr ⟨hrow, decide_eq_true rfl⟩)

theorem Numbered.eventNumbering (h : Numbered env db) : EventNumbering db where
  sequences := h.sequenced.numbered
  opened run hrun := by
    obtain ⟨logged, hlogged, hof⟩ := h.unique.registered.logged run hrun
    have hin : logged ∈ db.logOf run.agentRunId :=
      List.mem_filter.mpr ⟨hlogged, decide_eq_true hof⟩
    obtain ⟨event, hevent, hone, -⟩ := h.sequenced.first (List.ne_nil_of_mem hin)
    rw [logOf_eq_map] at hevent
    obtain ⟨row, hrow, rfl⟩ := List.mem_map.mp hevent
    obtain ⟨hmem, hrun⟩ := Table.mem_select.mp hrow
    exact ⟨row, hmem, of_decide_eq_true hrun, hone⟩
  created row hrow hone := by
    have hin := mem_logOf hrow
    obtain ⟨event, -, -, hcreated, honly⟩ := h.sequenced.first (List.ne_nil_of_mem hin)
    rw [honly row.event hin hone]
    exact hcreated
  cursors a ha b hb hsame := by
    have hsequences := h.sequenced.numbered b.event.agentRunId
    rw [logOf_eq_map, List.map_map] at hsequences
    have hincreasing : (db.runEvents.select fun row =>
        row.event.agentRunId = b.event.agentRunId).Pairwise fun a b =>
        a.event.sequence < b.event.sequence := by
      have hrange : (List.map (RunEvent.sequence ∘ RunEventRow.event) (db.runEvents.select
          fun row => row.event.agentRunId = b.event.agentRunId)).Pairwise (· < ·) := by
        rw [hsequences]
        exact List.pairwise_lt_range'
      exact List.pairwise_map.mp hrange
    refine lt_iff_lt_of_pairwise (h.keyed.increasing.sublist List.filter_sublist) hincreasing
      a (Table.mem_select.mpr ⟨ha, decide_eq_true hsame⟩)
      b (Table.mem_select.mpr ⟨hb, decide_eq_true rfl⟩)
  ids a ha b hb hsame := by
    have hnodup : (db.runEvents.rows.map fun row => row.event.eventId).Nodup :=
      List.pairwise_map.mpr h.keyed.ids
    exact List.inj_on_of_nodup_map hnodup ha hb hsame
  attempts row hrow := by
    obtain ⟨run, hlast, hcurrent⟩ := Option.map_eq_some_iff.mp (h.attempted.current row hrow)
    have hnumbered := h.attempted.numbered row.operationId
    have hmem := List.mem_of_getLast? hlast
    have hattempt : ((db.runsOf row.operationId).map AgentRun.attempt).getLast? =
        some run.attempt := by
      rw [List.getLast?_map, hlast, Option.map_some]
    refine ⟨_, List.length_pos_of_mem hmem, hnumbered, run, hmem, ?_, hcurrent⟩
    rw [hnumbered, List.getLast?_range'] at hattempt
    have hpositive := List.length_pos_of_mem hmem
    rw [if_neg (by omega)] at hattempt
    have hlength := Option.some.inj hattempt
    omega

theorem events_numbered {es : List (Entry Store (Instant × Action) Reply)}
    (h : Run (step env) Store.empty es db) : EventNumbering db :=
  (numbered_of_run h).eventNumbering

/-- A task fails in a way that allows a retry, and is retried under a second run. -/
def renumberedSchedule : List (Instant × Action) :=
  [(0, .submit (sampleCommand "request") "owner"),
   (1, .claimNext sampleOperation "worker-1" 10),
   (2, .complete sampleOperation "worker-1" (.failure ⟨.failedRetryable, "busy", none⟩) none),
   (3, .claimNext sampleOperation "worker-2" 10)]

theorem events_numbered_retried :
    ∃ es db, Run (step sampleEnv) Store.empty es db ∧ EventNumbering db ∧
      (db.runsOf sampleOperation).map AgentRun.attempt = [1, 2] ∧
      (db.logOf sampleRun).map RunEvent.sequence = [1, 2, 3] := by
  have hexec : (exec (step sampleEnv) Store.empty renumberedSchedule).any (fun result =>
      decide ((result.2.runsOf sampleOperation).map AgentRun.attempt = [1, 2] ∧
        (result.2.logOf sampleRun).map RunEvent.sequence = [1, 2, 3])) = true := by
    decide +kernel
  obtain ⟨es, db, hrun, hcheck⟩ := exists_run_of_exec hexec
  obtain ⟨hattempts, hsequences⟩ := of_decide_eq_true hcheck
  exact ⟨es, db, hrun, events_numbered hrun, hattempts, hsequences⟩

end ChoiceMind.TaskPersistence
