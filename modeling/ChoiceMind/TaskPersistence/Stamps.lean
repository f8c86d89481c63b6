import ChoiceMind.TaskPersistence.Numbering

/-!
# Inserting events

Ids are drawn once and cursors only grow, so the events that a call makes for a registered
run can always be inserted.
-/

namespace ChoiceMind.TaskPersistence

set_option autoImplicit false

open Contracts Transition

variable {env : Environment} {db db' : Store} {now : Instant} {events : List RunEvent}

/-! ### What the log is stamped with -/

/-- The id of an event was drawn, its text is public, and the cursors of the notifications
were drawn. -/
structure Stamped (env : Environment) (db : Store) : Prop where
  ids : ∀ event ∈ db.events, ∃ k < db.uuidsDrawn,
    event.eventId = "event-persistent-" ++ env.randomUUID k
  summaries : ∀ event ∈ db.events, isMeaningful event.summary = true
  notified : ∀ notification ∈ db.notifications, notification.eventCursor < db.nextCursor

theorem stamped_empty : Stamped env Store.empty where
  ids := by
    intro event hevent
    cases hevent
  summaries := by
    intro event hevent
    cases hevent
  notified := by
    intro notification hnotification
    cases hnotification

/-- The log and its notifications do not grow. -/
structure SameLog (db db' : Store) : Prop where
  events : ∀ event ∈ db'.events, event ∈ db.events
  notifications : ∀ notification ∈ db'.notifications, notification ∈ db.notifications
  cursor_le : db.nextCursor ≤ db'.nextCursor
  drawn_le : db.uuidsDrawn ≤ db'.uuidsDrawn

theorem SameLog.of_eq (hevents : db'.runEvents = db.runEvents)
    (hnotifications : db'.notifications = db.notifications)
    (hcursor : db.nextCursor ≤ db'.nextCursor) (hdrawn : db.uuidsDrawn ≤ db'.uuidsDrawn) :
    SameLog db db' := by
  refine ⟨?_, ?_, hcursor, hdrawn⟩
  · rw [Store.events, hevents]
    exact fun _ hevent => hevent
  · rw [hnotifications]
    exact fun _ hnotification => hnotification

theorem Stamped.of_same (h : Stamped env db) (hsame : SameLog db db') : Stamped env db' where
  ids event hevent := by
    obtain ⟨k, hk, hid⟩ := h.ids event (hsame.events event hevent)
    exact ⟨k, hk.trans_le hsame.drawn_le, hid⟩
  summaries event hevent := h.summaries event (hsame.events event hevent)
  notified notification hnotification :=
    (h.notified notification (hsame.notifications notification hnotification)).trans_le
      hsame.cursor_le

/-! ### Insertions -/

theorem insertRunEvent_ok {event : RunEvent} {persistedAt : Instant}
    (h : insertRunEvent event persistedAt db = .ok db') :
    ∃ runEvents notifications,
      db.runEvents.insert? ⟨db.nextCursor, event, persistedAt⟩ = some runEvents ∧
      db.notifications.insert?
        ⟨db.nextCursor, event.decisionTaskId, 0, persistedAt, none, persistedAt⟩ =
          some notifications ∧
      db' = db.withEvents runEvents notifications (db.nextCursor + 1) db.uuidsDrawn := by
  unfold insertRunEvent at h
  split at h
  · cases h
  split at h
  · cases h
  simp only [bind_eq_ok, orUnavailable_eq_ok] at h
  obtain ⟨runEvents, hevents, notifications, hnotifications, h⟩ := h
  cases h
  exact ⟨runEvents, notifications, hevents, hnotifications, rfl⟩

theorem Stamped.insertEvent (h : Stamped env db) {event : RunEvent} {persistedAt : Instant}
    {k : Nat} (hk : k < db.uuidsDrawn)
    (hid : event.eventId = "event-persistent-" ++ env.randomUUID k)
    (hsummary : isMeaningful event.summary = true)
    (hinsert : insertRunEvent event persistedAt db = .ok db') :
    Stamped env db' ∧ db'.uuidsDrawn = db.uuidsDrawn := by
  obtain ⟨runEvents, notifications, hevents, hnotifications, rfl⟩ := insertRunEvent_ok hinsert
  have hold : ∀ e ∈ (db.withEvents runEvents notifications (db.nextCursor + 1)
      db.uuidsDrawn).events, e ∈ db.events ∨ e = event := by
    intro e he
    rw [Store.events, withEvents_runEvents, Table.rows_insert? hevents, List.map_append] at he
    rcases List.mem_append.mp he with hin | hnew
    · exact .inl hin
    · exact .inr (List.mem_singleton.mp hnew)
  refine ⟨⟨?_, ?_, ?_⟩, rfl⟩
  · intro e he
    rcases hold e he with hin | rfl
    · exact h.ids e hin
    · exact ⟨k, hk, hid⟩
  · intro e he
    rcases hold e he with hin | rfl
    · exact h.summaries e hin
    · exact hsummary
  · intro notification hnotification
    rcases (Table.mem_insert? hnotifications).mp hnotification with hin | rfl
    · exact Nat.lt_succ_of_lt (h.notified notification hin)
    · exact Nat.lt_succ_self _

theorem Stamped.insertEvents (h : Stamped env db) {persistedAt : Instant}
    {events : List RunEvent}
    (hevents : ∀ event ∈ events, (∃ k < db.uuidsDrawn,
      event.eventId = "event-persistent-" ++ env.randomUUID k) ∧
        isMeaningful event.summary = true)
    (hinsert : insertRunEvents persistedAt events db = .ok db') : Stamped env db' := by
  induction events generalizing db with
  | nil =>
    cases hinsert
    exact h
  | cons event events ih =>
    simp only [insertRunEvents, bind_eq_ok] at hinsert
    obtain ⟨db₁, hfirst, hrest⟩ := hinsert
    obtain ⟨⟨k, hk, hid⟩, hsummary⟩ := hevents event List.mem_cons_self
    obtain ⟨hstamped, hdrawn⟩ := h.insertEvent hk hid hsummary hfirst
    apply ih hstamped _ hrest
    intro other hother
    rw [hdrawn]
    exact hevents other (List.mem_cons_of_mem _ hother)

theorem Stamped.draw (h : Stamped env db) (count : Nat) :
    Stamped env { db with uuidsDrawn := db.uuidsDrawn + count } :=
  h.of_same (.of_eq rfl rfl (Nat.le_refl _) (Nat.le_add_right _ _))

theorem Stamped.insertTask (h : Stamped env db) {decisionTaskId agentRunId summary : String}
    {sequence : Nat} {eventType : RunEventType} {taskState : TaskState} {occurredAt : Instant}
    (hinsert : insertTaskEvent env decisionTaskId agentRunId sequence eventType taskState summary
      occurredAt db = .ok db') (hsummary : isMeaningful summary = true) : Stamped env db' :=
  ((h.draw 1).insertEvent (Nat.lt_succ_self _) rfl hsummary hinsert).1

/-- Events under the ids that are drawn next, with public texts. -/
structure Drafted (env : Environment) (db : Store) (events : List RunEvent) : Prop where
  ids : events.map RunEvent.eventId = (List.range events.length).map (db.eventId env)
  summaries : ∀ event ∈ events, isMeaningful event.summary = true

theorem Drafted.id (h : Drafted env db events) {event : RunEvent} (hevent : event ∈ events) :
    ∃ index < events.length, event.eventId = db.eventId env index := by
  have hmem := List.mem_map_of_mem (f := RunEvent.eventId) hevent
  rw [h.ids] at hmem
  obtain ⟨index, hindex, heq⟩ := List.mem_map.mp hmem
  exact ⟨index, List.mem_range.mp hindex, heq.symm⟩

theorem Stamped.insertDrafted (h : Stamped env db) {persistedAt : Instant} {events : List RunEvent}
    (hdrafted : Drafted env db events)
    (hinsert : insertRunEvents persistedAt events
      { db with uuidsDrawn := db.uuidsDrawn + events.length } = .ok db') : Stamped env db' := by
  apply (h.draw events.length).insertEvents _ hinsert
  intro event hevent
  obtain ⟨index, hindex, hid⟩ := hdrafted.id hevent
  exact ⟨⟨db.uuidsDrawn + index, Nat.add_lt_add_left hindex _, hid⟩,
    hdrafted.summaries event hevent⟩

theorem isMeaningful_approved : ∀ summary ∈ approvedRuntimeSummaries,
    isMeaningful summary = true := by decide

theorem isMeaningful_publicTaskStateSummaries (state : TaskState) :
    isMeaningful (publicTaskStateSummaries state) = true := by
  cases state with
  | paused reason => cases reason <;> decide
  | _ => decide

theorem isMeaningful_publicRuntimeEventSummary (event : RunEvent) :
    isMeaningful (publicRuntimeEventSummary event) = true := by
  unfold publicRuntimeEventSummary
  split
  · rename_i happroved
    exact isMeaningful_approved _ happroved
  · exact isMeaningful_publicTaskStateSummaries _

section Drafts
variable {row : Operation} {count : Nat} {events : List RunEvent}

theorem length_renumber : (renumber env row count db events).length = events.length := by
  rw [renumber, List.length_map, List.length_zipIdx]

theorem drafted_renumber : Drafted env db (renumber env row count db events) := by
  constructor
  · have hids : (RunEvent.eventId ∘ fun (pair : RunEvent × Nat) =>
        { pair.1 with
          eventId := db.eventId env pair.2
          decisionTaskId := row.decisionTaskId
          agentRunId := row.agentRunId
          sequence := count + pair.2 + 1
          summary := publicRuntimeEventSummary pair.1 }) = db.eventId env ∘ Prod.snd := rfl
    rw [length_renumber]
    unfold renumber
    rw [List.map_map]
    refine (congrArg (List.map · events.zipIdx) hids).trans ?_
    rw [← List.map_map, List.zipIdx_map_snd, List.range_eq_range']
  · intro event hevent
    obtain ⟨⟨old, index⟩, -, rfl⟩ := List.mem_map.mp hevent
    exact isMeaningful_publicRuntimeEventSummary old

theorem Drafted.of_fields {events' : List RunEvent} (h : Drafted env db events)
    (hids : events'.map RunEvent.eventId = events.map RunEvent.eventId)
    (hsummaries : events'.map RunEvent.summary = events.map RunEvent.summary) :
    Drafted env db events' := by
  have hlength : events'.length = events.length := by simpa using congrArg List.length hids
  refine ⟨?_, ?_⟩
  · rw [hids, hlength, h.ids]
  · intro event hevent
    have hmem := List.mem_map_of_mem (f := RunEvent.summary) hevent
    rw [hsummaries] at hmem
    obtain ⟨source, hsource, heq⟩ := List.mem_map.mp hmem
    rw [← heq]
    exact h.summaries source hsource

theorem drafted_single {event : RunEvent} (hid : event.eventId = db.eventId env 0)
    (hsummary : isMeaningful event.summary = true) : Drafted env db [event] := by
  refine ⟨congrArg (fun id => [id]) hid, ?_⟩
  intro other hother
  rw [List.mem_singleton.mp hother]
  exact hsummary

theorem drafted_nil : Drafted env db [] := by
  refine ⟨rfl, ?_⟩
  intro event hevent
  cases hevent

theorem drafted_resultEvents {outcome : DecisionTaskResult} :
    Drafted env db (resultEvents env row outcome now db) := by
  have hnew : Drafted env db (renumber env row
      (db.runEventsOf row.decisionTaskId row.agentRunId).length db (resultEventsToPersist
        (db.runEventsOf row.decisionTaskId row.agentRunId) (resultRunEvents outcome))) :=
    drafted_renumber
  refine hnew.of_fields ?_ ?_ <;> exact map_zipIdx_keeps (fun _ _ => rfl) _

theorem drafted_pausedEvents {outcome : RuntimePausedOutcome} {existingEvents : List RunEvent} :
    Drafted env db (pausedEventsToPersist env row outcome now existingEvents db) := by
  unfold pausedEventsToPersist
  simp only
  split
  · split
    · exact drafted_single rfl (isMeaningful_publicRuntimeEventSummary _)
    · exact drafted_nil
  · have hnew : Drafted env db (renumber env row existingEvents.length db
        (outcome.runEvents.filter fun event =>
          event.taskState ∉ existingEvents.map RunEvent.taskState)) := drafted_renumber
    refine hnew.of_fields ?_ ?_ <;> rw [List.map_map] <;> rfl

end Drafts

/-! ### Calls -/

section Calls
variable {operationId workerId : String} {row : Operation}

theorem Stamped.same (h : Stamped env db) (hevents : db'.runEvents = db.runEvents)
    (hnotifications : db'.notifications = db.notifications)
    (hcursor : db'.nextCursor = db.nextCursor) (hdrawn : db'.uuidsDrawn = db.uuidsDrawn) :
    Stamped env db' :=
  h.of_same (.of_eq hevents hnotifications hcursor.ge hdrawn.ge)

theorem Stamped.submit (h : Stamped env db) {command : ExecuteDecisionTaskCommand}
    {ownerUserId : String} {snapshot : DecisionTaskSnapshot}
    (hsubmit : submit env command ownerUserId now db = .ok (snapshot, db')) :
    Stamped env db' := by
  rcases submit_ok hsubmit with rfl | hinsert
  · exact h
  simp only [insertSubmission, bind_eq_ok, orUnavailable_eq_ok] at hinsert
  obtain ⟨submissions, -, db₁, hoperation, db₂, hrun, db₃, houtbox, hevent⟩ := hinsert
  obtain ⟨-, operations, -, rfl⟩ := insertOperation_ok hoperation
  obtain ⟨agentRuns, -, rfl, -⟩ := insertAgentRun_ok hrun
  obtain ⟨outbox, -, rfl, -⟩ := insertOutboxMessage_ok houtbox
  refine Stamped.insertTask ?_ hevent (by decide)
  exact (h.draw 3).same rfl rfl rfl rfl

theorem Stamped.claimAgentRun (h : Stamped env db) {agentRunId : String}
    (hclaim : claimAgentRun env row now db = .ok (agentRunId, db')) : Stamped env db' := by
  unfold TaskPersistence.claimAgentRun at hclaim
  split at hclaim
  · simp only [bind_eq_ok] at hclaim
    obtain ⟨db₁, hrun, db₂, hevent, hclaim⟩ := hclaim
    cases hclaim
    obtain ⟨agentRuns, -, rfl, -⟩ := insertAgentRun_ok hrun
    refine Stamped.insertTask ?_ hevent (by decide)
    exact (h.draw 1).same rfl rfl rfl rfl
  · cases hclaim
    exact h

theorem Stamped.recordRunning (h : Stamped env db) {decisionTaskId agentRunId : String}
    (hrecord : recordRunning env decisionTaskId agentRunId now db = .ok db') :
    Stamped env db' := by
  simp only [TaskPersistence.recordRunning, bind_eq_ok] at hrecord
  obtain ⟨existingEvents, -, hrecord⟩ := hrecord
  split at hrecord
  · exact h.insertTask hrecord (by decide)
  · cases hrecord
    exact h

theorem Stamped.claimNext (h : Stamped env db) {leaseDurationMs : Nat}
    {result : DecisionTaskClaimResult}
    (hclaim : claimNext env operationId workerId leaseDurationMs now db = .ok (result, db')) :
    Stamped env db' := by
  rcases claimNext_ok hclaim with ⟨-, rfl⟩ | ⟨row, claim, db₁, -, -, -, -, hrun, -, hrecord⟩
  · exact h
  · refine Stamped.recordRunning ?_ hrecord
    exact (h.claimAgentRun hrun).same rfl rfl rfl rfl

theorem Stamped.recordResuming (h : Stamped env db) {request : ControlRequest}
    (hrecord : recordResuming env request now db = .ok db') : Stamped env db' := by
  unfold TaskPersistence.recordResuming at hrecord
  split at hrecord
  · cases hrecord
    exact h
  · simp only [bind_eq_ok] at hrecord
    obtain ⟨existingEvents, -, hevent⟩ := hrecord
    exact h.insertTask hevent (by decide)

theorem Stamped.claimNextRuntimeControl (h : Stamped env db) {leaseDurationMs : Nat}
    {skipped : List String} {result : RuntimeControlClaimResult}
    (hclaim : claimNextRuntimeControl env workerId leaseDurationMs skipped now db =
      .ok (result, db')) : Stamped env db' := by
  unfold TaskPersistence.claimNextRuntimeControl at hclaim
  split at hclaim
  · cases hclaim
    exact h
  split at hclaim
  · cases hclaim
    exact h.same rfl rfl rfl rfl
  split at hclaim
  · cases hclaim
    exact h.same rfl rfl rfl rfl
  simp only at hclaim
  split at hclaim
  · simp only [leaseControl, bind_eq_ok] at hclaim
    obtain ⟨db₁, hrecord, hclaim⟩ := hclaim
    cases hclaim
    refine Stamped.recordResuming ?_ hrecord
    exact h.same rfl rfl rfl rfl
  · unfold denyControl at hclaim
    split at hclaim
    · simp only [bind_eq_ok] at hclaim
      obtain ⟨existingEvents, -, db₁, hevent, hclaim⟩ := hclaim
      cases hclaim
      refine Stamped.insertTask ?_ hevent (by decide)
      exact h.same rfl rfl rfl rfl
    · cases hclaim
      exact h.same rfl rfl rfl rfl

theorem isMeaningful_getPublicOutcomeSummary (state : OperationState) :
    isMeaningful (getPublicOutcomeSummary state) = true := by
  unfold getPublicOutcomeSummary
  split <;> decide

theorem Stamped.persistOutcome (h : Stamped env db) {payload : PersistentOutcome}
    {completion : DecisionTaskCompletion}
    (hpersist : persistOutcome env row payload now db = .ok (completion, db')) :
    Stamped env db' := by
  cases payload with
  | paused outcome =>
    simp only [TaskPersistence.persistOutcome, persistPausedRunEvents, bind_eq_ok] at hpersist
    obtain ⟨_, ⟨existingEvents, -, db₁, hinsert, persisted, -, hpair⟩, hpersist⟩ := hpersist
    cases hpair
    have hstamped := h.insertDrafted drafted_pausedEvents hinsert
    split at hpersist
    · cases hpersist
    · simp only [bind_eq_ok] at hpersist
      obtain ⟨snapshot, -, hpersist⟩ := hpersist
      cases hpersist
      exact hstamped.same rfl rfl rfl rfl
  | result outcome =>
    simp only [TaskPersistence.persistOutcome, bind_eq_ok] at hpersist
    obtain ⟨⟨persisted, db₁⟩, hresult, hpersist⟩ := hpersist
    have hstamped : Stamped env db₁ := by
      simp only [persistResultRunEvents, bind_eq_ok] at hresult
      obtain ⟨existingEvents, hload, hresult⟩ := hresult
      rw [loadRunEvents_eq hload] at hresult
      split at hresult
      · cases hresult
      simp only [bind_eq_ok] at hresult
      obtain ⟨db₂, hinsert, hresult⟩ := hresult
      split at hresult
      · cases hresult
      simp only [bind_eq_ok] at hresult
      obtain ⟨_, -, hresult⟩ := hresult
      cases hresult
      exact h.insertDrafted drafted_resultEvents hinsert
    simp only at hpersist
    split at hpersist
    · cases hpersist
    split at hpersist
    · cases hpersist
      exact hstamped.same rfl rfl rfl rfl
    · simp only [bind_eq_ok] at hpersist
      obtain ⟨snapshot, -, hpersist⟩ := hpersist
      cases hpersist
      exact hstamped.same rfl rfl rfl rfl
  | failure outcome =>
    simp only [TaskPersistence.persistOutcome, bind_eq_ok] at hpersist
    obtain ⟨existingEvents, -, db₁, hevent, snapshot, -, hpersist⟩ := hpersist
    cases hpersist
    exact h.insertTask hevent (isMeaningful_getPublicOutcomeSummary _)

theorem Stamped.complete (h : Stamped env db) {outcome : PersistentOutcome}
    {controlRequestId : Option String} {completion : DecisionTaskCompletion}
    (hcomplete : complete env operationId workerId outcome controlRequestId now db =
      .ok (completion, db')) : Stamped env db' := by
  rcases complete_ok hcomplete with ⟨-, rfl⟩ | ⟨-, row, decoded, db₁, -, -, -, hpersist, -, rfl⟩
  · exact h
  · have hstamped : Stamped env db₁ := by
      refine Stamped.persistOutcome ?_ hpersist
      exact h.same rfl rfl rfl rfl
    exact hstamped.same rfl rfl rfl rfl

theorem Stamped.requestRuntimeCancel (h : Stamped env db) {input : RuntimeCancelRequestInput}
    {status : Option RuntimeControlStatus}
    (hrequest : requestRuntimeCancel env input now db = .ok (status, db')) :
    Stamped env db' := by
  unfold TaskPersistence.requestRuntimeCancel at hrequest
  split at hrequest
  · cases hrequest
    exact h
  simp only at hrequest
  split at hrequest
  · split at hrequest
    · simp only [bind_eq_ok] at hrequest
      obtain ⟨_, -, hrequest⟩ := hrequest
      cases hrequest
      exact h
    · cases hrequest
  · split at hrequest
    · cases hrequest
    simp only [bind_eq_ok] at hrequest
    obtain ⟨existingEvents, -, db₁, hinsert, db₂, hcontrol, db₃, hevent, _, -, hrequest⟩ :=
      hrequest
    cases hrequest
    obtain ⟨-, controlRequests, -, rfl⟩ := insertControlRequest_ok hinsert
    obtain ⟨controlStates, rfl, -⟩ := cancelControlState_ok hcontrol
    refine Stamped.insertTask ?_ hevent (by decide)
    exact h.same rfl rfl rfl rfl

theorem sameLog_erased (ownerUserId : String) : SameLog db (db.erased env ownerUserId) where
  events event hevent := by
    obtain ⟨row, hrow, rfl⟩ := List.mem_map.mp hevent
    exact List.mem_map_of_mem (Table.mem_deleteWhere.mp hrow).1
  notifications notification hnotification := (Table.mem_deleteWhere.mp hnotification).1
  cursor_le := Nat.le_refl _
  drawn_le := Nat.le_refl _

end Calls

/-! ### Every reachable state -/

theorem Stamped.perform (h : Stamped env db) {action : Action} {reply : Reply}
    (hperform : perform env now db action = .ok (reply, db')) : Stamped env db' := by
  cases action with
  | submit command ownerUserId =>
    simp only [TaskPersistence.perform, bind_eq_ok] at hperform
    obtain ⟨⟨snapshot, _⟩, hsubmit, hperform⟩ := hperform
    cases hperform
    exact h.submit hsubmit
  | claimNext operationId workerId leaseDurationMs =>
    simp only [TaskPersistence.perform, bind_eq_ok] at hperform
    obtain ⟨⟨result, _⟩, hclaim, hperform⟩ := hperform
    cases hperform
    exact h.claimNext hclaim
  | claimNextRuntimeControl workerId leaseDurationMs skipped =>
    simp only [TaskPersistence.perform, bind_eq_ok] at hperform
    obtain ⟨⟨result, _⟩, hclaim, hperform⟩ := hperform
    cases hperform
    exact h.claimNextRuntimeControl hclaim
  | complete operationId workerId outcome controlRequestId =>
    simp only [TaskPersistence.perform, bind_eq_ok] at hperform
    obtain ⟨⟨completion, _⟩, hcomplete, hperform⟩ := hperform
    cases hperform
    exact h.complete hcomplete
  | requestRuntimeCancel input =>
    simp only [TaskPersistence.perform, bind_eq_ok] at hperform
    obtain ⟨⟨status, _⟩, hrequest, hperform⟩ := hperform
    cases hperform
    exact h.requestRuntimeCancel hrequest
  | purgePrivateDataForOwner ownerUserId =>
    simp only [TaskPersistence.perform, bind_eq_ok] at hperform
    obtain ⟨⟨result, _⟩, hpurge, hperform⟩ := hperform
    cases hperform
    rw [purgePrivateDataForOwner_ok hpurge]
    exact h.of_same (sameLog_erased ownerUserId)
  | requestRuntimeResume input =>
    simp only [TaskPersistence.perform, bind_eq_ok] at hperform
    obtain ⟨⟨status, _⟩, hrequest, hperform⟩ := hperform
    cases hperform
    rcases requestRuntimeResume_ok hrequest with rfl | ⟨operation, -, -, hinsert⟩
    · exact h
    · obtain ⟨-, controlRequests, -, rfl⟩ := insertControlRequest_ok hinsert
      exact h.same rfl rfl rfl rfl
  | putRawSnapshot payload =>
    simp only [TaskPersistence.perform, bind_eq_ok] at hperform
    obtain ⟨⟨reference, _⟩, hput, hperform⟩ := hperform
    cases hperform
    obtain ⟨_, -, rfl⟩ := putRawSnapshot_ok hput
    exact h.same rfl rfl rfl rfl
  | putEffectResult identity payload =>
    simp only [TaskPersistence.perform, bind_eq_ok] at hperform
    obtain ⟨⟨reference, _⟩, hput, hperform⟩ := hperform
    cases hperform
    obtain ⟨_, _, -, -, rfl⟩ := putEffectResult_ok hput
    exact h.same rfl rfl rfl rfl
  | saveRecoveryFacts snapshot effectReceipts =>
    simp only [TaskPersistence.perform, bind_eq_ok] at hperform
    obtain ⟨_, hsave, hperform⟩ := hperform
    cases hperform
    obtain ⟨-, -, _, _, _, rfl, -⟩ := saveRecoveryFacts_ok hsave
    exact h.same rfl rfl rfl rfl
  | publishNext retryDelayMs republishDelayMs delivered skipped =>
    simp only [TaskPersistence.perform] at hperform
    cases hperform
    obtain ⟨outbox, hframe, -⟩ :=
      publishNext_frame env retryDelayMs republishDelayMs delivered skipped now db
    rw [hframe]
    exact h.same rfl rfl rfl rfl
  | recordRuntimeRunning agentRunId controllerId leaseDurationMs =>
    simp only [TaskPersistence.perform, bind_eq_ok] at hperform
    obtain ⟨_, hrecord, hperform⟩ := hperform
    cases hperform
    obtain ⟨_, rfl, -⟩ := recordRuntimeRunning_ok hrecord
    exact h.same rfl rfl rfl rfl
  | claimRuntimeResume agentRunId snapshotId controllerId leaseDurationMs =>
    simp only [TaskPersistence.perform, bind_eq_ok] at hperform
    obtain ⟨⟨claim, _⟩, hclaim, hperform⟩ := hperform
    cases hperform
    obtain ⟨_, rfl, -⟩ := claimRuntimeResume_ok hclaim
    exact h.same rfl rfl rfl rfl
  | completeRuntimeControl agentRunId controllerId expected next state runEvents =>
    simp only [TaskPersistence.perform, bind_eq_ok] at hperform
    obtain ⟨_, hcomplete, hperform⟩ := hperform
    cases hperform
    obtain ⟨_, rfl, -⟩ := completeRuntimeControl_ok hcomplete
    exact h.same rfl rfl rfl rfl
  | claimRuntimeCancel agentRunId cancellationId runEvents =>
    simp only [TaskPersistence.perform, bind_eq_ok] at hperform
    obtain ⟨⟨claim, _⟩, hclaim, hperform⟩ := hperform
    cases hperform
    obtain ⟨_, rfl, -⟩ := claimRuntimeCancel_ok hclaim
    exact h.same rfl rfl rfl rfl
  | appendEgressRecord record =>
    simp only [TaskPersistence.perform, bind_eq_ok] at hperform
    obtain ⟨_, happend, hperform⟩ := hperform
    cases hperform
    obtain ⟨_, -, rfl⟩ := appendEgressRecord_ok happend
    exact h.same rfl rfl rfl rfl
  | appendAuditRecord record =>
    simp only [TaskPersistence.perform, bind_eq_ok] at hperform
    obtain ⟨_, happend, hperform⟩ := hperform
    cases hperform
    obtain ⟨_, -, rfl⟩ := appendAuditRecord_ok happend
    exact (h.draw 1).same rfl rfl rfl rfl
  | saveEncryptedCredential key envelope =>
    simp only [TaskPersistence.perform, bind_eq_ok] at hperform
    obtain ⟨_, hsave, hperform⟩ := hperform
    cases hperform
    obtain ⟨_, rfl, -⟩ := saveEncryptedCredential_ok hsave
    exact h.same rfl rfl rfl rfl
  | deleteEncryptedCredential key =>
    cases hperform
    exact h.same rfl rfl rfl rfl
  | saveEvidence row =>
    cases hperform
    obtain ⟨evidenceIndex, hframe, -⟩ := saveEvidence_eq row db
    rw [hframe]
    exact h.same rfl rfl rfl rfl
  | skipCursors count =>
    cases hperform
    exact h.of_same (.of_eq rfl rfl (Nat.le_add_right _ _) (Nat.le_refl _))

theorem stamped_of_run {es : List (Entry Store (Instant × Action) Reply)}
    (h : Run (step env) Store.empty es db) : Stamped env db := by
  refine h.invariant (G := fun _ _ => True) ?_ (fun _ _ => trivial) stamped_empty
  intro s t a r hs _ hstep
  obtain ⟨now, action⟩ := a
  rcases step_cases hstep with hperform | ⟨-, rfl⟩
  · exact hs.perform hperform
  · exact hs

/-! ### Events that can be inserted -/

/-- The events are for registered runs, under ids, numbers and cursors that are free. -/
structure EventsInsertable (db : Store) (events : List RunEvent) : Prop where
  registered : ∀ event ∈ events, ∃ run ∈ db.agentRuns, run.agentRunId = event.agentRunId
  ids : ∀ event ∈ events, ∀ row ∈ db.runEvents, row.event.eventId ≠ event.eventId
  sequences : ∀ event ∈ events, ∀ row ∈ db.runEvents,
    row.event.agentRunId = event.agentRunId → row.event.sequence ≠ event.sequence
  distinctIds : events.Pairwise fun a b => a.eventId ≠ b.eventId
  distinctSequences : events.Pairwise fun a b => a.sequence ≠ b.sequence
  cursors : ∀ row ∈ db.runEvents, row.cursor < db.nextCursor
  notified : ∀ notification ∈ db.notifications, notification.eventCursor < db.nextCursor

theorem EventsInsertable.insert {event : RunEvent} {events : List RunEvent}
    (h : EventsInsertable db (event :: events)) (persistedAt : Instant) :
    ∃ db₁, insertRunEvent event persistedAt db = .ok db₁ ∧ EventsInsertable db₁ events := by
  have hrun : (db.agentRuns.find? event.agentRunId).isNone = false := by
    obtain ⟨run, hmem, hkey⟩ := h.registered event List.mem_cons_self
    rw [← hkey, Table.find?_of_mem hmem]
    rfl
  have hfree : (db.runEvents.rows.any fun row => row.event.eventId = event.eventId ||
      (row.event.agentRunId = event.agentRunId && row.event.sequence = event.sequence)) =
        false := by
    rw [List.any_eq_false]
    intro row hrow htaken
    simp only [Bool.or_eq_true, Bool.and_eq_true, decide_eq_true_eq] at htaken
    rcases htaken with hid | ⟨hof, hsequence⟩
    · exact h.ids event List.mem_cons_self row hrow hid
    · exact h.sequences event List.mem_cons_self row hrow hof hsequence
  obtain ⟨runEvents, hevents⟩ := Table.exists_insert? (t := db.runEvents)
    (r := ⟨db.nextCursor, event, persistedAt⟩) fun row hrow => (h.cursors row hrow).ne
  obtain ⟨notifications, hnotifications⟩ := Table.exists_insert? (t := db.notifications)
    (r := ⟨db.nextCursor, event.decisionTaskId, 0, persistedAt, none, persistedAt⟩)
    fun notification hnotification => (h.notified notification hnotification).ne
  refine ⟨db.withEvents runEvents notifications (db.nextCursor + 1) db.uuidsDrawn, ?_, ?_⟩
  · unfold insertRunEvent
    rw [if_neg (by rw [hrun]; exact Bool.false_ne_true),
      if_neg (by rw [hfree]; exact Bool.false_ne_true), hevents, hnotifications]
    rfl
  have hrows : ∀ row ∈ runEvents, row ∈ db.runEvents ∨
      row = ⟨db.nextCursor, event, persistedAt⟩ := fun row => (Table.mem_insert? hevents).mp
  have hids := List.pairwise_cons.mp h.distinctIds
  have hsequences := List.pairwise_cons.mp h.distinctSequences
  refine ⟨?_, ?_, ?_, hids.2, hsequences.2, ?_, ?_⟩
  · intro other hother
    exact h.registered other (List.mem_cons_of_mem _ hother)
  · intro other hother row hrow
    rcases hrows row hrow with hold | rfl
    · exact h.ids other (List.mem_cons_of_mem _ hother) row hold
    · exact hids.1 other hother
  · intro other hother row hrow hof
    rcases hrows row hrow with hold | rfl
    · exact h.sequences other (List.mem_cons_of_mem _ hother) row hold hof
    · exact hsequences.1 other hother
  · intro row hrow
    rcases hrows row hrow with hold | rfl
    · exact Nat.lt_succ_of_lt (h.cursors row hold)
    · exact Nat.lt_succ_self _
  · intro notification hnotification
    rcases (Table.mem_insert? hnotifications).mp hnotification with hold | rfl
    · exact Nat.lt_succ_of_lt (h.notified notification hold)
    · exact Nat.lt_succ_self _

theorem EventsInsertable.insertAll {events : List RunEvent} (h : EventsInsertable db events)
    (persistedAt : Instant) : ∃ db', insertRunEvents persistedAt events db = .ok db' := by
  induction events generalizing db with
  | nil => exact ⟨db, rfl⟩
  | cons event events ih =>
    obtain ⟨db₁, hfirst, hrest⟩ := h.insert persistedAt
    obtain ⟨db', hall⟩ := ih hrest
    exact ⟨db', bind_eq_ok.mpr ⟨db₁, hfirst, hall⟩⟩

theorem EventsInsertable.of_eq (h : EventsInsertable db events) (hruns : db'.agentRuns = db.agentRuns)
    (hevents : db'.runEvents = db.runEvents) (hnotifications : db'.notifications = db.notifications)
    (hcursor : db'.nextCursor = db.nextCursor) : EventsInsertable db' events where
  registered := hruns ▸ h.registered
  ids := hevents ▸ h.ids
  sequences := hevents ▸ h.sequences
  distinctIds := h.distinctIds
  distinctSequences := h.distinctSequences
  cursors := by
    rw [hevents, hcursor]
    exact h.cursors
  notified := by
    rw [hnotifications, hcursor]
    exact h.notified

/-- Drafted events that continue the log of an operation's run can be inserted. -/
theorem insertable_of_drafted (hnumbered : Numbered env db) (hstamped : Stamped env db)
    {row : Operation} (hrow : row ∈ db.operations) (hdrafted : Drafted env db events)
    (hcontinues : Continues db row events) : EventsInsertable db events where
  registered event hevent := by
    have hrun := hnumbered.unique.registered.operations row hrow
    rw [Store.runOperation, Option.map_eq_some_iff] at hrun
    obtain ⟨run, hfound, -⟩ := hrun
    obtain ⟨hmem, hkey⟩ := Table.find?_eq_some.mp hfound
    exact ⟨run, hmem, hkey.trans (hcontinues.agentRunId event hevent).symm⟩
  ids event hevent old hold hsame := by
    obtain ⟨index, -, hid⟩ := hdrafted.id hevent
    obtain ⟨k, hk, hdrawn⟩ := hstamped.ids old.event (List.mem_map_of_mem hold)
    rw [hid, hdrawn] at hsame
    have hindex := env.randomUUID_injective ((String.append_right_inj _).mp hsame)
    omega
  sequences event hevent old hold hof hsame := by
    have hlog := hnumbered.sequenced.numbered row.agentRunId
    have hcurrent : db.runEventsOf row.decisionTaskId row.agentRunId = db.logOf row.agentRunId :=
      hnumbered.unique.logged.currentLog hrow
    have holdMem : old.event ∈ db.logOf row.agentRunId := by
      rw [← hcontinues.agentRunId event hevent, ← hof]
      exact mem_logOf hold
    have holdSequence := List.mem_map_of_mem (f := RunEvent.sequence) holdMem
    have hnewSequence := List.mem_map_of_mem (f := RunEvent.sequence) hevent
    rw [hlog, List.mem_range'_1] at holdSequence
    rw [hcontinues.sequence, hcurrent, List.mem_range'_1] at hnewSequence
    omega
  distinctIds := by
    have hpairs : (events.map RunEvent.eventId).Nodup := by
      rw [hdrafted.ids]
      apply List.nodup_range.map
      intro a b hsame
      have hindex := env.randomUUID_injective ((String.append_right_inj _).mp hsame)
      omega
    exact List.pairwise_map.mp hpairs
  distinctSequences := by
    have hpairs : (events.map RunEvent.sequence).Nodup := by
      rw [hcontinues.sequence]
      exact List.nodup_range'
    exact List.pairwise_map.mp hpairs
  cursors := hnumbered.keyed.drawn
  notified := hstamped.notified

end ChoiceMind.TaskPersistence
