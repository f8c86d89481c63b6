import ChoiceMind.TaskPersistence.Store

/-!
# The persisted event log

Inserting run events with their notifications, and reading the log of a run back.
-/

namespace ChoiceMind.TaskPersistence

set_option autoImplicit false

open Contracts

def publicTaskStateSummaries : TaskState → String
  | .created => "决策任务已创建"
  | .understanding => "正在理解需求"
  | .planning => "正在规划决策步骤"
  | .researching => "正在收集候选与证据"
  | .verifying => "正在核验候选与证据"
  | .gapResearch => "正在补充证据缺口"
  | .comparing => "正在比较可行候选"
  | .critiquing => "正在检查风险与反例"
  | .generating => "正在生成可审查决策"
  | .paused .user => "等待用户补充信息"
  | .paused .permission => "等待必要权限"
  | .paused .sourceLogin => "等待数据源登录"
  | .paused .limit => "因资源限制暂停"
  | .completed => "决策任务已完成"
  | .failed => "决策任务执行失败"
  | .cancelled => "决策任务已取消"

def approvedRuntimeSummaries : List String :=
  ["Runtime 已复用权威副作用结果并完成",
   "副作用状态需要人工核验（EFFECT_STATUS_UNSAFE）",
   "已提交副作用的权威结果不可用（EFFECT_RESULT_UNAVAILABLE）",
   "已提交副作用的结果完整性校验失败（EFFECT_RESULT_INVALID）",
   "已提交副作用的结果合同无效（EFFECT_RESULT_INVALID）",
   "恢复事实包含冲突的 Decision 草稿结果（EFFECT_RESULT_INVALID）"]

def publicRuntimeEventSummary (event : RunEvent) : String :=
  if event.summary ∈ approvedRuntimeSummaries then event.summary
  else publicTaskStateSummaries event.taskState

namespace Store

/-- The store after only the event log, its sequence and the UUID source moved on. -/
def withEvents (db : Store) (runEvents : Table RunEventRow.cursor)
    (notifications : Table EventNotification.eventCursor) (nextCursor uuidsDrawn : Nat) : Store :=
  { db with runEvents, notifications, nextCursor, uuidsDrawn }

/-- All events of the log in the order of their insertion. -/
def events (db : Store) : List RunEvent := db.runEvents.rows.map RunEventRow.event

/-- The events of a run in the order of their insertion. -/
def logOf (db : Store) (agentRunId : String) : List RunEvent :=
  (db.runEvents.rows.map RunEventRow.event).filter fun event => event.agentRunId = agentRunId

/-- The rows of `loadRunEvents`, `ORDER BY run_sequence ASC`. -/
def runEventsOf (db : Store) (decisionTaskId agentRunId : String) : List RunEvent :=
  ((db.runEvents.rows.map RunEventRow.event).filter fun event =>
    event.decisionTaskId = decisionTaskId && event.agentRunId = agentRunId).insertionSort
    fun a b => a.sequence ≤ b.sequence

end Store

/-- One event and its notification. The constraints are the foreign key to the run, the
unique event id and the unique sequence number within the run. -/
def insertRunEvent (event : RunEvent) (persistedAt : Instant) (db : Store) :
    Except PersistenceError Store := do
  if (db.agentRuns.find? event.agentRunId).isNone then unavailable
  else if db.runEvents.rows.any fun row =>
      row.event.eventId = event.eventId ||
        (row.event.agentRunId = event.agentRunId && row.event.sequence = event.sequence) then
    unavailable
  else
    let runEvents ← orUnavailable (db.runEvents.insert? ⟨db.nextCursor, event, persistedAt⟩)
    let notifications ← orUnavailable (db.notifications.insert?
      ⟨db.nextCursor, event.decisionTaskId, 0, persistedAt, none, persistedAt⟩)
    .ok (db.withEvents runEvents notifications (db.nextCursor + 1) db.uuidsDrawn)

def insertRunEvents (persistedAt : Instant) : List RunEvent → Store → Except PersistenceError Store
  | [], db => .ok db
  | event :: events, db => do
    insertRunEvents persistedAt events (← insertRunEvent event persistedAt db)

def loadRunEvents (decisionTaskId agentRunId : String) (db : Store) :
    Except PersistenceError (List RunEvent) :=
  let events := db.runEventsOf decisionTaskId agentRunId
  if events.all fun event => (decodePersistedRunEventV1 event).isOk then .ok events
  else unavailable

/-- `event-persistent-${randomUUID()}`, drawn `index` UUIDs from now. -/
def Store.eventId (env : Environment) (db : Store) (index : Nat) : String :=
  "event-persistent-" ++ env.randomUUID (db.uuidsDrawn + index)

/-- An event that the module itself writes about a run. -/
def taskEvent (env : Environment) (decisionTaskId agentRunId : String) (sequence : Nat)
    (eventType : RunEventType) (taskState : TaskState) (summary : String) (occurredAt : Instant)
    (db : Store) : RunEvent where
  eventId := db.eventId env 0
  decisionTaskId := decisionTaskId
  agentRunId := agentRunId
  sequence := sequence
  occurredAt := .toISOString occurredAt
  eventType := eventType
  taskState := taskState
  summary := summary

def insertTaskEvent (env : Environment) (decisionTaskId agentRunId : String) (sequence : Nat)
    (eventType : RunEventType) (taskState : TaskState) (summary : String) (occurredAt : Instant)
    (db : Store) : Except PersistenceError Store :=
  insertRunEvent
    (taskEvent env decisionTaskId agentRunId sequence eventType taskState summary occurredAt db)
    occurredAt { db with uuidsDrawn := db.uuidsDrawn + 1 }

section Frame
variable {db db' : Store} {runEvents : Table RunEventRow.cursor}
  {notifications : Table EventNotification.eventCursor} {cursor drawn : Nat}

@[simp] theorem withEvents_submissions :
    (db.withEvents runEvents notifications cursor drawn).submissions = db.submissions := rfl

@[simp] theorem withEvents_operations :
    (db.withEvents runEvents notifications cursor drawn).operations = db.operations := rfl

@[simp] theorem withEvents_agentRuns :
    (db.withEvents runEvents notifications cursor drawn).agentRuns = db.agentRuns := rfl

@[simp] theorem withEvents_controlRequests :
    (db.withEvents runEvents notifications cursor drawn).controlRequests =
      db.controlRequests := rfl

@[simp] theorem withEvents_runEvents :
    (db.withEvents runEvents notifications cursor drawn).runEvents = runEvents := rfl

@[simp] theorem withEvents_nextCursor :
    (db.withEvents runEvents notifications cursor drawn).nextCursor = cursor := rfl

@[simp] theorem withEvents_withEvents {runEvents' : Table RunEventRow.cursor}
    {notifications' : Table EventNotification.eventCursor} {cursor' drawn' : Nat} :
    (db.withEvents runEvents notifications cursor drawn).withEvents runEvents' notifications'
      cursor' drawn' = db.withEvents runEvents' notifications' cursor' drawn' := rfl

/-- Rows under values of the cursor sequence between two of its readings. -/
structure Drawn (first last : Nat) (added : List RunEventRow) : Prop where
  increasing : added.Pairwise fun a b => a.cursor < b.cursor
  bounds : ∀ row ∈ added, first ≤ row.cursor ∧ row.cursor < last
  le : first ≤ last

theorem Drawn.append {first middle last : Nat} {xs ys : List RunEventRow}
    (h : Drawn first middle xs) (h' : Drawn middle last ys) : Drawn first last (xs ++ ys) := by
  have hle := h.le
  have hle' := h'.le
  refine ⟨List.pairwise_append.mpr ⟨h.increasing, h'.increasing, ?_⟩, ?_, by omega⟩
  · intro a ha b hb
    have hbelow := (h.bounds a ha).2
    have habove := (h'.bounds b hb).1
    omega
  · intro row hrow
    rcases List.mem_append.mp hrow with hx | hy
    · have hbounds := h.bounds row hx
      omega
    · have hbounds := h'.bounds row hy
      omega

/-- The constraint of the unique column `event_id`. -/
def EventIdsUnique (runEvents : Table RunEventRow.cursor) : Prop :=
  runEvents.rows.Pairwise fun a b => a.event.eventId ≠ b.event.eventId

/-- The log grows by rows under new values of the cursor sequence. -/
def LogGrows (db db' : Store) : Prop :=
  ∃ added, db'.runEvents.rows = db.runEvents.rows ++ added ∧
    Drawn db.nextCursor db'.nextCursor added ∧
    (EventIdsUnique db.runEvents → EventIdsUnique db'.runEvents)

theorem LogGrows.of_eq (hevents : db'.runEvents = db.runEvents)
    (hcursor : db.nextCursor ≤ db'.nextCursor) : LogGrows db db' :=
  ⟨[], by rw [hevents, List.append_nil], ⟨.nil, by simp, hcursor⟩, fun h => hevents ▸ h⟩

theorem LogGrows.trans {db₁ : Store} (h : LogGrows db db₁) (h' : LogGrows db₁ db') :
    LogGrows db db' := by
  obtain ⟨added, hrows, hdrawn, hunique⟩ := h
  obtain ⟨added', hrows', hdrawn', hunique'⟩ := h'
  exact ⟨added ++ added', by rw [hrows', hrows, List.append_assoc], hdrawn.append hdrawn',
    fun hids => hunique' (hunique hids)⟩

theorem LogGrows.of_start {db₁ : Store} (h : LogGrows db₁ db')
    (hevents : db₁.runEvents = db.runEvents) (hcursor : db₁.nextCursor = db.nextCursor) :
    LogGrows db db' := by
  unfold LogGrows at h
  rwa [hevents, hcursor] at h

/-- `db'` is `db` with the given events appended to the log and notified. -/
def Appends (db : Store) (events : List RunEvent) (db' : Store) : Prop :=
  ∃ runEvents notifications cursor drawn,
    db' = db.withEvents runEvents notifications cursor drawn ∧
    db.uuidsDrawn ≤ drawn ∧
    (∃ added, runEvents.rows = db.runEvents.rows ++ added ∧
      added.map RunEventRow.event = events ∧ Drawn db.nextCursor cursor added ∧
      (EventIdsUnique db.runEvents → EventIdsUnique runEvents)) ∧
    (∀ event ∈ events, ∃ run ∈ db.agentRuns, run.agentRunId = event.agentRunId)

theorem Appends.refl (db : Store) : Appends db [] db :=
  ⟨db.runEvents, db.notifications, db.nextCursor, db.uuidsDrawn, rfl, le_refl _,
    ⟨[], by simp, rfl, ⟨.nil, by simp, le_refl _⟩, id⟩, by simp⟩

theorem Appends.trans {db₁ db₂ db₃ : Store} {xs ys : List RunEvent} (h : Appends db₁ xs db₂)
    (h' : Appends db₂ ys db₃) : Appends db₁ (xs ++ ys) db₃ := by
  obtain ⟨ev, no, c, d, rfl, hle, ⟨added, hrows, hadded, hkeys, hids⟩, hruns⟩ := h
  obtain ⟨ev', no', c', d', rfl, hle', ⟨added', hrows', hadded', hkeys', hids'⟩, hruns'⟩ := h'
  refine ⟨ev', no', c', d', rfl, le_trans hle hle', ⟨added ++ added', ?_, ?_,
    hkeys.append hkeys', fun hunique => hids' (hids hunique)⟩, ?_⟩
  · rw [hrows', withEvents_runEvents, hrows, List.append_assoc]
  · rw [List.map_append, hadded, hadded']
  · intro event hevent
    rcases List.mem_append.mp hevent with hx | hy
    · exact hruns event hx
    · exact hruns' event hy

variable {events : List RunEvent}

theorem Appends.submissions (h : Appends db events db') : db'.submissions = db.submissions := by
  obtain ⟨_, _, _, _, rfl, -⟩ := h
  rfl

theorem Appends.operations (h : Appends db events db') : db'.operations = db.operations := by
  obtain ⟨_, _, _, _, rfl, -⟩ := h
  rfl

theorem Appends.agentRuns (h : Appends db events db') : db'.agentRuns = db.agentRuns := by
  obtain ⟨_, _, _, _, rfl, -⟩ := h
  rfl

theorem Appends.controlRequests (h : Appends db events db') :
    db'.controlRequests = db.controlRequests := by
  obtain ⟨_, _, _, _, rfl, -⟩ := h
  rfl

theorem Appends.outbox (h : Appends db events db') : db'.outbox = db.outbox := by
  obtain ⟨_, _, _, _, rfl, -⟩ := h
  rfl

theorem Appends.controlStates (h : Appends db events db') :
    db'.controlStates = db.controlStates := by
  obtain ⟨_, _, _, _, rfl, -⟩ := h
  rfl

theorem Appends.rows (h : Appends db events db') :
    ∃ added, db'.runEvents.rows = db.runEvents.rows ++ added ∧
      added.map RunEventRow.event = events := by
  obtain ⟨_, _, _, _, rfl, -, ⟨added, hrows, hevents, -⟩, -⟩ := h
  exact ⟨added, hrows, hevents⟩

theorem Appends.logGrows (h : Appends db events db') : LogGrows db db' := by
  obtain ⟨_, _, _, _, rfl, -, ⟨added, hrows, -, hkeys, hids⟩, -⟩ := h
  exact ⟨added, hrows, hkeys, hids⟩

theorem Appends.events_eq (h : Appends db events db') :
    db'.events = db.events ++ events := by
  obtain ⟨added, hrows, hadded⟩ := h.rows
  rw [Store.events, hrows, List.map_append, hadded]
  rfl

theorem Appends.drawn_le (h : Appends db events db') : db.uuidsDrawn ≤ db'.uuidsDrawn := by
  obtain ⟨_, _, _, _, rfl, hle, -⟩ := h
  exact hle

theorem Appends.logOf (h : Appends db events db') (agentRunId : String) :
    db'.logOf agentRunId =
      db.logOf agentRunId ++ events.filter fun event => event.agentRunId = agentRunId := by
  have hevents := h.events_eq
  unfold Store.events at hevents
  simp only [Store.logOf, hevents, List.filter_append]

end Frame

theorem insertRunEvent_appends {event : RunEvent} {persistedAt : Instant} {db db' : Store}
    (h : insertRunEvent event persistedAt db = .ok db') : Appends db [event] db' := by
  unfold insertRunEvent at h
  split at h
  · cases h
  rename_i hrun
  split at h
  · cases h
  rename_i hconstraints
  simp only [bind_eq_ok, orUnavailable_eq_ok] at h
  obtain ⟨runEvents, hevents, notifications, -, h⟩ := h
  cases h
  refine ⟨_, _, _, _, rfl, le_refl _, ⟨_, Table.rows_insert? hevents, rfl,
    ⟨List.pairwise_singleton _ _, ?_, Nat.le_succ _⟩, ?_⟩, ?_⟩
  · intro row hrow
    rw [List.mem_singleton.mp hrow]
    exact ⟨le_refl _, Nat.lt_succ_self _⟩
  · intro hunique
    unfold EventIdsUnique
    rw [Table.rows_insert? hevents, List.pairwise_append]
    refine ⟨hunique, List.pairwise_singleton _ _, ?_⟩
    intro row hrow other hother hsame
    rw [List.mem_singleton.mp hother] at hsame
    refine hconstraints (List.any_eq_true.mpr ⟨row, hrow, ?_⟩)
    rw [hsame]
    simp
  intro e he
  rw [List.mem_singleton.mp he]
  cases hfound : db.agentRuns.find? event.agentRunId with
  | none =>
    rw [hfound] at hrun
    exact absurd rfl hrun
  | some run => exact ⟨run, Table.find?_eq_some.mp hfound⟩

theorem insertRunEvents_appends {persistedAt : Instant} {events : List RunEvent} {db db' : Store}
    (h : insertRunEvents persistedAt events db = .ok db') : Appends db events db' := by
  induction events generalizing db with
  | nil =>
    cases h
    exact .refl _
  | cons event events ih =>
    simp only [insertRunEvents, bind_eq_ok] at h
    obtain ⟨db₁, hfirst, hrest⟩ := h
    exact (insertRunEvent_appends hfirst).trans (ih hrest)

/-- Drawing UUIDs touches no table. -/
theorem Appends.of_drawn {db db' : Store} {drawn : Nat} {events : List RunEvent}
    (h : Appends { db with uuidsDrawn := drawn } events db') (hdrawn : db.uuidsDrawn ≤ drawn) :
    Appends db events db' := by
  obtain ⟨ev, no, c, d, rfl, hle, hrows, hruns⟩ := h
  exact ⟨ev, no, c, d, rfl, le_trans hdrawn hle, hrows, hruns⟩

theorem loadRunEvents_eq {decisionTaskId agentRunId : String} {db : Store}
    {events : List RunEvent} (h : loadRunEvents decisionTaskId agentRunId db = .ok events) :
    events = db.runEventsOf decisionTaskId agentRunId := by
  simp only [loadRunEvents] at h
  split at h
  · cases h
    rfl
  · cases h

theorem insertTaskEvent_appends {env : Environment} {decisionTaskId agentRunId summary : String}
    {sequence : Nat} {eventType : RunEventType} {taskState : TaskState} {occurredAt : Instant}
    {db db' : Store}
    (h : insertTaskEvent env decisionTaskId agentRunId sequence eventType taskState summary
      occurredAt db = .ok db') :
    Appends db [taskEvent env decisionTaskId agentRunId sequence eventType taskState summary
      occurredAt db] db' :=
  (insertRunEvent_appends h).of_drawn (Nat.le_succ _)

end ChoiceMind.TaskPersistence
