import ChoiceMind.TaskPersistence.Runs

/-!
# Operations and their event logs

The last event of an operation's current run tells the state of the operation, except
where a completion or a denial appends nothing, or another state, to the log.
-/

namespace ChoiceMind.TaskPersistence

set_option autoImplicit false

open Contracts Transition

/-- The task state that the log of a run ends with. -/
def OperationState.taskState : OperationState → TaskState
  | .accepted => .created
  | .running => .understanding
  | .completed => .completed
  | .failedRetryable => .failed
  | .failedFinal => .failed
  | .partialResult => .failed
  | .paused reason => .paused reason
  | .cancelled => .cancelled

def lastTaskState (events : List RunEvent) : Option TaskState :=
  events.getLast?.map RunEvent.taskState

@[simp] theorem lastTaskState_concat (events : List RunEvent) (event : RunEvent) :
    lastTaskState (events ++ [event]) = some event.taskState := by
  simp [lastTaskState]

theorem lastTaskState_append {events events' : List RunEvent} {taskState : TaskState}
    (hne : events' ≠ []) (h : ∀ event ∈ events', event.taskState = taskState) :
    lastTaskState (events ++ events') = some taskState := by
  obtain ⟨last, hlast⟩ := Option.ne_none_iff_exists'.mp fun hnone =>
    hne (List.getLast?_eq_none_iff.mp hnone)
  rw [lastTaskState, List.getLast?_append, hlast]
  exact congrArg some (h last (List.mem_of_getLast? hlast))

/-- The log of the current run ends with the state of the operation. -/
def Store.agrees (db : Store) (operation : Operation) : Prop :=
  lastTaskState (db.logOf operation.agentRunId) = some operation.state.taskState

/-- The events continue the log of an operation's current run. -/
structure Continues (db : Store) (row : Operation) (events : List RunEvent) : Prop where
  agentRunId : ∀ event ∈ events, event.agentRunId = row.agentRunId
  decisionTaskId : ∀ event ∈ events, event.decisionTaskId = row.decisionTaskId
  sequence : events.map RunEvent.sequence =
    List.range' ((db.runEventsOf row.decisionTaskId row.agentRunId).length + 1) events.length

theorem Continues.nil (db : Store) (row : Operation) : Continues db row [] := by
  refine ⟨?_, ?_, rfl⟩ <;> simp

theorem Continues.single {db : Store} {row : Operation} {event : RunEvent}
    (hrun : event.agentRunId = row.agentRunId) (htask : event.decisionTaskId = row.decisionTaskId)
    (hsequence : event.sequence =
      (db.runEventsOf row.decisionTaskId row.agentRunId).length + 1) :
    Continues db row [event] := by
  refine ⟨?_, ?_, ?_⟩
  · simpa using hrun
  · simpa using htask
  · simp [hsequence, List.range'_one]

/-! ### The events of an outcome -/

section Outcome
variable {env : Environment} {row : Operation} {now : Instant} {db db' : Store}

/-- A field that the indexed rewriting of events does not touch. -/
theorem map_zipIdx_keeps {β : Type} {f : RunEvent × Nat → RunEvent} {field : RunEvent → β}
    (hkeeps : ∀ event index, field (f (event, index)) = field event) (events : List RunEvent) :
    (events.zipIdx.map f).map field = events.map field := by
  have hfield : field ∘ f = field ∘ Prod.fst := by
    funext pair
    exact hkeeps pair.1 pair.2
  rw [List.map_map, hfield, ← List.map_map, List.zipIdx_map_fst]

theorem sequence_renumber (count : Nat) (events : List RunEvent) :
    (renumber env row count db events).map RunEvent.sequence =
      List.range' (count + 1) events.length := by
  have hsequence : (RunEvent.sequence ∘ fun (pair : RunEvent × Nat) =>
      { pair.1 with
        eventId := db.eventId env pair.2
        decisionTaskId := row.decisionTaskId
        agentRunId := row.agentRunId
        sequence := count + pair.2 + 1
        summary := publicRuntimeEventSummary pair.1 }) = (count + 1 + ·) ∘ Prod.snd := by
    funext pair
    simp only [Function.comp_apply]
    omega
  unfold renumber
  rw [List.map_map]
  refine (congrArg (List.map · events.zipIdx) hsequence).trans ?_
  rw [← List.map_map, List.zipIdx_map_snd, List.map_add_range']

theorem taskState_renumber (count : Nat) (events : List RunEvent) :
    (renumber env row count db events).map RunEvent.taskState = events.map RunEvent.taskState :=
  map_zipIdx_keeps (fun _ _ => rfl) events

theorem renumber_continues (env : Environment) (row : Operation) (db : Store)
    (events : List RunEvent) :
    Continues db row (renumber env row (db.runEventsOf row.decisionTaskId row.agentRunId).length
      db events) := by
  refine ⟨?_, ?_, ?_⟩
  · intro event hevent
    obtain ⟨pair, -, rfl⟩ := List.mem_map.mp hevent
    rfl
  · intro event hevent
    obtain ⟨pair, -, rfl⟩ := List.mem_map.mp hevent
    rfl
  · rw [sequence_renumber]
    simp [renumber]

/-- Rewriting other fields keeps the continuation. -/
theorem Continues.of_fields {events events' : List RunEvent} (h : Continues db row events)
    (hrun : events'.map RunEvent.agentRunId = events.map RunEvent.agentRunId)
    (htask : events'.map RunEvent.decisionTaskId = events.map RunEvent.decisionTaskId)
    (hsequence : events'.map RunEvent.sequence = events.map RunEvent.sequence) :
    Continues db row events' := by
  refine ⟨?_, ?_, ?_⟩
  · intro event hevent
    have hmem := List.mem_map_of_mem (f := RunEvent.agentRunId) hevent
    rw [hrun] at hmem
    obtain ⟨source, hsource, heq⟩ := List.mem_map.mp hmem
    exact heq.symm.trans (h.agentRunId source hsource)
  · intro event hevent
    have hmem := List.mem_map_of_mem (f := RunEvent.decisionTaskId) hevent
    rw [htask] at hmem
    obtain ⟨source, hsource, heq⟩ := List.mem_map.mp hmem
    exact heq.symm.trans (h.decisionTaskId source hsource)
  · have hlength : events'.length = events.length := by
      simpa using congrArg List.length hsequence
    rw [hsequence, h.sequence, hlength]

theorem pausedEvents_continue (outcome : RuntimePausedOutcome) :
    Continues db row (pausedEventsToPersist env row outcome now
      (db.runEventsOf row.decisionTaskId row.agentRunId) db) := by
  unfold pausedEventsToPersist
  simp only
  split
  · split
    · exact .single rfl rfl rfl
    · exact .nil db row
  · have hnew := renumber_continues env row db (outcome.runEvents.filter fun event =>
      event.taskState ∉
        (db.runEventsOf row.decisionTaskId row.agentRunId).map RunEvent.taskState)
    refine hnew.of_fields ?_ ?_ ?_ <;> rw [List.map_map] <;> rfl

theorem resultEvents_continue (outcome : DecisionTaskResult) :
    Continues db row (resultEvents env row outcome now db) := by
  have hnew := renumber_continues env row db (resultEventsToPersist
    (db.runEventsOf row.decisionTaskId row.agentRunId) (resultRunEvents outcome))
  refine hnew.of_fields ?_ ?_ ?_ <;> exact map_zipIdx_keeps (fun _ _ => rfl) _

theorem outcomeEvents_continue (env : Environment) (row : Operation)
    (payload : PersistentOutcome) (now : Instant) (db : Store) :
    Continues db row (outcomeEvents env row payload now db) := by
  cases payload with
  | paused outcome => exact pausedEvents_continue outcome
  | result outcome => exact resultEvents_continue outcome
  | failure outcome => exact .single rfl rfl rfl

/-- The state that the last event of an outcome stands for. -/
def finalTaskState : PersistentOutcome → TaskState
  | .paused outcome => .paused outcome.state
  | .result (.succeeded _) => .completed
  | .result _ => .failed
  | .failure _ => .failed

theorem finalTaskState_of_decoded {outcome : PersistentOutcome} {decoded : DecodedOutcome}
    (h : decodePersistentOutcome outcome = .ok decoded) :
    decoded.state.taskState = finalTaskState outcome := by
  cases outcome with
  | paused outcome =>
    rw [(decodePersistentOutcome_paused h).2]
    rfl
  | failure outcome =>
    rw [decodePersistentOutcome_failure h]
    cases outcome.state <;> rfl
  | result result =>
    rcases (decodePersistentOutcome_result h).2 with ⟨_, rfl, rfl⟩ | ⟨_, rfl, rfl⟩ <;> rfl

/-- An accepted result ends with the event of its state. -/
theorem lastTaskState_result {result : DecisionTaskResult} {ids : String × String}
    (h : decodeDecisionTaskResultV1 result = .ok result) (hids : taskStatusIds result = some ids) :
    lastTaskState (resultRunEvents result) = some (finalTaskState (.result result)) := by
  have hissues := (decodeDecisionTaskResultV1_eq_ok.mp h).2.2
  cases result with
  | succeeded result =>
    simp only [checkDecisionTaskResultInvariants, successfulResultIssues, successfulRunIssues,
      List.append_eq_nil_iff, issueIf_eq_nil, decide_eq_false_iff_not, not_not,
      and_assoc] at hissues
    exact hissues.2.1
  | failed result =>
    simp only [checkDecisionTaskResultInvariants, failedResultIssues, List.append_eq_nil_iff,
      issueIf_eq_nil, decide_eq_false_iff_not, not_not, and_assoc] at hissues
    exact hissues.2.2.2.2.1
  | rejected error => cases hids

theorem lastTaskState_withRunEvents {events : List RunEvent} {latest : RunEvent}
    {result persisted : DecisionTaskResult}
    (h : decodePersistedResult (withRunEvents events latest result) row = .ok persisted) :
    lastTaskState events = some (finalTaskState (.result result)) := by
  obtain ⟨-, hdecoded, hids⟩ := decodePersistedResult_ok h
  have hlast := lastTaskState_result hdecoded hids
  cases result with
  | succeeded result => exact hlast
  | failed result => exact hlast
  | rejected error => cases hids

/-- The log of the operation's current run, as a completion reads it. -/
abbrev Store.currentLog (db : Store) (row : Operation) : List RunEvent :=
  db.runEventsOf row.decisionTaskId row.agentRunId

def hasPause (events : List RunEvent) : Bool := events.any fun event => event.taskState.isPaused

/-- Without a pause the log itself becomes the result's events, and is checked as such. -/
theorem persistResultRunEvents_last {outcome persisted : DecisionTaskResult}
    (h : persistResultRunEvents env row outcome now db = .ok (persisted, db'))
    (hpause : hasPause (db.currentLog row) = false) :
    lastTaskState (db.currentLog row ++ resultEvents env row outcome now db) =
      some (finalTaskState (.result outcome)) := by
  simp only [persistResultRunEvents, bind_eq_ok] at h
  obtain ⟨existingEvents, hload, h⟩ := h
  rw [loadRunEvents_eq hload] at h
  split at h
  · cases h
  simp only [bind_eq_ok] at h
  obtain ⟨db₁, -, h⟩ := h
  rw [hasPause] at hpause
  rw [hpause, if_neg Bool.false_ne_true] at h
  split at h
  · cases h
  simp only [bind_eq_ok] at h
  obtain ⟨_, hdecode, -⟩ := h
  exact lastTaskState_withRunEvents hdecode

/-- After a pause only the completion of a success is appended. -/
theorem resultEvents_recovered {value : SuccessfulDecisionTaskResult}
    (hdecoded : decodeDecisionTaskResultV1 (.succeeded value) = .ok (.succeeded value))
    (hpause : hasPause (db.currentLog row) = true)
    (hnew : .completed ∉ (db.currentLog row).map RunEvent.taskState) :
    lastTaskState (db.currentLog row ++ resultEvents env row (.succeeded value) now db) =
      some .completed := by
  have hlast := lastTaskState_result hdecoded rfl
  obtain ⟨last, hlast, hcompleted⟩ := Option.map_eq_some_iff.mp hlast
  have hkept : resultEventsToPersist (db.currentLog row) value.runEvents =
      value.runEvents.filter fun event => event.taskState = .completed := by
    rw [hasPause] at hpause
    rw [resultEventsToPersist, hpause]
    simp only [if_true, List.filter_filter]
    apply List.filter_congr
    intro event _
    by_cases hstate : event.taskState = .completed
    · simp only [hstate, decide_true, Bool.and_true, decide_eq_true_eq]
      exact hnew
    · simp [hstate]
  have hstates : (resultEvents env row (.succeeded value) now db).map RunEvent.taskState =
      (value.runEvents.filter fun event => event.taskState = .completed).map
        RunEvent.taskState := by
    rw [← hkept, resultEvents, datedAtEnd, map_zipIdx_keeps (fun _ _ => rfl), taskState_renumber]
    rfl
  apply lastTaskState_append
  · intro hempty
    rw [hempty, List.map_nil, eq_comm, List.map_eq_nil_iff, List.filter_eq_nil_iff] at hstates
    exact hstates last (List.mem_of_getLast? hlast) (decide_eq_true hcompleted)
  · intro event hevent
    have hmem := List.mem_map_of_mem (f := RunEvent.taskState) hevent
    rw [hstates] at hmem
    obtain ⟨source, hsource, heq⟩ := List.mem_map.mp hmem
    rw [← heq]
    simpa using (List.mem_filter.mp hsource).2

/-- The events that a completion keeps reach the state of the outcome. -/
def recordsOutcome (payload : PersistentOutcome) (existingEvents : List RunEvent) : Bool :=
  match payload with
  | .result (.succeeded _) =>
    !hasPause existingEvents || !(existingEvents.map RunEvent.taskState).contains .completed
  | .result _ => !hasPause existingEvents
  | _ => true

theorem persistPausedRunEvents_last {outcome persisted : RuntimePausedOutcome}
    (h : persistPausedRunEvents env row outcome now db = .ok (persisted, db')) :
    lastTaskState (db.currentLog row ++ outcomeEvents env row (.paused outcome) now db) =
      some (.paused outcome.state) := by
  simp only [persistPausedRunEvents, bind_eq_ok, decodedOrUnavailable_eq_ok] at h
  obtain ⟨existingEvents, hload, db₁, -, decoded, hdecoded, -⟩ := h
  rw [loadRunEvents_eq hload] at hdecoded
  exact (decodeRuntimePausedOutcomeV1_ok hdecoded).2.2.1

/-- A completion that commits leaves the log at the state of its outcome. -/
theorem persistOutcome_last {outcome : PersistentOutcome} {decoded : DecodedOutcome}
    {completion : DecisionTaskCompletion}
    (hdecoded : decodePersistentOutcome outcome = .ok decoded)
    (h : persistOutcome env row outcome now db = .ok (completion, db'))
    (hrecords : recordsOutcome outcome (db.currentLog row) = true) :
    lastTaskState (db.currentLog row ++ outcomeEvents env row outcome now db) =
      some (finalTaskState outcome) := by
  cases outcome with
  | paused outcome =>
    simp only [persistOutcome, bind_eq_ok] at h
    obtain ⟨⟨persisted, db₁⟩, hpersist, -⟩ := h
    exact persistPausedRunEvents_last hpersist
  | failure outcome => exact lastTaskState_concat _ _
  | result result =>
    simp only [persistOutcome, bind_eq_ok] at h
    obtain ⟨⟨persisted, db₁⟩, hpersist, -⟩ := h
    cases hpause : hasPause (db.currentLog row) with
    | false => exact persistResultRunEvents_last hpersist hpause
    | true =>
      obtain ⟨hresult, hkind⟩ := decodePersistentOutcome_result hdecoded
      rcases hkind with ⟨value, rfl, -⟩ | ⟨value, rfl, -⟩
      · refine resultEvents_recovered hresult hpause ?_
        simpa [recordsOutcome, hpause] using hrecords
      · simp [recordsOutcome, hpause] at hrecords

end Outcome

/-! ### How a step changes the logs -/

variable {env : Environment}

theorem logOf_eq (db : Store) (agentRunId : String) :
    db.logOf agentRunId = db.events.filter fun event => event.agentRunId = agentRunId := rfl

/-- The logs of the current runs are numbered from 1 and name the task of the operation. -/
structure Logged (env : Environment) (db : Store) : Prop where
  known : RunsKnown env db
  issued : ∀ event ∈ db.events, Issued env db event.agentRunId
  ordered : ∀ row ∈ db.operations, (db.logOf row.agentRunId).map RunEvent.sequence =
    List.range' 1 (db.logOf row.agentRunId).length
  task : ∀ row ∈ db.operations, ∀ event ∈ db.logOf row.agentRunId,
    event.decisionTaskId = row.decisionTaskId

theorem logged_empty : Logged env Store.empty where
  known := runsKnown_empty
  issued := by
    intro event hevent
    cases hevent
  ordered := by
    intro row hrow
    cases hrow
  task := by
    intro row hrow
    cases hrow

/-- The operation of one step with the events the step appends to its current run, or the
deletion of operations that leaves the other logs alone. The last index states that the
changed operation agrees with its log afterwards. -/
inductive LogChange (env : Environment) (db : Store) : Store → Prop → Prop where
  | kept {db' : Store} (hops : ∀ row ∈ db'.operations, row ∈ db.operations)
      (hlogs : ∀ row ∈ db'.operations, db'.logOf row.agentRunId = db.logOf row.agentRunId)
      (hevents : ∀ event ∈ db'.events, event ∈ db.events)
      (hdrawn : db.uuidsDrawn ≤ db'.uuidsDrawn) : LogChange env db db' True
  | changed (row : Operation) {events : List RunEvent} {db' : Store}
      (hops : ∀ r ∈ db'.operations,
        r = row ∨ r ∈ db.operations ∧ r.operationId ≠ row.operationId)
      (hevents : db'.events = db.events ++ events) (hcontinues : Continues db row events)
      (hdrawn : db.uuidsDrawn ≤ db'.uuidsDrawn)
      (hrun : (row.agentRunId = "agent-run-" ++ env.randomUUID db.uuidsDrawn ∧
          db.uuidsDrawn < db'.uuidsDrawn) ∨
        ∃ old ∈ db.operations, old.operationId = row.operationId ∧
          old.agentRunId = row.agentRunId ∧ old.decisionTaskId = row.decisionTaskId) :
      LogChange env db db'
        (lastTaskState (db.logOf row.agentRunId ++ events) = some row.state.taskState)

section Logs
variable {db db' : Store} {agreed : Prop}

/-- What the source reads as the events of the current run is the run's log. -/
theorem Logged.currentLog (h : Logged env db) {row : Operation} (hrow : row ∈ db.operations) :
    db.currentLog row = db.logOf row.agentRunId := by
  have hfilter : (db.events.filter fun event =>
      event.decisionTaskId = row.decisionTaskId && event.agentRunId = row.agentRunId) =
      db.logOf row.agentRunId := by
    rw [logOf_eq]
    apply List.filter_congr
    intro event hevent
    by_cases hrun : event.agentRunId = row.agentRunId
    · have htask := h.task row hrow event (List.mem_filter.mpr ⟨hevent, by simpa using hrun⟩)
      simp [hrun, htask]
    · simp [hrun]
  have hsorted : (db.logOf row.agentRunId).Pairwise fun a b => a.sequence ≤ b.sequence := by
    rw [← List.pairwise_map (f := RunEvent.sequence) (R := (· ≤ ·)), h.ordered row hrow]
    exact List.pairwise_le_range'
  exact (congrArg _ hfilter).trans hsorted.insertionSort_eq

/-- A run that is not drawn yet has no events. -/
theorem Logged.logOf_fresh (h : Logged env db) :
    db.logOf ("agent-run-" ++ env.randomUUID db.uuidsDrawn) = [] := by
  rw [logOf_eq, List.filter_eq_nil_iff]
  intro event hevent
  simpa using (h.issued event hevent).ne_fresh

theorem Logged.filter_fresh (h : Logged env db) (decisionTaskId : String) :
    (db.events.filter fun event => event.decisionTaskId = decisionTaskId &&
      event.agentRunId = "agent-run-" ++ env.randomUUID db.uuidsDrawn) = [] := by
  rw [List.filter_eq_nil_iff]
  intro event hevent
  simp [(h.issued event hevent).ne_fresh]

theorem currentLog_fresh (h : Logged env db) (row : Operation)
    (hrun : row.agentRunId = "agent-run-" ++ env.randomUUID db.uuidsDrawn) :
    db.currentLog row = [] := by
  rw [Store.currentLog, hrun]
  exact congrArg _ (h.filter_fresh row.decisionTaskId)

/-- The log of the changed run, and the untouched logs of the others. -/
theorem logOf_append {events : List RunEvent} {agentRunId : String}
    (hevents : db'.events = db.events ++ events)
    (hrun : ∀ event ∈ events, event.agentRunId = agentRunId) (other : String) :
    db'.logOf other =
      if other = agentRunId then db.logOf other ++ events else db.logOf other := by
  rw [logOf_eq, hevents, List.filter_append, ← logOf_eq]
  split
  · rename_i hsame
    rw [List.filter_eq_self.mpr fun event hevent => by simp [hrun event hevent, hsame]]
  · rename_i hother
    rw [List.filter_eq_nil_iff.mpr fun event hevent => ?_, List.append_nil]
    simpa [hrun event hevent] using fun hsame => hother hsame.symm

/-- The other operations have other runs than the changed one. -/
theorem Logged.run_ne (h : Logged env db) {row : Operation}
    (hrun : (row.agentRunId = "agent-run-" ++ env.randomUUID db.uuidsDrawn ∧
        db.uuidsDrawn < db'.uuidsDrawn) ∨
      ∃ old ∈ db.operations, old.operationId = row.operationId ∧
        old.agentRunId = row.agentRunId ∧ old.decisionTaskId = row.decisionTaskId)
    {other : Operation} (hother : other ∈ db.operations)
    (hkey : other.operationId ≠ row.operationId) : other.agentRunId ≠ row.agentRunId := by
  rcases hrun with ⟨hfresh, -⟩ | ⟨old, hold, hid, hsame, -⟩
  · rw [hfresh]
    exact (h.known.issued other hother).ne_fresh
  · intro heq
    obtain rfl := h.known.unique other hother old hold (heq.trans hsame.symm)
    exact hkey hid

/-- The changed operation's log before the step is numbered and of its task. -/
theorem Logged.base (h : Logged env db) {row : Operation}
    (hrun : (row.agentRunId = "agent-run-" ++ env.randomUUID db.uuidsDrawn ∧
        db.uuidsDrawn < db'.uuidsDrawn) ∨
      ∃ old ∈ db.operations, old.operationId = row.operationId ∧
        old.agentRunId = row.agentRunId ∧ old.decisionTaskId = row.decisionTaskId) :
    Issued env db' row.agentRunId ∨ Issued env db row.agentRunId := by
  rcases hrun with ⟨hfresh, hlt⟩ | ⟨old, hold, -, hsame, -⟩
  · exact .inl (hfresh ▸ issued_fresh hlt)
  · exact .inr (hsame ▸ h.known.issued old hold)

theorem Logged.change (h : Logged env db) (hknown : RunsKnown env db')
    (hlog : LogChange env db db' agreed) : Logged env db' := by
  cases hlog with
  | kept hops hlogs hevents hdrawn =>
    refine ⟨hknown, ?_, ?_, ?_⟩
    · intro event hevent
      exact (h.issued event (hevents event hevent)).mono hdrawn
    · intro row hrow
      rw [hlogs row hrow]
      exact h.ordered row (hops row hrow)
    · intro row hrow
      rw [hlogs row hrow]
      exact h.task row (hops row hrow)
  | @changed row events _ hops hevents hcontinues hdrawn hrun =>
    have hlog := logOf_append hevents hcontinues.agentRunId
    -- the changed run before the step: its log is the one the new events continue
    have hbase : db.currentLog row = db.logOf row.agentRunId ∧
        (db.logOf row.agentRunId).map RunEvent.sequence =
          List.range' 1 (db.logOf row.agentRunId).length ∧
        ∀ event ∈ db.logOf row.agentRunId, event.decisionTaskId = row.decisionTaskId := by
      rcases hrun with ⟨hfresh, -⟩ | ⟨old, hold, -, hsame, htask⟩
      · rw [currentLog_fresh h row hfresh, hfresh, h.logOf_fresh]
        simp
      · rw [← hsame, ← htask]
        refine ⟨?_, h.ordered old hold, h.task old hold⟩
        rw [← h.currentLog hold, Store.currentLog, Store.currentLog, hsame, htask]
    obtain ⟨hcurrent, hordered, htask⟩ := hbase
    refine ⟨hknown, ?_, ?_, ?_⟩
    · intro event hevent
      rw [hevents, List.mem_append] at hevent
      rcases hevent with hold | hnew
      · exact (h.issued event hold).mono hdrawn
      · rw [hcontinues.agentRunId event hnew]
        rcases h.base hrun with hissued | hissued
        · exact hissued
        · exact hissued.mono hdrawn
    · intro r hr
      rcases hops r hr with rfl | ⟨hold, hkey⟩
      · rw [hlog, if_pos rfl, List.map_append, hordered, hcontinues.sequence, List.length_append,
          ← Store.currentLog, hcurrent, Nat.add_comm _ 1, List.range'_append_1]
      · rw [hlog, if_neg (h.run_ne hrun hold hkey)]
        exact h.ordered r hold
    · intro r hr
      rcases hops r hr with rfl | ⟨hold, hkey⟩
      · rw [hlog, if_pos rfl]
        intro event hevent
        rcases List.mem_append.mp hevent with hin | hnew
        · exact htask event hin
        · exact hcontinues.decisionTaskId event hnew
      · rw [hlog, if_neg (h.run_ne hrun hold hkey)]
        exact h.task r hold

/-- Agreement is kept by a step whose changed operation agrees with its log. -/
theorem Logged.agrees_change (h : Logged env db) (hlog : LogChange env db db' agreed)
    (hagreed : agreed) (hagrees : ∀ row ∈ db.operations, db.agrees row) :
    ∀ row ∈ db'.operations, db'.agrees row := by
  cases hlog with
  | kept hops hlogs hevents hdrawn =>
    intro row hrow
    rw [Store.agrees, hlogs row hrow]
    exact hagrees row (hops row hrow)
  | changed row hops hevents hcontinues hdrawn hrun =>
    have hlog := logOf_append hevents hcontinues.agentRunId
    intro r hr
    rcases hops r hr with rfl | ⟨hold, hkey⟩
    · rw [Store.agrees, hlog, if_pos rfl]
      exact hagreed
    · rw [Store.agrees, hlog, if_neg (h.run_ne hrun hold hkey)]
      exact hagrees r hold

end Logs

end ChoiceMind.TaskPersistence
