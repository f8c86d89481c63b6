import ChoiceMind.TaskPersistence.Stamps

/-!
# Pauses that commit

A completion merges the events of an outcome into the log by their states. A pause is lost
exactly when the log has its state already, but not the state of some other of its events.
-/

namespace ChoiceMind.TaskPersistence

set_option autoImplicit false

open Contracts Transition

variable {env : Environment} {db db' : Store} {now : Instant} {events : List RunEvent}

/-- The largest value of the column `run_sequence integer`. -/
def maxRunSequence : Nat := 2147483647

/-! ### Logs that are read -/

theorem nonEmpty_append (a b : String) (h : nonEmpty a = true) : nonEmpty (a ++ b) = true := by
  unfold nonEmpty at h ⊢
  rw [decide_eq_true_eq] at h ⊢
  intro hempty
  exact h (String.append_eq_empty_iff.mp hempty).1

/-- The events name a run and its task, and their numbers fit their column. -/
structure OfRun (row : Operation) (bound : Nat) (events : List RunEvent) : Prop where
  ids : ∀ event ∈ events, nonEmpty event.eventId = true
  decisionTaskId : ∀ event ∈ events, event.decisionTaskId = row.decisionTaskId
  agentRunId : ∀ event ∈ events, event.agentRunId = row.agentRunId
  sequences : ∀ event ∈ events, 0 < event.sequence ∧ event.sequence ≤ bound
  summaries : ∀ event ∈ events, isMeaningful event.summary = true

theorem OfRun.append {row : Operation} {bound bound' : Nat} {events' : List RunEvent}
    (h : OfRun row bound events) (h' : OfRun row bound' events') (hle : bound ≤ bound') :
    OfRun row bound' (events ++ events') := by
  constructor
  · intro event hevent
    rcases List.mem_append.mp hevent with hold | hnew
    · exact h.ids event hold
    · exact h'.ids event hnew
  · intro event hevent
    rcases List.mem_append.mp hevent with hold | hnew
    · exact h.decisionTaskId event hold
    · exact h'.decisionTaskId event hnew
  · intro event hevent
    rcases List.mem_append.mp hevent with hold | hnew
    · exact h.agentRunId event hold
    · exact h'.agentRunId event hnew
  · intro event hevent
    rcases List.mem_append.mp hevent with hold | hnew
    · exact ⟨(h.sequences event hold).1, (h.sequences event hold).2.trans hle⟩
    · exact h'.sequences event hnew
  · intro event hevent
    rcases List.mem_append.mp hevent with hold | hnew
    · exact h.summaries event hold
    · exact h'.summaries event hnew

theorem OfRun.fieldChecksHold {row : Operation} {bound : Nat} (h : OfRun row bound events)
    (hrun : nonEmpty row.agentRunId = true) (htask : nonEmpty row.decisionTaskId = true)
    (hbound : isSafeInteger bound = true) :
    ∀ event ∈ events, Contracts.fieldChecksHold event.fieldChecks = true := by
  intro event hevent
  have hsafe : isSafeInteger event.sequence = true := by
    unfold isSafeInteger at hbound ⊢
    rw [decide_eq_true_eq] at hbound ⊢
    exact (h.sequences event hevent).2.trans hbound
  have hpositive : decide (0 < event.sequence) = true :=
    decide_eq_true (h.sequences event hevent).1
  simp only [RunEvent.fieldChecks, fieldChecksHold_cons, fieldChecksHold_nil,
    h.ids event hevent, h.decisionTaskId event hevent, h.agentRunId event hevent, hrun, htask,
    hsafe, hpositive, h.summaries event hevent, Bool.and_self]

theorem stampText_nonEmpty : nonEmpty "event-persistent-" = true := by decide

/-- The log of an operation's run. -/
theorem ofRun_log (hnumbered : Numbered env db) (hstamped : Stamped env db) {row : Operation}
    (hrow : row ∈ db.operations) :
    OfRun row (db.logOf row.agentRunId).length (db.logOf row.agentRunId) where
  ids event hevent := by
    obtain ⟨k, -, hid⟩ := hstamped.ids event (List.mem_filter.mp hevent).1
    rw [hid]
    exact nonEmpty_append _ _ stampText_nonEmpty
  decisionTaskId := hnumbered.unique.logged.task row hrow
  agentRunId event hevent := of_decide_eq_true (List.mem_filter.mp hevent).2
  sequences event hevent := by
    have hsequence := List.mem_map_of_mem (f := RunEvent.sequence) hevent
    rw [hnumbered.sequenced.numbered, List.mem_range'_1] at hsequence
    omega
  summaries event hevent := hstamped.summaries event (List.mem_filter.mp hevent).1

/-- Drafted events that continue the log. -/
theorem ofRun_drafted {row : Operation} (hdrafted : Drafted env db events)
    (hcontinues : Continues db row events) :
    OfRun row ((db.currentLog row).length + events.length) events where
  ids event hevent := by
    obtain ⟨index, -, hid⟩ := hdrafted.id hevent
    rw [hid]
    exact nonEmpty_append _ _ stampText_nonEmpty
  decisionTaskId := hcontinues.decisionTaskId
  agentRunId := hcontinues.agentRunId
  sequences event hevent := by
    have hsequence := List.mem_map_of_mem (f := RunEvent.sequence) hevent
    rw [hcontinues.sequence, List.mem_range'_1] at hsequence
    unfold Store.currentLog
    omega
  summaries := hdrafted.summaries

theorem loadRunEvents_ok {row : Operation} {bound : Nat}
    (hlog : OfRun row bound (db.currentLog row)) (hrun : nonEmpty row.agentRunId = true)
    (htask : nonEmpty row.decisionTaskId = true) (hbound : isSafeInteger bound = true) :
    loadRunEvents row.decisionTaskId row.agentRunId db = .ok (db.currentLog row) := by
  have hall : ((db.currentLog row).all fun event =>
      (decodePersistedRunEventV1 event).isOk) = true := by
    rw [List.all_eq_true]
    intro event hevent
    unfold decodePersistedRunEventV1
    rw [if_pos (hlog.fieldChecksHold hrun htask hbound event hevent)]
    rfl
  exact if_pos hall

/-! ### Paused outcomes -/

section Paused
variable {outcome : RuntimePausedOutcome}

theorem decodeRuntimePausedOutcomeV1_eq_ok :
    decodeRuntimePausedOutcomeV1 outcome = .ok outcome ↔
      fieldChecksHold outcome.fieldChecks = true ∧
        (decodeRuntimeSnapshotV1 outcome.snapshot).isOk = true ∧
        (∀ receipt ∈ outcome.effectReceipts, (decodeEffectReceiptV1 receipt).isOk = true) ∧
        outcome.snapshot.taskState = .paused outcome.state ∧
        lastTaskState outcome.runEvents = some (.paused outcome.state) ∧
        outcome.allFactsBelongToRun = true := by
  unfold decodeRuntimePausedOutcomeV1
  cases hfields : fieldChecksHold outcome.fieldChecks with
  | false => simp [contractInvalid]
  | true =>
    cases hsnapshot : decodeRuntimeSnapshotV1 outcome.snapshot with
    | error rejection => simp [Except.isOk, Except.toBool]
    | ok snapshot =>
      cases hreceipts : outcome.effectReceipts.any fun receipt =>
          !(decodeEffectReceiptV1 receipt).isOk with
      | true =>
        obtain ⟨receipt, hreceipt, hinvalid⟩ := List.any_eq_true.mp hreceipts
        refine iff_of_false (by simp [contractInvalid]) ?_
        rintro ⟨-, -, hall, -⟩
        rw [hall receipt hreceipt] at hinvalid
        cases hinvalid
      | false =>
        have hall : ∀ receipt ∈ outcome.effectReceipts,
            (decodeEffectReceiptV1 receipt).isOk = true := by
          intro receipt hreceipt
          have hvalid := List.any_eq_false.mp hreceipts receipt hreceipt
          rwa [Bool.not_eq_true, Bool.not_eq_false'] at hvalid
        simp only [Bool.not_true, Bool.false_eq_true, if_false]
        by_cases hfacts : .paused outcome.state ≠ outcome.snapshot.taskState ∨
            outcome.runEvents.getLast?.map RunEvent.taskState ≠ some (.paused outcome.state) ∨
            (!outcome.allFactsBelongToRun) = true
        · rw [if_pos hfacts]
          refine iff_of_false (by simp [contractInvalid]) ?_
          rintro ⟨-, -, -, hstate, hlast, hbelong⟩
          rcases hfacts with hother | hother | hother
          · exact hother hstate.symm
          · exact hother hlast
          · rw [hbelong] at hother
            cases hother
        · rw [if_neg hfacts]
          rw [not_or, not_or, not_not, not_not, Bool.not_eq_true', Bool.not_eq_false] at hfacts
          exact iff_of_true rfl
            ⟨trivial, rfl, hall, hfacts.1.symm, hfacts.2.1, hfacts.2.2⟩

/-- With valid events of its run a paused outcome is accepted when they end with its state. -/
theorem decodePaused_withEvents (h : decodeRuntimePausedOutcomeV1 outcome = .ok outcome)
    {events : List RunEvent}
    (hfields : ∀ event ∈ events, fieldChecksHold event.fieldChecks = true)
    (hof : ∀ event ∈ events, event.agentRunId = outcome.snapshot.agentRunId ∧
      event.decisionTaskId = outcome.snapshot.decisionTaskId)
    (hlast : lastTaskState events = some (.paused outcome.state)) :
    decodeRuntimePausedOutcomeV1 { outcome with runEvents := events } =
      .ok { outcome with runEvents := events } := by
  obtain ⟨hold, hsnapshot, hreceipts, hstate, -, hbelong⟩ :=
    decodeRuntimePausedOutcomeV1_eq_ok.mp h
  apply decodeRuntimePausedOutcomeV1_eq_ok.mpr
  have hne : events ≠ [] := by
    rintro rfl
    cases hlast
  refine ⟨?_, hsnapshot, hreceipts, hstate, hlast, ?_⟩
  · simp only [RuntimePausedOutcome.fieldChecks, fieldChecksHold_append, fieldChecksHold_cons,
      fieldChecksHold_nil, fieldChecksHold_itemChecks, Bool.and_eq_true, Bool.and_true] at hold ⊢
    refine ⟨⟨hold.1.1, decide_eq_true hne⟩, ?_⟩
    rw [List.all_eq_true]
    exact hfields
  · unfold RuntimePausedOutcome.allFactsBelongToRun at hbelong ⊢
    split at hbelong
    · cases hbelong
    · simp only [Bool.and_eq_true, decide_eq_true_eq] at hbelong
      cases events with
      | nil => exact absurd rfl hne
      | cons event events =>
        obtain ⟨hrun, htask⟩ := hof event List.mem_cons_self
        simp only [List.head?_cons, Bool.and_eq_true, decide_eq_true_eq]
        exact ⟨⟨htask.symm, hrun.symm⟩, hbelong.2⟩

/-! ### The merged log -/

/-- When the log has the state of the pause, it has the states of all its events. -/
def ExtendsLog (log : List RunEvent) (outcome : RuntimePausedOutcome) : Prop :=
  .paused outcome.state ∈ log.map RunEvent.taskState →
    ∀ event ∈ outcome.runEvents, event.taskState ∈ log.map RunEvent.taskState

variable {row : Operation} {log : List RunEvent}

theorem lastTaskState_append_of_ne {events events' : List RunEvent} (hne : events' ≠ []) :
    lastTaskState (events ++ events') = lastTaskState events' := by
  unfold lastTaskState
  rw [List.getLast?_append_of_ne_nil _ hne]

theorem lastTaskState_map {events events' : List RunEvent}
    (h : events'.map RunEvent.taskState = events.map RunEvent.taskState) :
    lastTaskState events' = lastTaskState events := by
  unfold lastTaskState
  rw [← List.getLast?_map, ← List.getLast?_map, h]

/-- The last of the events whose state the log does not have. -/
theorem lastTaskState_filter {events : List RunEvent} {taskState : TaskState}
    (hlast : lastTaskState events = some taskState) {p : RunEvent → Bool}
    (hp : ∀ event, event.taskState = taskState → p event = true) :
    lastTaskState (events.filter p) = some taskState := by
  obtain ⟨last, hlast, hstate⟩ := Option.map_eq_some_iff.mp hlast
  obtain ⟨before, rfl⟩ := List.getLast?_eq_some_iff.mp hlast
  rw [List.filter_append, List.filter_cons_of_pos (hp last hstate), List.filter_nil,
    lastTaskState_concat, hstate]

theorem pausedEvents_of_fresh
    (hfresh : (outcome.runEvents.filter fun event =>
      event.taskState ∉ log.map RunEvent.taskState) ≠ []) :
    (pausedEventsToPersist env row outcome now log db).map RunEvent.taskState =
      (outcome.runEvents.filter fun event =>
        event.taskState ∉ log.map RunEvent.taskState).map RunEvent.taskState := by
  unfold pausedEventsToPersist
  simp only
  split
  · rename_i hempty hlatest
    rw [List.map_eq_nil_iff] at hempty
    have hlength := @length_renumber env db row log.length (outcome.runEvents.filter fun event =>
      event.taskState ∉ log.map RunEvent.taskState)
    rw [hempty, List.length_nil, eq_comm, List.length_eq_zero_iff] at hlength
    exact absurd hlength hfresh
  · rw [List.map_map]
    exact taskState_renumber _ _

/-- The merged log ends with the pause exactly when the outcome extends the log. -/
theorem pausedEvents_last_iff
    (hlast : lastTaskState outcome.runEvents = some (.paused outcome.state)) :
    lastTaskState (log ++ pausedEventsToPersist env row outcome now log db) =
        some (.paused outcome.state) ↔ ExtendsLog log outcome := by
  by_cases hfresh : (outcome.runEvents.filter fun event =>
      event.taskState ∉ log.map RunEvent.taskState) = []
  · have hall : ∀ event ∈ outcome.runEvents, event.taskState ∈ log.map RunEvent.taskState := by
      intro event hevent
      have hkept := List.filter_eq_nil_iff.mp hfresh event hevent
      simpa using hkept
    refine iff_of_true ?_ fun _ => hall
    obtain ⟨latest, hlatest, -⟩ := Option.map_eq_some_iff.mp hlast
    unfold pausedEventsToPersist
    rw [hfresh, hlatest]
    simp only [renumber, List.zipIdx_nil, List.map_nil]
    split
    · exact lastTaskState_concat _ _
    · rename_i hsame
      rw [not_or, not_not] at hsame
      rw [List.append_nil]
      exact hsame.1
  · have hstates := @pausedEvents_of_fresh env db now outcome row log hfresh
    have hne : pausedEventsToPersist env row outcome now log db ≠ [] := by
      intro hempty
      rw [hempty, List.map_nil, eq_comm, List.map_eq_nil_iff] at hstates
      exact hfresh hstates
    rw [lastTaskState_append_of_ne hne, lastTaskState_map hstates]
    constructor
    · intro hpaused hin
      obtain ⟨last, hlast, hstate⟩ := Option.map_eq_some_iff.mp hpaused
      have hnew := (List.mem_filter.mp (List.mem_of_getLast? hlast)).2
      rw [hstate, decide_eq_true_eq] at hnew
      exact absurd hin hnew
    · intro hextends
      by_cases hin : .paused outcome.state ∈ log.map RunEvent.taskState
      · refine absurd (List.filter_eq_nil_iff.mpr ?_) hfresh
        intro event hevent
        simpa using hextends hin event hevent
      · apply lastTaskState_filter hlast
        intro event hstate
        rw [hstate, decide_eq_true_eq]
        exact hin

theorem length_pausedEvents (hne : outcome.runEvents ≠ []) :
    (pausedEventsToPersist env row outcome now log db).length ≤ outcome.runEvents.length := by
  unfold pausedEventsToPersist
  simp only
  split
  · split
    · exact List.length_pos_of_ne_nil hne
    · exact Nat.zero_le _
  · rw [List.length_map, length_renumber]
    exact List.length_filter_le _ _

end Paused

/-! ### Completions of a held operation -/

/-- The operation is running under an unexpired lease of the worker. -/
structure Operation.HeldBy (row : Operation) (workerId : String) (now : Instant) : Prop where
  running : row.state = .running
  worker : row.workerId = some workerId
  lease : ∃ expiry, row.leaseExpiresAt = some expiry ∧ now ≤ expiry

section Completion
variable {row : Operation} {operationId workerId : String} {outcome : PersistentOutcome}
  {decoded : DecodedOutcome}

theorem Operation.HeldBy.completable (h : row.HeldBy workerId now)
    (hrun : ∀ agentRunId ∈ decoded.agentRunId, row.agentRunId = agentRunId)
    (htask : ∀ decisionTaskId ∈ decoded.decisionTaskId, row.decisionTaskId = decisionTaskId) :
    row.completableBy workerId decoded now = true := by
  obtain ⟨expiry, hexpiry, hunexpired⟩ := h.lease
  simp only [Operation.completableBy, h.running, h.worker, hexpiry, Option.any_some,
    Bool.and_eq_true, decide_eq_true_eq, Option.all_eq_true]
  exact ⟨⟨⟨⟨trivial, trivial⟩, hunexpired⟩, hrun⟩, htask⟩

/-- The store after the first `UPDATE` of a completion. -/
def Store.completed (db : Store) (operationId : String) (decoded : DecodedOutcome)
    (now : Instant) : Store :=
  { db with
    operations := db.operations.update operationId (completedRow · decoded now)
      (completedRow_operationId decoded now) }

theorem complete_eq (hdecoded : decodePersistentOutcome outcome = .ok decoded)
    (hrow : db.operations.find? operationId = some row)
    (hsubmission : (db.submissionOf row).isSome = true)
    (hcompletable : row.completableBy workerId decoded now = true) :
    complete env operationId workerId outcome none now db =
      persistOutcome env (completedRow row decoded now) decoded.payload now
        (db.completed operationId decoded now) := by
  have hclaimed : ((db.submissionOf row).isNone ||
      !row.completableBy workerId decoded now) = false := by
    rw [hcompletable, Bool.not_true, Bool.or_false]
    cases hfound : db.submissionOf row with
    | none =>
      rw [hfound] at hsubmission
      cases hsubmission
    | some submission => rfl
  simp only [complete, hdecoded, hrow, hclaimed, bind, Except.bind, Bool.false_eq_true, if_false]
  unfold Store.completed
  cases persistOutcome env (completedRow row decoded now) decoded.payload now _ with
  | error error => rfl
  | ok pair => rfl

theorem submissionOf_isSome (hnumbered : Numbered env db) (hrow : row ∈ db.operations) :
    (db.submissionOf row).isSome = true := by
  obtain ⟨submission, hsubmission, hkey, -⟩ := hnumbered.unique.recorded.submitted row hrow
  rw [Store.submissionOf, ← hkey, Table.find?_of_mem hsubmission]
  rfl

end Completion

/-! ### When a pause commits -/

section Pauses
variable {row : Operation} {operationId workerId : String} {outcome : RuntimePausedOutcome}

def pausedDecoded (outcome : RuntimePausedOutcome) : DecodedOutcome :=
  ⟨.paused outcome.state, .paused outcome, some outcome.snapshot.agentRunId,
    some outcome.snapshot.decisionTaskId⟩

theorem decodePersistentOutcome_of_paused
    (h : decodeRuntimePausedOutcomeV1 outcome = .ok outcome) :
    decodePersistentOutcome (.paused outcome) = .ok (pausedDecoded outcome) :=
  bind_eq_ok.mpr ⟨outcome, decodedOrUnavailable_eq_ok.mpr h, rfl⟩

/-- The pause is committed: the operation is paused, and what is stored of the outcome is read
back as a pause that ends with its state. -/
def CommitsPause (env : Environment) (db : Store) (now : Instant) (operationId workerId : String)
    (outcome : RuntimePausedOutcome) : Prop :=
  ∃ snapshot db' later stored,
    complete env operationId workerId (.paused outcome) none now db =
      .ok (.committedSnapshot snapshot, db') ∧
    db'.operations.find? operationId = some later ∧ later.state = .paused outcome.state ∧
    later.resultPayload = some (.outcome (.paused stored)) ∧
    decodeRuntimePausedOutcomeV1 stored = .ok stored ∧
    lastTaskState stored.runEvents = some (.paused outcome.state)

/-- The identity of the run in a valid outcome is not empty. -/
theorem nonEmpty_snapshot (h : decodeRuntimePausedOutcomeV1 outcome = .ok outcome) :
    nonEmpty outcome.snapshot.agentRunId = true ∧
      nonEmpty outcome.snapshot.decisionTaskId = true := by
  obtain ⟨hfields, -⟩ := decodeRuntimePausedOutcomeV1_eq_ok.mp h
  simp only [RuntimePausedOutcome.fieldChecks, fieldChecksHold_append, fieldChecksHold_below,
    RuntimeSnapshot.fieldChecks, fieldChecksHold_cons, Bool.and_eq_true] at hfields
  exact ⟨hfields.1.1.1.2.1.2.2.1, hfields.1.1.1.2.1.2.1⟩

theorem toTaskSnapshot_paused {stored : RuntimePausedOutcome} (updatedAt : Instant)
    (hstored : decodeRuntimePausedOutcomeV1 stored = .ok stored)
    (hstate : row.state = .paused stored.state)
    (hrun : stored.snapshot.agentRunId = row.agentRunId)
    (htask : stored.snapshot.decisionTaskId = row.decisionTaskId) :
    ∃ snapshot, toTaskSnapshot (rewriteResult (.paused stored) updatedAt row) = .ok snapshot := by
  have hpayload : decodePausedPayload (some (.outcome (.paused stored))) = some stored := by
    simp only [decodePausedPayload, hstored]
    rfl
  simp only [toTaskSnapshot, rewriteResult, hstate, hpayload]
  rw [if_neg (by simp [hrun, htask])]
  exact ⟨_, rfl⟩

/-- What a completion with a pause needs, in a state in which the operation is held. -/
structure Pausable (env : Environment) (db : Store) (now : Instant) (row : Operation)
    (operationId workerId : String) (outcome : RuntimePausedOutcome) : Prop where
  numbered : Numbered env db
  stamped : Stamped env db
  found : db.operations.find? operationId = some row
  held : row.HeldBy workerId now
  valid : decodeRuntimePausedOutcomeV1 outcome = .ok outcome
  agentRunId : outcome.snapshot.agentRunId = row.agentRunId
  decisionTaskId : outcome.snapshot.decisionTaskId = row.decisionTaskId
  room : (db.currentLog row).length + outcome.runEvents.length ≤ maxRunSequence

theorem Pausable.complete_eq (h : Pausable env db now row operationId workerId outcome) :
    complete env operationId workerId (.paused outcome) none now db =
      persistOutcome env (completedRow row (pausedDecoded outcome) now) (.paused outcome) now
        (db.completed operationId (pausedDecoded outcome) now) := by
  refine TaskPersistence.complete_eq (decodePersistentOutcome_of_paused h.valid) h.found
    (submissionOf_isSome h.numbered (Table.find?_eq_some.mp h.found).1) (h.held.completable ?_ ?_)
  · intro agentRunId hid
    rw [← Option.some.inj hid]
    exact h.agentRunId.symm
  · intro decisionTaskId hid
    rw [← Option.some.inj hid]
    exact h.decisionTaskId.symm

/-- The events of the merged log that are new. -/
def newPausedEvents (env : Environment) (db : Store) (now : Instant) (row : Operation)
    (outcome : RuntimePausedOutcome) : List RunEvent :=
  pausedEventsToPersist env row outcome now (db.currentLog row) db

theorem Pausable.persist (h : Pausable env db now row operationId workerId outcome)
    (hextends : ExtendsLog (db.currentLog row) outcome) :
    ∃ stored db₂, stored.state = outcome.state ∧ stored.snapshot = outcome.snapshot ∧
      decodeRuntimePausedOutcomeV1 stored = .ok stored ∧
      lastTaskState stored.runEvents = some (.paused outcome.state) ∧
      persistPausedRunEvents env (completedRow row (pausedDecoded outcome) now) outcome now
        (db.completed operationId (pausedDecoded outcome) now) = .ok (stored, db₂) ∧
      db₂.operations = (db.completed operationId (pausedDecoded outcome) now).operations := by
  have hrow := (Table.find?_eq_some.mp h.found).1
  obtain ⟨hrunId, htaskId⟩ := nonEmpty_snapshot h.valid
  rw [h.agentRunId] at hrunId
  rw [h.decisionTaskId] at htaskId
  have hoflog : OfRun row (db.currentLog row).length (db.currentLog row) := by
    rw [h.numbered.unique.logged.currentLog hrow]
    exact ofRun_log h.numbered h.stamped hrow
  have hdrafted : Drafted env db (newPausedEvents env db now row outcome) := drafted_pausedEvents
  have hcontinues : Continues db row (newPausedEvents env db now row outcome) :=
    pausedEvents_continue outcome
  have hlast := (decodeRuntimePausedOutcomeV1_eq_ok.mp h.valid).2.2.2.2.1
  have hevents : outcome.runEvents ≠ [] := by
    intro hempty
    rw [hempty] at hlast
    cases hlast
  have hlength : (newPausedEvents env db now row outcome).length ≤ outcome.runEvents.length :=
    length_pausedEvents hevents
  have hroom := h.room
  have hsafe : ∀ n ≤ maxRunSequence, isSafeInteger n = true := by
    intro n hn
    unfold maxRunSequence at hn
    unfold isSafeInteger
    rw [decide_eq_true_eq]
    omega
  have hload := loadRunEvents_ok hoflog hrunId htaskId (hsafe _ (by omega))
  have hmerged := hoflog.append (ofRun_drafted hdrafted hcontinues) (Nat.le_add_right _ _)
  have hstored := decodePaused_withEvents h.valid
    (hmerged.fieldChecksHold hrunId htaskId (hsafe _ (by omega)))
    (fun event hevent => ⟨(hmerged.agentRunId event hevent).trans h.agentRunId.symm,
      (hmerged.decisionTaskId event hevent).trans h.decisionTaskId.symm⟩)
    ((pausedEvents_last_iff hlast).mpr hextends)
  have hinsertable := insertable_of_drafted h.numbered h.stamped hrow hdrafted hcontinues
  have hready : EventsInsertable { db.completed operationId (pausedDecoded outcome) now with
      uuidsDrawn := db.uuidsDrawn + (newPausedEvents env db now row outcome).length }
      (newPausedEvents env db now row outcome) := hinsertable.of_eq rfl rfl rfl rfl
  obtain ⟨db₂, hinsert⟩ := hready.insertAll now
  refine ⟨{ outcome with runEvents := db.currentLog row ++ newPausedEvents env db now row outcome },
    db₂, rfl, rfl, hstored, (pausedEvents_last_iff hlast).mpr hextends, ?_, ?_⟩
  · refine bind_eq_ok.mpr ⟨_, hload, bind_eq_ok.mpr ⟨db₂, hinsert, ?_⟩⟩
    exact bind_eq_ok.mpr ⟨_, decodedOrUnavailable_eq_ok.mpr hstored, rfl⟩
  · exact (insertRunEvents_appends hinsert).operations

theorem Pausable.commits (h : Pausable env db now row operationId workerId outcome)
    (hextends : ExtendsLog (db.currentLog row) outcome) :
    CommitsPause env db now operationId workerId outcome := by
  obtain ⟨stored, db₂, hstate, hsnapshot, hstored, hlast, hpersist, hoperations⟩ :=
    h.persist hextends
  obtain ⟨latest, hlatest, -⟩ := Option.map_eq_some_iff.mp hlast
  obtain ⟨snapshot, hshown⟩ := @toTaskSnapshot_paused
    (completedRow row (pausedDecoded outcome) now) stored latest.occurredAt.parse hstored
    (congrArg OperationState.paused hstate.symm)
    ((congrArg RuntimeSnapshot.agentRunId hsnapshot).trans h.agentRunId)
    ((congrArg RuntimeSnapshot.decisionTaskId hsnapshot).trans h.decisionTaskId)
  have hkey : (completedRow row (pausedDecoded outcome) now).operationId = operationId :=
    (Table.find?_eq_some.mp h.found).2
  have hcomplete : complete env operationId workerId (.paused outcome) none now db =
      .ok (.committedSnapshot snapshot, { db₂ with
        operations := db₂.operations.update operationId
          (rewriteResult (.paused stored) latest.occurredAt.parse) }) := by
    rw [h.complete_eq]
    refine bind_eq_ok.mpr ⟨(stored, db₂), hpersist, ?_⟩
    simp only [hlatest]
    refine bind_eq_ok.mpr ⟨snapshot, hshown, ?_⟩
    rw [hkey]
  refine ⟨snapshot, _, rewriteResult (.paused stored) latest.occurredAt.parse
    (completedRow row (pausedDecoded outcome) now), stored, hcomplete, ?_, rfl, rfl, hstored, hlast⟩
  rw [Table.find?_update_self, hoperations, Store.completed, Table.find?_update_self, h.found]
  rfl

/-- A valid pause of a held operation commits exactly when it extends the log of the run. -/
theorem Pausable.commits_iff (h : Pausable env db now row operationId workerId outcome) :
    CommitsPause env db now operationId workerId outcome ↔
      ExtendsLog (db.currentLog row) outcome := by
  refine ⟨?_, h.commits⟩
  rintro ⟨snapshot, db', later, stored, hcomplete, -⟩
  rw [h.complete_eq] at hcomplete
  simp only [persistOutcome, bind_eq_ok] at hcomplete
  obtain ⟨⟨persisted, db₂⟩, hpersist, -⟩ := hcomplete
  have hlast := (decodeRuntimePausedOutcomeV1_eq_ok.mp h.valid).2.2.2.2.1
  have hmerged := persistPausedRunEvents_last hpersist
  exact (@pausedEvents_last_iff env (db.completed operationId (pausedDecoded outcome) now) now
    outcome (completedRow row (pausedDecoded outcome) now) (db.currentLog row) hlast).mp hmerged

theorem Operation.heldBy_iff : row.HeldBy workerId now ↔
    row.state = .running ∧ row.workerId = some workerId ∧
      (row.leaseExpiresAt.any fun expiry => now ≤ expiry) = true := by
  simp only [Option.any_eq_true, decide_eq_true_eq]
  constructor
  · intro h
    exact ⟨h.running, h.worker, h.lease⟩
  · rintro ⟨hrunning, hworker, hlease⟩
    exact ⟨hrunning, hworker, hlease⟩

instance (row : Operation) (workerId : String) (now : Instant) :
    Decidable (row.HeldBy workerId now) :=
  decidable_of_iff _ Operation.heldBy_iff.symm

instance (log : List RunEvent) (outcome : RuntimePausedOutcome) :
    Decidable (ExtendsLog log outcome) :=
  inferInstanceAs (Decidable (_ → _))

/-- The sample pause after some progress. -/
def sampleProgress : RuntimePausedOutcome :=
  { samplePaused sampleRun with
    runEvents :=
      { eventId := "progress"
        decisionTaskId := "task"
        agentRunId := sampleRun
        sequence := 1
        occurredAt := .toISOString 0
        eventType := .taskStateChanged
        taskState := .researching
        summary := "progress" } :: (samplePaused sampleRun).runEvents }

/-- The operation is held at the instant 6, and the outcome is a valid one of its run. -/
def offersPause (outcome : RuntimePausedOutcome) (db : Store) (row : Operation) : Bool :=
  decide (db.operations.find? sampleOperation = some row) &&
    (decide (row.HeldBy "worker-1" 6) &&
      (decide (decodeRuntimePausedOutcomeV1 outcome = .ok outcome) &&
        (decide (outcome.snapshot.agentRunId = row.agentRunId) &&
          (decide (outcome.snapshot.decisionTaskId = row.decisionTaskId) &&
            decide ((db.currentLog row).length + outcome.runEvents.length ≤ maxRunSequence)))))

end Pauses

end ChoiceMind.TaskPersistence
