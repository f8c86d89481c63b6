import ChoiceMind.TaskPersistence.Observation
import ChoiceMind.TaskPersistence.Agreement

/-!
# One of each

In every reachable state an execution request has at most one submission, one operation, one
first run and one outbox message, and the log of every run has one creation event.
-/

namespace ChoiceMind.TaskPersistence

set_option autoImplicit false

open Contracts Transition

/-- The creation events of a run. -/
def Store.createdEvents (db : Store) (agentRunId : String) : List RunEvent :=
  (db.logOf agentRunId).filter fun event => event.taskState = .created

variable {env : Environment} {db db' : Store} {now : Instant} {action : Action} {reply : Reply}
  {agentRunId operationId : String}

/-! ### What a step does to runs and messages -/

inductive RunsChange (env : Environment) (db db' : Store) : Prop where
  | kept (agentRunId : String) (hruns : KeepsRuns agentRunId db db')
  | opened (operationId : String)
      (hruns : OpensRun ("agent-run-" ++ env.randomUUID db.uuidsDrawn) operationId db db')
  | purged (ownerUserId : String)
      (hruns : db'.agentRuns = db.agentRuns.deleteWhere fun row =>
        row.operationId ∈ (db.purgeScope ownerUserId).operationIds)
      (hevents : db'.runEvents = db.runEvents.deleteWhere fun row =>
        row.event.agentRunId ∈ (db.purgeScope ownerUserId).agentRunIds)

theorem Change.runs (h : Change env db now action reply db') : RunsChange env db db' := by
  cases h with
  | frame hsame hreply => exact .kept "" (hsame.keepsRuns "")
  | submitted hops hreqs hdrawn hruns => exact .opened _ hruns
  | claimed hrow hclaimable hops hreqs hclaimed =>
    cases hclaimed with
    | current hstate hsame hdrawn hruns => exact .kept _ hruns
    | retried hstate hnew hdrawn hruns => exact .opened _ (hnew ▸ hruns)
  | controlRejected hrequest hclaimable hops hreqs hdrawn hruns => exact .kept _ hruns
  | controlClaimed hrequest hclaimable hoperation hconsistent hops hreqs hclaim hof hdrawn
      hruns => exact .kept _ hruns
  | completed hrow hdecoded hcompletable hsettle hcommitted hops hreqs hdrawn hruns =>
    exact .kept _ hruns
  | resumeRequested hoperation hpaused hops hreqs hdrawn hruns => exact .kept _ hruns
  | cancelled hoperation hops hreqs hdrawn hruns => exact .kept _ hruns
  | purged hops hreqs hruns hevents => exact .purged _ hruns hevents

/-- A message is added only for an operation that has none. -/
theorem Change.outbox (h : Change env db now action reply db') :
    SameOutbox db db' ∨ ∃ message, db.outbox.insert? message = some db'.outbox ∧
      ∀ other ∈ db.outbox, other.operationId ≠ message.operationId := by
  cases h with
  | frame hsame hreply => exact .inl hsame.outbox
  | submitted hops hreqs hdrawn hruns hsubmissions hfresh houtbox => exact .inr houtbox
  | claimed hrow hclaimable hops hreqs hclaimed =>
    cases hclaimed with
    | current hstate hsame hdrawn hruns => exact .inl hruns.outbox
    | retried hstate hnew hdrawn hruns hsubmissions houtbox => exact .inl houtbox
  | controlRejected hrequest hclaimable hops hreqs hdrawn hruns => exact .inl hruns.outbox
  | controlClaimed hrequest hclaimable hoperation hconsistent hops hreqs hclaim hof hdrawn
      hruns => exact .inl hruns.outbox
  | completed hrow hdecoded hcompletable hsettle hcommitted hops hreqs hdrawn hruns =>
    exact .inl hruns.outbox
  | resumeRequested hoperation hpaused hops hreqs hdrawn hruns => exact .inl hruns.outbox
  | cancelled hoperation hops hreqs hdrawn hruns => exact .inl hruns.outbox
  | purged hops hreqs hruns hevents hdrawn hsubmissions houtbox => exact .inl houtbox

section Created

theorem createdEvents_append {events : List RunEvent}
    (hevents : db'.events = db.events ++ events)
    (hof : ∀ event ∈ events, event.agentRunId = agentRunId) (other : String) :
    db'.createdEvents other =
      if other = agentRunId then
        db.createdEvents other ++ events.filter fun event => event.taskState = .created
      else db.createdEvents other := by
  unfold Store.createdEvents
  rw [logOf_append hevents hof]
  split
  · exact List.filter_append ..
  · rfl

/-- The log of every registered run has one creation event. -/
def Created (db : Store) : Prop :=
  ∀ run ∈ db.agentRuns, (db.createdEvents run.agentRunId).length = 1

theorem Created.of_keeps (h : Created db) (hlogged : Logged env db)
    (hkeeps : KeepsRuns agentRunId db db') : Created db' := by
  obtain ⟨events, hevents, hof⟩ := hkeeps.events
  intro run hrun
  rw [hkeeps.agentRuns] at hrun
  rw [createdEvents_append hevents hof]
  split
  · rename_i hsame
    -- the run has its creation event, so none is added
    have hnone : events.filter (fun event => event.taskState = .created) = [] := by
      rw [List.filter_eq_nil_iff]
      intro event hevent hcreated
      obtain ⟨row, hrow, hcurrent, habsent⟩ :=
        hkeeps.created events hevents event hevent (of_decide_eq_true hcreated)
      have hlog : db.runEventsOf row.decisionTaskId row.agentRunId = db.logOf row.agentRunId :=
        hlogged.currentLog hrow
      rw [hlog, hcurrent, ← hsame] at habsent
      have hone := h run hrun
      obtain ⟨first, hfirst⟩ := List.length_pos_iff_exists_mem.mp (by omega :
        0 < (db.createdEvents run.agentRunId).length)
      obtain ⟨hin, hstate⟩ := List.mem_filter.mp hfirst
      exact habsent (List.mem_map.mpr ⟨first, hin, of_decide_eq_true hstate⟩)
    rw [hnone, List.append_nil]
    exact h run hrun
  · exact h run hrun

theorem Created.of_opens (h : Created db) (hlogged : Logged env db)
    (hopens : OpensRun ("agent-run-" ++ env.randomUUID db.uuidsDrawn) operationId db db') :
    Created db' := by
  obtain ⟨events, -, hevents, hof⟩ := hopens.events
  obtain ⟨attempt, createdAt, hinsert⟩ := hopens.agentRuns
  intro run hrun
  rw [createdEvents_append hevents hof]
  rcases (Table.mem_insert? hinsert).mp hrun with hold | rfl
  · rw [if_neg (Table.key_fresh_of_insert? hinsert run hold)]
    exact h run hold
  · rw [if_pos rfl, Store.createdEvents, hlogged.logOf_fresh]
    exact hopens.created events hevents

/-- The log of a run that stays is not deleted. -/
theorem logOf_purged {ownerUserId : String} (hregistered : Registered db) {run : AgentRun}
    (hrun : run ∈ db.agentRuns)
    (hstays : run.operationId ∉ (db.purgeScope ownerUserId).operationIds)
    (hevents : db'.runEvents = db.runEvents.deleteWhere fun row =>
      row.event.agentRunId ∈ (db.purgeScope ownerUserId).agentRunIds) :
    db'.logOf run.agentRunId = db.logOf run.agentRunId := by
  have hkept : run.agentRunId ∉ (db.purgeScope ownerUserId).agentRunIds := by
    intro hin
    have howner := hregistered.runOwner_of_mem_scope hin
    rw [runOwner_eq, runOperation_of_mem hrun, Option.bind_some] at howner
    exact hstays (mem_scope_operationIds.mpr howner)
  unfold Store.logOf
  rw [hevents, Table.deleteWhere, List.filter_map, List.filter_map, List.filter_filter]
  congr 1
  apply List.filter_congr
  intro row hrow
  by_cases hof : row.event.agentRunId = run.agentRunId
  · simp [hof, hkept]
  · simp [hof]

theorem Created.change (h : Created db) (hlogged : Logged env db) (hregistered : Registered db)
    (hchange : Change env db now action reply db') : Created db' := by
  cases hchange.runs with
  | kept agentRunId hkeeps => exact h.of_keeps hlogged hkeeps
  | opened operationId hopens => exact h.of_opens hlogged hopens
  | purged ownerUserId hruns hevents =>
    intro run hrun
    rw [hruns, Table.mem_deleteWhere, decide_eq_false_iff_not] at hrun
    rw [Store.createdEvents, logOf_purged hregistered hrun.1 hrun.2 hevents]
    exact h run hrun.1

end Created

/-! ### At most one row -/

/-- No attempt is counted twice, and no operation has two messages. -/
structure Singled (db : Store) : Prop where
  attempts : ∀ run ∈ db.agentRuns, ∀ other ∈ db.agentRuns,
    run.operationId = other.operationId → run.attempt = other.attempt → run = other
  messages : ∀ message ∈ db.outbox, ∀ other ∈ db.outbox,
    message.operationId = other.operationId → message = other

theorem attempts_of_runs (h : Singled db) (hruns : RunsChange env db db') :
    ∀ run ∈ db'.agentRuns, ∀ other ∈ db'.agentRuns,
      run.operationId = other.operationId → run.attempt = other.attempt → run = other := by
  cases hruns with
  | kept agentRunId hkeeps => exact hkeeps.agentRuns ▸ h.attempts
  | opened operationId hopens =>
    obtain ⟨attempt, createdAt, hinsert⟩ := hopens.agentRuns
    intro run hrun other hother hoperation hattempt
    rcases (Table.mem_insert? hinsert).mp hrun with hold | hnew
    · rcases (Table.mem_insert? hinsert).mp hother with hold' | hnew'
      · exact h.attempts run hold other hold' hoperation hattempt
      · rcases hopens.unattempted other hother with hold' | hunattempted
        · exact h.attempts run hold other hold' hoperation hattempt
        · exact absurd hattempt (hunattempted run hold hoperation)
    · rcases hopens.unattempted run hrun with hold | hunattempted
      · exact absurd (congrArg AgentRun.agentRunId hnew)
          (Table.key_fresh_of_insert? hinsert run hold)
      · rcases (Table.mem_insert? hinsert).mp hother with hold' | hnew'
        · exact absurd hattempt.symm (hunattempted other hold' hoperation.symm)
        · exact hnew.trans hnew'.symm
  | purged ownerUserId hruns hevents =>
    intro run hrun other hother
    rw [hruns, Table.mem_deleteWhere] at hrun hother
    exact h.attempts run hrun.1 other hother.1

theorem messages_of_outbox (h : Singled db)
    (houtbox : SameOutbox db db' ∨ ∃ message, db.outbox.insert? message = some db'.outbox ∧
      ∀ other ∈ db.outbox, other.operationId ≠ message.operationId) :
    ∀ message ∈ db'.outbox, ∀ other ∈ db'.outbox,
      message.operationId = other.operationId → message = other := by
  intro message hmessage other hother hoperation
  rcases houtbox with hsame | ⟨sent, hinsert, hunsent⟩
  · obtain ⟨old, hold, hkey, hof⟩ := hsame message hmessage
    obtain ⟨old', hold', hkey', hof'⟩ := hsame other hother
    have heq := h.messages old hold old' hold' (by rw [hof, hof', hoperation])
    exact Table.eq_of_key_eq hmessage hother (by rw [← hkey, ← hkey', heq])
  · rcases (Table.mem_insert? hinsert).mp hmessage with hold | rfl
    · rcases (Table.mem_insert? hinsert).mp hother with hold' | rfl
      · exact h.messages message hold other hold' hoperation
      · exact absurd hoperation (hunsent message hold)
    · rcases (Table.mem_insert? hinsert).mp hother with hold' | rfl
      · exact absurd hoperation.symm (hunsent other hold')
      · rfl

/-- Every submission has its operation. -/
def Paired (db : Store) : Prop :=
  ∀ submission ∈ db.submissions, ∃ row ∈ db.operations,
    row.executionRequestId = submission.executionRequestId

theorem Paired.of_same (h : Paired db) (hsubmissions : db'.submissions = db.submissions)
    (hkept : ∀ row ∈ db.operations, ∃ later ∈ db'.operations,
      later.executionRequestId = row.executionRequestId) : Paired db' := by
  intro submission hmem
  rw [hsubmissions] at hmem
  obtain ⟨row, hrow, hkey⟩ := h submission hmem
  obtain ⟨later, hlater, hsame⟩ := hkept row hrow
  exact ⟨later, hlater, hsame.trans hkey⟩

theorem Paired.change (h : Paired db) (hchange : Change env db now action reply db') :
    Paired db' := by
  have hkept : reply.isPurged = false → ∀ row ∈ db.operations, ∃ later ∈ db'.operations,
      later.executionRequestId = row.executionRequestId := by
    intro hunpurged row hrow
    obtain ⟨later, hlater, hsame⟩ := hchange.operation_kept hrow fun owner _ =>
      commitsPurge_of_not_purged hunpurged owner
    exact ⟨later, hlater, hsame.executionRequestId⟩
  cases hchange with
  | frame hsame hreply =>
    exact h.of_same hsame.submissions fun row hrow => ⟨row, hsame.operations ▸ hrow, rfl⟩
  | submitted hops hreqs hdrawn hruns hsubmissions =>
    intro submission hmem
    rcases (Table.mem_insert? hsubmissions).mp hmem with hold | rfl
    · obtain ⟨row, hrow, hkey⟩ := h submission hold
      exact ⟨row, (Table.mem_insert? hops).mpr (.inl hrow), hkey⟩
    · exact ⟨_, (Table.mem_insert? hops).mpr (.inr rfl), rfl⟩
  | claimed hrow hclaimable hops hreqs hclaimed =>
    cases hclaimed with
    | current hstate hsame hdrawn hruns => exact h.of_same hruns.submissions (hkept rfl)
    | retried hstate hnew hdrawn hruns hsubmissions => exact h.of_same hsubmissions (hkept rfl)
  | controlRejected hrequest hclaimable hops hreqs hdrawn hruns =>
    exact h.of_same hruns.submissions (hkept rfl)
  | controlClaimed hrequest hclaimable hoperation hconsistent hops hreqs hclaim hof hdrawn
      hruns => exact h.of_same hruns.submissions (hkept rfl)
  | completed hrow hdecoded hcompletable hsettle hcommitted hops hreqs hdrawn hruns =>
    exact h.of_same hruns.submissions (hkept rfl)
  | resumeRequested hoperation hpaused hops hreqs hdrawn hruns =>
    exact h.of_same hruns.submissions (hkept rfl)
  | cancelled hoperation hops hreqs hdrawn hruns =>
    exact h.of_same hruns.submissions (hkept rfl)
  | @purged ownerUserId result _ hops hreqs hruns hevents hdrawn hsubmissions =>
    intro submission hmem
    rw [hsubmissions, Table.mem_deleteWhere, decide_eq_false_iff_not] at hmem
    obtain ⟨row, hrow, hkey⟩ := h submission hmem.1
    refine ⟨row, ?_, hkey⟩
    rw [hops, Table.mem_deleteWhere, decide_eq_false_iff_not, mem_scope_operationIds,
      operationOwner_of_mem hrow]
    refine ⟨hrow, fun howner => hmem.2 ?_⟩
    obtain ⟨other, hother, rfl, hsame⟩ := ownerOf_eq_some.mp howner
    rw [Table.eq_of_key_eq hmem.1 hother (hkey.symm.trans hsame.symm)]

/-- What is unique in every reachable state, with the invariants it rests on. -/
structure Unique (env : Environment) (db : Store) : Prop where
  logged : Logged env db
  registered : Registered db
  recorded : Recorded env db
  created : Created db
  singled : Singled db
  paired : Paired db

theorem unique_empty : Unique env Store.empty where
  logged := logged_empty
  registered := registered_empty
  recorded := recorded_empty
  created := fun run hrun => absurd hrun (Table.not_mem_empty run)
  singled :=
    ⟨fun run hrun => absurd hrun (Table.not_mem_empty run),
      fun message hmessage => absurd hmessage (Table.not_mem_empty message)⟩
  paired := fun submission hmem => absurd hmem (Table.not_mem_empty submission)

theorem Unique.step (h : Unique env db)
    (hstep : step env db (now, action) = some (reply, db')) : Unique env db' := by
  have hchange := step_change hstep
  obtain ⟨agreed, hlog, -⟩ := step_log h.logged hstep
  exact
    { logged := h.logged.change (h.logged.known.change hchange) hlog
      registered := h.registered.change hchange
      recorded := h.recorded.change hchange
      created := h.created.change h.logged h.registered hchange
      singled := ⟨attempts_of_runs h.singled hchange.runs,
        messages_of_outbox h.singled hchange.outbox⟩
      paired := h.paired.change hchange }

theorem unique_of_run {es : List (Entry Store (Instant × Action) Reply)}
    (h : Run (step env) Store.empty es db) : Unique env db := by
  refine h.invariant (G := fun _ _ => True) ?_ (fun _ _ => trivial) unique_empty
  intro s t a r hs _ hstep
  exact hs.step hstep

/-! ### The rows of one execution request -/

section Requests
variable {executionRequestId : String}

/-- The operations of an execution request. -/
def Store.operationsFor (db : Store) (executionRequestId : String) : List Operation :=
  db.operations.select fun row => row.executionRequestId = executionRequestId

/-- The runs of attempt 1 of the operations of an execution request. -/
def Store.firstRunsFor (db : Store) (executionRequestId : String) : List AgentRun :=
  db.agentRuns.select fun run => run.attempt = 1 &&
    (db.operationsFor executionRequestId).any fun row => row.operationId = run.operationId

/-- The outbox messages of the operations of an execution request. -/
def Store.messagesFor (db : Store) (executionRequestId : String) : List OutboxMessage :=
  db.outbox.select fun message =>
    (db.operationsFor executionRequestId).any fun row => row.operationId = message.operationId

/-- An execution request has at most one of everything, and a run of attempt 1 has one
creation event. -/
structure AtMostOnce (db : Store) (executionRequestId : String) : Prop where
  submissions : (db.submissions.select fun submission =>
    submission.executionRequestId = executionRequestId).length ≤ 1
  operations : (db.operationsFor executionRequestId).length ≤ 1
  firstRuns : (db.firstRunsFor executionRequestId).length ≤ 1
  created : ∀ run ∈ db.firstRunsFor executionRequestId,
    (db.createdEvents run.agentRunId).length = 1
  messages : (db.messagesFor executionRequestId).length ≤ 1

theorem mem_operationsFor {row : Operation} :
    row ∈ db.operationsFor executionRequestId ↔
      row ∈ db.operations ∧ row.executionRequestId = executionRequestId := by
  unfold Store.operationsFor
  simp

theorem mem_firstRunsFor {run : AgentRun} :
    run ∈ db.firstRunsFor executionRequestId ↔ run ∈ db.agentRuns ∧ run.attempt = 1 ∧
      ∃ row ∈ db.operationsFor executionRequestId, row.operationId = run.operationId := by
  unfold Store.firstRunsFor
  simp

theorem mem_messagesFor {message : OutboxMessage} :
    message ∈ db.messagesFor executionRequestId ↔ message ∈ db.outbox ∧
      ∃ row ∈ db.operationsFor executionRequestId, row.operationId = message.operationId := by
  unfold Store.messagesFor
  simp

theorem Recorded.operationsFor_unique (h : Recorded env db) {row other : Operation}
    (hrow : row ∈ db.operationsFor executionRequestId)
    (hother : other ∈ db.operationsFor executionRequestId) : row = other := by
  obtain ⟨hmem, hkey⟩ := mem_operationsFor.mp hrow
  obtain ⟨hmem', hkey'⟩ := mem_operationsFor.mp hother
  exact h.unique row hmem other hmem' (hkey.trans hkey'.symm)

theorem Unique.atMostOnce (h : Unique env db) (executionRequestId : String) :
    AtMostOnce db executionRequestId where
  submissions := by
    apply Table.length_select_le_one
    intro submission hmem hkey other hother hkey'
    exact Table.eq_of_key_eq hmem hother
      ((of_decide_eq_true hkey).trans (of_decide_eq_true hkey').symm)
  operations := by
    apply Table.length_select_le_one
    intro row hrow hkey other hother hkey'
    exact h.recorded.unique row hrow other hother
      ((of_decide_eq_true hkey).trans (of_decide_eq_true hkey').symm)
  firstRuns := by
    apply Table.length_select_le_one
    intro run hrun hfirst other hother hfirst'
    obtain ⟨-, hattempt, row, hrow, hof⟩ :=
      mem_firstRunsFor.mp (Table.mem_select.mpr ⟨hrun, hfirst⟩)
    obtain ⟨-, hattempt', row', hrow', hof'⟩ :=
      mem_firstRunsFor.mp (Table.mem_select.mpr ⟨hother, hfirst'⟩)
    obtain rfl := h.recorded.operationsFor_unique hrow hrow'
    exact h.singled.attempts run hrun other hother (hof.symm.trans hof')
      (hattempt.trans hattempt'.symm)
  created run hrun := h.created run (mem_firstRunsFor.mp hrun).1
  messages := by
    apply Table.length_select_le_one
    intro message hmessage hsent other hother hsent'
    obtain ⟨-, row, hrow, hof⟩ := mem_messagesFor.mp (Table.mem_select.mpr ⟨hmessage, hsent⟩)
    obtain ⟨-, row', hrow', hof'⟩ := mem_messagesFor.mp (Table.mem_select.mpr ⟨hother, hsent'⟩)
    obtain rfl := h.recorded.operationsFor_unique hrow hrow'
    exact h.singled.messages message hmessage other hother (hof.symm.trans hof')

end Requests

end ChoiceMind.TaskPersistence
