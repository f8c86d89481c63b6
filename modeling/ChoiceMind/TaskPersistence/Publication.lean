import ChoiceMind.TaskPersistence.Observation

/-!
# Publisher and claimer

The publisher selects an outbox row by a predicate on the row and its operation, and
`claimNext` tests the state of the operation again. Every operation that can be claimed has
a row that the publisher selects from its next attempt on.
-/

namespace ChoiceMind.TaskPersistence

set_option autoImplicit false

open Contracts Transition

variable {env : Environment} {db db' : Store} {now : Instant} {action : Action} {reply : Reply}

/-- The `WHERE` clause of the publisher. -/
def Store.selects (db : Store) (message : OutboxMessage) (attemptedAt : Instant) : Bool :=
  (db.operations.find? message.operationId).any fun operation =>
    message.pending operation attemptedAt

/-! ### Every operation has its message -/

/-- The messages of the operations that stay are kept, and a new operation has a message. -/
structure Announces (db db' : Store) : Prop where
  kept : ∀ message ∈ db.outbox,
    (∃ row ∈ db'.operations, row.operationId = message.operationId) →
    ∃ later ∈ db'.outbox, later.messageId = message.messageId ∧
      later.operationId = message.operationId
  announced : ∀ row ∈ db'.operations,
    (∃ old ∈ db.operations, old.operationId = row.operationId) ∨
      ∃ message ∈ db'.outbox, message.operationId = row.operationId

/-- No row of the operations is new. -/
def OldOperations (db db' : Store) : Prop :=
  ∀ row ∈ db'.operations, ∃ old ∈ db.operations, old.operationId = row.operationId

theorem OldOperations.of_eq (h : db'.operations = db.operations) : OldOperations db db' :=
  fun row hrow => ⟨row, h ▸ hrow, rfl⟩

theorem OldOperations.update {operationId : String} {f : Operation → Operation}
    {hf : ∀ row, (f row).operationId = row.operationId}
    (h : db'.operations = db.operations.update operationId f hf) : OldOperations db db' := by
  intro row hrow
  rw [h] at hrow
  obtain ⟨old, hold, rfl⟩ := Table.mem_update.mp hrow
  refine ⟨old, hold, ?_⟩
  split
  · exact (hf old).symm
  · rfl

theorem Announces.of_same (houtbox : db'.outbox = db.outbox) (hops : OldOperations db db') :
    Announces db db' where
  kept message hmessage _ := ⟨message, houtbox ▸ hmessage, rfl, rfl⟩
  announced row hrow := .inl (hops row hrow)

theorem announces_publish (retryDelayMs republishDelayMs : Nat) (delivered : Bool)
    (skipped : List String) :
    Announces db (publishNext env retryDelayMs republishDelayMs delivered skipped now db).2 := by
  have hupdate : ∀ (messageId : String) (f : OutboxMessage → OutboxMessage)
      (hf : ∀ message, (f message).messageId = message.messageId)
      (_ : ∀ message, (f message).operationId = message.operationId),
      Announces db { db with outbox := db.outbox.update messageId f hf } := by
    intro messageId f hf hsame
    constructor
    · intro message hmessage _
      have hin : (if message.messageId = messageId then f message else message) ∈
          db.outbox.update messageId f hf := Table.mem_update.mpr ⟨message, hmessage, rfl⟩
      refine ⟨_, hin, ?_⟩
      split
      · exact ⟨hf message, hsame message⟩
      · exact ⟨rfl, rfl⟩
    · exact fun row hrow => .inl ⟨row, hrow, rfl⟩
  unfold publishNext
  split
  · exact .of_same rfl (.of_eq rfl)
  · split
    · exact hupdate _ _ _ fun _ => rfl
    · exact hupdate _ _ _ fun _ => rfl

theorem announces_submit {command : ExecuteDecisionTaskCommand} {ownerUserId : String}
    {snapshot : DecisionTaskSnapshot}
    (h : submit env command ownerUserId now db = .ok (snapshot, db')) : Announces db db' := by
  rcases submit_ok h with rfl | hinsert
  · exact .of_same rfl (.of_eq rfl)
  · obtain ⟨submissions, operations, agentRuns, outbox, -, hoperations, -, houtbox, happends, -⟩ :=
      insertSubmission_ok hinsert
    constructor
    · intro message hmessage _
      rw [happends.outbox]
      exact ⟨message, (Table.mem_insert? houtbox).mpr (.inl hmessage), rfl, rfl⟩
    · intro row hrow
      rw [happends.operations] at hrow
      rw [happends.outbox]
      rcases (Table.mem_insert? hoperations).mp hrow with hold | rfl
      · exact .inl ⟨row, hold, rfl⟩
      · exact .inr ⟨_, (Table.mem_insert? houtbox).mpr (.inr rfl), rfl⟩

theorem announces_claimNext {operationId workerId : String} {leaseDurationMs : Nat}
    {result : DecisionTaskClaimResult}
    (h : claimNext env operationId workerId leaseDurationMs now db = .ok (result, db')) :
    Announces db db' := by
  rcases claimNext_ok h with ⟨-, rfl⟩ | ⟨row, claim, db₁, -, -, -, -, hrun, -, hrecord⟩
  · exact .of_same rfl (.of_eq rfl)
  · have happends := recordRunning_ok hrecord
    have hbefore : db₁.outbox = db.outbox ∧ db₁.operations = db.operations := by
      rcases claimAgentRun_ok hrun with ⟨-, -, rfl⟩ | ⟨-, -, agentRuns, -, hretry, -⟩
      · exact ⟨rfl, rfl⟩
      · exact ⟨hretry.outbox, hretry.operations⟩
    refine .of_same (happends.outbox.trans hbefore.1) ?_
    have hops := happends.operations
    simp only [hbefore.2] at hops
    exact .update hops

theorem announces_claimNextRuntimeControl {workerId : String} {leaseDurationMs : Nat}
    {skipped : List String} {result : RuntimeControlClaimResult}
    (h : claimNextRuntimeControl env workerId leaseDurationMs skipped now db =
      .ok (result, db')) : Announces db db' := by
  rcases claimNextRuntimeControl_ok h with ⟨-, rfl⟩ | ⟨row, -, hclaimed⟩
  · exact .of_same rfl (.of_eq rfl)
  · cases hclaimed with
    | rejected code message hmessage => exact .of_same rfl (.of_eq rfl)
    | manual hconsistent hfacts hdecision happends =>
      exact .of_same happends.outbox (.of_eq happends.operations)
    | leased hconsistent hfacts hdecision hid hrun happends =>
      have hops := happends.operations
      simp only [Store.leaseRequest] at hops
      exact .of_same happends.outbox (.update hops)

theorem announces_complete {operationId workerId : String} {outcome : PersistentOutcome}
    {controlRequestId : Option String} {completion : DecisionTaskCompletion}
    (h : complete env operationId workerId outcome controlRequestId now db =
      .ok (completion, db')) : Announces db db' := by
  have hops : OldOperations db db' := by
    cases complete_change h with
    | frame hsame => exact .of_eq hsame.operations
    | completed _ _ _ hsettle _ hoperations => exact .update hoperations
  have houtbox : db'.outbox = db.outbox := by
    rcases complete_ok h with ⟨-, rfl⟩ | ⟨-, row, decoded, db₁, -, -, -, hpersist, -, rfl⟩
    · rfl
    · obtain ⟨-, rewrite, -, db₂, happends, rfl⟩ := persistOutcome_ok hpersist
      exact happends.outbox
  exact .of_same houtbox hops

theorem announces_requestRuntimeCancel {input : RuntimeCancelRequestInput}
    {status : Option RuntimeControlStatus}
    (h : requestRuntimeCancel env input now db = .ok (status, db')) : Announces db db' := by
  rcases requestRuntimeCancel_ok h with rfl |
    ⟨operation, controlRequests, controlStates, -, -, -, -, happends⟩
  · exact .of_same rfl (.of_eq rfl)
  · have hops := happends.operations
    simp only at hops
    exact .of_same happends.outbox (.update hops)

theorem announces_purge {ownerUserId : String} {result : PurgeResult}
    (h : purgePrivateDataForOwner env ownerUserId db = .ok (result, db')) : Announces db db' := by
  obtain rfl := purgePrivateDataForOwner_ok h
  have hstays : ∀ row : Operation, row ∈ (db.erased env ownerUserId).operations →
      row ∈ db.operations ∧ row.operationId ∉ (db.purgeScope ownerUserId).operationIds := by
    intro row hrow
    have hdeleted : row ∈ db.operations.deleteWhere fun row =>
        row.operationId ∈ (db.purgeScope ownerUserId).operationIds := hrow
    rwa [Table.mem_deleteWhere, decide_eq_false_iff_not] at hdeleted
  constructor
  · rintro message hmessage ⟨row, hrow, hof⟩
    refine ⟨message, ?_, rfl, rfl⟩
    have hkept : message ∈ db.outbox.deleteWhere fun row =>
        row.operationId ∈ (db.purgeScope ownerUserId).operationIds := by
      rw [Table.mem_deleteWhere, decide_eq_false_iff_not, ← hof]
      exact ⟨hmessage, (hstays row hrow).2⟩
    exact hkept
  · exact fun row hrow => .inl ⟨row, (hstays row hrow).1, rfl⟩

theorem perform_announces (h : perform env now db action = .ok (reply, db')) :
    Announces db db' := by
  have hframe : db'.outbox = db.outbox → db'.operations = db.operations → Announces db db' :=
    fun houtbox hops => .of_same houtbox (.of_eq hops)
  cases action with
  | publishNext retryDelayMs republishDelayMs delivered skipped =>
    cases h
    exact announces_publish retryDelayMs republishDelayMs delivered skipped
  | submit command ownerUserId =>
    simp only [perform, bind_eq_ok] at h
    obtain ⟨⟨snapshot, _⟩, hsubmit, h⟩ := h
    cases h
    exact announces_submit hsubmit
  | claimNext operationId workerId leaseDurationMs =>
    simp only [perform, bind_eq_ok] at h
    obtain ⟨⟨result, _⟩, hclaim, h⟩ := h
    cases h
    exact announces_claimNext hclaim
  | claimNextRuntimeControl workerId leaseDurationMs skipped =>
    simp only [perform, bind_eq_ok] at h
    obtain ⟨⟨result, _⟩, hclaim, h⟩ := h
    cases h
    exact announces_claimNextRuntimeControl hclaim
  | complete operationId workerId outcome controlRequestId =>
    simp only [perform, bind_eq_ok] at h
    obtain ⟨⟨completion, _⟩, hcomplete, h⟩ := h
    cases h
    exact announces_complete hcomplete
  | requestRuntimeCancel input =>
    simp only [perform, bind_eq_ok] at h
    obtain ⟨⟨status, _⟩, hrequest, h⟩ := h
    cases h
    exact announces_requestRuntimeCancel hrequest
  | purgePrivateDataForOwner ownerUserId =>
    simp only [perform, bind_eq_ok] at h
    obtain ⟨⟨result, _⟩, hpurge, h⟩ := h
    cases h
    exact announces_purge hpurge
  | requestRuntimeResume input =>
    simp only [perform, bind_eq_ok] at h
    obtain ⟨⟨status, _⟩, hrequest, h⟩ := h
    cases h
    rcases requestRuntimeResume_ok hrequest with rfl | ⟨_, -, -, hinsert⟩
    · exact hframe rfl rfl
    · obtain ⟨-, _, -, rfl⟩ := insertControlRequest_ok hinsert
      exact hframe rfl rfl
  | putRawSnapshot payload =>
    simp only [perform, bind_eq_ok] at h
    obtain ⟨⟨reference, _⟩, hput, h⟩ := h
    cases h
    obtain ⟨_, -, rfl⟩ := putRawSnapshot_ok hput
    exact hframe rfl rfl
  | putEffectResult identity payload =>
    simp only [perform, bind_eq_ok] at h
    obtain ⟨⟨reference, _⟩, hput, h⟩ := h
    cases h
    obtain ⟨_, _, -, -, rfl⟩ := putEffectResult_ok hput
    exact hframe rfl rfl
  | saveRecoveryFacts snapshot effectReceipts =>
    simp only [perform, bind_eq_ok] at h
    obtain ⟨_, hsave, h⟩ := h
    cases h
    obtain ⟨-, -, _, _, _, rfl, -⟩ := saveRecoveryFacts_ok hsave
    exact hframe rfl rfl
  | recordRuntimeRunning agentRunId controllerId leaseDurationMs =>
    simp only [perform, bind_eq_ok] at h
    obtain ⟨_, hrecord, h⟩ := h
    cases h
    obtain ⟨_, rfl, -⟩ := recordRuntimeRunning_ok hrecord
    exact hframe rfl rfl
  | claimRuntimeResume agentRunId snapshotId controllerId leaseDurationMs =>
    simp only [perform, bind_eq_ok] at h
    obtain ⟨⟨claim, _⟩, hclaim, h⟩ := h
    cases h
    obtain ⟨_, rfl, -⟩ := claimRuntimeResume_ok hclaim
    exact hframe rfl rfl
  | completeRuntimeControl agentRunId controllerId expected next state runEvents =>
    simp only [perform, bind_eq_ok] at h
    obtain ⟨_, hcomplete, h⟩ := h
    cases h
    obtain ⟨_, rfl, -⟩ := completeRuntimeControl_ok hcomplete
    exact hframe rfl rfl
  | claimRuntimeCancel agentRunId cancellationId runEvents =>
    simp only [perform, bind_eq_ok] at h
    obtain ⟨⟨claim, _⟩, hclaim, h⟩ := h
    cases h
    obtain ⟨_, rfl, -⟩ := claimRuntimeCancel_ok hclaim
    exact hframe rfl rfl
  | appendEgressRecord record =>
    simp only [perform, bind_eq_ok] at h
    obtain ⟨_, happend, h⟩ := h
    cases h
    obtain ⟨_, -, rfl⟩ := appendEgressRecord_ok happend
    exact hframe rfl rfl
  | appendAuditRecord record =>
    simp only [perform, bind_eq_ok] at h
    obtain ⟨_, happend, h⟩ := h
    cases h
    obtain ⟨_, -, rfl⟩ := appendAuditRecord_ok happend
    exact hframe rfl rfl
  | saveEncryptedCredential key envelope =>
    simp only [perform, bind_eq_ok] at h
    obtain ⟨_, hsave, h⟩ := h
    cases h
    obtain ⟨_, rfl, -⟩ := saveEncryptedCredential_ok hsave
    exact hframe rfl rfl
  | deleteEncryptedCredential key =>
    cases h
    exact hframe rfl rfl
  | saveEvidence row =>
    cases h
    obtain ⟨evidenceIndex, heq, -⟩ := saveEvidence_eq row db
    rw [heq]
    exact .of_same rfl (.of_eq rfl)
  | skipCursors count =>
    cases h
    exact hframe rfl rfl

theorem step_announces (h : step env db (now, action) = some (reply, db')) :
    Announces db db' := by
  rcases step_cases h with hperform | ⟨-, rfl⟩
  · exact perform_announces hperform
  · exact .of_same rfl (.of_eq rfl)

/-- Every operation has an outbox message. -/
def Announced (db : Store) : Prop :=
  ∀ row ∈ db.operations, ∃ message ∈ db.outbox, message.operationId = row.operationId

theorem Announced.step (h : Announced db) (hstep : step env db (now, action) = some (reply, db')) :
    Announced db' := by
  have hannounces := step_announces hstep
  intro row hrow
  rcases hannounces.announced row hrow with ⟨old, hold, hsame⟩ | hnew
  · obtain ⟨message, hmessage, hof⟩ := h old hold
    obtain ⟨later, hlater, -, hkept⟩ := hannounces.kept message hmessage
      ⟨row, hrow, (hof.trans hsame).symm⟩
    exact ⟨later, hlater, hkept.trans (hof.trans hsame)⟩
  · exact hnew

theorem announced_of_run {es : List (Entry Store (Instant × Action) Reply)}
    (h : Run (step env) Store.empty es db) : Announced db := by
  refine h.invariant (G := fun _ _ => True) ?_ (fun _ _ => trivial)
    fun row hrow => absurd hrow (Table.not_mem_empty row)
  intro s t a r hs _ hstep
  exact hs.step hstep

/-! ### The publisher reaches what it selects -/

section Selection
variable {message : OutboxMessage} {attemptedAt : Instant} {skipped : List String}

theorem nextPending_eq_some (h : db.nextPending env attemptedAt skipped = some message) :
    message ∈ db.outbox ∧ message.messageId ∉ skipped ∧
      db.selects message attemptedAt = true := by
  have hmem := List.mem_of_mem_head? (Option.mem_def.mpr h)
  rw [List.mem_insertionSort, Table.mem_select, Bool.and_eq_true, decide_eq_true_eq] at hmem
  exact ⟨hmem.1, hmem.2.1, hmem.2.2⟩

/-- While some row can be selected the publisher selects one. -/
theorem exists_nextPending (hmessage : message ∈ db.outbox)
    (hselects : db.selects message attemptedAt = true) :
    ∃ next, db.nextPending env attemptedAt [] = some next := by
  cases hnext : db.nextPending env attemptedAt [] with
  | some next => exact ⟨next, rfl⟩
  | none =>
    unfold Store.nextPending at hnext
    rw [List.head?_eq_none_iff, ← List.length_eq_zero_iff, List.length_insertionSort,
      List.length_eq_zero_iff] at hnext
    have hmem : message ∈ db.outbox.select fun message =>
        message.messageId ∉ ([] : List String) &&
          (db.operations.find? message.operationId).any fun operation =>
            message.pending operation attemptedAt := by
      rw [Table.mem_select, Bool.and_eq_true]
      exact ⟨hmessage, by simp, hselects⟩
    rw [hnext] at hmem
    cases hmem

/-- A published row is due again when its delay is over. -/
structure Published (message : OutboxMessage) (attemptedAt : Instant) (db db' : Store) :
    Prop where
  operations : db'.operations = db.operations
  other : ∀ row ∈ db.outbox, row.messageId ≠ message.messageId → row ∈ db'.outbox
  fewer : (db'.outbox.select fun row => db'.selects row attemptedAt).length <
    (db.outbox.select fun row => db.selects row attemptedAt).length

theorem publishNext_published {retryDelayMs republishDelayMs : Nat} (hretry : 0 < retryDelayMs)
    (hrepublish : 0 < republishDelayMs) (delivered : Bool)
    (hnext : db.nextPending env attemptedAt skipped = some message) :
    Published message attemptedAt db
      (publishNext env retryDelayMs republishDelayMs delivered skipped attemptedAt db).2 := by
  obtain ⟨hmessage, -, hselects⟩ := nextPending_eq_some hnext
  have hupdate : ∀ (f : OutboxMessage → OutboxMessage)
      (hf : ∀ row, (f row).messageId = row.messageId)
      (_ : attemptedAt < (f message).nextAttemptAt),
      Published message attemptedAt db
        { db with outbox := db.outbox.update message.messageId f hf } := by
    intro f hf hlater
    have hkept : ∀ row ∈ db.outbox, row.messageId ≠ message.messageId →
        row ∈ db.outbox.update message.messageId f hf :=
      fun row hrow hother => (Table.mem_update_of_ne hother).mpr hrow
    -- the changed row is not due at the time of the attempt
    have hout : db.selects (f message) attemptedAt = false := by
      simp only [Store.selects, OutboxMessage.pending, Option.any_eq_false]
      intro operation _
      rw [decide_eq_false (not_le.mpr hlater), Bool.false_and]
    have hfewer : ((db.outbox.update message.messageId f hf).select fun row =>
        db.selects row attemptedAt).length <
        (db.outbox.select fun row => db.selects row attemptedAt).length :=
      Table.length_select_update_lt hmessage hselects hout
    exact ⟨rfl, hkept, hfewer⟩
  unfold publishNext
  simp only [hnext]
  split
  · refine hupdate _ _ ?_
    exact Int.lt_add_of_pos_right attemptedAt (Int.natCast_pos.mpr hrepublish)
  · refine hupdate _ _ ?_
    exact Int.lt_add_of_pos_right attemptedAt (Int.natCast_pos.mpr hretry)

/-- Attempts of the publisher one after another at one time. -/
def publishAll (env : Environment) (retryDelayMs republishDelayMs : Nat) (attemptedAt : Instant) :
    List Bool → Store → Store
  | [], db => db
  | delivered :: rest, db =>
    publishAll env retryDelayMs republishDelayMs attemptedAt rest
      (publishNext env retryDelayMs republishDelayMs delivered [] attemptedAt db).2

/-- Every row that can be selected is reached, whichever attempts reach the stream. -/
theorem exists_published {retryDelayMs republishDelayMs : Nat} (hretry : 0 < retryDelayMs)
    (hrepublish : 0 < republishDelayMs) {outcomes : List Bool} (hmessage : message ∈ db.outbox)
    (hselects : db.selects message attemptedAt = true)
    (hlength : (db.outbox.select fun row => db.selects row attemptedAt).length ≤
      outcomes.length) :
    ∃ n < outcomes.length,
      (publishAll env retryDelayMs republishDelayMs attemptedAt (outcomes.take n) db).nextPending
        env attemptedAt [] = some message := by
  induction outcomes generalizing db with
  | nil =>
    have hmem : message ∈ db.outbox.select fun row => db.selects row attemptedAt :=
      Table.mem_select.mpr ⟨hmessage, hselects⟩
    have hpositive := List.length_pos_of_mem hmem
    simp only [List.length_nil] at hlength
    omega
  | cons delivered rest ih =>
    obtain ⟨next, hnext⟩ : ∃ next, db.nextPending env attemptedAt [] = some next :=
      exists_nextPending hmessage hselects
    by_cases hsame : next.messageId = message.messageId
    · have heq := Table.eq_of_key_eq (nextPending_eq_some hnext).1 hmessage hsame
      exact ⟨0, Nat.zero_lt_succ _, heq ▸ hnext⟩
    · have hpublished := publishNext_published hretry hrepublish delivered hnext
      obtain ⟨n, hn, hreached⟩ := ih (hpublished.other message hmessage (Ne.symm hsame))
        (by simpa only [Store.selects, hpublished.operations] using hselects)
        (by have := hpublished.fewer; simp only [List.length_cons] at hlength; omega)
      exact ⟨n + 1, Nat.succ_lt_succ hn, hreached⟩

end Selection

/-! ### Nothing claimable is lost -/

section Claimable
variable {row : Operation} {t t' : Instant}

/-- The operation is there with the same state and the same lease. -/
def Operation.unchangedIn (row : Operation) (db : Store) : Prop :=
  ∃ later ∈ db.operations, later.operationId = row.operationId ∧ later.state = row.state ∧
    later.leaseExpiresAt = row.leaseExpiresAt

theorem Operation.claimable_mono (h : row.claimable t = true) (ht : t ≤ t') :
    row.claimable t' = true := by
  simp only [Operation.claimable, Operation.leaseExpired, Bool.or_eq_true, Bool.and_eq_true,
    decide_eq_true_eq, Option.any_eq_true] at h ⊢
  rcases h with hwaiting | ⟨hrunning, expiry, hexpiry, hexpired⟩
  · exact .inl hwaiting
  · exact .inr ⟨hrunning, expiry, hexpiry, lt_of_lt_of_le hexpired ht⟩

theorem Operation.claimable_congr {later : Operation} (hstate : later.state = row.state)
    (hlease : later.leaseExpiresAt = row.leaseExpiresAt) :
    later.claimable t = row.claimable t := by
  unfold Operation.claimable Operation.leaseExpired
  rw [hstate, hlease]

/-- A due row of a claimable operation is selected. -/
theorem selects_of_claimable {message : OutboxMessage} (hrow : row ∈ db.operations)
    (hof : message.operationId = row.operationId) (hdue : message.nextAttemptAt ≤ t)
    (h : row.claimable t = true) : db.selects message t = true := by
  rw [Store.selects, hof, Table.find?_of_mem hrow, Option.any_some, OutboxMessage.pending,
    Bool.and_eq_true, decide_eq_true_eq]
  refine ⟨hdue, ?_⟩
  rw [Operation.claimable, Bool.or_assoc] at h
  rw [Bool.or_assoc, Bool.or_assoc, h, Bool.or_true]

/-- A selected row belongs to a claimable operation or was never published. -/
theorem claimable_of_selects {message : OutboxMessage} (h : db.selects message t = true) :
    ∃ row ∈ db.operations, row.operationId = message.operationId ∧
      (row.claimable t = true ∨ message.publishedAt = none) := by
  rw [Store.selects, Option.any_eq_true] at h
  obtain ⟨row, hfound, hpending⟩ := h
  obtain ⟨hrow, hof⟩ := Table.find?_eq_some.mp hfound
  refine ⟨row, hrow, hof, ?_⟩
  rw [OutboxMessage.pending, Bool.and_eq_true, Bool.or_assoc, Bool.or_assoc,
    Bool.or_eq_true] at hpending
  rcases hpending.2 with hnone | hclaimable
  · exact .inr (Option.isNone_iff_eq_none.mp hnone)
  · rw [← Bool.or_assoc] at hclaimable
    exact .inl hclaimable

/-- While an operation is there its message stays. -/
theorem message_of_run {message : OutboxMessage} {fs : List (Entry Store (Instant × Action) Reply)}
    (h : Run (step env) db fs db') (hmessage : message ∈ db.outbox)
    (hstays : ∀ e ∈ fs, ∃ row ∈ e.after.operations, row.operationId = message.operationId) :
    ∃ later ∈ db'.outbox, later.messageId = message.messageId ∧
      later.operationId = message.operationId := by
  induction h generalizing message with
  | nil => exact ⟨message, hmessage, rfl, rfl⟩
  | cons hstep _ ih =>
    obtain ⟨next, hnext, hid, hof⟩ := (step_announces hstep).kept message hmessage
      (hstays _ List.mem_cons_self)
    obtain ⟨later, hlater, hid', hof'⟩ := ih hnext fun e he => by
      obtain ⟨row, hrow, hsame⟩ := hstays e (List.mem_cons_of_mem _ he)
      exact ⟨row, hrow, hsame.trans hof.symm⟩
    exact ⟨later, hlater, hid'.trans hid, hof'.trans hof⟩

theorem unchangedIn_of_run {fs : List (Entry Store (Instant × Action) Reply)}
    (h : Run (step env) db fs db') (hrow : row ∈ db.operations)
    (hunchanged : ∀ e ∈ fs, row.unchangedIn e.after) : row.unchangedIn db' := by
  cases hlast : fs.getLast? with
  | none =>
    obtain rfl := List.getLast?_eq_none_iff.mp hlast
    cases h
    exact ⟨row, hrow, rfl, rfl, rfl⟩
  | some e =>
    rw [← h.after_of_getLast? hlast]
    exact hunchanged e (List.mem_of_getLast? hlast)

/-- An operation that can be claimed has an outbox row that the publisher selects from its
next attempt on until the state or the lease of the operation changes, and that its attempts
reach. A row that is selected belongs to a claimable operation or was never published. -/
theorem claimable_selected {es : List (Entry Store (Instant × Action) Reply)}
    (h : Run (step env) Store.empty es db) :
    (∀ row ∈ db.operations, ∀ t, row.claimable t = true →
      ∃ message ∈ db.outbox, message.operationId = row.operationId ∧
        ∀ fs db', Run (step env) db fs db' → (∀ e ∈ fs, row.unchangedIn e.after) →
          ∃ later ∈ db'.outbox, later.messageId = message.messageId ∧
            later.operationId = row.operationId ∧
            ∀ t', t ≤ t' → later.nextAttemptAt ≤ t' →
              db'.selects later t' = true ∧
              ∀ (retryDelayMs republishDelayMs : Nat) (outcomes : List Bool),
                0 < retryDelayMs → 0 < republishDelayMs →
                (db'.outbox.select fun row => db'.selects row t').length ≤ outcomes.length →
                ∃ n < outcomes.length,
                  (publishAll env retryDelayMs republishDelayMs t' (outcomes.take n)
                    db').nextPending env t' [] = some later) ∧
    ∀ t skipped message, db.nextPending env t skipped = some message →
      ∃ row ∈ db.operations, row.operationId = message.operationId ∧
        (row.claimable t = true ∨ message.publishedAt = none) := by
  constructor
  · intro row hrow t hclaimable
    obtain ⟨message, hmessage, hof⟩ := announced_of_run h row hrow
    refine ⟨message, hmessage, hof, fun fs db' hrun hunchanged => ?_⟩
    obtain ⟨later, hlater, hid, hsame⟩ := message_of_run hrun hmessage fun e he => by
      obtain ⟨same, hmem, hkey, -⟩ := hunchanged e he
      exact ⟨same, hmem, hkey.trans hof.symm⟩
    obtain ⟨current, hcurrent, hkey, hstate, hlease⟩ := unchangedIn_of_run hrun hrow hunchanged
    refine ⟨later, hlater, hid, hsame.trans hof, fun t' ht hdue => ?_⟩
    have hselects : db'.selects later t' = true := by
      refine selects_of_claimable hcurrent ((hsame.trans hof).trans hkey.symm) hdue ?_
      rw [Operation.claimable_congr hstate hlease]
      exact Operation.claimable_mono hclaimable ht
    exact ⟨hselects, fun _ _ outcomes hretry hrepublish hlength =>
      exists_published hretry hrepublish hlater hselects hlength⟩
  · intro t skipped message hnext
    exact claimable_of_selects (nextPending_eq_some hnext).2.2

set_option maxRecDepth 4000 in
/-- The operation of a worker that crashed is selected again after its lease. -/
theorem claimable_selected_expired :
    ∃ es db, Run (step sampleEnv) Store.empty es db ∧
      ∃ row ∈ db.operations, row.state = .running ∧ row.claimable 12 = true ∧
        ∃ message ∈ db.outbox, message.operationId = row.operationId ∧
          db.selects message (max 12 message.nextAttemptAt) = true := by
  have hexec : (exec (step sampleEnv) Store.empty
      [(0, .submit (sampleCommand "request") "owner"),
       (1, .claimNext sampleOperation "worker-1" 10)]).any (fun result =>
      result.2.operations.rows.any fun row => row.state = .running && row.claimable 12) = true := by
    decide +kernel
  obtain ⟨es, db, hrun, hexpired⟩ := exists_run_of_exec hexec
  simp only [List.any_eq_true, Bool.and_eq_true, decide_eq_true_eq] at hexpired
  obtain ⟨row, hrow, hboth⟩ := hexpired
  obtain ⟨message, hmessage, hof, hselected⟩ :=
    (claimable_selected hrun).1 row hrow 12 hboth.2
  obtain ⟨later, hlater, hid, -, hlater_selected⟩ := hselected [] db (.nil db) (List.forall_mem_nil _)
  obtain rfl := Table.eq_of_key_eq hlater hmessage hid
  exact ⟨es, db, hrun, row, hrow, hboth.1, hboth.2, later, hlater, hof,
    (hlater_selected _ (le_max_left 12 _) (le_max_right 12 _)).1⟩

end Claimable

end ChoiceMind.TaskPersistence
