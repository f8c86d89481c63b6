import ChoiceMind.TaskPersistence.Uniqueness

/-!
# Submissions while transactions overlap

Each `submit` is a transaction of its own. It waits for the advisory lock of its execution
request, reads the submission of the request, and inserts its rows and commits. The lock is
held to the end of the transaction. Statements of different calls and the other operations
of the module follow one another in any order.
-/

namespace ChoiceMind.TaskPersistence

set_option autoImplicit false

open Contracts Transition

def Action.isSubmit : Action → Bool
  | .submit .. => true
  | _ => false

namespace Submissions

/-- A call of `submit`, with the object that the caller passes for the command. -/
structure SubmitCall where
  command : ExecuteDecisionTaskCommand
  ownerUserId : String
  submittedAt : Instant
  value : Json Rat
  distinct : value.Distinct
  same : value.Same command.toJson

namespace SubmitCall

def executionRequestId (call : SubmitCall) : String := call.command.executionRequestId

def fingerprint (env : Environment) (call : SubmitCall) : String :=
  env.sha256 (canonicalize env.numberText call.value)

theorem fingerprint_eq (env : Environment) (call : SubmitCall) :
    call.fingerprint env = env.sha256 (env.canonicalize call.command) :=
  congrArg env.sha256
    ((canonicalize_eq_iff call.distinct (distinct_command call.command)).mpr call.same)

end SubmitCall

/-- The row of the `SELECT` that joins the submission and its operation. -/
def existingSubmission (db : Store) (executionRequestId : String) :
    Option (Submission × Operation) :=
  match db.submissions.find? executionRequestId, db.operations.rows.find? fun row =>
      row.executionRequestId = executionRequestId with
  | some submission, some operation => some (submission, operation)
  | _, _ => none

/-- How far a transaction has come. -/
inductive Phase
  | waiting
  | locked
  | checked (existing : Option (Submission × Operation))
  deriving DecidableEq

/-- An open transaction of a call. -/
structure Submitting where
  transaction : Nat
  call : SubmitCall
  phase : Phase

namespace Submitting

def executionRequestId (tx : Submitting) : String := tx.call.executionRequestId

def holdsLock (tx : Submitting) : Bool := tx.phase ≠ .waiting

def enter (phase : Phase) (tx : Submitting) : Submitting := { tx with phase }

theorem enter_transaction (phase : Phase) (tx : Submitting) :
    (tx.enter phase).transaction = tx.transaction := rfl

end Submitting

/-- The statements after the `SELECT`, up to the end of the transaction. -/
def SubmitCall.conclude (env : Environment) (call : SubmitCall)
    (existing : Option (Submission × Operation)) (db : Store) :
    Except PersistenceError (DecisionTaskSnapshot × Store) :=
  match existing with
  | some (submission, operation) =>
    if submission.ownerUserId ≠ call.ownerUserId ∨
        submission.commandFingerprint ≠ call.fingerprint env then
      .error (.idempotencyConflict call.executionRequestId)
    else do .ok (← toTaskSnapshot operation, db)
  | none => do
    let stored ← insertSubmission env call.command call.ownerUserId call.submittedAt db
    let operation := acceptedOperation env call.command call.submittedAt db
    .ok
      ({ executionRequestId := call.executionRequestId
         decisionTaskId := operation.decisionTaskId
         agentRunId := operation.agentRunId
         state := .accepted
         terminal := false
         runtimeSnapshotId := none
         updatedAt := .toISOString call.submittedAt },
       stored)

/-- What is committed and the open transactions. -/
structure World where
  db : Store
  submitting : Table Submitting.transaction

/-- What an open transaction does next. -/
inductive Move
  /-- `pg_advisory_xact_lock` returns -/
  | lock
  /-- the `SELECT` of the existing submission -/
  | select
  /-- the rest of the call, up to the end of its transaction -/
  | conclude
  /-- a statement fails, or the connection is lost -/
  | fail

inductive Statement
  /-- `BEGIN` -/
  | begin (transaction : Nat) (call : SubmitCall)
  | next (transaction : Nat) (move : Move)
  /-- another operation of the module as a whole -/
  | other (now : Instant) (action : Action)

namespace World
variable (env : Environment)

def start : World := ⟨.empty, .empty⟩

def enter (w : World) (transaction : Nat) (phase : Phase) : World :=
  { w with
    submitting := w.submitting.update transaction (Submitting.enter phase)
      (Submitting.enter_transaction phase) }

/-- The end of a transaction, which leaves the given tables. -/
def close (w : World) (transaction : Nat) (db : Store) : World :=
  ⟨db, w.submitting.deleteWhere fun tx => tx.transaction = transaction⟩

/-- No other transaction holds the lock of the execution request. -/
def lockable (w : World) (executionRequestId : String) : Bool :=
  w.submitting.rows.all fun tx => !(tx.holdsLock && tx.executionRequestId = executionRequestId)

def advance (w : World) (tx : Submitting) : Move → Option (Reply × World)
  | .lock =>
    if tx.phase = .waiting ∧ w.lockable tx.executionRequestId then
      some (.done, w.enter tx.transaction .locked)
    else none
  | .select =>
    if tx.phase = .locked then
      some (.done, w.enter tx.transaction (.checked (existingSubmission w.db tx.executionRequestId)))
    else none
  | .conclude =>
    match tx.phase with
    | .checked existing =>
      match tx.call.conclude env existing w.db with
      | .ok (snapshot, db) => some (.submitted snapshot, w.close tx.transaction db)
      | .error error => some (.failed error, w.close tx.transaction w.db)
    | _ => none
  | .fail => some (.failed .persistenceUnavailable, w.close tx.transaction w.db)

def step (w : World) : Statement → Option (Reply × World)
  | .begin transaction call =>
    (w.submitting.insert? ⟨transaction, call, .waiting⟩).map fun submitting =>
      (.done, { w with submitting })
  | .next transaction move =>
    (w.submitting.find? transaction).bind fun tx => advance env w tx move
  | .other now action =>
    if action.isSubmit then none
    else (TaskPersistence.step env w.db (now, action)).map fun result =>
      (result.1, { w with db := result.2 })

end World

section Conclude
variable {env : Environment} {call : SubmitCall} {db db' : Store}
  {existing : Option (Submission × Operation)} {snapshot : DecisionTaskSnapshot}
  {executionRequestId : String}

theorem existingSubmission_eq_some {submission : Submission} {operation : Operation}
    (h : existingSubmission db executionRequestId = some (submission, operation)) :
    submission ∈ db.submissions ∧ submission.executionRequestId = executionRequestId := by
  unfold existingSubmission at h
  split at h
  · rename_i hfound _
    cases h
    exact Table.find?_eq_some.mp hfound
  · cases h

theorem existingSubmission_eq_none (hpaired : Paired db)
    (h : existingSubmission db executionRequestId = none) :
    ∀ submission ∈ db.submissions, submission.executionRequestId ≠ executionRequestId := by
  intro submission hmem hkey
  obtain ⟨row, hrow, hof⟩ := hpaired submission hmem
  have hfound := Table.find?_of_mem hmem
  unfold existingSubmission at h
  rw [← hkey, hfound] at h
  cases hoperation : db.operations.rows.find? fun row =>
      row.executionRequestId = submission.executionRequestId with
  | none =>
    rw [List.find?_eq_none] at hoperation
    exact hoperation row hrow (decide_eq_true hof)
  | some operation =>
    rw [hoperation] at h
    cases h

theorem toTaskSnapshot_error {row : Operation} {error : PersistenceError}
    (h : toTaskSnapshot row = .error error) : error = .persistenceUnavailable := by
  unfold toTaskSnapshot at h
  split at h
  · split at h
    · cases h
      rfl
    · split at h
      · cases h
        rfl
      · cases h
  · cases h
    rfl
  · cases h

/-- A call that found its submission commits nothing. -/
theorem conclude_found {submission : Submission} {operation : Operation}
    (h : call.conclude env (some (submission, operation)) db = .ok (snapshot, db')) : db' = db := by
  simp only [SubmitCall.conclude] at h
  split at h
  · cases h
  · simp only [bind_eq_ok] at h
    obtain ⟨_, -, h⟩ := h
    cases h
    rfl

/-- It is refused exactly for another owner or another command. -/
theorem conclude_conflict (hsha : Function.Injective env.sha256) {submission : Submission}
    {operation : Operation}
    (hstored : submission.commandFingerprint = env.sha256 (env.canonicalize submission.command)) :
    call.conclude env (some (submission, operation)) db =
        .error (.idempotencyConflict call.executionRequestId) ↔
      ¬ (submission.ownerUserId = call.ownerUserId ∧
        call.value.Same submission.command.toJson) := by
  have hsame : submission.commandFingerprint = call.fingerprint env ↔
      call.value.Same submission.command.toJson := by
    rw [← canonicalize_eq_iff call.distinct (distinct_command submission.command), hstored,
      SubmitCall.fingerprint]
    exact ⟨fun heq => (hsha heq).symm, fun heq => congrArg env.sha256 heq.symm⟩
  rw [← hsame]
  simp only [SubmitCall.conclude]
  split
  · rename_i hother
    refine iff_of_true rfl fun hboth => ?_
    rcases hother with howner | hfingerprint
    · exact howner hboth.1
    · exact hfingerprint hboth.2
  · rename_i hboth
    refine iff_of_false ?_ fun hother => hother ?_
    · intro hconflict
      cases hsnapshot : toTaskSnapshot operation with
      | error error =>
        rw [hsnapshot, toTaskSnapshot_error hsnapshot] at hconflict
        cases hconflict
      | ok snapshot =>
        rw [hsnapshot] at hconflict
        cases hconflict
    · push Not at hboth
      exact hboth

/-- A call that found no submission, where there is still none, is the serial `submit`. -/
theorem conclude_absent
    (habsent : ∀ submission ∈ db.submissions,
      submission.executionRequestId ≠ call.executionRequestId) :
    call.conclude env none db =
      submit env call.command call.ownerUserId call.submittedAt db := by
  have hnone : db.submissions.find? call.command.executionRequestId = none :=
    Table.find?_eq_none.mpr habsent
  unfold submit
  rw [hnone]
  rfl

end Conclude

/-! ### What the lock keeps -/

/-- The committed tables are those of a serial run, and what a transaction has read under
its lock is still so. -/
structure Serial (env : Environment) (w : World) : Prop where
  reachable : ∃ es, Run (TaskPersistence.step env) Store.empty es w.db
  exclusive : ∀ a ∈ w.submitting, ∀ b ∈ w.submitting, a.holdsLock = true → b.holdsLock = true →
    a.executionRequestId = b.executionRequestId → a = b
  absent : ∀ a ∈ w.submitting, a.phase = .checked none → ∀ submission ∈ w.db.submissions,
    submission.executionRequestId ≠ a.executionRequestId
  present : ∀ a ∈ w.submitting, ∀ submission operation,
    a.phase = .checked (some (submission, operation)) →
    submission.executionRequestId = a.executionRequestId ∧
      submission.commandFingerprint = env.sha256 (env.canonicalize submission.command) ∧
      ∀ other ∈ w.db.submissions,
        other.executionRequestId = a.executionRequestId → other = submission

section Invariant
variable {env : Environment} {w w' : World} {statement : Statement} {reply : Reply}
  {tx : Submitting} {db' : Store}

theorem serial_start : Serial env .start where
  reachable := ⟨[], .nil _⟩
  exclusive := fun a ha => absurd ha (Table.not_mem_empty a)
  absent := fun a ha => absurd ha (Table.not_mem_empty a)
  present := fun a ha => absurd ha (Table.not_mem_empty a)

theorem Serial.unique (h : Serial env w) : Unique env w.db := by
  obtain ⟨es, hrun⟩ := h.reachable
  exact unique_of_run hrun

/-- Transactions end, and submissions only disappear. -/
theorem Serial.of_subset (h : Serial env w)
    (hreachable : ∃ es, Run (TaskPersistence.step env) Store.empty es w'.db)
    (hsubmitting : ∀ a ∈ w'.submitting, a ∈ w.submitting)
    (hsubmissions : ∀ submission ∈ w'.db.submissions, submission ∈ w.db.submissions) :
    Serial env w' where
  reachable := hreachable
  exclusive a ha b hb := h.exclusive a (hsubmitting a ha) b (hsubmitting b hb)
  absent a ha hphase submission hmem :=
    h.absent a (hsubmitting a ha) hphase submission (hsubmissions submission hmem)
  present a ha submission operation hphase := by
    obtain ⟨hkey, hfingerprint, honly⟩ :=
      h.present a (hsubmitting a ha) submission operation hphase
    exact ⟨hkey, hfingerprint, fun other hmem => honly other (hsubmissions other hmem)⟩

theorem mem_close {transaction : Nat} {a : Submitting} :
    a ∈ (w.close transaction db').submitting ↔ a ∈ w.submitting ∧ a.transaction ≠ transaction := by
  unfold World.close
  rw [Table.mem_deleteWhere, decide_eq_false_iff_not]

theorem Serial.close (h : Serial env w) (transaction : Nat) :
    Serial env (w.close transaction w.db) :=
  h.of_subset h.reachable (fun _ ha => (mem_close.mp ha).1) fun _ hmem => hmem

theorem mem_enter {phase : Phase} {a : Submitting} (htx : tx ∈ w.submitting)
    (ha : a ∈ (w.enter tx.transaction phase).submitting) :
    a = tx.enter phase ∨ a ∈ w.submitting ∧ a.transaction ≠ tx.transaction := by
  simp only [World.enter] at ha
  exact Table.mem_update_of_find? (Table.find?_of_mem htx) ha

theorem lockable_iff {executionRequestId : String} :
    w.lockable executionRequestId = true ↔ ∀ a ∈ w.submitting, a.holdsLock = true →
      a.executionRequestId ≠ executionRequestId := by
  unfold World.lockable
  rw [List.all_eq_true]
  refine forall₂_congr fun a _ => ?_
  cases a.holdsLock <;> simp

/-- A transaction enters a phase under a lock that nobody else holds. -/
theorem Serial.enter (h : Serial env w) {phase : Phase} (htx : tx ∈ w.submitting)
    (hlock : ∀ a ∈ w.submitting, a.transaction ≠ tx.transaction → a.holdsLock = true →
      a.executionRequestId ≠ tx.executionRequestId)
    (habsent : phase = .checked none → ∀ submission ∈ w.db.submissions,
      submission.executionRequestId ≠ tx.executionRequestId)
    (hpresent : ∀ submission operation, phase = .checked (some (submission, operation)) →
      submission ∈ w.db.submissions ∧
        submission.executionRequestId = tx.executionRequestId) :
    Serial env (w.enter tx.transaction phase) where
  reachable := h.reachable
  exclusive a ha b hb hheld hheld' hsame := by
    rcases mem_enter htx ha with rfl | ⟨hold, hne⟩
    · rcases mem_enter htx hb with rfl | ⟨hold', hne'⟩
      · rfl
      · exact absurd hsame.symm (hlock b hold' hne' hheld')
    · rcases mem_enter htx hb with rfl | ⟨hold', hne'⟩
      · exact absurd hsame (hlock a hold hne hheld)
      · exact h.exclusive a hold b hold' hheld hheld' hsame
  absent a ha hphase := by
    rcases mem_enter htx ha with rfl | ⟨hold, -⟩
    · exact habsent hphase
    · exact h.absent a hold hphase
  present a ha submission operation hphase := by
    rcases mem_enter htx ha with rfl | ⟨hold, -⟩
    · obtain ⟨hmem, hkey⟩ := hpresent submission operation hphase
      refine ⟨hkey, (h.unique.recorded.fingerprint submission hmem).2, fun other hother hof => ?_⟩
      exact Table.eq_of_key_eq hother hmem (hof.trans hkey.symm)
    · exact h.present a hold submission operation hphase

theorem Serial.lock (h : Serial env w) (htx : tx ∈ w.submitting)
    (hlockable : w.lockable tx.executionRequestId = true) :
    Serial env (w.enter tx.transaction .locked) := by
  refine h.enter htx (fun a ha _ => lockable_iff.mp hlockable a ha) ?_ ?_
  · intro hphase
    cases hphase
  · intro submission operation hphase
    cases hphase

theorem Serial.select (h : Serial env w) (htx : tx ∈ w.submitting) (hphase : tx.phase = .locked) :
    Serial env (w.enter tx.transaction
      (.checked (existingSubmission w.db tx.executionRequestId))) := by
  refine h.enter htx ?_ ?_ ?_
  · intro a ha hne hheld hsame
    have hheld' : tx.holdsLock = true := by
      rw [Submitting.holdsLock, hphase]
      rfl
    exact hne (congrArg Submitting.transaction (h.exclusive a ha tx htx hheld hheld' hsame))
  · intro hnone
    exact existingSubmission_eq_none h.unique.paired (Phase.checked.inj hnone)
  · intro submission operation hsome
    exact existingSubmission_eq_some (Phase.checked.inj hsome)

theorem holdsLock_of_checked {existing : Option (Submission × Operation)}
    (hphase : tx.phase = .checked existing) : tx.holdsLock = true := by
  rw [Submitting.holdsLock, hphase]
  rfl

/-- A submission is committed under the lock of its request. -/
theorem Serial.insert (h : Serial env w) (htx : tx ∈ w.submitting)
    (hphase : tx.phase = .checked none)
    (hreachable : ∃ es, Run (TaskPersistence.step env) Store.empty es db')
    (hsubmissions : ∀ submission ∈ db'.submissions, submission ∈ w.db.submissions ∨
      submission.executionRequestId = tx.executionRequestId) :
    Serial env (w.close tx.transaction db') := by
  have hother : ∀ a ∈ w.submitting, a.transaction ≠ tx.transaction → ∀ existing,
      a.phase = .checked existing → a.executionRequestId ≠ tx.executionRequestId := by
    intro a ha hne existing hchecked hsame
    exact hne (congrArg Submitting.transaction (h.exclusive a ha tx htx
      (holdsLock_of_checked hchecked) (holdsLock_of_checked hphase) hsame))
  refine ⟨hreachable, ?_, ?_, ?_⟩
  · intro a ha b hb
    exact h.exclusive a (mem_close.mp ha).1 b (mem_close.mp hb).1
  · intro a ha hchecked submission hmem
    obtain ⟨hopen, hne⟩ := mem_close.mp ha
    rcases hsubmissions submission hmem with hold | hnew
    · exact h.absent a hopen hchecked submission hold
    · rw [hnew]
      exact (hother a hopen hne none hchecked).symm
  · intro a ha submission operation hchecked
    obtain ⟨hopen, hne⟩ := mem_close.mp ha
    obtain ⟨hkey, hfingerprint, honly⟩ := h.present a hopen submission operation hchecked
    refine ⟨hkey, hfingerprint, fun other hmem hof => ?_⟩
    rcases hsubmissions other hmem with hold | hnew
    · exact honly other hold hof
    · exact absurd (hof.symm.trans hnew) (hother a hopen hne _ hchecked)

/-- What a call commits is what the serial `submit` commits, or nothing. -/
theorem conclude_reachable (h : Serial env w) (htx : tx ∈ w.submitting)
    {existing : Option (Submission × Operation)} (hphase : tx.phase = .checked existing)
    {snapshot : DecisionTaskSnapshot}
    (hconclude : tx.call.conclude env existing w.db = .ok (snapshot, db')) :
    db' = w.db ∨ existing = none ∧
      TaskPersistence.step env w.db
        (tx.call.submittedAt, .submit tx.call.command tx.call.ownerUserId) =
          some (.submitted snapshot, db') := by
  cases existing with
  | some found => exact .inl (conclude_found hconclude)
  | none =>
    refine .inr ⟨rfl, ?_⟩
    rw [conclude_absent (h.absent tx htx hphase)] at hconclude
    simp only [TaskPersistence.step, perform, hconclude]
    rfl

theorem Serial.conclude (h : Serial env w) (htx : tx ∈ w.submitting)
    {existing : Option (Submission × Operation)} (hphase : tx.phase = .checked existing)
    {snapshot : DecisionTaskSnapshot}
    (hconclude : tx.call.conclude env existing w.db = .ok (snapshot, db')) :
    Serial env (w.close tx.transaction db') := by
  rcases conclude_reachable h htx hphase hconclude with rfl | ⟨rfl, hstep⟩
  · exact h.close tx.transaction
  · obtain ⟨es, hrun⟩ := h.reachable
    refine h.insert htx hphase ⟨_, hrun.append (.single hstep)⟩ fun submission hmem => ?_
    rcases (step_change hstep).submission_origin hmem with hold | hnew
    · exact .inl hold
    · have hkey := ((h.unique.step hstep).recorded.fingerprint submission hmem).1
      have hcommand := (Action.submit.inj hnew).1
      rw [← hcommand] at hkey
      exact .inr hkey

theorem Serial.advance (h : Serial env w) (htx : tx ∈ w.submitting) {move : Move}
    (hstep : w.advance env tx move = some (reply, w')) : Serial env w' := by
  cases move with
  | lock =>
    simp only [World.advance] at hstep
    split at hstep
    · rename_i hfree
      cases hstep
      exact h.lock htx hfree.2
    · cases hstep
  | select =>
    simp only [World.advance] at hstep
    split at hstep
    · rename_i hphase
      cases hstep
      exact h.select htx hphase
    · cases hstep
  | conclude =>
    simp only [World.advance] at hstep
    split at hstep
    · rename_i hphase
      split at hstep
      · rename_i hconclude
        cases hstep
        exact h.conclude htx hphase hconclude
      · cases hstep
        exact h.close tx.transaction
    · cases hstep
  | fail =>
    cases hstep
    exact h.close tx.transaction

theorem Serial.step (h : Serial env w) (hstep : w.step env statement = some (reply, w')) :
    Serial env w' := by
  cases statement with
  | begin transaction call =>
    simp only [World.step, Option.map_eq_some_iff] at hstep
    obtain ⟨submitting, hinsert, heq⟩ := hstep
    cases heq
    -- a transaction that waits holds no lock and has read nothing
    have hold : ∀ a ∈ submitting, a.phase ≠ .waiting → a ∈ w.submitting := by
      intro a ha hphase
      rcases (Table.mem_insert? hinsert).mp ha with hold | rfl
      · exact hold
      · exact absurd rfl hphase
    refine ⟨h.reachable, ?_, ?_, ?_⟩
    · intro a ha b hb hheld hheld'
      exact h.exclusive a (hold a ha (of_decide_eq_true hheld)) b
        (hold b hb (of_decide_eq_true hheld')) hheld hheld'
    · intro a ha hphase
      exact h.absent a (hold a ha (by rw [hphase]; exact nofun)) hphase
    · intro a ha submission operation hphase
      exact h.present a (hold a ha (by rw [hphase]; exact nofun)) submission operation hphase
  | next transaction move =>
    simp only [World.step, Option.bind_eq_some_iff] at hstep
    obtain ⟨tx, hfound, hmove⟩ := hstep
    exact h.advance (Table.find?_eq_some.mp hfound).1 hmove
  | other now action =>
    simp only [World.step] at hstep
    split at hstep
    · cases hstep
    rename_i hsubmit
    obtain ⟨result, hperform, heq⟩ := Option.map_eq_some_iff.mp hstep
    cases heq
    obtain ⟨es, hrun⟩ := h.reachable
    refine h.of_subset ⟨_, hrun.append (.single hperform)⟩ (fun _ ha => ha) ?_
    intro submission hmem
    rcases (step_change hperform).submission_origin hmem with hold | rfl
    · exact hold
    · exact absurd rfl hsubmit

end Invariant

/-! ### Exactly once -/

/-- The submission of the request, in the tables or as the transaction has read it. -/
def World.finds (w : World) (tx : Submitting) (submission : Submission) : Prop :=
  submission.executionRequestId = tx.executionRequestId ∧
    (submission ∈ w.db.submissions ∨
      ∃ operation, tx.phase = .checked (some (submission, operation)))

def Statement.ofSubmit : Statement → Bool
  | .other .. => false
  | _ => true

/-- What a statement of a `submit` does to the committed tables. -/
structure ExactlyOnce (e : Entry World Statement Reply) : Prop where
  /-- A further submit changes nothing, and is refused for another owner or command. -/
  repeated : ∀ transaction, e.label = .next transaction .conclude →
    ∃ tx, e.before.submitting.find? transaction = some tx ∧
      ∀ submission, e.before.finds tx submission →
        e.after.db = e.before.db ∧
        (e.reply = .failed (.idempotencyConflict tx.executionRequestId) ↔
          ¬ (submission.ownerUserId = tx.call.ownerUserId ∧
            tx.call.value.Same submission.command.toJson))
  /-- Only a submit that returns leaves rows. -/
  failed : e.label.ofSubmit = true → (∀ snapshot, e.reply ≠ .submitted snapshot) →
    e.after.db = e.before.db

section Claim
variable {env : Environment} {w w' : World} {statement : Statement} {reply : Reply}
  {tx : Submitting}

/-- The transaction of a submission that is found has read it. -/
theorem Serial.checked_found (h : Serial env w) (htx : tx ∈ w.submitting)
    {existing : Option (Submission × Operation)} (hphase : tx.phase = .checked existing)
    {submission : Submission} (hfinds : w.finds tx submission) :
    ∃ operation, existing = some (submission, operation) ∧
      submission.commandFingerprint = env.sha256 (env.canonicalize submission.command) := by
  obtain ⟨hkey, hmem | ⟨operation, hread⟩⟩ := hfinds
  · cases existing with
    | none => exact absurd hkey (h.absent tx htx hphase submission hmem)
    | some found =>
      obtain ⟨stored, operation⟩ := found
      obtain ⟨-, hfingerprint, honly⟩ := h.present tx htx stored operation hphase
      obtain rfl := honly submission hmem hkey
      exact ⟨operation, rfl, hfingerprint⟩
  · obtain rfl := Phase.checked.inj (hphase.symm.trans hread)
    exact ⟨operation, rfl, (h.present tx htx submission operation hphase).2.1⟩

theorem conclude_repeated (hsha : Function.Injective env.sha256) (h : Serial env w)
    (htx : tx ∈ w.submitting) (hstep : w.advance env tx .conclude = some (reply, w'))
    {submission : Submission} (hfinds : w.finds tx submission) :
    w'.db = w.db ∧ (reply = .failed (.idempotencyConflict tx.executionRequestId) ↔
      ¬ (submission.ownerUserId = tx.call.ownerUserId ∧
        tx.call.value.Same submission.command.toJson)) := by
  simp only [World.advance] at hstep
  split at hstep
  · rename_i existing hphase
    obtain ⟨operation, rfl, hfingerprint⟩ := h.checked_found htx hphase hfinds
    have hconflict : tx.call.conclude env (some (submission, operation)) w.db =
        .error (.idempotencyConflict tx.call.executionRequestId) ↔ _ :=
      conclude_conflict hsha hfingerprint
    rw [← hconflict]
    split at hstep
    · rename_i snapshot db hconclude
      cases hstep
      refine ⟨conclude_found hconclude, ?_⟩
      rw [hconclude]
      exact iff_of_false nofun nofun
    · rename_i error hconclude
      cases hstep
      refine ⟨rfl, ?_⟩
      rw [hconclude]
      exact ⟨fun heq => congrArg Except.error (Reply.failed.inj heq),
        fun heq => congrArg Reply.failed (Except.error.inj heq)⟩
  · cases hstep

theorem advance_failed {move : Move} (hstep : w.advance env tx move = some (reply, w'))
    (hreply : ∀ snapshot, reply ≠ .submitted snapshot) : w'.db = w.db := by
  cases move with
  | lock =>
    simp only [World.advance] at hstep
    split at hstep <;> cases hstep
    rfl
  | select =>
    simp only [World.advance] at hstep
    split at hstep <;> cases hstep
    rfl
  | conclude =>
    simp only [World.advance] at hstep
    split at hstep
    · split at hstep
      · cases hstep
        exact absurd rfl (hreply _)
      · cases hstep
        rfl
    · cases hstep
  | fail =>
    cases hstep
    rfl

theorem step_failed (hstep : w.step env statement = some (reply, w'))
    (hsubmit : statement.ofSubmit = true) (hreply : ∀ snapshot, reply ≠ .submitted snapshot) :
    w'.db = w.db := by
  cases statement with
  | begin transaction call =>
    obtain ⟨submitting, -, heq⟩ := Option.map_eq_some_iff.mp hstep
    cases heq
    rfl
  | next transaction move =>
    obtain ⟨tx, -, hmove⟩ := Option.bind_eq_some_iff.mp hstep
    exact advance_failed hmove hreply
  | other now action => cases hsubmit

/-- In every run, an execution request has at most one of each row, and whatever has become
of it a further submit changes nothing. -/
theorem submit_exactly_once (hsha : Function.Injective env.sha256)
    {es : List (Entry World Statement Reply)} (hrun : Run (World.step env) .start es w) :
    (∀ executionRequestId, AtMostOnce w.db executionRequestId) ∧ ∀ e ∈ es, ExactlyOnce e := by
  have hserial : Serial env w := by
    refine hrun.invariant (G := fun _ _ => True) ?_ (fun _ _ => trivial) serial_start
    exact fun h _ => h.step
  refine ⟨hserial.unique.atMostOnce, ?_⟩
  intro e he
  have hbefore : Serial env e.before := by
    refine (hrun.invariant_entry (G := fun _ _ => True) ?_ (fun _ _ => trivial) serial_start he).1
    exact fun h _ => h.step
  have hstep := hrun.entry_step he
  refine ⟨?_, step_failed hstep⟩
  intro transaction hlabel
  rw [hlabel] at hstep
  obtain ⟨tx, hfound, hmove⟩ := Option.bind_eq_some_iff.mp hstep
  exact ⟨tx, hfound, fun submission =>
    conclude_repeated hsha hbefore (Table.find?_eq_some.mp hfound).1 hmove⟩

end Claim

section Sample

def sampleText : String := canonicalize naturalText (sampleCommand "request").toJson

/-- The digest of the sample command; the other texts stand for their own digests. -/
def distinctSha256 (text : String) : String :=
  if text = sampleText then "4fbc9995951760ee3f77282afb6044ac8070ce5ce93e2739a29a4660cc72e47c"
  else "-" ++ text

theorem distinctSha256_injective : Function.Injective distinctSha256 := by
  have hother : ∀ text : String,
      "4fbc9995951760ee3f77282afb6044ac8070ce5ce93e2739a29a4660cc72e47c" ≠ "-" ++ text := by
    intro text h
    have hchars := congrArg String.toList h
    rw [String.toList_append] at hchars
    cases hchars
  intro a b h
  unfold distinctSha256 at h
  split at h <;> split at h
  · rename_i ha hb
    rw [ha, hb]
  · exact absurd h (hother b)
  · exact absurd h.symm (hother a)
  · have hchars := congrArg String.toList h
    rw [String.toList_append, String.toList_append, List.append_cancel_left_eq] at hchars
    exact String.toList_inj.mp hchars

def distinctEnv : Environment := { sampleEnv with sha256 := distinctSha256 }

theorem distinctEnv_injective : Function.Injective distinctEnv.sha256 := by
  simp only [distinctEnv]
  exact distinctSha256_injective

def sampleCall (ownerUserId : String) (submittedAt : Instant) : SubmitCall where
  command := sampleCommand "request"
  ownerUserId
  submittedAt
  value := (sampleCommand "request").toJson
  distinct := distinct_command _
  same := command_same_iff.mpr rfl

/-- Two submits of one command from different owners; the second one waits for the first. -/
def duplicateSubmits : List Statement :=
  [.begin 1 (sampleCall "owner" 0),
   .next 1 .lock,
   .begin 2 (sampleCall "other" 1),
   .next 1 .select,
   .next 1 .conclude,
   .next 2 .lock,
   .other 2 (.claimNext sampleOperation "worker" 10),
   .next 2 .select,
   .next 2 .conclude]

theorem submit_exactly_once_duplicates :
    ∃ es w, Run (World.step distinctEnv) .start es w ∧
      es.map Entry.label = duplicateSubmits ∧ w.db.submissions.rows.length = 1 ∧
      (∀ executionRequestId, AtMostOnce w.db executionRequestId) ∧ ∀ e ∈ es, ExactlyOnce e := by
  have hcheck : (exec (World.step distinctEnv) .start duplicateSubmits).any
      (fun result => result.2.db.submissions.rows.length = 1) = true := by
    decide +kernel
  obtain ⟨es, w, hrun, hlabels, hend⟩ := exists_labelled_run_of_exec hcheck
  obtain ⟨honce, hentries⟩ := submit_exactly_once distinctEnv_injective hrun
  exact ⟨es, w, hrun, hlabels, of_decide_eq_true hend, honce, hentries⟩

end Sample

end Submissions

end ChoiceMind.TaskPersistence
