import ChoiceMind.Foundation.Transition
import ChoiceMind.IdentityAccess.Execution
import ChoiceMind.IdentityAccess.LifecycleWorker

/-!
# Commands and worker steps one after another

The identity database with one lifecycle worker. Every call of `execute` and of `runOnce` is one
step, in which any statement may fail; a step that the database cuts short is a step too.
-/

namespace ChoiceMind.IdentityAccess

set_option autoImplicit false

open Contracts

/-! ### What the worker commits -/

section WorkerEffects
variable (env : IdentityEnvironment)

namespace IdentityStore

/-- An erasure before its last statement. -/
def forgetAccount (account : Account) (accountId : Uuid) (pseudonym : String)
    (db : IdentityStore) : IdentityStore :=
  let db := (db.deleteRecoveryCode accountId).deleteSessions accountId
  let db := (db.deleteThrottle account.usernameKey).forgetInvitationUser accountId
  let db := (db.deleteCreatedInvitations accountId).pseudonymizeActors accountId.text pseudonym
  db.pseudonymizeObjects accountId.text pseudonym

end IdentityStore

def eraseIdentityAccountEffect (accountId : Uuid) (now : Instant) (db : IdentityStore) :
    Option IdentityStore :=
  match db.accounts.find? accountId with
  | none => some db
  | some account =>
    if account.status = .deleted then some db
    else if account.status ≠ .pendingDeletion then none
    else
      let pseudonym := pseudonymOf env accountId
      let db := db.forgetAccount account accountId pseudonym
      if db.usernameKeyTaken accountId pseudonym then none
      else some (db.updateAccount accountId (IdentityStore.erasedAccount pseudonym now)
        (IdentityStore.erasedAccount_kept pseudonym now))

theorem eraseIdentityAccount_works {α : Type} {answer : HandlerCall → Bool} {refusal : α → Prop}
    {db view : IdentityStore} {accountId : Uuid} {now : Instant} {next : Unit → IdentityM α}
    {f : IdentityStore → Option (α × IdentityStore)}
    (hnext : ∀ view', Works answer refusal db (f view') (next ()) (.within db view')) :
    Works answer refusal db ((eraseIdentityAccountEffect env accountId now view).bind f)
      (eraseIdentityAccount env accountId now >>= next) (.within db view) := by
  unfold eraseIdentityAccount eraseIdentityAccountEffect
  rw [Script.bind_assoc]
  refine .read (selectAccountForUpdate_eval _ _ _) ?_
  rw [Option.getD_some]
  cases view.accounts.find? accountId with
  | none => exact hnext view
  | some account =>
    simp only [Option.filter_some, if_true]
    by_cases hdeleted : account.status = .deleted
    · rw [if_pos hdeleted, if_pos hdeleted]
      exact hnext view
    · rw [if_neg hdeleted, if_neg hdeleted]
      by_cases hpending : account.status ≠ .pendingDeletion
      · rw [if_pos hpending, if_pos hpending]
        exact .failed _
      · rw [if_neg hpending, if_neg hpending]
        refine .query rfl (.query (deleteSessions_eval _ _) (.query rfl ?_))
        refine .query (forgetInvitationUser_eval _ _) ?_
        refine .query (deleteCreatedInvitations_eval _ _) ?_
        refine .query (pseudonymizeActors_eval _ _ _) (.query (pseudonymizeObjects_eval _ _ _) ?_)
        have heval := eraseAccountRow_eval accountId
          (view.forgetAccount account accountId (pseudonymOf env accountId))
          (pseudonymOf env accountId) now
        by_cases htaken : (view.forgetAccount account accountId
            (pseudonymOf env accountId)).usernameKeyTaken accountId (pseudonymOf env accountId)
        · simp only [if_pos htaken] at heval ⊢
          exact .raised heval
        · simp only [if_neg htaken] at heval ⊢
          exact .query heval (hnext _)

def settleEffect (clock : WorkerClock) (event : LifecycleEvent) (db : IdentityStore) :
    Option (IdentityLifecycleWorkerResult × IdentityStore) := do
  let db ← if event.eventType = .deleteAccount then
    eraseIdentityAccountEffect env event.accountId clock.erasedAt db else some db
  return (.processed event,
    db.updateEvent event.eventId (fun event => event.processed clock.settledAt)
      (processed_key clock))

/-- What the transaction of `runOnce` commits; none where it is rolled back. -/
def processEffect (clock : WorkerClock) (handled : LifecycleEvent → Bool) (db : IdentityStore) :
    Option (IdentityLifecycleWorkerResult × IdentityStore) :=
  match db.dueEvent clock.runAt fun _ => false with
  | none => some (.idle, db)
  | some event =>
    if handled event then settleEffect env clock event db
    else some (.retryScheduled,
      db.updateEvent event.eventId (fun event => event.attempted clock.settledAt)
        (attempted_key clock))

/-- The answer of a handler to its calls as a whole. -/
def handlerAnswer (handled : LifecycleEvent → Bool) : HandlerCall → Bool
  | .handle event => handled event
  | _ => true

theorem processDueEvent_works (clock : WorkerClock) (handled : LifecycleEvent → Bool)
    (db : IdentityStore) :
    Works (handlerAnswer handled) (fun _ => False) db (processEffect env clock handled db)
      (processDueEvent env callHandler clock) (.idle db) := by
  refine .begin (.read (selectDueEvent_eval _ _) ?_)
  unfold processEffect
  rw [Option.getD_some]
  cases db.dueEvent clock.runAt fun _ => false with
  | none => exact .commit _
  | some event =>
    refine .call ?_
    dsimp only [handlerAnswer]
    cases handled event with
    | false => exact .query rfl (.commit _)
    | true =>
      change Works _ _ db (settleEffect env clock event db) (settleEvent env clock event) _
      unfold settleEvent settleEffect
      by_cases hdelete : event.eventType = .deleteAccount
      · rw [if_pos hdelete, if_pos hdelete]
        refine eraseIdentityAccount_works env fun view' => ?_
        exact .query rfl (.commit _)
      · rw [if_neg hdelete, if_neg hdelete]
        exact .query rfl (.commit _)

theorem cleanUpAudits_works (answer : HandlerCall → Bool) (runAt nextAuditCleanupAt : Instant)
    (db : IdentityStore) :
    Works answer (fun _ => False) db
      (if nextAuditCleanupAt ≤ runAt then
        some (runAt + auditCleanupIntervalMs, db.deleteOldAudits (runAt - auditRetentionMs))
      else some (nextAuditCleanupAt, db))
      (cleanUpAudits runAt nextAuditCleanupAt) (.idle db) := by
  refine .ite ?_ (.accepted _)
  refine .query (deleteOldAudits_eval _ _) ?_
  exact .accepted _

end WorkerEffects

/-! ### Steps -/

/-- The database and the worker's time of its next cleanup. -/
structure IdentityWorld where
  db : IdentityStore
  nextAuditCleanupAt : Instant

/-- The world after the migration. -/
def IdentityWorld.initial : IdentityWorld := ⟨.empty, 0⟩

inductive IdentityLabel
  | execute (inv : Invocation) (fails : Site → Nat → Bool)
  | runOnce (clock : WorkerClock) (handled : LifecycleEvent → Bool)
      (cleanupFails fails : Site → Nat → Bool)
  /-- a new worker process -/
  | openWorker

inductive IdentityReply
  | executed (result : Except (Failure IdentityError) IdentityCommandResult)
  | ran (result : Except (Failure IdentityError) IdentityLifecycleWorkerResult)
  | opened
  deriving DecidableEq

/-- The reply to an accepted command. -/
def IdentityReply.isOk : IdentityReply → Bool
  | .executed (.ok result) => result.ok
  | _ => false

theorem IdentityReply.isOk_iff {reply : IdentityReply} :
    reply.isOk = true ↔ ∃ result, reply = .executed (.ok result) ∧ result.ok = true := by
  constructor
  · intro h
    unfold isOk at h
    split at h
    · exact ⟨_, rfl, h⟩
    · cases h
  · rintro ⟨result, rfl, hok⟩
    exact hok

section Steps
variable (env : IdentityEnvironment)

/-- `runOnce`: an error of its cleanup ends it. -/
def runOnce (world : IdentityWorld) (clock : WorkerClock) (handled : LifecycleEvent → Bool)
    (cleanupFails fails : Site → Nat → Bool) :
    Except (Failure IdentityError) IdentityLifecycleWorkerResult × IdentityWorld :=
  let (cleaned, c) := Script.run (handlerAnswer handled) cleanupFails
    (cleanUpAudits clock.runAt world.nextAuditCleanupAt) 0 (.idle world.db)
  match cleaned with
  | .error failure => (.error failure, ⟨c.committed, world.nextAuditCleanupAt⟩)
  | .ok nextAuditCleanupAt =>
    let (result, c) := Script.run (handlerAnswer handled) fails
      (processDueEvent env callHandler clock) 0 (.idle c.committed)
    (result, ⟨c.committed, nextAuditCleanupAt⟩)

def worldStep (world : IdentityWorld) : IdentityLabel → Option (IdentityReply × IdentityWorld)
  | .execute inv fails =>
    let (result, c) := Script.run noCall fails (execute env inv) 0 (.idle world.db)
    some (.executed result, { world with db := c.committed })
  | .runOnce clock handled cleanupFails fails =>
    let (result, world') := runOnce env world clock handled cleanupFails fails
    some (.ran result, world')
  | .openWorker => some (.opened, { world with nextAuditCleanupAt := 0 })

/-- What one command can do to the database. -/
inductive CommandStep (inv : Invocation) (db : IdentityStore) : IdentityStore → Prop
  | kept : CommandStep inv db db
  | changed {result : IdentityCommandResult} {db' : IdentityStore}
    (h : commandEffect env inv db = some (result, db')) : CommandStep inv db db'
  | audited {base db' : IdentityStore} {record : AuditRecord} (h : CommandStep inv db base)
    (hinsert : base.insertAudit? record = some db') : CommandStep inv db db'

/-- What one `runOnce` can do to the database. -/
inductive WorkerStep (clock : WorkerClock) (handled : LifecycleEvent → Bool)
    (db : IdentityStore) : IdentityStore → Prop
  | kept : WorkerStep clock handled db db
  | cleaned : WorkerStep clock handled db (db.deleteOldAudits (clock.runAt - auditRetentionMs))
  | processed {base db' : IdentityStore} {result : IdentityLifecycleWorkerResult}
    (hbase : base = db ∨ base = db.deleteOldAudits (clock.runAt - auditRetentionMs))
    (h : processEffect env clock handled base = some (result, db')) :
    WorkerStep clock handled db db'

theorem CommandStep.of_settled {inv : Invocation} {db base : IdentityStore}
    {result : IdentityCommandResult}
    (h : Settled (fun result => result.ok = false) db (commandEffect env inv db)
      (.ok result, .idle base)) : CommandStep env inv db base := by
  generalize heffect : commandEffect env inv db = effect at h
  cases h with
  | accepted => exact .changed heffect
  | refused => exact .kept

/-- Apart from audit records, a command commits nothing or its effect. -/
theorem CommandStep.exists_base {inv : Invocation} {db db' : IdentityStore}
    (h : CommandStep env inv db db') : ∃ base,
      (base = db ∨ ∃ result, commandEffect env inv db = some (result, base)) ∧
        db' = { base with audits := db'.audits } := by
  induction h with
  | kept => exact ⟨db, .inl rfl, rfl⟩
  | changed heffect => exact ⟨_, .inr ⟨_, heffect⟩, rfl⟩
  | audited _ hinsert ih =>
    obtain ⟨base, hbase, hsame⟩ := ih
    obtain ⟨audits, -, rfl⟩ := Option.map_eq_some_iff.mp hinsert
    refine ⟨base, hbase, ?_⟩
    rw [hsame]

/-- What a command with the result `ok` has settled is its effect. -/
theorem Settled.effect_of_ok {effect : CommandEffect} {db base : IdentityStore}
    {result : IdentityCommandResult} (hok : result.ok = true)
    (h : Settled (fun result => result.ok = false) db effect (.ok result, .idle base)) :
    effect = some (result, base) := by
  cases h with
  | accepted => rfl
  | refused hrefused =>
    rw [hok] at hrefused
    cases hrefused

theorem execute_commits (inv : Invocation) (fails : Site → Nat → Bool) (db : IdentityStore) :
    CommandStep env inv db
      (Script.run noCall fails (execute env inv) 0 (.idle db)).2.committed := by
  have hexecutes := execute_executes env inv db
  rcases Script.run_cases fails 0 hexecutes.sends with
    hwhole | ⟨site, k, committed, -, ⟨hcommitted, -⟩, hcut⟩
  · rw [hwhole]
    have hended := hexecutes.ended
    generalize Script.outcome noCall (execute env inv) (.idle db) = ended at hended
    cases hended with
    | raised error => exact .kept
    | unrecorded h => exact .of_settled env h
    | recorded h hclosing hinsert => exact .audited (.of_settled env h) hinsert
    | recordRefused h => exact .of_settled env h
  · rw [hcut, hcommitted]
    cases site with
    | work => exact .kept
    | closingAudit =>
      dsimp only [committedAt]
      cases heffect : commandEffect env inv db with
      | none => exact .kept
      | some accepted => exact .changed heffect

/-- A command that returns has settled, and its closing audit record is committed. -/
theorem execute_ok {inv : Invocation} {fails : Site → Nat → Bool} {db : IdentityStore}
    {result : IdentityCommandResult} {c : Connection IdentityStore}
    (h : Script.run noCall fails (execute env inv) 0 (.idle db) = (.ok result, c)) :
    ∃ base, Settled (fun result => result.ok = false) db (commandEffect env inv db)
        (.ok result, .idle base) ∧
      (closingAudit env inv db result = none ∧ c = .idle base ∨
        ∃ record db', closingAudit env inv db result = some record ∧
          base.insertAudit? record = some db' ∧ c = .idle db') := by
  have hexecutes := execute_executes env inv db
  rcases Script.run_cases fails 0 hexecutes.sends with
    hwhole | ⟨site, k, committed, -, -, hcut⟩
  · rw [hwhole] at h
    have hended := hexecutes.ended
    generalize Script.outcome noCall (execute env inv) (.idle db) = ended at h hended
    cases hended with
    | raised error => cases h
    | unrecorded hsettled hclosing =>
      cases h
      exact ⟨_, hsettled, .inl ⟨hclosing, rfl⟩⟩
    | recorded hsettled hclosing hinsert =>
      cases h
      exact ⟨_, hsettled, .inr ⟨_, _, hclosing, hinsert, rfl⟩⟩
    | recordRefused => cases h
  · rw [hcut] at h
    cases h

theorem runOnce_commits (world : IdentityWorld) (clock : WorkerClock)
    (handled : LifecycleEvent → Bool) (cleanupFails fails : Site → Nat → Bool) :
    WorkerStep env clock handled world.db
      (runOnce env world clock handled cleanupFails fails).2.db := by
  have hclean := cleanUpAudits_works (handlerAnswer handled) clock.runAt world.nextAuditCleanupAt
    world.db
  unfold runOnce
  rcases hclean.run_cases cleanupFails 0 with
    ⟨next, base, heffect, hrun⟩ | ⟨result, hrefusal, -⟩ | ⟨failure, hrun⟩
  · have hbase : base = world.db ∨
        base = world.db.deleteOldAudits (clock.runAt - auditRetentionMs) := by
      split at heffect
      · cases heffect
        exact .inr rfl
      · cases heffect
        exact .inl rfl
    have hkept : WorkerStep env clock handled world.db base := by
      rcases hbase with rfl | rfl
      · exact .kept
      · exact .cleaned
    rw [hrun]
    dsimp only
    rcases (processDueEvent_works env clock handled base).run_cases fails 0 with
      ⟨result, db', heffect, hrun⟩ | ⟨result, hrefusal, -⟩ | ⟨failure, hrun⟩
    · rw [hrun]
      exact .processed hbase heffect
    · exact hrefusal.elim
    · rw [hrun]
      exact hkept
  · exact hrefusal.elim
  · rw [hrun]
    exact .kept

end Steps

/-! ### A small platform -/

def sampleUuid (n : Nat) : Uuid where
  text := .ofList (List.replicate (n + 1) '0')
  canonical := by
    rw [String.toList_ofList, List.all_replicate]
    rfl

/-- Digests and derived keys are the texts themselves. -/
def sampleEnvironment : IdentityEnvironment where
  parseUuid text := if h : text.toList.all isUuidCharacter = true then some ⟨text, h⟩ else none
  parseUuid_text id := by rw [dif_pos id.canonical]
  sha256 text := text
  scrypt password salt := password ++ salt
  isHan _ := false

/-- The call number `n`, with ids and bytes of its own. -/
def sampleInvocation (n : Nat) (now : Instant) (command : IdentityCommand) : Invocation where
  command
  correlationId := ""
  now
  draws :=
    { auditId := sampleUuid (4 * n)
      uuid := fun i => sampleUuid (4 * n + 1 + i)
      bytes := fun i => .ofList (List.replicate (4 * n + 1 + i) 'x') }

/-- The first session token of the call number `n`. -/
def sampleToken (n : Nat) : String := .ofList (List.replicate (4 * n + 1) 'x')

def noFailure (_ : Site) (_ : Nat) : Bool := false

def sampleBootstrap : Invocation :=
  sampleInvocation 0 0 (.bootstrapSuperadmin true "secret" "root")

/-- A step of the worker at an instant, with a handler that succeeds. -/
def sampleRunOnce (now : Instant) : IdentityLabel :=
  .runOnce ⟨now, now, now⟩ (fun _ => true) noFailure noFailure

/-- A user registers and requests its deletion. -/
def sampleDeletion : List IdentityLabel :=
  [.execute sampleBootstrap noFailure,
   .execute (sampleInvocation 1 1 (.createInvitation (sampleToken 0))) noFailure,
   .execute (sampleInvocation 2 2 (.registerWithInvitation (sampleToken 1) "secret" "user"))
     noFailure,
   .execute (sampleInvocation 3 3 (.requestSelfDeletion "secret" (sampleToken 2))) noFailure]

end ChoiceMind.IdentityAccess
