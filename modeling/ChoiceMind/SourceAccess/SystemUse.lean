import ChoiceMind.Foundation.Calls
import ChoiceMind.SourceAccess.Access

/-!
# Credential use by the system actor

The source worker acts as `SYSTEM`, a role that the check on the audit table does not admit,
and the vault hands out a secret only after its first audit record.
-/

namespace ChoiceMind.SourceAccess

set_option autoImplicit false

open Contracts TaskPersistence Security Calls Transition

variable {senv : SourceEnvironment} {sources : Sources}

/-! ### Audit records -/

section Audit
variable {input : CredentialCall} {process : Process}

/-- The row of an audit record. -/
def auditRow (env : Environment) (input : CredentialCall) (action : CredentialAction)
    (result : AuditResult) (sources : Sources) : AuditRecord where
  auditRecordId := env.randomUUID sources.db.uuidsDrawn
  actorPrincipalId := input.caller.actor.userId
  actorUserId := input.caller.actor.userId
  actorRole := input.caller.actor.role
  action := action.text
  objectType := "CREDENTIAL"
  objectId := input.credentialId
  result := result.text
  correlationId := input.correlationId
  occurredAt := sources.clock

/-- No audit record has an id that is still to be drawn. -/
def AuditsIssued (env : Environment) (db : Store) : Prop :=
  ∀ record ∈ db.auditRecords, ∀ index, db.uuidsDrawn ≤ index →
    record.auditRecordId ≠ env.randomUUID index

/-- The audit record of a `SYSTEM` actor is refused. -/
theorem run_audit_refused (action : CredentialAction) (result : AuditResult)
    (hrole : input.caller.actor.role = .system) :
    (appendCredentialAudit (vaultOptions senv process) input action result).run sources =
      (.error (.port .persistenceUnavailable), sources) := by
  have hnow : (vaultOptions senv process).ports.now.run sources = (sources.clock, sources) := rfl
  unfold appendCredentialAudit
  rw [run_bind_ok (run_readPort hnow)]
  apply run_callPort_error
  change appendAuditRecord senv.env _ sources = _
  simp only [appendAuditRecord, TaskPersistence.appendAuditRecord, hrole]
  rfl

/-- One audit record is appended, and the credentials stay. -/
structure Audited (env : Environment) (input : CredentialCall) (action : CredentialAction)
    (result : AuditResult) (sources sources' : Sources) : Prop where
  rows : sources'.db.auditRecords.rows =
    sources.db.auditRecords.rows ++ [auditRow env input action result sources]
  issued : AuditsIssued env sources'.db
  credentials : sources'.db.credentials = sources.db.credentials

theorem run_audit_appended (senv : SourceEnvironment) (process : Process)
    (action : CredentialAction) (result : AuditResult)
    (hrole : input.caller.actor.role ≠ .system) (hissued : AuditsIssued senv.env sources.db) :
    ∃ sources', (appendCredentialAudit (vaultOptions senv process) input action result).run
        sources = (.ok (), sources') ∧ Audited senv.env input action result sources sources' := by
  have hnow : (vaultOptions senv process).ports.now.run sources = (sources.clock, sources) := rfl
  have hadmitted : input.caller.actor.role.admitted = true := by
    cases hcase : input.caller.actor.role with
    | system => exact absurd hcase hrole
    | user => rfl
    | admin => rfl
    | superadmin => rfl
  have hfresh : ∀ record ∈ sources.db.auditRecords, record.auditRecordId ≠
      (auditRow senv.env input action result sources).auditRecordId :=
    fun record hrecord => hissued record hrecord _ (Nat.le_refl _)
  obtain ⟨auditRecords, hinsert⟩ :=
    Option.isSome_iff_exists.mp (Table.insert?_isSome_iff.mpr hfresh)
  refine ⟨{ sources with
    db := { sources.db with
      auditRecords
      uuidsDrawn := sources.db.uuidsDrawn + 1 } }, ?_, Table.rows_insert? hinsert, ?_, rfl⟩
  · unfold appendCredentialAudit
    rw [run_bind_ok (run_readPort hnow)]
    apply run_callPort_ok
    change appendAuditRecord senv.env _ sources = _
    unfold auditRow at hinsert
    simp only [appendAuditRecord, TaskPersistence.appendAuditRecord, hadmitted, Bool.not_true,
      Bool.false_eq_true, if_false, hinsert]
    rfl
  · intro record hrecord index hindex
    rcases (Table.mem_insert? hinsert).mp hrecord with hold | rfl
    · exact hissued record hold index (Nat.le_of_succ_le hindex)
    · intro hsame
      have hdrawn : sources.db.uuidsDrawn = index := senv.env.randomUUID_injective hsame
      dsimp only at hindex
      omega

/-- The record that the store loads for a row. -/
def recordOf (row : EncryptedCredential) : EncryptedCredentialRecord :=
  ⟨row.key.credentialId, row.key.ownerUserId, row.envelope.secretType, row.envelope.secret,
    row.envelope.wrappedDataKey⟩

/-- The action, the credential and the result of an audit record. -/
def auditedAs (record : AuditRecord) : String × String × String :=
  (record.action, record.objectId, record.result)

/-- An owner's use of a stored secret runs the operation on it, between two audit records. -/
theorem run_use_stored {row : EncryptedCredential} {secret : String} (operation : String → Bool)
    (hrole : input.caller.actor.role ≠ .system)
    (howner : input.caller.actor.userId = input.ownerUserId)
    (hrow : sources.db.credentials.find? ⟨input.ownerUserId, input.credentialId⟩ = some row)
    (hopens : openSecret senv.cipher senv.masterKey (recordOf row) = some secret)
    (hissued : AuditsIssued senv.env sources.db) :
    ∃ sources', (use (vaultOptions senv process) input fun secret => return operation secret).run
        sources = (if operation secret then .ok () else .error (.message "SECRET_OPERATION_FAILED"),
          sources') ∧
      sources'.db.auditRecords.rows.map auditedAs = sources.db.auditRecords.rows.map auditedAs ++
        [("CREDENTIAL_USE", input.credentialId, "STARTED"),
         ("CREDENTIAL_USE", input.credentialId,
          if operation secret then "ALLOWED" else "FAILED")] := by
  have hpersonal : input.isSystem = false := decide_eq_false hrole
  have hauthorised : input.authorised (vaultOptions senv process) .use = true := by
    rw [CredentialCall.authorised, hpersonal]
    exact decide_eq_true howner
  have hadmits : admitsRecord (vaultOptions senv process) input (recordOf row) = true := by
    obtain ⟨-, hkey⟩ := Table.find?_eq_some.mp hrow
    simp [admitsRecord, recordOf, hkey, hpersonal]
  obtain ⟨started, hstarted, hfirst⟩ :=
    run_audit_appended senv process .use .started hrole hissued
  have hclosing := fun result =>
    run_audit_appended senv process .use result hrole hfirst.issued
  have hload : ((vaultOptions senv process).ports.load input.credentialId input.ownerUserId).run
      started = (.ok (some (recordOf row)), started) := by
    rw [← hfirst.credentials] at hrow
    change (Except.ok (Option.map recordOf (started.db.credentials.find? _)), started) = _
    rw [hrow]
    rfl
  have hopened : openSecret (vaultOptions senv process).cipher
      (vaultOptions senv process).masterKey (recordOf row) = some secret := hopens
  have hoperation : StateT.run (return operation secret : StateM Sources Bool) started =
      (operation secret, started) := rfl
  unfold use
  simp only [hauthorised, Bool.not_true, Bool.false_eq_true, if_false]
  rw [run_bind_ok hstarted, run_bind_ok (run_attempt (run_callPort_ok hload))]
  simp only [Option.filter_some, hadmits, if_true, hopened]
  rw [run_bind_ok (run_readPort hoperation)]
  cases hresult : operation secret with
  | true =>
    obtain ⟨finished, hfinished, hsecond⟩ := hclosing .allowed
    refine ⟨finished, hfinished, ?_⟩
    rw [hsecond.rows, hfirst.rows, List.map_append, List.map_append, List.append_assoc]
    rfl
  | false =>
    obtain ⟨finished, hfinished, hsecond⟩ := hclosing .failed
    refine ⟨finished, ?_, ?_⟩
    · simp only [Bool.false_eq_true, if_false]
      rw [run_bind_ok hfinished]
      rfl
    · rw [hsecond.rows, hfirst.rows, List.map_append, List.map_append, List.append_assoc]
      rfl

end Audit

/-! ### Uses -/

section Use
variable {call : SourceCall} {sourceId sourceAccountId secret : String}
  {credential : SourceCredential} {operation : String → Bool}

/-- The use runs the operation on exactly the secret, between its two audit records, and
returns normally when the operation does. -/
def UseWorks (senv : SourceEnvironment) (call : SourceCall)
    (sourceId sourceAccountId credentialId secret : String) (sources : Sources) : Prop :=
  ∀ operation : String → Bool, ∃ sources',
    (withCredential senv call sourceId sourceAccountId operation).run sources =
      (if operation secret then .ok () else .error (.message "SECRET_OPERATION_FAILED"),
        sources') ∧
    sources'.db.auditRecords.rows.map auditedAs = sources.db.auditRecords.rows.map auditedAs ++
      [("CREDENTIAL_USE", credentialId, "STARTED"),
       ("CREDENTIAL_USE", credentialId, if operation secret then "ALLOWED" else "FAILED")]

theorem run_withCredential
    (howns : ownsScope call.process call.caller call.ownerUserId = true)
    (hfound : sources.credentials.find? ⟨call.ownerUserId, sourceId, sourceAccountId⟩ =
      some credential) (hactive : credential.status = .active) :
    (withCredential senv call sourceId sourceAccountId operation).run sources =
      (use (vaultOptions senv call.process) (call.credentialCall credential.credentialId)
        fun secret => return operation secret).run sources := by
  have hassert : (assertActorOwnsScope call.process call.caller call.ownerUserId).run sources =
      (.ok (), sources) := by
    unfold assertActorOwnsScope
    rw [if_pos howns]
    rfl
  have hget : (get : SourceM Sources).run sources = (.ok sources, sources) := rfl
  unfold withCredential
  rw [run_bind_ok hassert, run_bind_ok hget]
  simp only [hfound, hactive, ne_eq, not_true_eq_false, if_false]

/-- The worker's use ends at its first audit record, before the operation. -/
theorem run_use_refused (hsystem : call.caller = systemActor senv)
    (hworker : call.process = .sourceWorker) :
    (use (vaultOptions senv call.process) (call.credentialCall credential.credentialId)
      fun secret => return operation secret).run sources =
        (.error (.port .persistenceUnavailable), sources) := by
  have hauthorised : (call.credentialCall credential.credentialId).authorised
      (vaultOptions senv call.process) .use = true := by
    simp only [CredentialCall.authorised, CredentialCall.isSystem, SourceCall.credentialCall,
      hsystem, hworker]
    rfl
  have hrole : (call.credentialCall credential.credentialId).caller.actor.role = .system := by
    simp only [SourceCall.credentialCall, hsystem]
    rfl
  unfold use
  simp only [hauthorised, Bool.not_true, Bool.false_eq_true, if_false]
  exact run_bind_error (run_audit_refused .use .started hrole)

/-- An owner's use of a stored secret works. -/
theorem owner_use_works (hcaller : call.caller.actor.role ≠ .system)
    (howner : call.caller.actor.userId = call.ownerUserId)
    (howns : ownsScope call.process call.caller call.ownerUserId = true)
    (hfound : sources.credentials.find? ⟨call.ownerUserId, sourceId, sourceAccountId⟩ =
      some credential) (hactive : credential.status = .active)
    {row : EncryptedCredential}
    (hrow : sources.db.credentials.find? ⟨call.ownerUserId, credential.credentialId⟩ = some row)
    (hopens : openSecret senv.cipher senv.masterKey (recordOf row) = some secret)
    (hissued : AuditsIssued senv.env sources.db) :
    UseWorks senv call sourceId sourceAccountId credential.credentialId secret sources := by
  intro operation
  rw [run_withCredential howns hfound hactive]
  exact run_use_stored operation hcaller howner hrow hopens hissued

/-- The use that the source worker makes for an owner. -/
def workerCall (senv : SourceEnvironment) (ownerUserId correlationId : String) : SourceCall :=
  ⟨.sourceWorker, systemActor senv, ownerUserId, correlationId⟩

theorem run_workerCall {ownerUserId correlationId : String}
    (hfound : sources.credentials.find? ⟨ownerUserId, sourceId, sourceAccountId⟩ =
      some credential) (hactive : credential.status = .active) :
    (withCredential senv (workerCall senv ownerUserId correlationId) sourceId sourceAccountId
      operation).run sources = (.error (.port .persistenceUnavailable), sources) := by
  have howns : ownsScope (workerCall senv ownerUserId correlationId).process
      (workerCall senv ownerUserId correlationId).caller
      (workerCall senv ownerUserId correlationId).ownerUserId = true := rfl
  rw [run_withCredential howns hfound hactive]
  exact run_use_refused rfl rfl

/-- In no state does the worker's use of an active credential work: it ends at the first audit
record, whatever the operation. -/
theorem system_use_never_works (senv : SourceEnvironment) (sources : Sources)
    (ownerUserId sourceId sourceAccountId correlationId secret : String)
    {credential : SourceCredential}
    (hfound : sources.credentials.find? ⟨ownerUserId, sourceId, sourceAccountId⟩ =
      some credential) (hactive : credential.status = .active) :
    (∀ operation, (withCredential senv (workerCall senv ownerUserId correlationId) sourceId
      sourceAccountId operation).run sources =
        (.error (.port .persistenceUnavailable), sources)) ∧
    ¬ UseWorks senv (workerCall senv ownerUserId correlationId) sourceId sourceAccountId
      credential.credentialId secret sources := by
  refine ⟨fun operation => run_workerCall hfound hactive, ?_⟩
  intro hworks
  obtain ⟨sources', hrun, -⟩ := hworks fun _ => true
  rw [run_workerCall hfound hactive] at hrun
  cases hrun

end Use

/-! ### A login and its uses -/

theorem tag_opens (plaintext key aad iv : String) :
    (if (⟨plaintext, iv, key ++ aad⟩ : SealedText).tag = key ++ aad then some plaintext
      else none) = some plaintext :=
  if_pos rfl

/-- A cipher whose tag names the key and the associated data. -/
def sampleCipher : Cipher where
  encrypt plaintext key aad iv := ⟨plaintext, iv, key ++ aad⟩
  decrypt text key aad := if text.tag = key ++ aad then some text.ciphertext else none
  decrypt_encrypt := tag_opens

def sampleSources : SourceEnvironment := ⟨sampleEnv, sampleCipher, "master", uuidText, "a"⟩

def ownerCall : SourceCall := ⟨.api, .other ⟨"user", .user⟩, "user", "request"⟩

def loggedIn : List (Instant × SourceEvent) :=
  [(0, .beginLogin ⟨"user", "source", "account"⟩ "login"),
   (1, .completeLogin ownerCall "" "secret")]

/-- The owner uses the credential, and then the source worker does. -/
def usedTwice : List (Instant × SourceEvent) :=
  loggedIn ++
    [(2, .withCredential ownerCall "source" "account" fun secret => secret = "secret"),
     (3, .withCredential (workerCall sampleSources "user" "job") "source" "account"
       fun secret => secret = "secret")]

def hasActive (sources : Sources) : Bool :=
  (sources.credentials.find? ⟨"user", "source", "account"⟩).any fun credential =>
    credential.status = .active

theorem worker_use_after_login :
    ∃ es sources credential, Run (sourceStep sampleSources) Sources.empty es sources ∧
      es.map Entry.label = loggedIn ∧
      sources.credentials.find? ⟨"user", "source", "account"⟩ = some credential ∧
      ¬ UseWorks sampleSources (workerCall sampleSources "user" "job") "source" "account"
        credential.credentialId "secret" sources := by
  have hexec : (exec (sourceStep sampleSources) Sources.empty loggedIn).any
      (fun result => hasActive result.2) = true := by
    decide +kernel
  obtain ⟨es, sources, hrun, hlabels, hcheck⟩ := exists_labelled_run_of_exec hexec
  unfold hasActive at hcheck
  rw [Option.any_eq_true] at hcheck
  obtain ⟨credential, hfound, hactive⟩ := hcheck
  exact ⟨es, sources, credential, hrun, hlabels, hfound,
    (system_use_never_works sampleSources sources "user" "source" "account" "job" "secret" hfound
      (of_decide_eq_true hactive)).2⟩

/-- The worker's use is refused although the credential is active and its owner's use works. -/
def workerRefused (es : List (Entry Sources (Instant × SourceEvent) SourceReply)) : Bool :=
  match es with
  | [_, _, ⟨_, _, .done, _⟩, ⟨before, _, .failed (.port .persistenceUnavailable), _⟩] =>
    hasActive before
  | _ => false

theorem worker_use_refused :
    ∃ first second used refused sources, Run (sourceStep sampleSources) Sources.empty
        [first, second, used, refused] sources ∧
      [first, second, used, refused].map Entry.label = usedTwice ∧
      hasActive refused.before = true ∧ used.reply = .done ∧
      refused.reply = .failed (.port .persistenceUnavailable) := by
  have hexec : (exec (sourceStep sampleSources) Sources.empty usedTwice).any
      (fun result => workerRefused result.1) = true := by
    decide +kernel
  obtain ⟨es, sources, hrun, hlabels, hcheck⟩ := exists_labelled_run_of_exec hexec
  change workerRefused es = true at hcheck
  unfold workerRefused at hcheck
  split at hcheck
  · exact ⟨_, _, _, _, sources, hrun, hlabels, hcheck, rfl, rfl⟩
  · cases hcheck

end ChoiceMind.SourceAccess
