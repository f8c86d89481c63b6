import ChoiceMind.IdentityAccess.Changes

/-!
# Commands and their audit records

Four commands insert their audit record in their own transaction; the other ones append it
when their effect is already committed, so that an effect may stand without its record.
-/

namespace ChoiceMind.IdentityAccess

set_option autoImplicit false

open Contracts Transition IdentityStore

/-! ### The record of an accepted command -/

section Record
variable (env : IdentityEnvironment) (inv : Invocation) (db : IdentityStore)
  (result : IdentityCommandResult)

/-- The account whose session the command carries, or the one that it is about. -/
def actingAccount : Option String :=
  match inv.command.sessionToken with
  | some _ => commandActor env inv db
  | none => result.accountId?

def IdentityCommandResult.invitationId? : IdentityCommandResult → Option String
  | .invitation _ _ invitationId => some invitationId.text
  | _ => none

/-- What the command is about. -/
def auditObject : AuditObjectType × String :=
  let actor := (commandActor env inv db).getD "unknown"
  match inv.command with
  | .bootstrapSuperadmin .. | .registerWithInvitation .. | .login .. | .recoverSuperadmin .. =>
    (.account, result.accountId?.getD "unknown")
  | .createInvitation _ => (.invitation, result.invitationId?.getD "unknown")
  | .logoutCurrent _ | .logoutAll _ => (.loginSession, actor)
  | .changePassword .. | .requestSelfDeletion .. => (.account, actor)
  | .createAccount .. | .completeTemporaryPasswordChange .. | .cancelSelfDeletion _ =>
    (.account, result.accountOr actor)
  | .resetAccountPassword accountId _ | .setAccountRole accountId .. |
    .setAccountStatus accountId .. | .requestAccountDeletion accountId .. => (.account, accountId)
  | .revokeInvitation invitationId _ => (.invitation, invitationId)

/-- The `ALLOWED` record of the command. -/
def allowedRecord : AuditRecord :=
  inv.audit (actingAccount env inv db result) (auditObject env inv db result).1
    (auditObject env inv db result).2 .allowed

end Record

section Tables
variable {db db' : IdentityStore}

theorem audits_insertAccount {account : Account} (h : db.insertAccount? account = some db') :
    db'.audits = db.audits := by
  unfold insertAccount? at h
  split at h
  · cases h
  · obtain ⟨accounts, -, rfl⟩ := Option.map_eq_some_iff.mp h
    rfl

theorem audits_insertRecoveryCode {code : RecoveryCode}
    (h : db.insertRecoveryCode? code = some db') : db'.audits = db.audits := by
  obtain ⟨recoveryCodes, -, rfl⟩ := Option.map_eq_some_iff.mp h
  rfl

theorem audits_insertSession {session : LoginSession} (h : db.insertSession? session = some db') :
    db'.audits = db.audits := by
  obtain ⟨sessions, tokens_nodup, -, rfl⟩ := insertSession?_eq_some h
  rfl

theorem audits_insertInvitation {invitation : Invitation}
    (h : db.insertInvitation? invitation = some db') : db'.audits = db.audits := by
  unfold insertInvitation? at h
  split at h
  · cases h
  · obtain ⟨invitations, -, rfl⟩ := Option.map_eq_some_iff.mp h
    rfl

theorem audits_insertEvent {event : LifecycleEvent} (h : db.insertEvent? event = some db') :
    db'.audits = db.audits := by
  obtain ⟨events, -, rfl⟩ := Option.map_eq_some_iff.mp h
  rfl

theorem audits_insertAudit {record : AuditRecord} (h : db.insertAudit? record = some db') :
    db'.audits.rows = db.audits.rows ++ [record] := by
  obtain ⟨audits, hinsert, rfl⟩ := Option.map_eq_some_iff.mp h
  exact Table.rows_insert? hinsert

end Tables

section Effects
variable {env : IdentityEnvironment} {inv : Invocation} {db db' : IdentityStore}
  {result : IdentityCommandResult}

/-- The actor of a command is the account of its session. -/
theorem commandActor_of_sessionAccount {token : String} {condition : Account → Bool}
    {account : Account} (htoken : inv.command.sessionToken = some token)
    (h : db.sessionAccount env token inv.now condition = some account) :
    commandActor env inv db = some account.accountId.text := by
  unfold IdentityStore.sessionAccount at h
  unfold commandActor
  rw [htoken]
  split at h
  · cases h
  · rename_i session hsession
    obtain ⟨hfound, -⟩ := Option.filter_eq_some_iff.mp h
    rw [Option.bind_some, hsession, (Table.find?_eq_some.mp hfound).2]
    rfl

/-- Where the record of an accepted command is: among the rows of its effect, or still to be
appended. -/
def Recorded (env : IdentityEnvironment) (inv : Invocation) (db db' : IdentityStore)
    (result : IdentityCommandResult) : Prop :=
  (closingAudit env inv db result = none ∧ (result.ok = true →
    db'.audits.rows = db.audits.rows ++ [allowedRecord env inv db result])) ∨
  (closingAudit env inv db result = some (allowedRecord env inv db result) ∧
    db'.audits = db.audits)

theorem deletionRequestEffect_audits {accountId : Uuid} {text : String}
    (h : deletionRequestEffect inv db accountId text = some (result, db')) :
    result.ok = true ∧ db'.audits = db.audits := by
  simp only [deletionRequestEffect, Option.bind_eq_bind, Option.bind_eq_some_iff] at h
  obtain ⟨db₁, hrestrict, db₂, hdelete, hend⟩ := h
  cases hend
  refine ⟨rfl, ?_⟩
  rw [audits_insertEvent hdelete, audits_insertEvent hrestrict]
  rfl

theorem accountStatusEffect_audits {text : String} {target : Account} {status : SettableStatus}
    (h : accountStatusEffect inv db text target status = some (result, db')) :
    result.ok = true ∧ db'.audits = db.audits := by
  unfold accountStatusEffect at h
  cases status with
  | active =>
    cases h
    exact ⟨rfl, rfl⟩
  | disabled =>
    dsimp only at h
    split at h
    · simp only [Option.bind_eq_bind, Option.bind_eq_some_iff] at h
      obtain ⟨db₁, hevent, hend⟩ := h
      cases hend
      refine ⟨rfl, ?_⟩
      rw [audits_insertEvent hevent]
      rfl
    · cases h
      exact ⟨rfl, rfl⟩

theorem acceptLoginEffect_audits {usernameKey : String} {account : Account}
    (h : acceptLoginEffect env inv db usernameKey account = some (result, db')) :
    result.accountId? = some account.accountId.text ∧ db'.audits.rows = db.audits.rows ++
      [inv.audit (some account.accountId.text) .account account.accountId.text .allowed] := by
  simp only [acceptLoginEffect, Option.bind_eq_bind, Option.bind_eq_some_iff] at h
  obtain ⟨db₁, hsession, db₂, haudit, hend⟩ := h
  have hresult : result.accountId? = some account.accountId.text ∧ db₂ = db' := by
    split at hend
    · obtain ⟨due, -, hend⟩ := Option.map_eq_some_iff.mp hend
      cases hend
      exact ⟨rfl, rfl⟩
    · cases hend
      exact ⟨rfl, rfl⟩
  obtain ⟨hresult, rfl⟩ := hresult
  refine ⟨hresult, ?_⟩
  rw [audits_insertAudit haudit, audits_insertSession hsession]
  rfl

theorem refuseLoginEffect_refuses {usernameKey : String} {throttle : Option LoginThrottle}
    {account : Option Account}
    (h : refuseLoginEffect inv db usernameKey throttle account = some (result, db')) :
    result.ok = false := by
  simp only [refuseLoginEffect, Option.bind_eq_bind, Option.bind_eq_some_iff] at h
  obtain ⟨db₁, -, hend⟩ := h
  split at hend
  · cases hend
    rfl
  · cases hend
    rfl

/-- Every accepted command has its record, inside its effect or after it. -/
theorem commandEffect_recorded (h : commandEffect env inv db = some (result, db')) :
    Recorded env inv db db' result := by
  unfold commandEffect at h
  unfold Recorded closingAudit allowedRecord auditObject actingAccount
  cases hcommand : inv.command with
  | bootstrapSuperadmin =>
    rw [hcommand] at h
    simp only [bootstrapSuperadminEffect, Option.ite_none_left_eq_some, Option.bind_eq_bind,
      Option.bind_eq_some_iff] at h
    obtain ⟨-, -, -, -, db₁, haccount, db₂, hcode, db₃, hsession, db₄, haudit, hend⟩ := h
    cases hend
    refine .inl ⟨rfl, fun _ => ?_⟩
    rw [audits_insertAudit haudit, audits_insertSession hsession,
      audits_insertRecoveryCode hcode, audits_insertAccount haccount]
    rfl
  | createInvitation sessionToken =>
    rw [hcommand] at h
    simp only [createInvitationEffect, Option.bind_eq_bind, Option.bind_eq_some_iff] at h
    obtain ⟨actor, hactor, db₁, hinvitation, db₂, haudit, hend⟩ := h
    cases hend
    have hacting : commandActor env inv db = some actor.accountId.text :=
      commandActor_of_sessionAccount (by rw [hcommand]; rfl) (administrator_eq_some hactor).1
    refine .inl ⟨rfl, fun _ => ?_⟩
    rw [audits_insertAudit haudit, audits_insertInvitation hinvitation, hacting]
    rfl
  | registerWithInvitation =>
    rw [hcommand] at h
    simp only [registerWithInvitationEffect, Option.ite_none_left_eq_some, Option.bind_eq_bind,
      Option.bind_eq_some_iff] at h
    obtain ⟨-, -, invitation, -, db₁, haccount, db₂, hsession, db₃, haudit, hend⟩ := h
    cases hend
    refine .inl ⟨rfl, fun _ => ?_⟩
    rw [audits_insertAudit haudit, audits_insertSession hsession,
      show (db₁.useInvitation _ _ _).audits = db₁.audits from rfl,
      audits_insertAccount haccount]
    rfl
  | login =>
    rw [hcommand] at h
    unfold loginEffect at h
    dsimp only at h
    split at h
    · simp only [Option.bind_eq_bind, Option.bind_eq_some_iff] at h
      obtain ⟨db₁, haudit, hend⟩ := h
      cases hend
      refine .inl ⟨rfl, ?_⟩
      intro hok
      cases hok
    · split at h
      · refine .inl ⟨rfl, ?_⟩
        rw [refuseLoginEffect_refuses h]
        intro hok
        cases hok
      · obtain ⟨hresult, haudits⟩ := acceptLoginEffect_audits h
        refine .inl ⟨rfl, fun _ => ?_⟩
        rw [haudits, hresult]
        rfl
  | logoutCurrent =>
    rw [hcommand] at h
    cases h
    exact .inr ⟨rfl, rfl⟩
  | logoutAll sessionToken =>
    rw [hcommand] at h
    obtain ⟨⟨⟨result', objectId⟩, db₁⟩, heffect, hend⟩ := Option.map_eq_some_iff.mp h
    cases hend
    simp only [logoutAllEffect, Option.bind_eq_bind, Option.bind_eq_some_iff] at heffect
    obtain ⟨account, haccount, hend⟩ := heffect
    cases hend
    have hacting : commandActor env inv db = some account.accountId.text :=
      commandActor_of_sessionAccount (by rw [hcommand]; rfl) haccount
    refine .inr ⟨?_, rfl⟩
    dsimp only
    rw [haccount, hacting]
    rfl
  | changePassword =>
    rw [hcommand] at h
    simp only [changePasswordEffect, Option.ite_none_left_eq_some, Option.bind_eq_bind,
      Option.bind_eq_some_iff] at h
    obtain ⟨-, account, -, -, hend⟩ := h
    cases hend
    exact .inr ⟨rfl, rfl⟩
  | createAccount =>
    rw [hcommand] at h
    simp only [createAccountEffect, Option.ite_none_left_eq_some, Option.bind_eq_bind,
      Option.bind_eq_some_iff] at h
    obtain ⟨-, actor, -, -, db₁, haccount, hend⟩ := h
    cases hend
    exact .inr ⟨rfl, audits_insertAccount haccount⟩
  | completeTemporaryPasswordChange =>
    rw [hcommand] at h
    simp only [completeTemporaryPasswordChangeEffect, Option.ite_none_left_eq_some,
      Option.bind_eq_bind, Option.bind_eq_some_iff] at h
    obtain ⟨-, account, -, db₁, hsession, hend⟩ := h
    cases hend
    refine .inr ⟨rfl, ?_⟩
    rw [audits_insertSession hsession]
    rfl
  | resetAccountPassword =>
    rw [hcommand] at h
    simp only [resetAccountPasswordEffect, Option.ite_none_left_eq_some, Option.bind_eq_bind,
      Option.bind_eq_some_iff] at h
    obtain ⟨actor, -, id, -, target, -, -, hend⟩ := h
    cases hend
    exact .inr ⟨rfl, rfl⟩
  | revokeInvitation =>
    rw [hcommand] at h
    simp only [revokeInvitationEffect, Option.bind_eq_bind, Option.bind_eq_some_iff] at h
    obtain ⟨actor, -, id, -, hend⟩ := h
    split at hend
    · cases hend
      exact .inr ⟨rfl, rfl⟩
    · cases hend
  | setAccountRole =>
    rw [hcommand] at h
    simp only [setAccountRoleEffect, Option.ite_none_left_eq_some, Option.bind_eq_bind,
      Option.bind_eq_some_iff] at h
    obtain ⟨actor, -, -, -, id, -, target, -, -, hend⟩ := h
    cases hend
    exact .inr ⟨rfl, rfl⟩
  | setAccountStatus =>
    rw [hcommand] at h
    simp only [setAccountStatusEffect, Option.ite_none_left_eq_some, Option.bind_eq_bind,
      Option.bind_eq_some_iff] at h
    obtain ⟨actor, -, id, -, target, -, -, hrest⟩ := h
    have haudits : result.ok = true ∧ db'.audits = db.audits := by
      split at hrest
      · exact accountStatusEffect_audits hrest
      · simp only [Option.ite_none_left_eq_some] at hrest
        exact accountStatusEffect_audits hrest.2.2
    refine .inr ⟨?_, haudits.2⟩
    rw [haudits.1]
    rfl
  | requestSelfDeletion =>
    rw [hcommand] at h
    simp only [requestSelfDeletionEffect, Option.ite_none_left_eq_some, Option.bind_eq_bind,
      Option.bind_eq_some_iff] at h
    obtain ⟨account, -, -, -, hend⟩ := h
    obtain ⟨hok, haudits⟩ := deletionRequestEffect_audits hend
    refine .inr ⟨?_, haudits⟩
    rw [hok]
    rfl
  | cancelSelfDeletion =>
    rw [hcommand] at h
    simp only [cancelSelfDeletionEffect, Option.bind_eq_bind, Option.bind_eq_some_iff] at h
    obtain ⟨account, -, db₁, hsession, hend⟩ := h
    cases hend
    refine .inr ⟨rfl, ?_⟩
    rw [audits_insertSession hsession]
    rfl
  | recoverSuperadmin =>
    rw [hcommand] at h
    simp only [recoverSuperadminEffect, Option.ite_none_left_eq_some, Option.bind_eq_bind,
      Option.bind_eq_some_iff] at h
    obtain ⟨-, -, target, -, -, -, db₁, hsession, hend⟩ := h
    cases hend
    refine .inr ⟨rfl, ?_⟩
    rw [audits_insertSession hsession]
    rfl
  | requestAccountDeletion =>
    rw [hcommand] at h
    simp only [requestAccountDeletionEffect, Option.ite_none_left_eq_some, Option.bind_eq_bind,
      Option.bind_eq_some_iff] at h
    obtain ⟨actor, -, -, -, id, -, target, -, -, hend⟩ := h
    obtain ⟨hok, haudits⟩ := deletionRequestEffect_audits hend
    refine .inr ⟨?_, haudits⟩
    rw [hok]
    rfl

end Effects

end ChoiceMind.IdentityAccess
