import ChoiceMind.IdentityAccess.Effects

/-!
# Executing one command

How `execute` ends: a command without a closing audit record ends with its effect, and every
other one commits its effect first and its audit record after it.
-/

namespace ChoiceMind.IdentityAccess

set_option autoImplicit false

open Contracts

section Executions
variable (env : IdentityEnvironment) (inv : Invocation) (db : IdentityStore)

/-- The effect of the command of an invocation. -/
def commandEffect : CommandEffect :=
  match inv.command with
  | .bootstrapSuperadmin isLocalRequest password username =>
    bootstrapSuperadminEffect env inv db isLocalRequest password username
  | .createInvitation sessionToken => createInvitationEffect env inv db sessionToken
  | .registerWithInvitation invitationCode password username =>
    registerWithInvitationEffect env inv db invitationCode password username
  | .login password username => loginEffect env inv db password username
  | .logoutCurrent sessionToken => logoutCurrentEffect env inv db sessionToken
  | .logoutAll sessionToken =>
    (logoutAllEffect env inv db sessionToken).map fun accepted => (accepted.1.1, accepted.2)
  | .changePassword currentPassword newPassword sessionToken =>
    changePasswordEffect env inv db currentPassword newPassword sessionToken
  | .createAccount role sessionToken username =>
    createAccountEffect env inv db role sessionToken username
  | .completeTemporaryPasswordChange newPassword sessionToken =>
    completeTemporaryPasswordChangeEffect env inv db newPassword sessionToken
  | .resetAccountPassword accountId sessionToken =>
    resetAccountPasswordEffect env inv db accountId sessionToken
  | .revokeInvitation invitationId sessionToken =>
    revokeInvitationEffect env inv db invitationId sessionToken
  | .setAccountRole accountId currentPassword role sessionToken =>
    setAccountRoleEffect env inv db accountId currentPassword role sessionToken
  | .setAccountStatus accountId currentPassword sessionToken status =>
    setAccountStatusEffect env inv db accountId currentPassword sessionToken status
  | .requestSelfDeletion currentPassword sessionToken =>
    requestSelfDeletionEffect env inv db currentPassword sessionToken
  | .cancelSelfDeletion sessionToken => cancelSelfDeletionEffect env inv db sessionToken
  | .recoverSuperadmin isLocalRequest newPassword recoveryCode =>
    recoverSuperadminEffect env inv db isLocalRequest newPassword recoveryCode
  | .requestAccountDeletion accountId currentPassword sessionToken =>
    requestAccountDeletionEffect env inv db accountId currentPassword sessionToken

/-- The account whose session the command carries. -/
def commandActor : Option String :=
  (inv.command.sessionToken.bind fun sessionToken =>
    (db.liveSession env sessionToken inv.now).map LoginSession.accountId).map Uuid.text

/-- The audit record that `withAudit` appends for a result. -/
def closingAudit (result : IdentityCommandResult) : Option AuditRecord :=
  let actor := commandActor env inv db
  let close (objectType : AuditObjectType) (objectId : String) (actor : Option String) :=
    some (inv.audit actor objectType objectId (if result.ok then .allowed else .denied))
  match inv.command with
  | .bootstrapSuperadmin .. | .createInvitation _ | .registerWithInvitation .. | .login .. => none
  | .logoutCurrent _ => close .loginSession (actor.getD "unknown") actor
  | .logoutAll sessionToken =>
    let account := db.sessionAccount env sessionToken inv.now Account.hasFullAccess
    close .loginSession ((account.map fun account => account.accountId.text).getD "unknown") actor
  | .changePassword .. | .requestSelfDeletion .. => close .account (actor.getD "unknown") actor
  | .createAccount _ _ username =>
    close .account (result.accountOr (normalizeUsername username)) actor
  | .completeTemporaryPasswordChange .. | .cancelSelfDeletion _ =>
    close .account (result.accountOr (actor.getD "unknown")) actor
  | .revokeInvitation invitationId _ => close .invitation invitationId actor
  | .resetAccountPassword accountId _ | .setAccountRole accountId .. |
    .setAccountStatus accountId .. | .requestAccountDeletion accountId .. =>
    close .account accountId actor
  | .recoverSuperadmin .. =>
    close .account (result.accountId?.getD "unknown") result.accountId?

end Executions

/-! ### Commands with a closing audit record -/

/-- How a command ends whose statements do not fail. -/
inductive Ended (effect : CommandEffect) (closing : IdentityCommandResult → Option AuditRecord)
    (db : IdentityStore) :
    Except IdentityError IdentityCommandResult × Connection IdentityStore → Prop
  | raised (error : IdentityError) (h : effect = none) : Ended effect closing db
      (.error error, .idle db)
  | unrecorded {result : IdentityCommandResult} {db' : IdentityStore}
    (h : Settled (fun result => result.ok = false) db effect (.ok result, .idle db'))
    (hclosing : closing result = none) : Ended effect closing db (.ok result, .idle db')
  | recorded {result : IdentityCommandResult} {base db' : IdentityStore} {record : AuditRecord}
    (h : Settled (fun result => result.ok = false) db effect (.ok result, .idle base))
    (hclosing : closing result = some record) (hinsert : base.insertAudit? record = some db') :
    Ended effect closing db (.ok result, .idle db')
  | recordRefused {result : IdentityCommandResult} {base : IdentityStore} {record : AuditRecord}
    (h : Settled (fun result => result.ok = false) db effect (.ok result, .idle base))
    (hclosing : closing result = some record) (hinsert : base.insertAudit? record = none) :
    Ended effect closing db (.error .uniqueViolation, .idle base)

/-- What is committed when a statement of a command is sent. -/
def committedAt (effect : CommandEffect) (db : IdentityStore) : Site → IdentityStore
  | .work => db
  | .closingAudit => (effect.map Prod.snd).getD db

/-- A statement of a command: the closing audit record is sent for some result. -/
def SentAt (effect : CommandEffect) (closing : IdentityCommandResult → Option AuditRecord)
    (db : IdentityStore) (site : Site) (committed : IdentityStore) : Prop :=
  committed = committedAt effect db site ∧ (site = .closingAudit → ∃ result, closing result ≠ none)

/-- A command that ends so. -/
structure Executes (effect : CommandEffect)
    (closing : IdentityCommandResult → Option AuditRecord) (db : IdentityStore)
    (script : CommandM) : Prop where
  sends : script.Sends noCall (SentAt effect closing db) (.idle db)
  ended : Ended effect closing db (script.outcome noCall (.idle db))
  /-- where the closing audit record fails alone -/
  cut : ∀ {fails : Site → Nat → Bool} {result : IdentityCommandResult} {base : IdentityStore}
    (n : Nat), (∀ k, fails .work k = false) → (∀ k, fails .closingAudit k = true) →
    effect = some (result, base) → closing result ≠ none →
    script.run noCall fails n (.idle db) = (.error .statement, .idle base)

section Closing
variable {effect : CommandEffect} {closing : IdentityCommandResult → Option AuditRecord}
  {db : IdentityStore} {script : CommandM}

theorem Works.sends_committedAt {α : Type} {refusal : α → Prop} {own : Option (α × IdentityStore)}
    {script : IdentityM α} (h : Works noCall refusal db own script (.idle db)) :
    script.Sends noCall (SentAt effect closing db) (.idle db) := by
  refine h.sends.mono fun site committed hsent => ?_
  rw [hsent.1]
  refine ⟨hsent.2, ?_⟩
  intro hsite
  cases hsite

theorem CommandWorks.executes (h : CommandWorks db effect script (.idle db))
    (hclosing : ∀ result, closing result = none) : Executes effect closing db script where
  sends := h.sends_committedAt
  cut := fun _ _ _ _ hsome => absurd (hclosing _) hsome
  ended := by
    have hsettled := h.settled
    generalize hend : script.outcome noCall (.idle db) = ended at hsettled
    cases hsettled with
    | accepted result db' => exact .unrecorded (.accepted result db') (hclosing result)
    | refused hrefusal => exact .unrecorded (.refused hrefusal) (hclosing _)
    | raised error => exact .raised error rfl

theorem Ended.close {result : IdentityCommandResult} {base : IdentityStore} {record : AuditRecord}
    (h : Settled (fun result => result.ok = false) db effect (.ok result, .idle base))
    (hclosing : closing result = some record) :
    Ended effect closing db (Script.outcome noCall
      (.query Site.closingAudit (appendAudit record) fun _ => .done result) (.idle base)) := by
  have heval : Statement.eval (appendAudit record) base = _ :=
    inserting_eval (IdentityStore.insertAudit? record) _ base
  cases hinsert : base.insertAudit? record with
  | none =>
    rw [hinsert] at heval
    rw [Script.outcome_query_error (c := .idle base) heval]
    exact .recordRefused h hclosing hinsert
  | some db' =>
    rw [hinsert] at heval
    rw [Script.outcome_query_ok (c := .idle base) heval]
    exact .recorded h hclosing hinsert

theorem sends_close {result : IdentityCommandResult} {base : IdentityStore} {record : AuditRecord}
    (hbase : base = (effect.map Prod.snd).getD db) (hclosing : closing result = some record) :
    Script.Sends (α := IdentityCommandResult) noCall (SentAt effect closing db)
      (.query .closingAudit (appendAudit record) fun _ => .done result) (.idle base) := by
  rw [Script.Sends]
  refine ⟨⟨hbase, fun _ => ⟨result, ?_⟩⟩, ?_⟩
  · rw [hclosing]
    exact Option.some_ne_none record
  split
  · trivial
  · trivial

/-- A command and its closing audit record. -/
theorem Works.closed {α : Type} {refusal : α → Prop} {own : Option (α × IdentityStore)}
    {script : IdentityM α} (h : Works noCall refusal db own script (.idle db))
    {result : α → IdentityCommandResult} {record : α → AuditRecord}
    (heffect : own.map (fun accepted => (result accepted.1, accepted.2)) = effect)
    (hrefusal : ∀ a, refusal a → (result a).ok = false ∧ closing (result a) = some (record a))
    (hclosing : ∀ a db', own = some (a, db') → closing (result a) = some (record a)) :
    Executes effect closing db (script >>= fun a =>
      .query .closingAudit (appendAudit (record a)) fun _ => .done (result a)) := by
  have hsends : script.Sends noCall (SentAt effect closing db) (.idle db) :=
    h.sends_committedAt
  have hsettled := h.settled
  have hcut : ∀ {fails : Site → Nat → Bool} {ended : IdentityCommandResult} {base : IdentityStore}
      (n : Nat), (∀ k, fails .work k = false) → (∀ k, fails .closingAudit k = true) →
      effect = some (ended, base) → closing ended ≠ none →
      Script.run noCall fails (script >>= fun a =>
        .query .closingAudit (appendAudit (record a)) fun _ => .done (result a)) n (.idle db) =
        (.error .statement, .idle base) := by
    intro fails ended base n hwork hclosing heffect' _
    rw [← heffect] at heffect'
    obtain ⟨⟨a, db'⟩, hown, hend⟩ := Option.map_eq_some_iff.mp heffect'
    cases hend
    have hsent : script.Sends noCall (fun site _ => ∀ k, fails site k = false) (.idle db) := by
      refine h.sends.mono fun site committed hsent k => ?_
      rw [hsent.1, hwork]
    obtain ⟨m, hm⟩ := Script.exists_run_bind n hsent (h.outcome_of_effect hown)
    rw [hm, Script.run, if_pos (hclosing m)]
    rfl
  cases hend : script.outcome noCall (.idle db) with
  | mk ended c =>
    rw [hend] at hsettled
    cases hsettled with
    | accepted a db' =>
      refine ⟨?_, ?_, hcut⟩
      · refine Script.sends_bind.mpr ⟨hsends, ?_⟩
        rw [hend]
        exact sends_close (by rw [← heffect]; rfl) (hclosing a db' rfl)
      · rw [Script.outcome_bind_ok hend]
        refine .close ?_ (hclosing a db' rfl)
        rw [← heffect]
        exact .accepted (result a) db'
    | refused ha =>
      obtain ⟨hok, hrecord⟩ := hrefusal _ ha
      refine ⟨?_, ?_, hcut⟩
      · refine Script.sends_bind.mpr ⟨hsends, ?_⟩
        rw [hend]
        exact sends_close (by rw [← heffect]; rfl) hrecord
      · rw [Script.outcome_bind_ok hend]
        refine .close ?_ hrecord
        rw [← heffect]
        exact .refused hok
    | raised error =>
      refine ⟨?_, ?_, hcut⟩
      · refine Script.sends_bind.mpr ⟨hsends, ?_⟩
        rw [hend]
        trivial
      · rw [Script.outcome_bind_error hend]
        exact .raised error (by rw [← heffect]; rfl)

/-- A command after a read of its actor. -/
theorem Executes.read {β : Type} {statement : IdentityStatement β} {b : β}
    {next : β → CommandM} (heval : Statement.eval statement db = .ok (b, db))
    (h : Executes effect closing db (next b)) :
    Executes effect closing db (query statement >>= next) where
  sends := by
    refine (Script.sends_query_ok (c := .idle db) heval).mpr ⟨⟨rfl, ?_⟩, h.sends⟩
    intro hsite
    cases hsite
  ended := (Script.outcome_query_ok (c := .idle db) heval) ▸ h.ended
  cut := by
    intro fails result base n hwork hclosing heffect hsome
    have hstep : Script.run noCall fails (query statement >>= next) n (.idle db) =
        Script.run noCall fails (next b) (n + 1) (.idle db) :=
      Script.run_query_ok (c := .idle db) (hwork n) heval
    exact hstep.trans (h.cut (n + 1) hwork hclosing heffect hsome)

end Closing

section Execute
variable (env : IdentityEnvironment) (inv : Invocation) (db : IdentityStore)

/-- The `switch` ends with the effect of its command. -/
theorem executeAs_executes : Executes (commandEffect env inv db) (closingAudit env inv db) db
    (executeAs env inv (commandActor env inv db)) := by
  have hnone : ∀ effect : CommandEffect, effect.map (fun accepted => (accepted.1, accepted.2)) =
    effect := fun effect =>
    Option.map_id_apply
  unfold commandEffect closingAudit executeAs
  cases inv.command with
  | bootstrapSuperadmin isLocalRequest password username =>
    exact (bootstrapSuperadmin_works env inv db _ _ _).executes fun _ => rfl
  | createInvitation sessionToken =>
    exact (createInvitation_works env inv db _).executes fun _ => rfl
  | registerWithInvitation invitationCode password username =>
    exact (registerWithInvitation_works env inv db _ _ _).executes fun _ => rfl
  | login password username => exact CommandWorks.executes (login_works env inv db _ _) fun _ => rfl
  | logoutCurrent sessionToken =>
    exact (logoutCurrent_works env inv db _).closed (hnone _) (fun _ h => ⟨h, rfl⟩)
      fun _ _ _ => rfl
  | logoutAll sessionToken =>
    refine (logoutAll_works env inv db _).closed rfl ?_ ?_
    · rintro _ ⟨rfl, hnoAccount⟩
      dsimp only
      rw [hnoAccount]
      exact ⟨rfl, rfl⟩
    · rintro ⟨result, objectId⟩ db' heffect
      obtain ⟨account, haccount, hresult⟩ := Option.bind_eq_some_iff.mp heffect
      cases hresult
      dsimp only
      rw [haccount]
      rfl
  | changePassword currentPassword newPassword sessionToken =>
    exact (changePassword_works env inv db _ _ _).closed (hnone _) (fun _ h => ⟨h, rfl⟩)
      fun _ _ _ => rfl
  | createAccount role sessionToken username =>
    exact (createAccount_works env inv db _ _ _).closed (hnone _) (fun _ h => ⟨h, rfl⟩)
      fun _ _ _ => rfl
  | completeTemporaryPasswordChange newPassword sessionToken =>
    exact (completeTemporaryPasswordChange_works env inv db _ _).closed (hnone _)
      (fun _ h => ⟨h, rfl⟩) fun _ _ _ => rfl
  | resetAccountPassword accountId sessionToken =>
    exact (resetAccountPassword_works env inv db _ _).closed (hnone _) (fun _ h => ⟨h, rfl⟩)
      fun _ _ _ => rfl
  | revokeInvitation invitationId sessionToken =>
    exact (revokeOpenInvitation_works env inv db _ _).closed (hnone _) (fun _ h => ⟨h, rfl⟩)
      fun _ _ _ => rfl
  | setAccountRole accountId currentPassword role sessionToken =>
    exact (setAccountRole_works env inv db _ _ _ _).closed (hnone _) (fun _ h => ⟨h, rfl⟩)
      fun _ _ _ => rfl
  | setAccountStatus accountId currentPassword sessionToken status =>
    exact (setAccountStatus_works env inv db _ _ _ _).closed (hnone _) (fun _ h => ⟨h, rfl⟩)
      fun _ _ _ => rfl
  | requestSelfDeletion currentPassword sessionToken =>
    exact (requestSelfDeletion_works env inv db _ _).closed (hnone _) (fun _ h => ⟨h, rfl⟩)
      fun _ _ _ => rfl
  | cancelSelfDeletion sessionToken =>
    exact (cancelSelfDeletion_works env inv db _).closed (hnone _) (fun _ h => ⟨h, rfl⟩)
      fun _ _ _ => rfl
  | recoverSuperadmin isLocalRequest newPassword recoveryCode =>
    exact (recoverSuperadmin_works env inv db _ _ _).closed (hnone _) (fun _ h => ⟨h, rfl⟩)
      fun _ _ _ => rfl
  | requestAccountDeletion accountId currentPassword sessionToken =>
    exact (requestAccountDeletion_works env inv db _ _ _).closed (hnone _) (fun _ h => ⟨h, rfl⟩)
      fun _ _ _ => rfl

theorem execute_executes : Executes (commandEffect env inv db) (closingAudit env inv db) db
    (execute env inv) := by
  have h := executeAs_executes env inv db
  unfold execute auditActor
  unfold commandActor at h
  cases htoken : inv.command.sessionToken with
  | none =>
    rw [htoken] at h
    exact h
  | some sessionToken =>
    rw [htoken] at h
    dsimp only
    rw [Script.bind_assoc]
    exact .read (reading_eval _ _) h

end Execute

end ChoiceMind.IdentityAccess
