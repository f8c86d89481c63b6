import ChoiceMind.IdentityAccess.Deletions

/-!
# Sessions

`getCurrentSession` over whole runs: which commands open a session and which ones close it. What
a command does to the sessions is the same for all commands, up to the sessions that it closes and
the account that it opens one for.
-/

namespace ChoiceMind.IdentityAccess

set_option autoImplicit false

open Contracts Transition

/-! ### The current session -/

/-- The member `principal`. -/
structure SessionPrincipal where
  principalId : Uuid
  role : AccountRole
  userId : Uuid
  deriving DecidableEq

structure CurrentSession where
  access : Access
  account : AccountSummary
  deletionDueAt : Option Instant
  principal : SessionPrincipal
  deriving DecidableEq

/-- `account.status IN ('ACTIVE', 'PENDING_DELETION')` -/
def Account.mayAuthenticate (account : Account) : Bool :=
  account.status = .active || account.status = .pendingDeletion

def Account.currentAccess (account : Account) : Access :=
  if account.status = .pendingDeletion then .deletionPending
  else if account.passwordKind = .temporary then .passwordChangeRequired
  else .full

/-- No session is the answer `{ authenticated: false }`. -/
def getCurrentSession (env : IdentityEnvironment) (sessionToken : String) (now : Instant)
    (db : IdentityStore) : Except IdentityError (Option CurrentSession) :=
  match db.sessionAccount env sessionToken now Account.mayAuthenticate with
  | none => .ok none
  | some account =>
    if account.status = .pendingDeletion ∧ account.deletionDueAt = none then
      .error (.message "待删除账号缺少到期时间")
    else .ok <| some
      { access := account.currentAccess
        account := account.summary account.status
        deletionDueAt := account.deletionDueAt
        principal := ⟨account.accountId, account.role, account.accountId⟩ }

/-! ### What a command closes and opens -/

/-- The account of the session that a result hands out. -/
def IdentityCommandResult.openedAccount : IdentityCommandResult → Option Uuid
  | .access _ account _ _ _ => some account.accountId
  | _ => none

section Sessions
variable (env : IdentityEnvironment) (inv : Invocation) (db : IdentityStore)

/-- The account whose sessions the command closes. -/
def closedAccount : Option Uuid :=
  match inv.command with
  | .logoutAll token | .changePassword _ _ token | .completeTemporaryPasswordChange _ token
  | .requestSelfDeletion _ token | .cancelSelfDeletion token =>
    (db.liveSession env token inv.now).map LoginSession.accountId
  | .resetAccountPassword accountId _ | .requestAccountDeletion accountId _ _
  | .setAccountStatus accountId _ _ .disabled => env.parseUuid accountId
  | .recoverSuperadmin _ _ recoveryCode =>
    (db.recoverableAccount (env.hashOpaqueSecret recoveryCode)).map Account.accountId
  | _ => none

def closesSession (session : LoginSession) : Bool :=
  match inv.command with
  | .logoutCurrent token => session.tokenHash = env.hashOpaqueSecret token
  | _ => closedAccount env inv db = some session.accountId

/-- A session of the database after the command. -/
def closed (session : LoginSession) : LoginSession :=
  if closesSession env inv db session && session.revokedAt.isNone then
    { session with revokedAt := some inv.now }
  else session

/-- The session that the command opens for an account. -/
def openedSession (accountId : Uuid) : LoginSession :=
  newSession env inv (inv.draws.uuid 0) accountId (inv.draws.bytes 0)

/-- Apart from what the command opens, these are the sessions after it. -/
def ClosesIn (base : IdentityStore) : Prop :=
  ∀ session', session' ∈ base.sessions ↔
    ∃ session ∈ db.sessions, closed env inv db session = session'

/-- The sessions after a command with its result. -/
def SessionsAfter (result : IdentityCommandResult) (db' : IdentityStore) : Prop :=
  ∀ session', session' ∈ db'.sessions ↔
    (∃ session ∈ db.sessions, closed env inv db session = session') ∨
      ∃ accountId ∈ result.openedAccount, session' = openedSession env inv accountId

end Sessions

/-! ### Every accepted command -/

section Commands
variable {env : IdentityEnvironment} {inv : Invocation} {db db' base : IdentityStore}
  {result : IdentityCommandResult}

theorem mem_sessions_revokeSessionsWhere {condition : LoginSession → Bool} {now : Instant}
    {session' : LoginSession} :
    session' ∈ (db.revokeSessionsWhere condition now).sessions ↔ ∃ session ∈ db.sessions,
      (if condition session && session.revokedAt.isNone then
        { session with revokedAt := some now } else session) = session' := by
  simp only [IdentityStore.revokeSessionsWhere, IdentityStore.setRevoked, Table.mem_updateWhere]

theorem mem_sessions_insertSession {session session' : LoginSession}
    (h : db.insertSession? session = some db') :
    session' ∈ db'.sessions ↔ session' ∈ db.sessions ∨ session' = session := by
  obtain ⟨sessions, tokens_nodup, hinsert, rfl⟩ := IdentityStore.insertSession?_eq_some h
  exact Table.mem_insert? hinsert

theorem closesSession_of_closedAccount {accountId : Uuid}
    (h : closedAccount env inv db = some accountId) (session : LoginSession) :
    closesSession env inv db session = decide (session.accountId = accountId) := by
  unfold closesSession
  split
  · rename_i token hcommand
    unfold closedAccount at h
    rw [hcommand] at h
    cases h
  · rw [h]
    refine decide_eq_decide.mpr ?_
    rw [Option.some.injEq, eq_comm]

theorem ClosesIn.of_kept (hnone : closedAccount env inv db = none)
    (hother : ∀ token, inv.command ≠ .logoutCurrent token)
    (hsame : base.sessions = db.sessions) : ClosesIn env inv db base := by
  have hkept : ∀ session, closed env inv db session = session := by
    intro session
    unfold closed closesSession
    split
    · rename_i token hcommand
      exact absurd hcommand (hother token)
    · rw [hnone]
      rfl
  intro session'
  rw [hsame]
  constructor
  · intro hsession
    exact ⟨session', hsession, hkept session'⟩
  · rintro ⟨session, hsession, rfl⟩
    rw [hkept]
    exact hsession

theorem ClosesIn.of_revoked {condition : LoginSession → Bool}
    (hcondition : ∀ session, closesSession env inv db session = condition session)
    (hsame : base.sessions = (db.revokeSessionsWhere condition inv.now).sessions) :
    ClosesIn env inv db base := by
  intro session'
  rw [hsame, mem_sessions_revokeSessionsWhere]
  unfold closed
  simp only [hcondition]

theorem ClosesIn.of_account {accountId : Uuid}
    (hclosed : closedAccount env inv db = some accountId)
    (hsame : base.sessions = (db.revokeSessions accountId inv.now).sessions) :
    ClosesIn env inv db base :=
  .of_revoked (closesSession_of_closedAccount hclosed) hsame

theorem ClosesIn.sessionsAfter (h : ClosesIn env inv db db')
    (hnone : result.openedAccount = none) : SessionsAfter env inv db result db' := by
  intro session'
  rw [h session', hnone]
  simp

theorem ClosesIn.opened {next : IdentityStore} {accountId : Uuid} (h : ClosesIn env inv db base)
    (hinsert : base.insertSession? (openedSession env inv accountId) = some next)
    (hsame : db'.sessions = next.sessions) (hsome : result.openedAccount = some accountId) :
    SessionsAfter env inv db result db' := by
  intro session'
  rw [hsame, mem_sessions_insertSession hinsert, h session', hsome]
  simp

theorem sessions_insertAudit {record : AuditRecord} (h : db.insertAudit? record = some db') :
    db'.sessions = db.sessions := by
  obtain ⟨audits, -, rfl⟩ := Option.map_eq_some_iff.mp h
  rfl

theorem sessions_insertAccount {account : Account} (h : db.insertAccount? account = some db') :
    db'.sessions = db.sessions := by
  unfold IdentityStore.insertAccount? at h
  split at h
  · cases h
  · obtain ⟨accounts, -, rfl⟩ := Option.map_eq_some_iff.mp h
    rfl

theorem sessions_insertEvent {event : LifecycleEvent} (h : db.insertEvent? event = some db') :
    db'.sessions = db.sessions := by
  obtain ⟨events, -, rfl⟩ := Option.map_eq_some_iff.mp h
  rfl

theorem sessions_insertInvitation {invitation : Invitation}
    (h : db.insertInvitation? invitation = some db') : db'.sessions = db.sessions := by
  unfold IdentityStore.insertInvitation? at h
  split at h
  · cases h
  · obtain ⟨invitations, -, rfl⟩ := Option.map_eq_some_iff.mp h
    rfl

/-- The account of a live session is the account that the session names. -/
theorem liveSession_of_sessionAccount {token : String} {now : Instant}
    {condition : Account → Bool} {account : Account}
    (h : db.sessionAccount env token now condition = some account) :
    (db.liveSession env token now).map LoginSession.accountId = some account.accountId := by
  unfold IdentityStore.sessionAccount at h
  split at h
  · cases h
  · rename_i session hsession
    obtain ⟨hfound, -⟩ := Option.filter_eq_some_iff.mp h
    rw [hsession, Option.map_some, (Table.find?_eq_some.mp hfound).2]

theorem accountStatusEffect_sessions {text : String} {target : Account} {status : SettableStatus}
    (hclosed : closedAccount env inv db =
      if status = .disabled then some target.accountId else none)
    (hother : ∀ token, inv.command ≠ .logoutCurrent token)
    (h : accountStatusEffect inv db text target status = some (result, db')) :
    SessionsAfter env inv db result db' := by
  unfold accountStatusEffect at h
  cases status with
  | active =>
    cases h
    exact (ClosesIn.of_kept hclosed hother rfl).sessionsAfter rfl
  | disabled =>
    dsimp only at h
    split at h
    · simp only [Option.bind_eq_bind, Option.bind_eq_some_iff] at h
      obtain ⟨db₁, hevent, hend⟩ := h
      cases hend
      refine (ClosesIn.of_account hclosed ?_).sessionsAfter rfl
      rw [sessions_insertEvent hevent]
      rfl
    · cases h
      exact (ClosesIn.of_account hclosed rfl).sessionsAfter rfl

theorem deletionRequestEffect_sessions {accountId : Uuid} {text : String}
    (hclosed : closedAccount env inv db = some accountId)
    (h : deletionRequestEffect inv db accountId text = some (result, db')) :
    SessionsAfter env inv db result db' := by
  simp only [deletionRequestEffect, Option.bind_eq_bind, Option.bind_eq_some_iff] at h
  obtain ⟨db₁, hrestrict, db₂, hdelete, hend⟩ := h
  cases hend
  refine (ClosesIn.of_account hclosed ?_).sessionsAfter rfl
  rw [sessions_insertEvent hdelete, sessions_insertEvent hrestrict]
  rfl

theorem loginEffect_sessions {password username : String}
    (hcommand : inv.command = .login password username)
    (h : loginEffect env inv db password username = some (result, db')) :
    SessionsAfter env inv db result db' := by
  have hnone : closedAccount env inv db = none := by
    unfold closedAccount
    rw [hcommand]
  have hother : ∀ token, inv.command ≠ .logoutCurrent token := by
    rw [hcommand]
    rintro token ⟨⟩
  unfold loginEffect at h
  dsimp only at h
  split at h
  · simp only [Option.bind_eq_bind, Option.bind_eq_some_iff] at h
    obtain ⟨db₁, haudit, hend⟩ := h
    cases hend
    exact (ClosesIn.of_kept hnone hother (sessions_insertAudit haudit)).sessionsAfter rfl
  · split at h
    · simp only [refuseLoginEffect, Option.bind_eq_bind, Option.bind_eq_some_iff] at h
      obtain ⟨db₁, haudit, hend⟩ := h
      have hkept := sessions_insertAudit haudit
      split at hend
      · cases hend
        exact (ClosesIn.of_kept hnone hother hkept).sessionsAfter rfl
      · cases hend
        exact (ClosesIn.of_kept hnone hother hkept).sessionsAfter rfl
    · simp only [acceptLoginEffect, Option.bind_eq_bind, Option.bind_eq_some_iff] at h
      obtain ⟨db₁, hsession, db₂, haudit, hend⟩ := h
      have hcloses : ClosesIn env inv db (db.deleteThrottle (normalizeUsername username)) :=
        .of_kept hnone hother rfl
      split at hend
      · obtain ⟨due, -, hend⟩ := Option.map_eq_some_iff.mp hend
        cases hend
        exact hcloses.opened hsession (sessions_insertAudit haudit) rfl
      · cases hend
        exact hcloses.opened hsession (sessions_insertAudit haudit) rfl

theorem registerWithInvitationEffect_sessions {invitationCode password username : String}
    (hkept : ∀ base : IdentityStore, base.sessions = db.sessions → ClosesIn env inv db base)
    (h : registerWithInvitationEffect env inv db invitationCode password username =
      some (result, db')) : SessionsAfter env inv db result db' := by
  simp only [registerWithInvitationEffect, Option.ite_none_left_eq_some, Option.bind_eq_bind,
    Option.bind_eq_some_iff] at h
  obtain ⟨-, -, invitation, -, db₁, haccount, db₂, hsession, db₃, haudit, hend⟩ := h
  cases hend
  have hsame := sessions_insertAccount haccount
  refine ClosesIn.opened (hkept _ ?_) hsession (sessions_insertAudit haudit) rfl
  exact hsame

theorem bootstrapSuperadminEffect_sessions {isLocalRequest : Bool} {password username : String}
    (hkept : ∀ base : IdentityStore, base.sessions = db.sessions → ClosesIn env inv db base)
    (h : bootstrapSuperadminEffect env inv db isLocalRequest password username =
      some (result, db')) : SessionsAfter env inv db result db' := by
  simp only [bootstrapSuperadminEffect, Option.ite_none_left_eq_some, Option.bind_eq_bind,
    Option.bind_eq_some_iff] at h
  obtain ⟨-, -, -, -, db₁, haccount, db₂, hcode, db₃, hsession, db₄, haudit, hend⟩ := h
  cases hend
  obtain ⟨recoveryCodes, -, rfl⟩ := Option.map_eq_some_iff.mp hcode
  have hsame := sessions_insertAccount haccount
  refine ClosesIn.opened (hkept _ ?_) hsession (sessions_insertAudit haudit) rfl
  exact hsame

/-- A command that closes the sessions of one account and opens one for the same account. -/
theorem SessionsAfter.of_reopened {accountId : Uuid} {next : IdentityStore}
    (hclosed : closedAccount env inv db = some accountId)
    (hinsert : base.insertSession? (openedSession env inv accountId) = some next)
    (hbase : base.sessions = (db.revokeSessions accountId inv.now).sessions)
    (hsome : result.openedAccount = some accountId) : SessionsAfter env inv db result next :=
  (ClosesIn.of_account hclosed hbase).opened hinsert rfl hsome

/-- What every command with an effect does to the sessions. -/
theorem commandEffect_sessions (h : commandEffect env inv db = some (result, db')) :
    SessionsAfter env inv db result db' := by
  have hkept : closedAccount env inv db = none → (∀ token, inv.command ≠ .logoutCurrent token) →
      ∀ base : IdentityStore, base.sessions = db.sessions → ClosesIn env inv db base :=
    fun hnone hother base hsame => .of_kept hnone hother hsame
  unfold commandEffect at h
  unfold closedAccount at hkept
  cases hcommand : inv.command with
  | bootstrapSuperadmin =>
    rw [hcommand] at h hkept
    exact bootstrapSuperadminEffect_sessions (hkept rfl (by rintro _ ⟨⟩)) h
  | registerWithInvitation =>
    rw [hcommand] at h hkept
    exact registerWithInvitationEffect_sessions (hkept rfl (by rintro _ ⟨⟩)) h
  | login =>
    rw [hcommand] at h
    exact loginEffect_sessions hcommand h
  | createInvitation =>
    rw [hcommand] at h hkept
    simp only [createInvitationEffect, Option.bind_eq_bind, Option.bind_eq_some_iff] at h
    obtain ⟨actor, -, db₁, hinvitation, db₂, haudit, hend⟩ := h
    cases hend
    refine (hkept rfl (by rintro _ ⟨⟩) _ ?_).sessionsAfter rfl
    rw [sessions_insertAudit haudit, sessions_insertInvitation hinvitation]
  | logoutCurrent token =>
    rw [hcommand] at h
    cases h
    refine ClosesIn.sessionsAfter (.of_revoked (fun session => ?_) rfl) rfl
    unfold closesSession
    rw [hcommand]
  | logoutAll token =>
    rw [hcommand] at h
    obtain ⟨⟨⟨result', objectId⟩, db₁⟩, heffect, hend⟩ := Option.map_eq_some_iff.mp h
    cases hend
    simp only [logoutAllEffect, Option.bind_eq_bind, Option.bind_eq_some_iff] at heffect
    obtain ⟨account, haccount, hend⟩ := heffect
    cases hend
    refine ClosesIn.sessionsAfter (.of_account ?_ rfl) rfl
    unfold closedAccount
    rw [hcommand]
    exact liveSession_of_sessionAccount haccount
  | changePassword =>
    rw [hcommand] at h
    simp only [changePasswordEffect, Option.ite_none_left_eq_some, Option.bind_eq_bind,
      Option.bind_eq_some_iff] at h
    obtain ⟨-, account, haccount, -, hend⟩ := h
    cases hend
    refine ClosesIn.sessionsAfter (.of_account ?_ rfl) rfl
    unfold closedAccount
    rw [hcommand]
    exact liveSession_of_sessionAccount haccount
  | createAccount =>
    rw [hcommand] at h hkept
    simp only [createAccountEffect, Option.ite_none_left_eq_some, Option.bind_eq_bind,
      Option.bind_eq_some_iff] at h
    obtain ⟨-, actor, -, -, db₁, haccount, hend⟩ := h
    cases hend
    exact (hkept rfl (by rintro _ ⟨⟩) _ (sessions_insertAccount haccount)).sessionsAfter rfl
  | completeTemporaryPasswordChange =>
    rw [hcommand] at h
    simp only [completeTemporaryPasswordChangeEffect, Option.ite_none_left_eq_some,
      Option.bind_eq_bind, Option.bind_eq_some_iff] at h
    obtain ⟨-, account, haccount, db₁, hsession, hend⟩ := h
    cases hend
    refine .of_reopened ?_ hsession rfl rfl
    unfold closedAccount
    rw [hcommand]
    exact liveSession_of_sessionAccount haccount
  | resetAccountPassword =>
    rw [hcommand] at h
    simp only [resetAccountPasswordEffect, Option.ite_none_left_eq_some, Option.bind_eq_bind,
      Option.bind_eq_some_iff] at h
    obtain ⟨actor, -, id, hid, target, -, -, hend⟩ := h
    cases hend
    refine ClosesIn.sessionsAfter (.of_account ?_ rfl) rfl
    unfold closedAccount
    rw [hcommand]
    exact hid
  | revokeInvitation =>
    rw [hcommand] at h hkept
    simp only [revokeInvitationEffect, Option.bind_eq_bind, Option.bind_eq_some_iff] at h
    obtain ⟨actor, -, id, -, hend⟩ := h
    split at hend
    · cases hend
      exact (hkept rfl (by rintro _ ⟨⟩) _ rfl).sessionsAfter rfl
    · cases hend
  | setAccountRole =>
    rw [hcommand] at h hkept
    simp only [setAccountRoleEffect, Option.ite_none_left_eq_some, Option.bind_eq_bind,
      Option.bind_eq_some_iff] at h
    obtain ⟨actor, -, -, -, id, -, target, -, -, hend⟩ := h
    cases hend
    exact (hkept rfl (by rintro _ ⟨⟩) _ rfl).sessionsAfter rfl
  | setAccountStatus accountId currentPassword token status =>
    rw [hcommand] at h
    simp only [setAccountStatusEffect, Option.ite_none_left_eq_some, Option.bind_eq_bind,
      Option.bind_eq_some_iff] at h
    obtain ⟨actor, -, id, hid, target, htarget, -, hrest⟩ := h
    obtain ⟨hfound, -⟩ := Option.filter_eq_some_iff.mp htarget
    obtain ⟨-, rfl⟩ := Table.find?_eq_some.mp hfound
    have hclosed : closedAccount env inv db =
        if status = .disabled then some target.accountId else none := by
      unfold closedAccount
      rw [hcommand]
      cases status with
      | active => rfl
      | disabled => exact hid
    have hother : ∀ token, inv.command ≠ .logoutCurrent token := by
      rw [hcommand]
      rintro _ ⟨⟩
    split at hrest
    · exact accountStatusEffect_sessions hclosed hother hrest
    · simp only [Option.ite_none_left_eq_some] at hrest
      exact accountStatusEffect_sessions hclosed hother hrest.2.2
  | requestSelfDeletion =>
    rw [hcommand] at h
    simp only [requestSelfDeletionEffect, Option.ite_none_left_eq_some, Option.bind_eq_bind,
      Option.bind_eq_some_iff] at h
    obtain ⟨account, haccount, -, -, hend⟩ := h
    refine deletionRequestEffect_sessions ?_ hend
    unfold closedAccount
    rw [hcommand]
    exact liveSession_of_sessionAccount haccount
  | cancelSelfDeletion =>
    rw [hcommand] at h
    simp only [cancelSelfDeletionEffect, Option.bind_eq_bind, Option.bind_eq_some_iff] at h
    obtain ⟨account, haccount, db₁, hsession, hend⟩ := h
    cases hend
    refine .of_reopened ?_ hsession rfl rfl
    unfold closedAccount
    rw [hcommand]
    exact liveSession_of_sessionAccount haccount
  | recoverSuperadmin =>
    rw [hcommand] at h
    simp only [recoverSuperadminEffect, Option.ite_none_left_eq_some, Option.bind_eq_bind,
      Option.bind_eq_some_iff] at h
    obtain ⟨-, -, target, htarget, -, -, db₁, hsession, hend⟩ := h
    cases hend
    refine .of_reopened ?_ hsession rfl rfl
    unfold closedAccount
    rw [hcommand]
    exact congrArg (Option.map Account.accountId) htarget
  | requestAccountDeletion =>
    rw [hcommand] at h
    simp only [requestAccountDeletionEffect, Option.ite_none_left_eq_some, Option.bind_eq_bind,
      Option.bind_eq_some_iff] at h
    obtain ⟨actor, -, -, -, id, hid, target, -, -, hend⟩ := h
    refine deletionRequestEffect_sessions ?_ hend
    unfold closedAccount
    rw [hcommand]
    exact hid

end Commands

/-! ### Every step -/

/-- A session after a step that keeps it. -/
inductive LoginSession.Later (session : LoginSession) : LoginSession → Prop
  | same : Later session session
  | revoked (now : Instant) : Later session { session with revokedAt := some now }

/-- The erasure has come to the account. -/
def IdentityStore.HasErased (db : IdentityStore) (accountId : Uuid) : Prop :=
  ∃ account, db.accounts.find? accountId = some account ∧ account.status = .deleted

/-- The command of the label has opened the session. -/
def OpenedBy (env : IdentityEnvironment) (db : IdentityStore) (label : IdentityLabel)
    (session : LoginSession) : Prop :=
  ∃ inv fails result db', label = .execute inv fails ∧
    commandEffect env inv db = some (result, db') ∧
    result.openedAccount = some session.accountId ∧
    session = openedSession env inv session.accountId

/-- What one step does to the sessions. -/
structure SessionStep (env : IdentityEnvironment) (db : IdentityStore) (label : IdentityLabel)
    (db' : IdentityStore) : Prop where
  kept : ∀ session ∈ db.sessions,
    (∃ session' ∈ db'.sessions, session.Later session') ∨ db'.HasErased session.accountId
  origin : ∀ session' ∈ db'.sessions,
    (∃ session ∈ db.sessions, session.Later session') ∨ OpenedBy env db label session'

section Steps
variable {env : IdentityEnvironment} {inv : Invocation} {db db' : IdentityStore}
  {label : IdentityLabel} {session session' : LoginSession}

theorem LoginSession.Later.token (h : session.Later session') :
    session'.tokenHash = session.tokenHash ∧ session'.accountId = session.accountId := by
  cases h with
  | same => exact ⟨rfl, rfl⟩
  | revoked now => exact ⟨rfl, rfl⟩

theorem LoginSession.Later.stays_revoked (h : session.Later session')
    (hrevoked : session.revokedAt ≠ none) : session'.revokedAt ≠ none := by
  cases h with
  | same => exact hrevoked
  | revoked now => exact Option.some_ne_none now

theorem LoginSession.Later.eq_of_live (h : session.Later session')
    (hlive : session'.revokedAt = none) : session' = session := by
  cases h with
  | same => rfl
  | revoked now => cases hlive

theorem later_closed (session : LoginSession) : session.Later (closed env inv db session) := by
  unfold closed
  split
  · exact .revoked inv.now
  · exact .same

theorem SessionStep.of_same (hsame : db'.sessions = db.sessions) :
    SessionStep env db label db' where
  kept session hsession := .inl ⟨session, hsame ▸ hsession, .same⟩
  origin session' hsession := .inl ⟨session', hsame ▸ hsession, .same⟩

theorem SessionStep.of_command {fails : Site → Nat → Bool} (h : CommandStep env inv db db') :
    SessionStep env db (.execute inv fails) db' := by
  obtain ⟨base, hbase, hdb'⟩ := h.exists_base
  have hsame : db'.sessions = base.sessions := by rw [hdb']
  rcases hbase with rfl | ⟨result, heffect⟩
  · exact .of_same hsame
  · have hafter := commandEffect_sessions heffect
    constructor
    · intro session hsession
      refine .inl ⟨closed env inv db session, ?_, later_closed session⟩
      rw [hsame]
      exact (hafter _).mpr (.inl ⟨session, hsession, rfl⟩)
    · intro session' hsession'
      rw [hsame] at hsession'
      rcases (hafter session').mp hsession' with
        ⟨session, hsession, rfl⟩ | ⟨accountId, hopened, rfl⟩
      · exact .inl ⟨session, hsession, later_closed session⟩
      · exact .inr ⟨inv, fails, result, base, rfl, heffect, hopened, rfl⟩

theorem SessionStep.of_worker {clock : WorkerClock} {handled : LifecycleEvent → Bool}
    (h : WorkerStep env clock handled db db') : SessionStep env db label db' := by
  have hchange : ∀ base : IdentityStore, base.sessions = db.sessions →
      ∀ {db'}, WorkerChange env clock handled base db' → SessionStep env db label db' := by
    intro base hbase db' hchange
    cases hchange with
    | idle => exact .of_same hbase
    | attempted => exact .of_same hbase
    | processed => exact .of_same hbase
    | erased event account hdue hhandled htype hfound =>
      constructor
      · intro session hsession
        rw [← hbase] at hsession
        by_cases haccount : session.accountId = event.accountId
        · refine .inr ?_
          unfold IdentityStore.HasErased
          rw [find?_erased, if_pos haccount, haccount, hfound]
          exact ⟨_, rfl, rfl⟩
        · refine .inl ⟨session, ?_, .same⟩
          refine Table.mem_deleteWhere.mpr ⟨hsession, ?_⟩
          simpa using haccount
      · intro session' hsession'
        have hkept : session' ∈ base.sessions := (Table.mem_deleteWhere.mp hsession').1
        rw [hbase] at hkept
        exact .inl ⟨session', hkept, .same⟩
  cases h with
  | kept => exact .of_same rfl
  | cleaned => exact .of_same rfl
  | processed hbase heffect =>
    refine hchange _ ?_ (processEffect_change heffect)
    rcases hbase with rfl | rfl
    · rfl
    · rfl

theorem worldStep_sessions {world world' : IdentityWorld} {reply : IdentityReply}
    (hstep : worldStep env world label = some (reply, world')) :
    SessionStep env world.db label world'.db := by
  cases label with
  | execute inv fails =>
    cases hstep
    exact .of_command (execute_commits env inv fails world.db)
  | runOnce clock handled cleanupFails fails =>
    cases hstep
    exact .of_worker (runOnce_commits env world clock handled cleanupFails fails)
  | openWorker =>
    cases hstep
    exact .of_same rfl

end Steps

/-! ### Whole runs -/

/-- The step is an accepted command that closes the session. -/
def Closes (env : IdentityEnvironment) (e : Entry IdentityWorld IdentityLabel IdentityReply)
    (session : LoginSession) : Prop :=
  ∃ inv fails, e.label = .execute inv fails ∧ e.reply.isOk = true ∧
    closesSession env inv e.before.db session = true

/-- The session is stored and revoked, or its account is erased. -/
def Shut (session : LoginSession) (db : IdentityStore) : Prop :=
  (∃ session' ∈ db.sessions, session'.tokenHash = session.tokenHash ∧
    session'.accountId = session.accountId ∧ session'.revokedAt ≠ none) ∨
    db.HasErased session.accountId

section Runs
variable {env : IdentityEnvironment} {world world' : IdentityWorld} {label : IdentityLabel}
  {reply : IdentityReply} {session : LoginSession}

/-- What an accepted command leaves of the sessions. -/
theorem sessionsAfter_of_ok {inv : Invocation} {fails : Site → Nat → Bool}
    (hstep : worldStep env world (.execute inv fails) = some (reply, world'))
    (hok : reply.isOk = true) :
    ∃ result, SessionsAfter env inv world.db result world'.db := by
  unfold worldStep at hstep
  dsimp only at hstep
  rw [Option.some.injEq, Prod.mk.injEq] at hstep
  obtain ⟨hreply, hworld⟩ := hstep
  obtain ⟨result, rfl, hresult⟩ := IdentityReply.isOk_iff.mp hok
  obtain ⟨base, hsettled, hclosing⟩ :=
    execute_ok env (Prod.ext (IdentityReply.executed.inj hreply) rfl)
  have hafter := commandEffect_sessions (hsettled.effect_of_ok hresult)
  refine ⟨result, ?_⟩
  rcases hclosing with ⟨-, hc⟩ | ⟨record, db', -, hinsert, hc⟩
  · have hdb : world'.db = base := by
      rw [← hworld]
      exact congrArg Connection.committed hc
    rw [hdb]
    exact hafter
  · have hdb : world'.db = db' := by
      rw [← hworld]
      exact congrArg Connection.committed hc
    intro session'
    rw [← hafter session', hdb, sessions_insertAudit hinsert]

/-- A session that an accepted command closes is shut after it. -/
theorem Closes.shut {e : Entry IdentityWorld IdentityLabel IdentityReply}
    (h : Closes env e session) (hsession : session ∈ e.before.db.sessions)
    (hstep : worldStep env e.before e.label = some (e.reply, e.after)) :
    ∃ session' ∈ e.after.db.sessions, session.Later session' ∧ session'.revokedAt ≠ none := by
  obtain ⟨inv, fails, hlabel, hok, hcloses⟩ := h
  rw [hlabel] at hstep
  obtain ⟨result, hafter⟩ := sessionsAfter_of_ok hstep hok
  refine ⟨closed env inv e.before.db session, (hafter _).mpr (.inl ⟨session, hsession, rfl⟩),
    later_closed session, ?_⟩
  unfold closed
  rw [hcloses, Bool.true_and]
  split
  · exact Option.some_ne_none inv.now
  · rename_i hrevoked
    rwa [Option.isNone_iff_eq_none] at hrevoked

theorem HasErased.step (h : world.db.HasErased session.accountId) (hagree : world.deletionsAgree)
    (hstep : worldStep env world label = some (reply, world')) :
    world'.db.HasErased session.accountId := by
  obtain ⟨account, hfound, hdeleted⟩ := h
  obtain ⟨hmem, hkey⟩ := Table.find?_eq_some.mp hfound
  have hkept := ((worldStep_keepsDeleted hagree hstep).2 account hmem hdeleted).1
  rw [hkey] at hkept
  exact ⟨account, hkept, hdeleted⟩

/-- A world in which the session is shut and the signs of every deletion agree. -/
structure StaysShut (session : LoginSession) (world : IdentityWorld) : Prop where
  shut : Shut session world.db
  agree : world.deletionsAgree

theorem StaysShut.step (h : StaysShut session world)
    (hstep : worldStep env world label = some (reply, world')) : StaysShut session world' := by
  refine ⟨?_, worldStep_consistent h.agree hstep⟩
  rcases h.shut with ⟨session', hsession', htoken, haccount, hrevoked⟩ | herased
  · rcases (worldStep_sessions hstep).kept session' hsession' with
      ⟨next, hnext, hlater⟩ | herased
    · refine .inl ⟨next, hnext, ?_, ?_, hlater.stays_revoked hrevoked⟩
      · exact hlater.token.1.trans htoken
      · exact hlater.token.2.trans haccount
    · rw [haccount] at herased
      exact .inr herased
  · exact .inr (HasErased.step herased h.agree hstep)

/-- The session and the account behind a current session. -/
theorem current_eq_some {token : String} {now : Instant} {db : IdentityStore}
    {current : CurrentSession} (h : getCurrentSession env token now db = .ok (some current)) :
    ∃ live account, live ∈ db.sessions ∧ live.tokenHash = env.hashOpaqueSecret token ∧
      live.revokedAt = none ∧ now < live.expiresAt ∧
      db.accounts.find? live.accountId = some account ∧ account.mayAuthenticate = true ∧
      current.account.accountId = account.accountId := by
  unfold getCurrentSession at h
  split at h
  · cases h
  · rename_i account haccount
    obtain ⟨live, hlive, hhash, hopen, hnow, hfound, hstatus⟩ := sessionAccount_eq_some haccount
    split at h
    · cases h
    · cases h
      exact ⟨live, account, hlive, hhash, hopen, hnow, hfound, hstatus, rfl⟩

/-- The token of a session that is shut is nobody's as long as the session is stored, and is not
one of its account again. -/
theorem Shut.not_current {token : String} {now : Instant} {db : IdentityStore}
    (h : Shut session db) (htoken : session.tokenHash = env.hashOpaqueSecret token) :
    (¬ db.HasErased session.accountId → getCurrentSession env token now db = .ok none) ∧
      ∀ current, getCurrentSession env token now db = .ok (some current) →
        current.account.accountId ≠ session.accountId := by
  constructor
  · intro hkept
    rcases h with ⟨session', hsession', htoken', -, hrevoked⟩ | herased
    · have hnone : db.liveSession env token now = none := by
        refine List.find?_eq_none.mpr fun live hlive hfound => ?_
        rw [Bool.and_eq_true, Bool.and_eq_true, decide_eq_true_eq] at hfound
        have heq : session' = live := IdentityStore.eq_of_tokenHash_eq hsession' hlive
          (htoken'.trans (htoken.trans hfound.1.1.symm))
        rw [heq] at hrevoked
        exact hrevoked (Option.isNone_iff_eq_none.mp hfound.1.2)
      unfold getCurrentSession IdentityStore.sessionAccount
      rw [hnone]
    · exact absurd herased hkept
  · intro current hcurrent hsame
    obtain ⟨live, account, hlive, hhash, hopen, -, hfound, hstatus, haccount⟩ :=
      current_eq_some hcurrent
    have hkey := (Table.find?_eq_some.mp hfound).2
    rcases h with ⟨session', hsession', htoken', -, hrevoked⟩ | ⟨erased, herased, hdeleted⟩
    · have heq : session' = live :=
        IdentityStore.eq_of_tokenHash_eq hsession' hlive (htoken'.trans (htoken.trans hhash.symm))
      rw [heq] at hrevoked
      exact hrevoked hopen
    · rw [← hsame, haccount, hkey, hfound] at herased
      cases herased
      rw [Account.mayAuthenticate, hdeleted] at hstatus
      cases hstatus

theorem deletionsAgree_of_run {es : List (Entry IdentityWorld IdentityLabel IdentityReply)}
    (hrun : Run (worldStep env) .initial es world) : world.deletionsAgree :=
  hrun.invariant (G := fun _ _ => True) (fun h _ hstep => worldStep_consistent h hstep)
    (fun _ _ => trivial) deletionsAgree_empty

/-- What an accepted command has closed is closed for ever: in every later state the token of the
session is refused while the account is not erased, and never taken for the account again. -/
theorem closed_sessions_stay_closed
    {pre post : List (Entry IdentityWorld IdentityLabel IdentityReply)}
    {e : Entry IdentityWorld IdentityLabel IdentityReply}
    (hrun : Run (worldStep env) .initial (pre ++ e :: post) world)
    (hsession : session ∈ e.before.db.sessions) (hcloses : Closes env e session) {token : String}
    (htoken : session.tokenHash = env.hashOpaqueSecret token) (now : Instant) :
    (¬ world.db.HasErased session.accountId →
        getCurrentSession env token now world.db = .ok none) ∧
      ∀ current, getCurrentSession env token now world.db = .ok (some current) →
        current.account.accountId ≠ session.accountId := by
  obtain ⟨before, hpre, hrest⟩ := hrun.split
  have hagree := deletionsAgree_of_run hpre
  cases hrest with
  | @cons _ after _ label reply _ hstep hpost =>
    obtain ⟨session', hsession', hlater, hrevoked⟩ := hcloses.shut hsession hstep
    have hshut : StaysShut session after :=
      ⟨.inl ⟨session', hsession', hlater.token.1, hlater.token.2, hrevoked⟩,
        worldStep_consistent hagree hstep⟩
    have hend : StaysShut session world := hpost.invariant (G := fun _ _ => True)
      (fun h _ hstep => h.step hstep) (fun _ _ => trivial) hshut
    exact hend.shut.not_current htoken

/-- The token of the bootstrap and the logout with it. -/
def sampleLogout : Invocation := sampleInvocation 1 1 (.logoutCurrent (sampleToken 0))

/-- A session of the token before the last entry, and accounts that nothing has erased after it. -/
abbrev LoggedOut (es : List (Entry IdentityWorld IdentityLabel IdentityReply))
    (world : IdentityWorld) : Prop :=
  (∀ e ∈ es, e.reply.isOk = true) ∧
  (∀ e ∈ es.drop 1, ∃ session ∈ e.before.db.sessions.rows,
    session.tokenHash = sampleEnvironment.hashOpaqueSecret (sampleToken 0)) ∧
  ∀ account ∈ world.db.accounts.rows, account.status ≠ .deleted

theorem closed_sessions_stay_closed_sample : ∃ es world,
    Run (worldStep sampleEnvironment) .initial es world ∧
    es.map Entry.label = [.execute sampleBootstrap noFailure, .execute sampleLogout noFailure] ∧
    getCurrentSession sampleEnvironment (sampleToken 0) 2 world.db = .ok none := by
  have hexec : (exec (worldStep sampleEnvironment) .initial
      [.execute sampleBootstrap noFailure, .execute sampleLogout noFailure]).any (fun run =>
        decide (LoggedOut run.1 run.2)) = true := by
    decide +kernel
  obtain ⟨es, world, hrun, hlabels, hcheck⟩ := exists_labelled_run_of_exec hexec
  obtain ⟨hok, hsessions, hkept⟩ := of_decide_eq_true hcheck
  refine ⟨es, world, hrun, hlabels, ?_⟩
  obtain ⟨bootstrap, rest, rfl, -, hrest⟩ := List.map_eq_cons_iff.mp hlabels
  obtain ⟨logout, last, rfl, hlabel, hlast⟩ := List.map_eq_cons_iff.mp hrest
  rw [List.map_eq_nil_iff.mp hlast] at hrun hsessions hok
  obtain ⟨session, hsession, htoken⟩ := hsessions logout (by simp)
  have hcloses : Closes sampleEnvironment logout session := by
    refine ⟨sampleLogout, noFailure, hlabel, hok logout (by simp), ?_⟩
    exact decide_eq_true htoken
  have hcut : Run (worldStep sampleEnvironment) .initial ([bootstrap] ++ logout :: []) world := hrun
  refine (closed_sessions_stay_closed hcut hsession hcloses htoken 2).1 ?_
  rintro ⟨account, hfound, hdeleted⟩
  exact hkept account (Table.find?_eq_some.mp hfound).1 hdeleted

/-- An entry of the trace has opened the session, and no later one has closed it. -/
def OpenSince (env : IdentityEnvironment)
    (es : List (Entry IdentityWorld IdentityLabel IdentityReply)) (session : LoginSession) : Prop :=
  ∃ pre e post, es = pre ++ e :: post ∧ OpenedBy env e.before.db e.label session ∧
    ∀ e' ∈ post, ¬ Closes env e' session

theorem OpenSince.append {es : List (Entry IdentityWorld IdentityLabel IdentityReply)}
    {e : Entry IdentityWorld IdentityLabel IdentityReply} (h : OpenSince env es session)
    (hopen : ¬ Closes env e session) : OpenSince env (es ++ [e]) session := by
  obtain ⟨pre, opening, post, rfl, hopened, hpost⟩ := h
  refine ⟨pre, opening, post ++ [e], by simp, hopened, fun e' he' => ?_⟩
  rcases List.mem_append.mp he' with he' | he'
  · exact hpost e' he'
  · rw [List.mem_singleton.mp he']
    exact hopen

/-- Every session in force is open since some entry of the trace. -/
def SessionsOpen (env : IdentityEnvironment)
    (es : List (Entry IdentityWorld IdentityLabel IdentityReply)) (world : IdentityWorld) : Prop :=
  ∀ session ∈ world.db.sessions, session.revokedAt = none → OpenSince env es session

theorem SessionsOpen.step {es : List (Entry IdentityWorld IdentityLabel IdentityReply)}
    (h : SessionsOpen env es world) (hstep : worldStep env world label = some (reply, world')) :
    SessionsOpen env (es ++ [⟨world, label, reply, world'⟩]) world' := by
  intro session hsession hlive
  rcases (worldStep_sessions hstep).origin session hsession with
    ⟨earlier, hearlier, hlater⟩ | hopened
  · have hsame := hlater.eq_of_live hlive
    subst hsame
    refine (h session hearlier hlive).append fun hcloses => ?_
    obtain ⟨shut, hshut, hlater', hrevoked⟩ := hcloses.shut hearlier hstep
    have heq : shut = session :=
      IdentityStore.eq_of_tokenHash_eq hshut hsession hlater'.token.1
    rw [heq] at hrevoked
    exact hrevoked hlive
  · exact ⟨es, _, [], rfl, hopened, by simp⟩

theorem sessionsOpen_of_run {es : List (Entry IdentityWorld IdentityLabel IdentityReply)}
    (hrun : Run (worldStep env) .initial es world) : SessionsOpen env es world := by
  have hinitial : SessionsOpen env [] .initial := by
    rintro session ⟨⟩
  exact hrun.history (fun h hstep => h.step hstep) hinitial

/-- In every reachable state `getCurrentSession` returns, and whom it takes for somebody has a
session that a command opened for the account within the lifetime and that nothing has closed. -/
theorem current_session_open {es : List (Entry IdentityWorld IdentityLabel IdentityReply)}
    (hrun : Run (worldStep env) .initial es world) (token : String) (now : Instant) :
    ∃ found, getCurrentSession env token now world.db = .ok found ∧ ∀ current ∈ found,
      ∃ session, session.accountId = current.account.accountId ∧
        session.tokenHash = env.hashOpaqueSecret token ∧ now < session.expiresAt ∧
        OpenSince env es session := by
  have hagree := deletionsAgree_of_run hrun
  cases hfound : getCurrentSession env token now world.db with
  | error error =>
    unfold getCurrentSession at hfound
    split at hfound
    · cases hfound
    · rename_i account haccount
      obtain ⟨live, -, -, -, -, hrow, -⟩ := sessionAccount_eq_some haccount
      split at hfound
      · rename_i hmissing
        have hconsistent := hagree live.accountId
        rw [hrow] at hconsistent
        obtain ⟨event, -, hdue⟩ := hconsistent.awaiting_of hmissing.1
        rw [hmissing.2] at hdue
        cases hdue
      · cases hfound
  | ok found =>
    refine ⟨found, rfl, ?_⟩
    rintro current hcurrent
    rw [Option.mem_def.mp hcurrent] at hfound
    obtain ⟨live, account, hlive, hhash, hopen, hnow, hrow, -, haccount⟩ :=
      current_eq_some hfound
    refine ⟨live, ?_, hhash, hnow, sessionsOpen_of_run hrun live hlive hopen⟩
    rw [haccount]
    exact (Table.find?_eq_some.mp hrow).2.symm

theorem current_session_open_sample : ∃ es world current session,
    Run (worldStep sampleEnvironment) .initial es world ∧
    getCurrentSession sampleEnvironment (sampleToken 0) 1 world.db = .ok (some current) ∧
    session.accountId = current.account.accountId ∧ 1 < session.expiresAt ∧
    OpenSince sampleEnvironment es session := by
  have hexec : (exec (worldStep sampleEnvironment) .initial
      [.execute sampleBootstrap noFailure]).any (fun run =>
        (getCurrentSession sampleEnvironment (sampleToken 0) 1 run.2.db).toOption.join.isSome) =
          true := by
    decide +kernel
  obtain ⟨es, world, hrun, hcheck⟩ := exists_run_of_exec hexec
  obtain ⟨found, hfound, hopen⟩ := current_session_open hrun (sampleToken 0) 1
  rw [hfound] at hcheck
  obtain ⟨current, rfl⟩ := Option.isSome_iff_exists.mp hcheck
  obtain ⟨session, haccount, -, hnow, hsince⟩ := hopen current rfl
  exact ⟨es, world, current, session, hrun, hfound, haccount, hnow, hsince⟩

end Runs

end ChoiceMind.IdentityAccess
