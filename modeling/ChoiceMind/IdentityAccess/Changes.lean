import ChoiceMind.IdentityAccess.System

/-!
# What an accepted command changes

A command is about one account at most. The rows of every other account stay, and the row of
its own account changes in one of a few ways, each under its own authority.
-/

namespace ChoiceMind.IdentityAccess

set_option autoImplicit false

open Contracts

/-! ### The rows of one account -/

namespace IdentityStore

def sessionsOf (db : IdentityStore) (accountId : Uuid) : List LoginSession :=
  db.sessions.select fun session => session.accountId = accountId

def eventsOf (db : IdentityStore) (accountId : Uuid) : List LifecycleEvent :=
  db.events.select fun event => event.accountId = accountId

/-- All the rows that belong to an account are the same. -/
structure SameAccount (db db' : IdentityStore) (accountId : Uuid) : Prop where
  row : db'.accounts.find? accountId = db.accounts.find? accountId
  recoveryCode : db'.recoveryCodes.find? accountId = db.recoveryCodes.find? accountId
  sessions : db'.sessionsOf accountId = db.sessionsOf accountId
  events : db'.eventsOf accountId = db.eventsOf accountId

namespace SameAccount
variable {db db' db'' : IdentityStore} {accountId other : Uuid} {now : Instant}

theorem refl (db : IdentityStore) (accountId : Uuid) : SameAccount db db accountId :=
  ⟨rfl, rfl, rfl, rfl⟩

theorem trans (h : SameAccount db db' accountId) (h' : SameAccount db' db'' accountId) :
    SameAccount db db'' accountId where
  row := h'.row.trans h.row
  recoveryCode := h'.recoveryCode.trans h.recoveryCode
  sessions := h'.sessions.trans h.sessions
  events := h'.events.trans h.events

theorem updateAccount {f : Account → Account}
    {hf : ∀ account, (f account).accountId = account.accountId} (hother : accountId ≠ other) :
    SameAccount db (db.updateAccount other f hf) accountId where
  row := by
    unfold IdentityStore.updateAccount
    rw [Table.find?_update, if_neg hother]
  recoveryCode := rfl
  sessions := rfl
  events := rfl

theorem insertAccount {account : Account} (h : db.insertAccount? account = some db')
    (hother : accountId ≠ account.accountId) : SameAccount db db' accountId := by
  unfold insertAccount? at h
  split at h
  · cases h
  · obtain ⟨accounts, hinsert, rfl⟩ := Option.map_eq_some_iff.mp h
    refine ⟨?_, rfl, rfl, rfl⟩
    rw [Table.find?_insert? hinsert, if_neg hother]

theorem insertRecoveryCode {code : RecoveryCode} (h : db.insertRecoveryCode? code = some db')
    (hother : accountId ≠ code.accountId) : SameAccount db db' accountId := by
  obtain ⟨recoveryCodes, hinsert, rfl⟩ := Option.map_eq_some_iff.mp h
  refine ⟨rfl, ?_, rfl, rfl⟩
  rw [Table.find?_insert? hinsert, if_neg hother]

theorem updateRecoveryCode {codeHash : String} (hother : accountId ≠ other) :
    SameAccount db (db.updateRecoveryCode other codeHash now) accountId where
  row := rfl
  recoveryCode := by
    unfold IdentityStore.updateRecoveryCode
    rw [Table.find?_update, if_neg hother]
  sessions := rfl
  events := rfl

theorem insertSession {session : LoginSession} (h : db.insertSession? session = some db')
    (hother : accountId ≠ session.accountId) : SameAccount db db' accountId := by
  obtain ⟨sessions, tokens_nodup, hinsert, rfl⟩ := insertSession?_eq_some h
  exact ⟨rfl, rfl, Table.select_insert? hinsert (by simpa using hother.symm), rfl⟩

theorem revokeSessionsWhere {condition : LoginSession → Bool}
    (hother : ∀ session ∈ db.sessions, condition session = true →
      session.accountId ≠ accountId) :
    SameAccount db (db.revokeSessionsWhere condition now) accountId := by
  refine ⟨rfl, rfl, Table.select_updateWhere ?_, rfl⟩
  intro session hsession hrevoked
  rw [Bool.and_eq_true] at hrevoked
  have hne := hother session hsession hrevoked.1
  simp [hne]

theorem revokeSessions (hother : accountId ≠ other) :
    SameAccount db (db.revokeSessions other now) accountId := by
  refine revokeSessionsWhere ?_
  intro session _ hsession
  rw [of_decide_eq_true hsession]
  exact hother.symm

theorem insertEvent {event : LifecycleEvent} (h : db.insertEvent? event = some db')
    (hother : accountId ≠ event.accountId) : SameAccount db db' accountId := by
  obtain ⟨events, hinsert, rfl⟩ := Option.map_eq_some_iff.mp h
  exact ⟨rfl, rfl, rfl, Table.select_insert? hinsert (by simpa using hother.symm)⟩

theorem cancelEvents {types : List LifecycleEventType} (hother : accountId ≠ other) :
    SameAccount db (db.cancelEvents other types now) accountId := by
  refine ⟨rfl, rfl, rfl, Table.select_updateWhere ?_⟩
  intro event _ hcancelled
  simp only [Bool.and_eq_true, decide_eq_true_eq] at hcancelled
  rw [hcancelled.1.1]
  simp [hother.symm]

theorem insertInvitation {invitation : Invitation}
    (h : db.insertInvitation? invitation = some db') : SameAccount db db' accountId := by
  unfold insertInvitation? at h
  split at h
  · cases h
  · obtain ⟨invitations, hinsert, rfl⟩ := Option.map_eq_some_iff.mp h
    exact ⟨rfl, rfl, rfl, rfl⟩

theorem useInvitation {invitationId userId : Uuid} :
    SameAccount db (db.useInvitation invitationId userId now) accountId := ⟨rfl, rfl, rfl, rfl⟩

theorem upsertThrottle {throttle : LoginThrottle} :
    SameAccount db (db.upsertThrottle throttle) accountId := ⟨rfl, rfl, rfl, rfl⟩

theorem deleteThrottle {usernameKey : String} :
    SameAccount db (db.deleteThrottle usernameKey) accountId := ⟨rfl, rfl, rfl, rfl⟩

theorem insertAudit {record : AuditRecord} (h : db.insertAudit? record = some db') :
    SameAccount db db' accountId := by
  obtain ⟨audits, hinsert, rfl⟩ := Option.map_eq_some_iff.mp h
  exact ⟨rfl, rfl, rfl, rfl⟩

end SameAccount

/-- Only the rows of one account may differ. -/
def SameElsewhere (db db' : IdentityStore) (target : Uuid) : Prop :=
  ∀ accountId, accountId ≠ target → SameAccount db db' accountId

/-- The deletions of an account that are neither processed nor cancelled. -/
def pendingDeletions (db : IdentityStore) (accountId : Uuid) : List LifecycleEvent :=
  db.events.select fun event =>
    event.eventType = .deleteAccount && event.isPending && event.accountId = accountId

section PendingDeletions
variable {db db' : IdentityStore} {accountId : Uuid}

theorem pendingDeletions_eq_filter : db.pendingDeletions accountId =
    (db.eventsOf accountId).filter fun event =>
      event.eventType = .deleteAccount && event.isPending := by
  unfold pendingDeletions eventsOf Table.select
  rw [List.filter_filter]

theorem mem_pendingDeletions {event : LifecycleEvent} : event ∈ db.pendingDeletions accountId ↔
    event ∈ db.events ∧ event.eventType = .deleteAccount ∧ event.isPending = true ∧
      event.accountId = accountId := by
  unfold pendingDeletions
  rw [Table.mem_select, Bool.and_eq_true, Bool.and_eq_true, decide_eq_true_eq, decide_eq_true_eq,
    and_assoc]

theorem SameAccount.pendingDeletions (h : SameAccount db db' accountId) :
    db'.pendingDeletions accountId = db.pendingDeletions accountId := by
  rw [pendingDeletions_eq_filter, pendingDeletions_eq_filter, h.events]

theorem accounts_insertEvent {event : LifecycleEvent} (h : db.insertEvent? event = some db') :
    db'.accounts = db.accounts := by
  obtain ⟨events, -, rfl⟩ := Option.map_eq_some_iff.mp h
  rfl

theorem pendingDeletions_insertEvent {event : LifecycleEvent}
    (h : db.insertEvent? event = some db') (htype : event.eventType = .restrictAccount) :
    db'.pendingDeletions accountId = db.pendingDeletions accountId := by
  obtain ⟨events, hinsert, rfl⟩ := Option.map_eq_some_iff.mp h
  refine Table.select_insert? hinsert ?_
  simp [htype]

theorem pendingDeletions_insertDeletion {event : LifecycleEvent}
    (h : db.insertEvent? event = some db') (htype : event.eventType = .deleteAccount)
    (hpending : event.isPending = true) :
    db'.pendingDeletions event.accountId = db.pendingDeletions event.accountId ++ [event] := by
  obtain ⟨events, hinsert, rfl⟩ := Option.map_eq_some_iff.mp h
  refine Table.select_insert?_append hinsert ?_
  simp [htype, hpending]

theorem pendingDeletions_cancelRestriction {now : Instant} :
    (db.cancelEvents accountId [.restrictAccount] now).pendingDeletions accountId =
      db.pendingDeletions accountId := by
  refine Table.select_updateWhere fun event _ hcancelled => ?_
  simp only [Bool.and_eq_true, decide_eq_true_eq, List.contains_cons, List.contains_nil,
    Bool.or_false, beq_iff_eq] at hcancelled
  simp [hcancelled.1.2]

theorem pendingDeletions_cancelEvents {types : List LifecycleEventType} {now : Instant}
    (htypes : types.contains .deleteAccount = true) :
    (db.cancelEvents accountId types now).pendingDeletions accountId = [] := by
  refine List.eq_nil_iff_forall_not_mem.mpr fun event hevent => ?_
  obtain ⟨hmem, htype, hpending, haccount⟩ := mem_pendingDeletions.mp hevent
  simp only [cancelEvents, Table.mem_updateWhere] at hmem
  obtain ⟨old, -, hold⟩ := hmem
  split at hold
  · rw [← hold] at hpending
    simp [LifecycleEvent.isPending] at hpending
  · rename_i hkept
    rw [hold, htype, haccount, hpending, htypes] at hkept
    simp at hkept

end PendingDeletions

/-- The tables of accounts and of events are the same. -/
structure SameTables (db db' : IdentityStore) : Prop where
  accounts : db'.accounts = db.accounts
  events : db'.events = db.events

namespace SameTables
variable {db db' db'' : IdentityStore}

theorem refl (db : IdentityStore) : SameTables db db := ⟨rfl, rfl⟩

theorem trans (h : SameTables db db') (h' : SameTables db' db'') : SameTables db db'' :=
  ⟨h'.accounts.trans h.accounts, h'.events.trans h.events⟩

theorem insertRecoveryCode {code : RecoveryCode} (h : db.insertRecoveryCode? code = some db') :
    SameTables db db' := by
  obtain ⟨recoveryCodes, -, rfl⟩ := Option.map_eq_some_iff.mp h
  exact ⟨rfl, rfl⟩

theorem insertSession {session : LoginSession} (h : db.insertSession? session = some db') :
    SameTables db db' := by
  obtain ⟨sessions, tokens_nodup, -, rfl⟩ := insertSession?_eq_some h
  exact ⟨rfl, rfl⟩

theorem insertAudit {record : AuditRecord} (h : db.insertAudit? record = some db') :
    SameTables db db' := by
  obtain ⟨audits, -, rfl⟩ := Option.map_eq_some_iff.mp h
  exact ⟨rfl, rfl⟩

theorem row (h : SameTables db db') (accountId : Uuid) :
    db'.accounts.find? accountId = db.accounts.find? accountId := by
  rw [h.accounts]

theorem pendingDeletions (h : SameTables db db') (accountId : Uuid) :
    db'.pendingDeletions accountId = db.pendingDeletions accountId := by
  unfold IdentityStore.pendingDeletions
  rw [h.events]

theorem useInvitation {invitationId accountId : Uuid} {now : Instant} :
    SameTables db (db.useInvitation invitationId accountId now) := ⟨rfl, rfl⟩

end SameTables

end IdentityStore

/-! ### Authority -/

section Authority
variable (env : IdentityEnvironment) (inv : Invocation) (db : IdentityStore)

/-- The command carries a session of the account, live or not. -/
def CarriesSessionOf (actor : Account) : Prop :=
  ∃ sessionToken session, inv.command.sessionToken = some sessionToken ∧ session ∈ db.sessions ∧
    session.tokenHash = env.hashOpaqueSecret sessionToken ∧
      db.accounts.find? session.accountId = some actor

/-- A command without a session, or one that carries a session which may change the account. -/
def MayChange (account : Account) : Prop :=
  inv.command.sessionToken = none ∨ ∃ actor, CarriesSessionOf env inv db actor ∧
    (actor = account ∨ actor.role = .superadmin ∨ actor.role = .admin ∧ account.role = .user)

/-- A command without a session, or one that carries a session which may create the account. -/
def MayCreate (account : Account) : Prop :=
  inv.command.sessionToken = none ∨ ∃ actor, CarriesSessionOf env inv db actor ∧
    (actor.role = .superadmin ∨ actor.role = .admin ∧ account.role = .user)

/-- How a row changes, with the pending deletions of its account after the change. -/
inductive RowChange (before : Account) : Account → List LifecycleEvent → Prop
  | password (passwordHash : PasswordHash) (kind : PasswordKind) (hlive : before.status ≠ .deleted)
    (hkind : kind = .permanent ∨ before.role ≠ .superadmin) :
    RowChange before (before.withPassword passwordHash kind inv.now)
      (db.pendingDeletions before.accountId)
  | role (text currentPassword : String) (role : AccountRole) (sessionToken : String)
    (actor : Account)
    (hcommand : inv.command = .setAccountRole text currentPassword role sessionToken)
    (hactor : db.sessionAccount env sessionToken inv.now Account.hasFullAccess = some actor)
    (hrole : actor.role = .superadmin)
    (hpassword : env.verifyPassword currentPassword actor.passwordHash = true)
    (htarget : env.parseUuid text = some before.accountId) (hlive : before.status ≠ .deleted)
    (hothers : db.takesLast (before.role = .superadmin && role ≠ .superadmin) before.accountId
      false = false) :
    RowChange before { before with role, updatedAt := inv.now }
      (db.pendingDeletions before.accountId)
  | status (status : SettableStatus)
    (hstatus : before.status ≠ .deleted ∧ before.status ≠ .pendingDeletion)
    (hothers : before.role = .superadmin →
      db.takesLast (status = .disabled) before.accountId true = false) :
    RowChange before { before with status := status.status, updatedAt := inv.now }
      (db.pendingDeletions before.accountId)
  | deletionRequested (eventId : Uuid) (hrole : before.role = .user)
    (hstatus : before.status = .active) :
    RowChange before
      { before with
        status := .pendingDeletion
        deletionRequestedAt := some inv.now
        deletionDueAt := some (inv.now + accountDeletionWaitMs)
        updatedAt := inv.now }
      (db.pendingDeletions before.accountId ++
        [inv.event eventId before.accountId .deleteAccount (inv.now + accountDeletionWaitMs)])
  | deletionCancelled (hstatus : before.status = .pendingDeletion) :
    RowChange before
      { before with
        status := .active
        deletionRequestedAt := none
        deletionDueAt := none
        updatedAt := inv.now } []

/-- What an accepted command has done. -/
inductive Accepted (db' : IdentityStore) : Prop
  /-- invitations, throttles and audit records -/
  | elsewhere (hsame : ∀ accountId, db.SameAccount db' accountId)
  | closedSession (sessionToken : String) (htoken : inv.command.sessionToken = some sessionToken)
    (hclosed : db' = db.revokeSessionsWhere
      (fun session => session.tokenHash = env.hashOpaqueSecret sessionToken) inv.now)
  | created (account : Account) (hbefore : db.accounts.find? account.accountId = none)
    (hafter : db'.accounts.find? account.accountId = some account)
    (hactive : account.status = .active) (hdue : account.deletionDueAt = none)
    (hpending : db'.pendingDeletions account.accountId = db.pendingDeletions account.accountId)
    (hothers : db.SameElsewhere db' account.accountId) (hmay : MayCreate env inv db account)
  /-- the sessions of an account -/
  | sessions (account : Account) (hbefore : db.accounts.find? account.accountId = some account)
    (hafter : db'.accounts.find? account.accountId = some account)
    (hlive : account.status ≠ .deleted)
    (hpending : db'.pendingDeletions account.accountId = db.pendingDeletions account.accountId)
    (hothers : db.SameElsewhere db' account.accountId) (hmay : MayChange env inv db account)
  | changed (before after : Account)
    (hbefore : db.accounts.find? before.accountId = some before)
    (hafter : db'.accounts.find? before.accountId = some after)
    (hchange : RowChange env inv db before after (db'.pendingDeletions before.accountId))
    (hothers : db.SameElsewhere db' before.accountId) (hmay : MayChange env inv db before)

end Authority

/-! ### Every accepted command -/

section Inversion
variable {env : IdentityEnvironment} {inv : Invocation} {db db' : IdentityStore}
  {result : IdentityCommandResult}

theorem sessionAccount_eq_some {token : String} {now : Instant} {condition : Account → Bool}
    {account : Account} (h : db.sessionAccount env token now condition = some account) :
    ∃ session ∈ db.sessions, session.tokenHash = env.hashOpaqueSecret token ∧
      session.revokedAt = none ∧ now < session.expiresAt ∧
      db.accounts.find? session.accountId = some account ∧ condition account = true := by
  unfold IdentityStore.sessionAccount IdentityStore.liveSession at h
  split at h
  · cases h
  · rename_i session hsession
    have hlive := List.find?_some hsession
    simp only [Bool.and_eq_true, decide_eq_true_eq, Option.isNone_iff_eq_none] at hlive
    obtain ⟨hfound, hcondition⟩ := Option.filter_eq_some_iff.mp h
    exact ⟨session, List.mem_of_find?_eq_some hsession, hlive.1.1, hlive.1.2, hlive.2, hfound,
      hcondition⟩

theorem find?_self {id : Uuid} {account : Account} (h : db.accounts.find? id = some account) :
    db.accounts.find? account.accountId = some account := by
  obtain ⟨-, hkey⟩ := Table.find?_eq_some.mp h
  rw [hkey]
  exact h

theorem CarriesSessionOf.of_sessionAccount {token : String} {now : Instant}
    {condition : Account → Bool} {account : Account}
    (htoken : inv.command.sessionToken = some token)
    (h : db.sessionAccount env token now condition = some account) :
    CarriesSessionOf env inv db account := by
  obtain ⟨session, hsession, hhash, -, -, hfound, -⟩ := sessionAccount_eq_some h
  exact ⟨token, session, htoken, hsession, hhash, hfound⟩

theorem administrator_eq_some {found : Option Account} {actor : Account}
    (h : administrator found = some actor) :
    found = some actor ∧ (actor.role = .admin ∨ actor.role = .superadmin) := by
  obtain ⟨hfound, hrole⟩ := Option.filter_eq_some_iff.mp h
  rw [Bool.or_eq_true, decide_eq_true_eq, decide_eq_true_eq] at hrole
  exact ⟨hfound, hrole⟩

theorem MayChange.self {account : Account} (h : CarriesSessionOf env inv db account) :
    MayChange env inv db account := .inr ⟨account, h, .inl rfl⟩

@[simp] theorem find?_updateAccount {id : Uuid} {f : Account → Account}
    {hf : ∀ account, (f account).accountId = account.accountId} :
    (db.updateAccount id f hf).accounts.find? id = (db.accounts.find? id).map f := by
  unfold IdentityStore.updateAccount
  rw [Table.find?_update_self]

theorem find?_insertAccount {account : Account} (h : db.insertAccount? account = some db') :
    db.accounts.find? account.accountId = none ∧
      db'.accounts.find? account.accountId = some account ∧ db'.events = db.events := by
  unfold IdentityStore.insertAccount? at h
  split at h
  · cases h
  · obtain ⟨accounts, hinsert, rfl⟩ := Option.map_eq_some_iff.mp h
    refine ⟨?_, ?_, rfl⟩
    · exact Table.find?_eq_none.mpr (Table.key_fresh_of_insert? hinsert)
    · rw [Table.find?_insert? hinsert, if_pos rfl]

open IdentityStore

/-- An inserted account with the tables that a later insertion leaves alone. -/
theorem Accepted.of_insertAccount {account : Account} {db₁ : IdentityStore}
    (h : db.insertAccount? account = some db₁) (hrest : SameTables db₁ db')
    (hothers : SameElsewhere db₁ db' account.accountId) (hactive : account.status = .active)
    (hdue : account.deletionDueAt = none) (hmay : MayCreate env inv db account) :
    Accepted env inv db db' := by
  obtain ⟨hnone, hsome, hevents⟩ := find?_insertAccount h
  refine .created account hnone ?_ hactive hdue ?_ ?_ hmay
  · rw [hrest.row]
    exact hsome
  · rw [hrest.pendingDeletions]
    unfold IdentityStore.pendingDeletions
    rw [hevents]
  · intro accountId hother
    exact (SameAccount.insertAccount h hother).trans (hothers accountId hother)

theorem bootstrapSuperadmin_accepted {isLocalRequest : Bool} {password username : String}
    (hcommand : inv.command = .bootstrapSuperadmin isLocalRequest password username)
    (h : bootstrapSuperadminEffect env inv db isLocalRequest password username =
      some (result, db')) : Accepted env inv db db' := by
  simp only [bootstrapSuperadminEffect, Option.ite_none_left_eq_some, Option.bind_eq_bind,
    Option.bind_eq_some_iff] at h
  obtain ⟨-, -, -, -, db₁, haccount, db₂, hcode, db₃, hsession, db₄, haudit, hend⟩ := h
  cases hend
  refine .of_insertAccount haccount ?_ ?_ rfl rfl (.inl ?_)
  · exact (SameTables.insertRecoveryCode hcode).trans
      ((SameTables.insertSession hsession).trans (.insertAudit haudit))
  · intro accountId hother
    exact (SameAccount.insertRecoveryCode hcode hother).trans
      ((SameAccount.insertSession hsession hother).trans (.insertAudit haudit))
  · rw [hcommand]
    rfl

theorem createInvitation_accepted {sessionToken : String}
    (h : createInvitationEffect env inv db sessionToken = some (result, db')) :
    Accepted env inv db db' := by
  simp only [createInvitationEffect, Option.bind_eq_bind, Option.bind_eq_some_iff] at h
  obtain ⟨actor, -, db₁, hinvitation, db₂, haudit, hend⟩ := h
  cases hend
  exact .elsewhere fun accountId =>
    (SameAccount.insertInvitation hinvitation).trans (.insertAudit haudit)

theorem registerWithInvitation_accepted {invitationCode password username : String}
    (hcommand : inv.command = .registerWithInvitation invitationCode password username)
    (h : registerWithInvitationEffect env inv db invitationCode password username =
      some (result, db')) : Accepted env inv db db' := by
  simp only [registerWithInvitationEffect, Option.ite_none_left_eq_some, Option.bind_eq_bind,
    Option.bind_eq_some_iff] at h
  obtain ⟨-, -, invitation, -, db₁, haccount, db₂, hsession, db₃, haudit, hend⟩ := h
  cases hend
  refine .of_insertAccount haccount ?_ ?_ rfl rfl (.inl ?_)
  · exact SameTables.useInvitation.trans
      ((SameTables.insertSession hsession).trans (.insertAudit haudit))
  · intro accountId hother
    exact SameAccount.useInvitation.trans
      ((SameAccount.insertSession hsession hother).trans (.insertAudit haudit))
  · rw [hcommand]
    rfl

theorem revokeInvitation_accepted {invitationId sessionToken : String}
    (h : revokeInvitationEffect env inv db invitationId sessionToken = some (result, db')) :
    Accepted env inv db db' := by
  simp only [revokeInvitationEffect, Option.bind_eq_bind, Option.bind_eq_some_iff] at h
  obtain ⟨actor, -, id, -, hend⟩ := h
  split at hend
  · cases hend
    exact .elsewhere fun accountId => ⟨rfl, rfl, rfl, rfl⟩
  · cases hend

/-- A changed row with what later statements do to the events of its account. -/
theorem Accepted.of_updateAccount {before : Account} {f : Account → Account}
    (hf : ∀ account, (f account).accountId = account.accountId)
    (hbefore : db.accounts.find? before.accountId = some before)
    (haccounts : db'.accounts = (db.updateAccount before.accountId f hf).accounts)
    (hothers : SameElsewhere (db.updateAccount before.accountId f hf) db' before.accountId)
    (hchange : RowChange env inv db before (f before) (db'.pendingDeletions before.accountId))
    (hmay : MayChange env inv db before) : Accepted env inv db db' := by
  refine .changed before (f before) hbefore ?_ hchange ?_ hmay
  · rw [haccounts, find?_updateAccount, hbefore, Option.map_some]
  · intro accountId hother
    exact (SameAccount.updateAccount hother).trans (hothers accountId hother)

theorem setAccountRole_accepted {accountId currentPassword sessionToken : String}
    {role : AccountRole}
    (hcommand : inv.command = .setAccountRole accountId currentPassword role sessionToken)
    (h : setAccountRoleEffect env inv db accountId currentPassword role sessionToken =
      some (result, db')) : Accepted env inv db db' := by
  simp only [setAccountRoleEffect, Option.ite_none_left_eq_some, Option.bind_eq_bind,
    Option.bind_eq_some_iff] at h
  obtain ⟨actor, hactor, hrole, hpassword, id, hid, target, htarget, hothers, hend⟩ := h
  cases hend
  obtain ⟨hfound, hlive⟩ := Option.filter_eq_some_iff.mp htarget
  obtain ⟨-, rfl⟩ := Table.find?_eq_some.mp hfound
  refine .of_updateAccount (by intro _; rfl) hfound rfl (fun accountId _ => .refl _ _) ?_ ?_
  · refine .role accountId currentPassword role sessionToken actor hcommand hactor ?_ ?_ hid ?_ ?_
    · exact Decidable.not_not.mp hrole
    · simpa using hpassword
    · simpa using hlive
    · simpa using hothers
  · refine .inr ⟨actor, .of_sessionAccount (by rw [hcommand]; rfl) hactor, .inr (.inl ?_)⟩
    exact Decidable.not_not.mp hrole

/-- A target that the actor of a session may change. -/
theorem MayChange.of_administrator {token : String} {now : Instant} {condition : Account → Bool}
    {actor target : Account} (htoken : inv.command.sessionToken = some token)
    (hactor : administrator (db.sessionAccount env token now condition) = some actor)
    (hrole : actor.role = .admin → target.role = .user) : MayChange env inv db target := by
  obtain ⟨hsession, hadmin⟩ := administrator_eq_some hactor
  refine .inr ⟨actor, .of_sessionAccount htoken hsession, .inr ?_⟩
  rcases hadmin with hadmin | hsuper
  · exact .inr ⟨hadmin, hrole hadmin⟩
  · exact .inl hsuper

theorem accountStatusEffect_accepted {text : String} {target : Account} {status : SettableStatus}
    (hfound : db.accounts.find? target.accountId = some target)
    (hstatus : target.status ≠ .deleted ∧ target.status ≠ .pendingDeletion)
    (hothers : target.role = .superadmin →
      db.takesLast (status = .disabled) target.accountId true = false)
    (hmay : MayChange env inv db target)
    (h : accountStatusEffect inv db text target status = some (result, db')) :
    Accepted env inv db db' := by
  have hchange : RowChange env inv db target
      { target with status := status.status, updatedAt := inv.now }
      (db.pendingDeletions target.accountId) := .status status hstatus hothers
  unfold accountStatusEffect at h
  cases status with
  | active =>
    cases h
    refine .of_updateAccount (by intro _; rfl) hfound rfl ?_ ?_ hmay
    · exact fun accountId hother => .cancelEvents hother
    · rw [pendingDeletions_cancelRestriction]
      exact hchange
  | disabled =>
    dsimp only at h
    split at h
    · simp only [Option.bind_eq_bind, Option.bind_eq_some_iff] at h
      obtain ⟨db₁, hevent, hend⟩ := h
      cases hend
      have haccounts := accounts_insertEvent hevent
      refine .of_updateAccount (by intro _; rfl) hfound haccounts ?_ ?_ hmay
      · intro accountId hother
        exact (SameAccount.revokeSessions hother).trans (.insertEvent hevent hother)
      · rw [pendingDeletions_insertEvent hevent rfl]
        exact hchange
    · cases h
      refine .of_updateAccount (by intro _; rfl) hfound rfl ?_ hchange hmay
      exact fun accountId hother => .revokeSessions hother

theorem setAccountStatus_accepted {accountId sessionToken : String}
    {currentPassword : Option String} {status : SettableStatus}
    (hcommand : inv.command = .setAccountStatus accountId currentPassword sessionToken status)
    (h : setAccountStatusEffect env inv db accountId currentPassword sessionToken status =
      some (result, db')) : Accepted env inv db db' := by
  simp only [setAccountStatusEffect, Option.ite_none_left_eq_some, Option.bind_eq_bind,
    Option.bind_eq_some_iff] at h
  obtain ⟨actor, hactor, id, -, target, htarget, hallowed, hrest⟩ := h
  obtain ⟨hfound, -⟩ := Option.filter_eq_some_iff.mp htarget
  obtain ⟨-, rfl⟩ := Table.find?_eq_some.mp hfound
  simp only [not_or, not_and, not_not] at hallowed
  have hmay : MayChange env inv db target :=
    .of_administrator (by rw [hcommand]; rfl) hactor hallowed.2.2
  split at hrest
  · rename_i hrole
    exact accountStatusEffect_accepted hfound ⟨hallowed.1, hallowed.2.1⟩
      (fun hsuper => absurd hsuper hrole) hmay hrest
  · simp only [Option.ite_none_left_eq_some] at hrest
    obtain ⟨-, hothers, hend⟩ := hrest
    exact accountStatusEffect_accepted hfound ⟨hallowed.1, hallowed.2.1⟩
      (fun _ => Bool.eq_false_of_not_eq_true hothers) hmay hend

theorem deletionRequestEffect_accepted {text : String} {target : Account}
    (hfound : db.accounts.find? target.accountId = some target) (hrole : target.role = .user)
    (hstatus : target.status = .active) (hmay : MayChange env inv db target)
    (h : deletionRequestEffect inv db target.accountId text = some (result, db')) :
    Accepted env inv db db' := by
  simp only [deletionRequestEffect, Option.bind_eq_bind, Option.bind_eq_some_iff] at h
  obtain ⟨db₁, hrestrict, db₂, hdelete, hend⟩ := h
  cases hend
  have haccounts := (accounts_insertEvent hdelete).trans (accounts_insertEvent hrestrict)
  refine .of_updateAccount (by intro _; rfl) hfound haccounts ?_ ?_ hmay
  · intro accountId hother
    exact (SameAccount.revokeSessions hother).trans
      ((SameAccount.insertEvent hrestrict hother).trans (.insertEvent hdelete hother))
  · have hpending := pendingDeletions_insertDeletion hdelete rfl rfl
    rw [pendingDeletions_insertEvent hrestrict rfl] at hpending
    dsimp only [Invocation.event] at hpending
    rw [hpending]
    exact .deletionRequested (inv.draws.uuid 1) hrole hstatus

theorem requestSelfDeletion_accepted {currentPassword sessionToken : String}
    (hcommand : inv.command = .requestSelfDeletion currentPassword sessionToken)
    (h : requestSelfDeletionEffect env inv db currentPassword sessionToken =
      some (result, db')) : Accepted env inv db db' := by
  simp only [requestSelfDeletionEffect, Option.ite_none_left_eq_some, Option.bind_eq_bind,
    Option.bind_eq_some_iff] at h
  obtain ⟨account, haccount, hrole, -, hend⟩ := h
  obtain ⟨session, -, -, -, -, hfound, hfull⟩ := sessionAccount_eq_some haccount
  rw [Account.hasFullAccess, Bool.and_eq_true, decide_eq_true_eq] at hfull
  exact deletionRequestEffect_accepted (find?_self hfound) (Decidable.not_not.mp hrole) hfull.1
    (.self (.of_sessionAccount (by rw [hcommand]; rfl) haccount)) hend

theorem requestAccountDeletion_accepted {accountId currentPassword sessionToken : String}
    (hcommand : inv.command = .requestAccountDeletion accountId currentPassword sessionToken)
    (h : requestAccountDeletionEffect env inv db accountId currentPassword sessionToken =
      some (result, db')) : Accepted env inv db db' := by
  simp only [requestAccountDeletionEffect, Option.ite_none_left_eq_some, Option.bind_eq_bind,
    Option.bind_eq_some_iff] at h
  obtain ⟨actor, hactor, hrole, -, id, -, target, htarget, hallowed, hend⟩ := h
  obtain ⟨hfound, -⟩ := Option.filter_eq_some_iff.mp htarget
  obtain ⟨-, rfl⟩ := Table.find?_eq_some.mp hfound
  simp only [not_or, not_not] at hallowed
  refine deletionRequestEffect_accepted hfound hallowed.1 hallowed.2 ?_ hend
  refine .inr ⟨actor, .of_sessionAccount (by rw [hcommand]; rfl) hactor, .inr (.inl ?_)⟩
  exact Decidable.not_not.mp hrole

theorem cancelSelfDeletion_accepted {sessionToken : String}
    (hcommand : inv.command = .cancelSelfDeletion sessionToken)
    (h : cancelSelfDeletionEffect env inv db sessionToken = some (result, db')) :
    Accepted env inv db db' := by
  simp only [cancelSelfDeletionEffect, Option.bind_eq_bind, Option.bind_eq_some_iff] at h
  obtain ⟨account, haccount, db₁, hsession, hend⟩ := h
  cases hend
  obtain ⟨_, -, -, -, -, hfound, hstatus⟩ := sessionAccount_eq_some haccount
  refine .of_updateAccount (by intro _; rfl) (find?_self hfound)
    (SameTables.insertSession hsession).accounts ?_ ?_
    (.self (.of_sessionAccount (by rw [hcommand]; rfl) haccount))
  · intro accountId hother
    exact (SameAccount.revokeSessions hother).trans
      ((SameAccount.cancelEvents hother).trans (.insertSession hsession hother))
  · rw [(SameTables.insertSession hsession).pendingDeletions, pendingDeletions_cancelEvents rfl]
    exact .deletionCancelled (of_decide_eq_true hstatus)

/-- A new password, where the sessions of the account may change after it. -/
theorem Accepted.of_password {before : Account} {kind : PasswordKind} {base : IdentityStore}
    (passwordHash : PasswordHash)
    (hbefore : db.accounts.find? before.accountId = some before)
    (hlive : before.status ≠ .deleted) (hkind : kind = .permanent ∨ before.role ≠ .superadmin)
    (hbase : base = db.updateAccount before.accountId fun account =>
      account.withPassword passwordHash kind inv.now)
    (hrest : SameTables base db') (hothers : SameElsewhere base db' before.accountId)
    (hmay : MayChange env inv db before) : Accepted env inv db db' := by
  subst hbase
  refine .of_updateAccount (by intro _; rfl) hbefore hrest.accounts hothers ?_ hmay
  rw [hrest.pendingDeletions]
  exact .password passwordHash kind hlive hkind

theorem recoverSuperadmin_accepted {isLocalRequest : Bool} {newPassword recoveryCode : String}
    (hcommand : inv.command = .recoverSuperadmin isLocalRequest newPassword recoveryCode)
    (h : recoverSuperadminEffect env inv db isLocalRequest newPassword recoveryCode =
      some (result, db')) : Accepted env inv db db' := by
  simp only [recoverSuperadminEffect, Option.ite_none_left_eq_some, Option.bind_eq_bind,
    Option.bind_eq_some_iff] at h
  obtain ⟨-, -, target, htarget, hallowed, -, db₁, hsession, hend⟩ := h
  cases hend
  simp only [not_or, not_not] at hallowed
  have hfound : ∃ id, db.accounts.find? id = some target := by
    unfold IdentityStore.recoverableAccount at htarget
    split at htarget
    · cases htarget
    · exact ⟨_, htarget⟩
  obtain ⟨id, hfound⟩ := hfound
  refine .of_password (env.hashPassword newPassword (inv.draws.bytes 2)) (find?_self hfound)
    (by rw [hallowed.2]; decide) (.inl rfl) rfl ?_ ?_ (.inl (by rw [hcommand]; rfl))
  · have hrest := SameTables.insertSession hsession
    exact ⟨hrest.accounts, hrest.events⟩
  · intro accountId hother
    exact (SameAccount.updateRecoveryCode hother).trans
      ((SameAccount.revokeSessions hother).trans (.insertSession hsession hother))

theorem createAccount_accepted {role : CreatableRole} {sessionToken username : String}
    (hcommand : inv.command = .createAccount role sessionToken username)
    (h : createAccountEffect env inv db role sessionToken username = some (result, db')) :
    Accepted env inv db db' := by
  simp only [createAccountEffect, Option.ite_none_left_eq_some, Option.bind_eq_bind,
    Option.bind_eq_some_iff] at h
  obtain ⟨-, actor, hactor, hallowed, db₁, haccount, hend⟩ := h
  cases hend
  obtain ⟨hsession, hadmin⟩ := administrator_eq_some hactor
  refine .of_insertAccount haccount (.refl _) (fun accountId _ => .refl _ _) rfl rfl
    (.inr ⟨actor, .of_sessionAccount (by rw [hcommand]; rfl) hsession, ?_⟩)
  rcases hadmin with hadmin | hsuper
  · refine .inr ⟨hadmin, ?_⟩
    cases role with
    | user => rfl
    | admin => exact absurd ⟨rfl, by rw [hadmin]; decide⟩ hallowed
  · exact .inl hsuper

theorem resetAccountPassword_accepted {accountId sessionToken : String}
    (hcommand : inv.command = .resetAccountPassword accountId sessionToken)
    (h : resetAccountPasswordEffect env inv db accountId sessionToken = some (result, db')) :
    Accepted env inv db db' := by
  simp only [resetAccountPasswordEffect, Option.ite_none_left_eq_some, Option.bind_eq_bind,
    Option.bind_eq_some_iff] at h
  obtain ⟨actor, hactor, id, -, target, htarget, hallowed, hend⟩ := h
  cases hend
  obtain ⟨hfound, -⟩ := Option.filter_eq_some_iff.mp htarget
  obtain ⟨-, rfl⟩ := Table.find?_eq_some.mp hfound
  simp only [not_or, not_and, not_not] at hallowed
  refine .of_password (env.hashPassword (inv.draws.bytes 0) (inv.draws.bytes 1)) hfound
    hallowed.1 (.inr hallowed.2.1) rfl ⟨rfl, rfl⟩ ?_
    (.of_administrator (by rw [hcommand]; rfl) hactor hallowed.2.2)
  exact fun accountId hother => .revokeSessions hother

theorem completeTemporaryPasswordChange_accepted {newPassword sessionToken : String}
    (hcommand : inv.command = .completeTemporaryPasswordChange newPassword sessionToken)
    (h : completeTemporaryPasswordChangeEffect env inv db newPassword sessionToken =
      some (result, db')) : Accepted env inv db db' := by
  simp only [completeTemporaryPasswordChangeEffect, Option.ite_none_left_eq_some,
    Option.bind_eq_bind, Option.bind_eq_some_iff] at h
  obtain ⟨-, account, haccount, db₁, hsession, hend⟩ := h
  cases hend
  obtain ⟨_, -, -, -, -, hfound, hactive⟩ := sessionAccount_eq_some haccount
  rw [Bool.and_eq_true, decide_eq_true_eq] at hactive
  refine .of_password (env.hashPassword newPassword (inv.draws.bytes 1)) (find?_self hfound)
    (by rw [hactive.1]; decide) (.inl rfl) rfl ?_ ?_
    (.self (.of_sessionAccount (by rw [hcommand]; rfl) haccount))
  · have hrest := SameTables.insertSession hsession
    exact ⟨hrest.accounts, hrest.events⟩
  · intro accountId hother
    exact (SameAccount.revokeSessions hother).trans (.insertSession hsession hother)

theorem changePassword_accepted {currentPassword newPassword sessionToken : String}
    (hcommand : inv.command = .changePassword currentPassword newPassword sessionToken)
    (h : changePasswordEffect env inv db currentPassword newPassword sessionToken =
      some (result, db')) : Accepted env inv db db' := by
  simp only [changePasswordEffect, Option.ite_none_left_eq_some, Option.bind_eq_bind,
    Option.bind_eq_some_iff] at h
  obtain ⟨-, account, haccount, -, hend⟩ := h
  cases hend
  obtain ⟨_, -, -, -, -, hfound, hactive⟩ := sessionAccount_eq_some haccount
  refine .of_password (env.hashPassword newPassword (inv.draws.bytes 1)) (find?_self hfound)
    (by rw [of_decide_eq_true hactive]; decide) (.inl rfl) rfl ⟨rfl, rfl⟩ ?_
    (.self (.of_sessionAccount (by rw [hcommand]; rfl) haccount))
  exact fun accountId hother => .revokeSessions hother

/-- A command that changes sessions of one account only. -/
theorem Accepted.of_sessions {account : Account} {base : IdentityStore}
    (hfound : db.accounts.find? account.accountId = some account)
    (hlive : account.status ≠ .deleted) (hbase : SameTables db base) (hrest : SameTables base db')
    (hothers : SameElsewhere db db' account.accountId) (hmay : MayChange env inv db account) :
    Accepted env inv db db' := by
  have htables := hbase.trans hrest
  refine .sessions account hfound ?_ hlive (htables.pendingDeletions _) hothers hmay
  rw [htables.row]
  exact hfound

theorem logoutAll_accepted {sessionToken : String} {objectId : String}
    (hcommand : inv.command = .logoutAll sessionToken)
    (h : logoutAllEffect env inv db sessionToken = some ((result, objectId), db')) :
    Accepted env inv db db' := by
  simp only [logoutAllEffect, Option.bind_eq_bind, Option.bind_eq_some_iff] at h
  obtain ⟨account, haccount, hend⟩ := h
  cases hend
  obtain ⟨_, -, -, -, -, hfound, hfull⟩ := sessionAccount_eq_some haccount
  rw [Account.hasFullAccess, Bool.and_eq_true, decide_eq_true_eq] at hfull
  refine .of_sessions (find?_self hfound) (by rw [hfull.1]; decide) (.refl db) ⟨rfl, rfl⟩ ?_
    (.self (.of_sessionAccount (by rw [hcommand]; rfl) haccount))
  exact fun accountId hother => .revokeSessions hother

theorem acceptLogin_accepted {usernameKey : String} {account : Account}
    (hfound : db.accounts.find? account.accountId = some account)
    (hlive : account.status ≠ .deleted) (htoken : inv.command.sessionToken = none)
    (h : acceptLoginEffect env inv db usernameKey account = some (result, db')) :
    Accepted env inv db db' := by
  simp only [acceptLoginEffect, Option.bind_eq_bind, Option.bind_eq_some_iff] at h
  obtain ⟨db₁, hsession, db₂, haudit, hend⟩ := h
  have hdb : db₂ = db' := by
    split at hend
    · obtain ⟨due, -, hend⟩ := Option.map_eq_some_iff.mp hend
      cases hend
      rfl
    · cases hend
      rfl
  subst hdb
  have hrest := (SameTables.insertSession hsession).trans (.insertAudit haudit)
  refine .of_sessions hfound hlive (.refl db) ⟨hrest.accounts, hrest.events⟩ ?_ (.inl htoken)
  intro accountId hother
  exact SameAccount.deleteThrottle.trans
    ((SameAccount.insertSession hsession hother).trans (.insertAudit haudit))

theorem refuseLogin_accepted {usernameKey : String} {throttle : Option LoginThrottle}
    {account : Option Account}
    (h : refuseLoginEffect inv db usernameKey throttle account = some (result, db')) :
    Accepted env inv db db' := by
  simp only [refuseLoginEffect, Option.bind_eq_bind, Option.bind_eq_some_iff] at h
  obtain ⟨db₁, haudit, hend⟩ := h
  have hdb : db₁ = db' := by
    split at hend
    · cases hend
      rfl
    · cases hend
      rfl
  subst hdb
  exact .elsewhere fun accountId => SameAccount.upsertThrottle.trans (.insertAudit haudit)

theorem login_accepted {password username : String}
    (hcommand : inv.command = .login password username)
    (h : loginEffect env inv db password username = some (result, db')) :
    Accepted env inv db db' := by
  unfold loginEffect at h
  dsimp only at h
  split at h
  · simp only [Option.bind_eq_bind, Option.bind_eq_some_iff] at h
    obtain ⟨db₁, haudit, hend⟩ := h
    cases hend
    exact .elsewhere fun accountId => .insertAudit haudit
  · split at h
    · exact refuseLogin_accepted h
    · rename_i account haccount
      obtain ⟨hfound, haccepts⟩ := Option.filter_eq_some_iff.mp haccount
      refine acceptLogin_accepted (Table.find?_of_mem (List.mem_of_find?_eq_some hfound)) ?_
        (by rw [hcommand]; rfl) h
      intro hdeleted
      simp [acceptsLogin, hdeleted] at haccepts

/-- Every command with an effect is accepted in one of the ways of `Accepted`. -/
theorem commandEffect_accepted (h : commandEffect env inv db = some (result, db')) :
    Accepted env inv db db' := by
  unfold commandEffect at h
  cases hcommand : inv.command with
  | bootstrapSuperadmin =>
    rw [hcommand] at h
    exact bootstrapSuperadmin_accepted hcommand h
  | createInvitation =>
    rw [hcommand] at h
    exact createInvitation_accepted h
  | registerWithInvitation =>
    rw [hcommand] at h
    exact registerWithInvitation_accepted hcommand h
  | login =>
    rw [hcommand] at h
    exact login_accepted hcommand h
  | logoutCurrent sessionToken =>
    rw [hcommand] at h
    cases h
    exact .closedSession sessionToken (by rw [hcommand]; rfl) rfl
  | logoutAll =>
    rw [hcommand] at h
    obtain ⟨⟨⟨result', objectId⟩, db₁⟩, heffect, hend⟩ := Option.map_eq_some_iff.mp h
    cases hend
    exact logoutAll_accepted hcommand heffect
  | changePassword =>
    rw [hcommand] at h
    exact changePassword_accepted hcommand h
  | createAccount =>
    rw [hcommand] at h
    exact createAccount_accepted hcommand h
  | completeTemporaryPasswordChange =>
    rw [hcommand] at h
    exact completeTemporaryPasswordChange_accepted hcommand h
  | resetAccountPassword =>
    rw [hcommand] at h
    exact resetAccountPassword_accepted hcommand h
  | revokeInvitation =>
    rw [hcommand] at h
    exact revokeInvitation_accepted h
  | setAccountRole =>
    rw [hcommand] at h
    exact setAccountRole_accepted hcommand h
  | setAccountStatus =>
    rw [hcommand] at h
    exact setAccountStatus_accepted hcommand h
  | requestSelfDeletion =>
    rw [hcommand] at h
    exact requestSelfDeletion_accepted hcommand h
  | cancelSelfDeletion =>
    rw [hcommand] at h
    exact cancelSelfDeletion_accepted hcommand h
  | recoverSuperadmin =>
    rw [hcommand] at h
    exact recoverSuperadmin_accepted hcommand h
  | requestAccountDeletion =>
    rw [hcommand] at h
    exact requestAccountDeletion_accepted hcommand h

end Inversion

/-! ### Every step of the worker -/

section Worker
variable {env : IdentityEnvironment} {clock : WorkerClock} {handled : LifecycleEvent → Bool}
  {db db' : IdentityStore} {result : IdentityLifecycleWorkerResult}

/-- The erasure of a due deletion. -/
def IdentityStore.erased (env : IdentityEnvironment) (clock : WorkerClock)
    (event : LifecycleEvent) (account : Account) (db : IdentityStore) : IdentityStore :=
  let pseudonym := pseudonymOf env event.accountId
  ((db.forgetAccount account event.accountId pseudonym).updateAccount event.accountId
    (IdentityStore.erasedAccount pseudonym clock.erasedAt)
    (erasedAccount_key clock pseudonym)).updateEvent event.eventId
      (fun event => event.processed clock.settledAt) (processed_key clock)

theorem find?_erased {event : LifecycleEvent} {account : Account} {accountId : Uuid} :
    (db.erased env clock event account).accounts.find? accountId =
      if accountId = event.accountId then
        (db.accounts.find? accountId).map
          (IdentityStore.erasedAccount (pseudonymOf env event.accountId) clock.erasedAt)
      else db.accounts.find? accountId := by
  unfold IdentityStore.erased IdentityStore.updateEvent IdentityStore.updateAccount
  dsimp only
  rw [Table.find?_update]
  rfl

theorem find?_event_erased {event : LifecycleEvent} {account : Account}
    (hmem : event ∈ db.events) :
    (db.erased env clock event account).events.find? event.eventId =
      some (event.processed clock.settledAt) := by
  unfold IdentityStore.erased IdentityStore.updateEvent
  dsimp only
  rw [Table.find?_update_self]
  exact congrArg _ (Table.find?_of_mem hmem)

/-- What the transaction of the worker has done. -/
inductive WorkerChange (env : IdentityEnvironment) (clock : WorkerClock)
    (handled : LifecycleEvent → Bool) (db : IdentityStore) : IdentityStore → Prop
  | idle : WorkerChange env clock handled db db
  | attempted (event : LifecycleEvent)
    (hdue : db.dueEvent clock.runAt (fun _ => false) = some event)
    (hhandled : handled event = false) :
    WorkerChange env clock handled db
      (db.updateEvent event.eventId (fun event => event.attempted clock.settledAt)
        (attempted_key clock))
  | processed (event : LifecycleEvent)
    (hdue : db.dueEvent clock.runAt (fun _ => false) = some event)
    (hhandled : handled event = true)
    (hnothing : event.eventType = .restrictAccount ∨ ∀ account,
      db.accounts.find? event.accountId = some account → account.status = .deleted) :
    WorkerChange env clock handled db
      (db.updateEvent event.eventId (fun event => event.processed clock.settledAt)
        (processed_key clock))
  | erased (event : LifecycleEvent) (account : Account)
    (hdue : db.dueEvent clock.runAt (fun _ => false) = some event)
    (hhandled : handled event = true) (htype : event.eventType = .deleteAccount)
    (hfound : db.accounts.find? event.accountId = some account)
    (hpending : account.status = .pendingDeletion)
    (hfree : db.usernameKeyTaken event.accountId (pseudonymOf env event.accountId) = false) :
    WorkerChange env clock handled db (db.erased env clock event account)

theorem processEffect_change (h : processEffect env clock handled db = some (result, db')) :
    WorkerChange env clock handled db db' := by
  unfold processEffect at h
  split at h
  · cases h
    exact .idle
  · rename_i event hdue
    split at h
    · rename_i hhandled
      unfold settleEffect at h
      by_cases htype : event.eventType = .deleteAccount
      · rw [if_pos htype, Option.bind_eq_bind, Option.bind_eq_some_iff] at h
        obtain ⟨db₁, herase, hend⟩ := h
        cases hend
        unfold eraseIdentityAccountEffect at herase
        split at herase
        · rename_i hnone
          cases herase
          refine .processed event hdue hhandled (.inr ?_)
          intro account haccount
          rw [hnone] at haccount
          cases haccount
        · rename_i account hfound
          split at herase
          · rename_i hdeleted
            cases herase
            refine .processed event hdue hhandled (.inr ?_)
            intro other hother
            rw [hfound] at hother
            cases hother
            exact hdeleted
          · simp only [Option.ite_none_left_eq_some] at herase
            obtain ⟨hpending, hfree, hend⟩ := herase
            cases hend
            exact .erased event account hdue hhandled htype hfound
              (Decidable.not_not.mp hpending) (Bool.eq_false_of_not_eq_true hfree)
      · rw [if_neg htype] at h
        cases h
        refine .processed event hdue hhandled (.inl ?_)
        cases hkind : event.eventType with
        | restrictAccount => rfl
        | deleteAccount => exact absurd hkind htype
    · rename_i hhandled
      cases h
      exact .attempted event hdue (Bool.eq_false_of_not_eq_true hhandled)

/-- The event that the worker takes is pending, and its time has come. -/
theorem mem_of_dueEvent {runAt : Instant} {taken : IdentityRow → Bool} {event : LifecycleEvent}
    (h : db.dueEvent runAt taken = some event) :
    event ∈ db.events ∧ event.isPending = true ∧ event.scheduledAt ≤ runAt := by
  have hmem := (List.mem_insertionSort _).mp (List.mem_of_mem_head? h)
  obtain ⟨hmem, hdue⟩ := Table.mem_select.mp hmem
  rw [Bool.and_eq_true, IdentityStore.isDue, Bool.and_eq_true, decide_eq_true_eq] at hdue
  exact ⟨hmem, hdue.1.1, hdue.1.2⟩

end Worker

end ChoiceMind.IdentityAccess
