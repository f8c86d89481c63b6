import ChoiceMind.IdentityAccess.Changes

/-!
# What a session may change

The frame of every command: which accounts it leaves alone, by the role of the account whose
session it carries.
-/

namespace ChoiceMind.IdentityAccess

set_option autoImplicit false

open Contracts Transition IdentityStore

/-- The commands of administrators. -/
def CommandType.isAdministrative : CommandType → Bool
  | .createInvitation | .revokeInvitation | .createAccount | .resetAccountPassword
  | .setAccountRole | .setAccountStatus | .requestAccountDeletion => true
  | _ => false

section Frame
variable (env : IdentityEnvironment) (inv : Invocation) (db db' : IdentityStore)

/-- The token is that of an unexpired, unrevoked session of an active account with a permanent
password, which is an administrator's. -/
def CarriesAdministratorSession : Prop :=
  ∃ sessionToken session actor, inv.command.sessionToken = some sessionToken ∧
    session ∈ db.sessions ∧ session.tokenHash = env.hashOpaqueSecret sessionToken ∧
    session.revokedAt = none ∧ inv.now < session.expiresAt ∧
    db.accounts.find? session.accountId = some actor ∧ actor.status = .active ∧
    actor.passwordKind = .permanent ∧ (actor.role = .admin ∨ actor.role = .superadmin)

/-- What a command leaves alone. -/
structure PrivilegeFrame : Prop where
  /-- the role of every account -/
  roles : ∀ actor, CarriesSessionOf env inv db actor → actor.role ≠ .superadmin →
    ∀ account ∈ db.accounts, ∃ after, db'.accounts.find? account.accountId = some after ∧
      after.role = account.role
  created : ∀ actor, CarriesSessionOf env inv db actor → actor.role ≠ .superadmin →
    ∀ account ∈ db'.accounts, db.accounts.find? account.accountId = none → account.role = .user
  others : ∀ actor, CarriesSessionOf env inv db actor → actor.role ≠ .superadmin →
    ∀ account ∈ db.accounts, account.accountId ≠ actor.accountId →
      db.SameAccount db' account.accountId ∨ actor.role = .admin ∧ account.role = .user
  own : ∀ actor, CarriesSessionOf env inv db actor → actor.role = .user →
    ∀ accountId, accountId ≠ actor.accountId → db.SameAccount db' accountId
  administrators : inv.command.type.isAdministrative = true →
    CarriesAdministratorSession env inv db ∨ db' = { db with audits := db'.audits }

end Frame

section Privileges
variable {env : IdentityEnvironment} {inv : Invocation} {db db' : IdentityStore}

/-- A token names one account. -/
theorem CarriesSessionOf.unique {actor other : Account} (h : CarriesSessionOf env inv db actor)
    (h' : CarriesSessionOf env inv db other) : actor = other := by
  obtain ⟨token, session, htoken, hsession, hhash, hfound⟩ := h
  obtain ⟨token', session', htoken', hsession', hhash', hfound'⟩ := h'
  rw [htoken] at htoken'
  cases htoken'
  rw [eq_of_tokenHash_eq hsession hsession' (hhash.trans hhash'.symm), hfound'] at hfound
  exact (Option.some.inj hfound).symm

theorem CarriesAdministratorSession.of_sessionAccount {token : String} {actor : Account}
    (htoken : inv.command.sessionToken = some token)
    (h : db.sessionAccount env token inv.now Account.hasFullAccess = some actor)
    (hrole : actor.role = .admin ∨ actor.role = .superadmin) :
    CarriesAdministratorSession env inv db := by
  obtain ⟨session, hsession, hhash, hrevoked, hexpires, hfound, hfull⟩ := sessionAccount_eq_some h
  rw [Account.hasFullAccess, Bool.and_eq_true, decide_eq_true_eq, decide_eq_true_eq] at hfull
  exact ⟨token, session, actor, htoken, hsession, hhash, hrevoked, hexpires, hfound, hfull.1,
    hfull.2, hrole⟩

theorem CarriesAdministratorSession.of_administrator {token : String} {actor : Account}
    (htoken : inv.command.sessionToken = some token)
    (h : administrator (db.sessionAccount env token inv.now Account.hasFullAccess) = some actor) :
    CarriesAdministratorSession env inv db := by
  obtain ⟨hsession, hrole⟩ := administrator_eq_some h
  exact .of_sessionAccount htoken hsession hrole

/-- An administrative command with an effect carries a session of an administrator. -/
theorem administrative_effect {result : IdentityCommandResult}
    (htype : inv.command.type.isAdministrative = true)
    (h : commandEffect env inv db = some (result, db')) :
    CarriesAdministratorSession env inv db := by
  unfold commandEffect at h
  cases hcommand : inv.command with
  | createInvitation =>
    rw [hcommand] at h
    obtain ⟨actor, hactor, -⟩ := Option.bind_eq_some_iff.mp h
    exact .of_administrator (by rw [hcommand]; rfl) hactor
  | revokeInvitation =>
    rw [hcommand] at h
    obtain ⟨actor, hactor, -⟩ := Option.bind_eq_some_iff.mp h
    exact .of_administrator (by rw [hcommand]; rfl) hactor
  | createAccount =>
    rw [hcommand] at h
    obtain ⟨-, h⟩ := Option.ite_none_left_eq_some.mp h
    obtain ⟨actor, hactor, -⟩ := Option.bind_eq_some_iff.mp h
    exact .of_administrator (by rw [hcommand]; rfl) hactor
  | resetAccountPassword =>
    rw [hcommand] at h
    obtain ⟨actor, hactor, -⟩ := Option.bind_eq_some_iff.mp h
    exact .of_administrator (by rw [hcommand]; rfl) hactor
  | setAccountStatus =>
    rw [hcommand] at h
    obtain ⟨actor, hactor, -⟩ := Option.bind_eq_some_iff.mp h
    exact .of_administrator (by rw [hcommand]; rfl) hactor
  | setAccountRole =>
    rw [hcommand] at h
    obtain ⟨actor, hactor, hrest⟩ := Option.bind_eq_some_iff.mp h
    obtain ⟨hrole, -⟩ := Option.ite_none_left_eq_some.mp hrest
    exact .of_sessionAccount (by rw [hcommand]; rfl) hactor (.inr (Decidable.not_not.mp hrole))
  | requestAccountDeletion =>
    rw [hcommand] at h
    obtain ⟨actor, hactor, hrest⟩ := Option.bind_eq_some_iff.mp h
    obtain ⟨hrole, -⟩ := Option.ite_none_left_eq_some.mp hrest
    exact .of_sessionAccount (by rw [hcommand]; rfl) hactor (.inr (Decidable.not_not.mp hrole))
  | _ =>
    rw [hcommand] at htype
    cases htype

/-- Only a superadministrator changes a role. -/
theorem RowChange.role_eq {before after actor : Account} {pending : List LifecycleEvent}
    (h : RowChange env inv db before after pending) (hactor : CarriesSessionOf env inv db actor)
    (hrole : actor.role ≠ .superadmin) : after.role = before.role := by
  cases h with
  | role text currentPassword role sessionToken other hcommand hother hsuper =>
    have hcarries : CarriesSessionOf env inv db other :=
      .of_sessionAccount (by rw [hcommand]; rfl) hother
    rw [hactor.unique hcarries] at hrole
    exact absurd hsuper hrole
  | _ => rfl

/-- The session of an account that may change another one. -/
theorem MayChange.authority {account actor : Account} (h : MayChange env inv db account)
    (hactor : CarriesSessionOf env inv db actor) :
    actor = account ∨ actor.role = .superadmin ∨ actor.role = .admin ∧ account.role = .user := by
  rcases h with hnone | ⟨other, hother, hmay⟩
  · obtain ⟨token, session, htoken, -⟩ := hactor
    rw [hnone] at htoken
    cases htoken
  · rw [hactor.unique hother]
    exact hmay

theorem MayCreate.authority {account actor : Account} (h : MayCreate env inv db account)
    (hactor : CarriesSessionOf env inv db actor) :
    actor.role = .superadmin ∨ actor.role = .admin ∧ account.role = .user := by
  rcases h with hnone | ⟨other, hother, hmay⟩
  · obtain ⟨token, session, htoken, -⟩ := hactor
    rw [hnone] at htoken
    cases htoken
  · rw [hactor.unique hother]
    exact hmay

/-- The sessions that a logout closes belong to the account of the token. -/
theorem closedSession_elsewhere {token : String} {actor : Account} {accountId : Uuid}
    (htoken : inv.command.sessionToken = some token) (hactor : CarriesSessionOf env inv db actor)
    (hother : accountId ≠ actor.accountId) :
    db.SameAccount (db.revokeSessionsWhere
      (fun session => session.tokenHash = env.hashOpaqueSecret token) inv.now) accountId := by
  obtain ⟨token', session, htoken', hsession, hhash, hfound⟩ := hactor
  rw [htoken] at htoken'
  cases htoken'
  refine .revokeSessionsWhere fun other hmem hclosed => ?_
  rw [eq_of_tokenHash_eq hmem hsession ((of_decide_eq_true hclosed).trans hhash.symm),
    ← (Table.find?_eq_some.mp hfound).2]
  exact hother.symm

/-- What an accepted command may change of an account other than its actor's. -/
theorem Accepted.elsewhere_or {actor : Account} {accountId : Uuid} (h : Accepted env inv db db')
    (hactor : CarriesSessionOf env inv db actor) (hrole : actor.role ≠ .superadmin)
    (hother : accountId ≠ actor.accountId) :
    db.SameAccount db' accountId ∨ actor.role = .admin ∧
      ((∃ account, db.accounts.find? accountId = some account ∧ account.role = .user) ∨
        db.accounts.find? accountId = none) := by
  have hfinish : ∀ account : Account, db.accounts.find? account.accountId = some account →
      db.SameElsewhere db' account.accountId → MayChange env inv db account →
      db.SameAccount db' accountId ∨ actor.role = .admin ∧
        ((∃ account, db.accounts.find? accountId = some account ∧ account.role = .user) ∨
          db.accounts.find? accountId = none) := by
    intro account hfound hothers hmay
    by_cases hsame : accountId = account.accountId
    · subst hsame
      rcases hmay.authority hactor with rfl | hsuper | ⟨hadmin, huser⟩
      · exact absurd rfl hother
      · exact absurd hsuper hrole
      · exact .inr ⟨hadmin, .inl ⟨account, hfound, huser⟩⟩
    · exact .inl (hothers accountId hsame)
  cases h with
  | elsewhere hsame => exact .inl (hsame accountId)
  | closedSession sessionToken htoken hclosed =>
    subst hclosed
    exact .inl (closedSession_elsewhere htoken hactor hother)
  | created account hnew hafter hactive hdue hpending hothers hmay =>
    by_cases hsame : accountId = account.accountId
    · subst hsame
      rcases hmay.authority hactor with hsuper | ⟨hadmin, -⟩
      · exact absurd hsuper hrole
      · exact .inr ⟨hadmin, .inr hnew⟩
    · exact .inl (hothers accountId hsame)
  | sessions account hfound hafter hlive hpending hothers hmay =>
    exact hfinish account hfound hothers hmay
  | changed before after hfound hafter hchange hothers hmay =>
    exact hfinish before hfound hothers hmay

theorem Accepted.role_kept {actor account : Account} (h : Accepted env inv db db')
    (hactor : CarriesSessionOf env inv db actor) (hrole : actor.role ≠ .superadmin)
    (hfound : db.accounts.find? account.accountId = some account) :
    ∃ after, db'.accounts.find? account.accountId = some after ∧ after.role = account.role := by
  have hkept : db.SameAccount db' account.accountId → ∃ after,
      db'.accounts.find? account.accountId = some after ∧ after.role = account.role :=
    fun hsame => ⟨account, hsame.row.trans hfound, rfl⟩
  cases h with
  | elsewhere hsame => exact hkept (hsame _)
  | closedSession sessionToken htoken hclosed =>
    subst hclosed
    exact ⟨account, hfound, rfl⟩
  | created other hnew hafter hactive hdue hpending hothers =>
    refine hkept (hothers _ ?_)
    intro hsame
    rw [hsame, hnew] at hfound
    cases hfound
  | sessions other hother hafter hlive hpending hothers =>
    by_cases hsame : account.accountId = other.accountId
    · rw [hsame, hother] at hfound
      cases hfound
      exact ⟨account, hafter, rfl⟩
    · exact hkept (hothers _ hsame)
  | changed before after hbefore hafter hchange hothers =>
    by_cases hsame : account.accountId = before.accountId
    · rw [hsame, hbefore] at hfound
      cases hfound
      exact ⟨after, hafter, hchange.role_eq hactor hrole⟩
    · exact hkept (hothers _ hsame)

theorem Accepted.created_role {actor account : Account} (h : Accepted env inv db db')
    (hactor : CarriesSessionOf env inv db actor) (hrole : actor.role ≠ .superadmin)
    (hafter : db'.accounts.find? account.accountId = some account)
    (hnew : db.accounts.find? account.accountId = none) : account.role = .user := by
  have hkept : ¬ db.SameAccount db' account.accountId := by
    intro hsame
    rw [hsame.row, hnew] at hafter
    cases hafter
  cases h with
  | elsewhere hsame => exact absurd (hsame _) hkept
  | closedSession sessionToken htoken hclosed =>
    subst hclosed
    rw [show db.accounts.find? account.accountId = some account from hafter] at hnew
    cases hnew
  | created other _ hother hactive hdue hpending hothers hmay =>
    by_cases hsame : account.accountId = other.accountId
    · rw [hsame, hother] at hafter
      cases hafter
      rcases hmay.authority hactor with hsuper | ⟨-, huser⟩
      · exact absurd hsuper hrole
      · exact huser
    · exact absurd (hothers _ hsame) hkept
  | sessions other hother _ hlive hpending hothers =>
    by_cases hsame : account.accountId = other.accountId
    · rw [hsame, hother] at hnew
      cases hnew
    · exact absurd (hothers _ hsame) hkept
  | changed before after hbefore _ hchange hothers =>
    by_cases hsame : account.accountId = before.accountId
    · rw [hsame, hbefore] at hnew
      cases hnew
    · exact absurd (hothers _ hsame) hkept

theorem IdentityStore.SameAccount.of_audits {audits : Table AuditRecord.auditId} {accountId : Uuid}
    (h : db.SameAccount db' accountId) : db.SameAccount { db' with audits } accountId :=
  ⟨h.row, h.recoveryCode, h.sessions, h.events⟩

/-- The frame without audit records, for a command that commits nothing or its effect. -/
theorem privilegeFrame_base
    (h : db' = db ∨ ∃ result, commandEffect env inv db = some (result, db')) :
    PrivilegeFrame env inv db db' := by
  rcases h with rfl | ⟨result, heffect⟩
  · exact
      { roles := fun _ _ _ account hmem => ⟨account, Table.find?_of_mem hmem, rfl⟩
        created := fun _ _ _ account hmem hnew =>
          absurd rfl (Table.find?_eq_none.mp hnew account hmem)
        others := fun _ _ _ account _ _ => .inl (.refl _ _)
        own := fun _ _ _ accountId _ => .refl _ _
        administrators := fun _ => .inr rfl }
  · have haccepted := commandEffect_accepted heffect
    refine ⟨?_, ?_, ?_, ?_, ?_⟩
    · intro actor hactor hrole account hmem
      exact haccepted.role_kept hactor hrole (Table.find?_of_mem hmem)
    · intro actor hactor hrole account hmem hnew
      exact haccepted.created_role hactor hrole (Table.find?_of_mem hmem) hnew
    · intro actor hactor hrole account hmem hother
      rcases haccepted.elsewhere_or hactor hrole hother with hsame | ⟨hadmin, huser | hnone⟩
      · exact .inl hsame
      · obtain ⟨found, hfound, huser⟩ := huser
        rw [Table.find?_of_mem hmem] at hfound
        cases hfound
        exact .inr ⟨hadmin, huser⟩
      · rw [Table.find?_of_mem hmem] at hnone
        cases hnone
    · intro actor hactor huser accountId hother
      rcases haccepted.elsewhere_or hactor (by rw [huser]; decide) hother with
        hsame | ⟨hadmin, -⟩
      · exact hsame
      · rw [huser] at hadmin
        cases hadmin
    · exact fun htype => .inl (administrative_effect htype heffect)

theorem PrivilegeFrame.of_audits {audits : Table AuditRecord.auditId}
    (h : PrivilegeFrame env inv db db') : PrivilegeFrame env inv db { db' with audits } where
  roles := h.roles
  created := h.created
  others := by
    intro actor hactor hrole account hmem hother
    rcases h.others actor hactor hrole account hmem hother with hsame | hadmin
    · exact .inl (.of_audits hsame)
    · exact .inr hadmin
  own := fun actor hactor huser accountId hother => .of_audits (h.own actor hactor huser _ hother)
  administrators := by
    intro htype
    rcases h.administrators htype with hcarries | hsame
    · exact .inl hcarries
    · refine .inr ?_
      rw [hsame]

theorem CommandStep.privilegeFrame (h : CommandStep env inv db db') :
    PrivilegeFrame env inv db db' := by
  obtain ⟨base, hbase, hsame⟩ := h.exists_base
  rw [hsame]
  exact (privilegeFrame_base hbase).of_audits

/-- In every state, and wherever a statement fails, a command keeps to its frame. -/
theorem execute_keeps_privilegeFrame (env : IdentityEnvironment) (inv : Invocation)
    (fails : Site → Nat → Bool) (db : IdentityStore) :
    PrivilegeFrame env inv db
      (Script.run noCall fails (execute env inv) 0 (.idle db)).2.committed :=
  (execute_commits env inv fails db).privilegeFrame

end Privileges

end ChoiceMind.IdentityAccess
