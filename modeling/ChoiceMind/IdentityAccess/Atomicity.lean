import ChoiceMind.IdentityAccess.Audits

/-!
# Commands are atomic with their audit record

Which commands change a row before the separate statement of their audit record is sent, and
that these are the only ones that can lose it.
-/

namespace ChoiceMind.IdentityAccess

set_option autoImplicit false

open Contracts Transition IdentityStore

/-! ### Commands that append their record afterwards -/

/-- The commands whose result goes through `withAudit`. -/
def IdentityCommand.closes : IdentityCommand → Bool
  | .bootstrapSuperadmin .. | .createInvitation _ | .registerWithInvitation .. | .login .. => false
  | _ => true

section Changes
variable {env : IdentityEnvironment} {inv : Invocation} {db db' base : IdentityStore}
  {result : IdentityCommandResult}

theorem closingAudit_ne_none :
    closingAudit env inv db result ≠ none ↔ inv.command.closes = true := by
  unfold closingAudit
  cases inv.command with
  | _ => simp [IdentityCommand.closes]

/-- An effect that changes a table. -/
def ChangesRows (db : IdentityStore) (effect : CommandEffect) : Prop :=
  ∃ result db', effect = some (result, db') ∧ db' ≠ db

theorem not_changes_none : ¬ ChangesRows db none := by
  rintro ⟨result, db', h, -⟩
  cases h

theorem changes_some : ChangesRows db (some (result, db')) ↔ db' ≠ db := by
  constructor
  · rintro ⟨result', db'', h, hne⟩
    cases h
    exact hne
  · intro hne
    exact ⟨result, db', rfl, hne⟩

theorem changes_bind {α : Type} {found : Option α} {f : α → CommandEffect} :
    ChangesRows db (found >>= f) ↔ ∃ a, found = some a ∧ ChangesRows db (f a) := by
  constructor
  · rintro ⟨result, db', h, hne⟩
    obtain ⟨a, hfound, hf⟩ := Option.bind_eq_some_iff.mp h
    exact ⟨a, hfound, result, db', hf, hne⟩
  · rintro ⟨a, hfound, result, db', hf, hne⟩
    exact ⟨result, db', Option.bind_eq_some_iff.mpr ⟨a, hfound, hf⟩, hne⟩

theorem changes_ite {p : Prop} [Decidable p] {effect : CommandEffect} :
    ChangesRows db (if p then none else effect) ↔ ¬p ∧ ChangesRows db effect := by
  by_cases hp : p
  · rw [if_pos hp]
    exact ⟨fun h => (not_changes_none h).elim, fun h => (h.1 hp).elim⟩
  · rw [if_neg hp]
    exact ⟨fun h => ⟨hp, h⟩, fun h => h.2⟩

/-! Which statements change a table -/

theorem find?_revokeSessionsWhere {condition : LoginSession → Bool} {now : Instant}
    {session : LoginSession} (hsession : session ∈ db.sessions)
    (hcondition : condition session = true) (hlive : session.revokedAt = none) :
    (db.revokeSessionsWhere condition now).sessions.find? session.sessionId =
      some { session with revokedAt := some now } := by
  unfold IdentityStore.revokeSessionsWhere IdentityStore.setRevoked
  rw [Table.find?_updateWhere, Table.find?_of_mem hsession, Option.map_some, hcondition, hlive]
  rfl

/-- A revocation changes the sessions of a live one. -/
theorem revokeSessionsWhere_ne {condition : LoginSession → Bool} {now : Instant}
    {session : LoginSession} (hbase : base.sessions = db.sessions)
    (hsession : session ∈ db.sessions) (hcondition : condition session = true)
    (hlive : session.revokedAt = none) : base.revokeSessionsWhere condition now ≠ db := by
  intro h
  have hfound : (base.revokeSessionsWhere condition now).sessions.find? session.sessionId =
      some { session with revokedAt := some now } :=
    find?_revokeSessionsWhere (hbase.symm ▸ hsession) hcondition hlive
  rw [h, Table.find?_of_mem hsession, Option.some.injEq] at hfound
  rw [hfound] at hlive
  cases hlive


theorem revokeSessions_ne {token : String} {condition : Account → Bool} {account : Account}
    {now now' : Instant} (h : db.sessionAccount env token now condition = some account)
    (hbase : base.sessions = db.sessions) : base.revokeSessions account.accountId now' ≠ db := by
  obtain ⟨session, hsession, -, hlive, -, hfound, -⟩ := sessionAccount_eq_some h
  refine revokeSessionsWhere_ne hbase hsession ?_ hlive
  rw [(Table.find?_eq_some.mp hfound).2, decide_eq_true_eq]

/-- The keys and token hashes of the sessions. -/
def sessionNames (db : IdentityStore) : List Uuid × List String :=
  (db.sessions.rows.map LoginSession.sessionId, db.sessions.rows.map LoginSession.tokenHash)

theorem sessionNames_revokeSessions {accountId : Uuid} {now : Instant} :
    sessionNames (db.revokeSessions accountId now) = sessionNames db := by
  unfold sessionNames IdentityStore.revokeSessions IdentityStore.revokeSessionsWhere
    IdentityStore.setRevoked Table.updateWhere
  simp only [List.map_map, Prod.mk.injEq]
  constructor
  · refine List.map_congr_left fun session _ => ?_
    dsimp only [Function.comp_apply]
    split <;> rfl
  · refine List.map_congr_left fun session _ => ?_
    dsimp only [Function.comp_apply]
    split <;> rfl

/-- The drawn id and token of a session are new. -/
def DrawsNewSession (env : IdentityEnvironment) (inv : Invocation) (db : IdentityStore) : Prop :=
  inv.draws.uuid 0 ∉ (sessionNames db).1 ∧
    env.hashOpaqueSecret (inv.draws.bytes 0) ∉ (sessionNames db).2

theorem insertSession?_isSome_iff {session : LoginSession} : (db.insertSession? session).isSome ↔
    session.sessionId ∉ (sessionNames db).1 ∧ session.tokenHash ∉ (sessionNames db).2 := by
  have hid : (db.sessions.insert? session).isSome ↔ session.sessionId ∉ (sessionNames db).1 := by
    rw [Table.insert?_isSome_iff]
    unfold sessionNames
    rw [List.mem_map, not_exists]
    refine forall_congr' fun old => ?_
    rw [not_and, ← Table.mem_rows]
  unfold insertSession?
  split
  · rename_i hnew
    rw [← hid]
    split
    · rename_i hnone
      rw [hnone]
      simp
    · rename_i sessions hsome
      exact iff_of_true rfl ⟨Option.isSome_iff_exists.mpr ⟨sessions, hsome⟩, hnew⟩
  · rename_i hknown
    simp only [Option.isSome_none, Bool.false_eq_true, false_iff, not_and]
    exact fun _ => hknown

/-- An effect that ends with a new session changes the sessions. -/
theorem changes_insertSession {accountId : Uuid} {result : IdentityCommandResult}
    (hnames : sessionNames base = sessionNames db) :
    ChangesRows db (base.insertSession? (newSession env inv (inv.draws.uuid 0) accountId
      (inv.draws.bytes 0)) >>= fun db => some (result, db)) ↔ DrawsNewSession env inv db := by
  have hiff : (base.insertSession? (newSession env inv (inv.draws.uuid 0) accountId
      (inv.draws.bytes 0))).isSome ↔ DrawsNewSession env inv db := by
    rw [insertSession?_isSome_iff, hnames]
    exact Iff.rfl
  rw [changes_bind, ← hiff, Option.isSome_iff_exists]
  refine exists_congr fun db' => ?_
  rw [changes_some, and_iff_left_iff_imp]
  rintro hinsert rfl
  obtain ⟨sessions, tokens_nodup, hrow, hdb⟩ := insertSession?_eq_some hinsert
  have hnew := (hiff.mp (by rw [hinsert]; rfl)).1
  refine hnew (List.mem_map.mpr ⟨newSession env inv (inv.draws.uuid 0) accountId
    (inv.draws.bytes 0), ?_, rfl⟩)
  rw [hdb]
  exact (Table.mem_insert? hrow).mpr (.inr rfl)

/-! What each command changes -/

/-- The drawn ids of the two events of a deletion are new. -/
def DrawsNewEvents (inv : Invocation) (db : IdentityStore) : Prop :=
  (∀ event ∈ db.events, event.eventId ≠ inv.draws.uuid 0) ∧
    (∀ event ∈ db.events, event.eventId ≠ inv.draws.uuid 1) ∧ inv.draws.uuid 0 ≠ inv.draws.uuid 1

theorem insertEvent?_isSome_iff {event : LifecycleEvent} :
    (db.insertEvent? event).isSome ↔ ∀ old ∈ db.events, old.eventId ≠ event.eventId := by
  unfold IdentityStore.insertEvent?
  rw [Option.isSome_map, Table.insert?_isSome_iff]

theorem mem_insertEvent? {event other : LifecycleEvent} (h : db.insertEvent? event = some db') :
    other ∈ db'.events ↔ other ∈ db.events ∨ other = event := by
  obtain ⟨events, hinsert, rfl⟩ := Option.map_eq_some_iff.mp h
  exact Table.mem_insert? hinsert

theorem changes_deletionRequest {accountId : Uuid} {text : String} :
    ChangesRows db (deletionRequestEffect inv db accountId text) ↔ DrawsNewEvents inv db := by
  unfold deletionRequestEffect DrawsNewEvents
  dsimp only
  generalize hbase : IdentityStore.revokeSessions accountId inv.now _ = base
  have hevents : base.events = db.events := by
    rw [← hbase]
    rfl
  rw [changes_bind, ← hevents]
  constructor
  · rintro ⟨db₁, hrestrict, hrest⟩
    obtain ⟨db₂, hdelete, -⟩ := changes_bind.mp hrest
    have hfirst := insertEvent?_isSome_iff.mp (Option.isSome_iff_exists.mpr ⟨db₁, hrestrict⟩)
    have hsecond := insertEvent?_isSome_iff.mp (Option.isSome_iff_exists.mpr ⟨db₂, hdelete⟩)
    refine ⟨hfirst, ?_, ?_⟩
    · intro event hevent
      exact hsecond event ((mem_insertEvent? hrestrict).mpr (.inl hevent))
    · exact hsecond _ ((mem_insertEvent? hrestrict).mpr (.inr rfl))
  · rintro ⟨hfirst, hsecond, hne⟩
    have hstart : (base.insertEvent? (inv.event (inv.draws.uuid 0) accountId .restrictAccount
        inv.now)).isSome := insertEvent?_isSome_iff.mpr hfirst
    obtain ⟨db₁, hrestrict⟩ := Option.isSome_iff_exists.mp hstart
    have hthird : (db₁.insertEvent? (inv.event (inv.draws.uuid 1) accountId .deleteAccount
        (inv.now + accountDeletionWaitMs))).isSome := by
      refine insertEvent?_isSome_iff.mpr fun event hevent => ?_
      rcases (mem_insertEvent? hrestrict).mp hevent with hold | rfl
      · exact hsecond event hold
      · exact hne
    obtain ⟨db₂, hdelete⟩ := Option.isSome_iff_exists.mp hthird
    refine ⟨db₁, hrestrict, changes_bind.mpr ⟨db₂, hdelete, changes_some.mpr ?_⟩⟩
    rintro rfl
    rw [hevents] at hfirst
    exact hfirst _ ((mem_insertEvent? hdelete).mpr (.inl ((mem_insertEvent? hrestrict).mpr
      (.inr rfl)))) rfl

theorem changes_createAccount {account : Account} {result : IdentityCommandResult} :
    ChangesRows db (db.insertAccount? account >>= fun db => some (result, db)) ↔
      ∀ old ∈ db.accounts, old.accountId ≠ account.accountId ∧
        old.usernameKey ≠ account.usernameKey := by
  have hiff : (db.insertAccount? account).isSome ↔ ∀ old ∈ db.accounts,
      old.accountId ≠ account.accountId ∧ old.usernameKey ≠ account.usernameKey := by
    unfold IdentityStore.insertAccount?
    by_cases htaken : db.accounts.rows.any (fun old => old.usernameKey = account.usernameKey) = true
    · rw [if_pos htaken]
      obtain ⟨old, hold, hkey⟩ := List.any_eq_true.mp htaken
      refine ⟨fun h => (Bool.false_ne_true h).elim, fun h => ?_⟩
      exact absurd (of_decide_eq_true hkey) (h old hold).2
    · rw [if_neg htaken, Option.isSome_map, Table.insert?_isSome_iff]
      refine forall₂_congr fun old hold => ?_
      rw [iff_self_and]
      intro _ hkey
      exact htaken (List.any_eq_true.mpr ⟨old, hold, decide_eq_true hkey⟩)
  rw [changes_bind, ← hiff, Option.isSome_iff_exists]
  refine exists_congr fun db' => ?_
  rw [changes_some, and_iff_left_iff_imp]
  rintro hinsert rfl
  obtain ⟨hnone, hsome, -⟩ := find?_insertAccount hinsert
  rw [hnone] at hsome
  cases hsome

/-- A revocation of sessions changes a live one. -/
theorem revoked_eq_self_iff {condition : LoginSession → Bool} {now : Instant} :
    db.sessions.updateWhere (fun session => condition session && session.revokedAt.isNone)
        (fun session => { session with revokedAt := some now }) (fun _ => rfl) = db.sessions ↔
      ¬∃ session ∈ db.sessions, condition session = true ∧ session.revokedAt = none := by
  rw [Table.updateWhere_eq_self_iff]
  simp only [Bool.and_eq_true, Option.isNone_iff_eq_none, not_exists, not_and]
  refine forall₂_congr fun session _ => ?_
  constructor
  · intro h hcondition hlive
    have hrow := congrArg LoginSession.revokedAt (h ⟨hcondition, hlive⟩)
    rw [hlive] at hrow
    cases hrow
  · intro h hlive
    exact (h hlive.1 hlive.2).elim

theorem updateAccount_eq_self_iff {id : Uuid} {target : Account} {f : Account → Account}
    {hf : ∀ account, (f account).accountId = account.accountId}
    (h : db.accounts.find? id = some target) :
    db.updateAccount id f hf = db ↔ f target = target := by
  have heq : db.updateAccount id f hf = db ↔ db.accounts.update id f hf = db.accounts := by
    unfold IdentityStore.updateAccount
    cases db
    simp only [IdentityStore.mk.injEq, and_true]
  rw [heq, Table.update_eq_self_iff h]

theorem revokeInvitation_ne {id : Uuid} {now : Instant}
    (hopen : (db.invitations.find? id).any (·.isOpen now) = true) :
    db.revokeInvitation id now ≠ db := by
  intro h
  have hrow := congrArg (fun db => (IdentityStore.invitations db).find? id) h
  unfold IdentityStore.revokeInvitation at hrow
  dsimp only at hrow
  rw [Table.find?_update_self] at hrow
  cases hfound : db.invitations.find? id with
  | none =>
    rw [hfound] at hopen
    cases hopen
  | some invitation =>
    rw [hfound, Option.map_some, Option.some.injEq] at hrow
    rw [hfound, ← hrow, Option.any_some] at hopen
    cases hopen

/-- The row of an account changes, or one of its sessions is closed. -/
theorem revokeSessions_updateAccount_ne_iff {id : Uuid} {target : Account} {now : Instant}
    {f : Account → Account} {hf : ∀ account, (f account).accountId = account.accountId}
    (h : db.accounts.find? id = some target) :
    (db.updateAccount id f hf).revokeSessions id now ≠ db ↔
      f target ≠ target ∨ ∃ session ∈ db.sessions, session.accountId = id ∧
        session.revokedAt = none := by
  have heq : (db.updateAccount id f hf).revokeSessions id now = db ↔
      db.accounts.update id f hf = db.accounts ∧ db.sessions.updateWhere
        (fun session => session.accountId = id && session.revokedAt.isNone)
        (fun session => { session with revokedAt := some now }) = db.sessions := by
    unfold IdentityStore.revokeSessions IdentityStore.revokeSessionsWhere
      IdentityStore.setRevoked IdentityStore.updateAccount
    cases db
    simp only [IdentityStore.mk.injEq, and_true, true_and]
  rw [Ne, heq, Table.update_eq_self_iff h, revoked_eq_self_iff, not_and_or, not_not]
  simp only [decide_eq_true_eq]

theorem cancelEvents_updateAccount_ne_iff {id : Uuid} {target : Account} {now : Instant}
    {types : List LifecycleEventType} {f : Account → Account}
    {hf : ∀ account, (f account).accountId = account.accountId}
    (h : db.accounts.find? id = some target) :
    (db.updateAccount id f hf).cancelEvents id types now ≠ db ↔
      f target ≠ target ∨ ∃ event ∈ db.events, event.accountId = id ∧
        types.contains event.eventType = true ∧ event.isPending = true := by
  have heq : (db.updateAccount id f hf).cancelEvents id types now = db ↔
      db.accounts.update id f hf = db.accounts ∧ db.events.updateWhere
        (fun event => event.accountId = id && types.contains event.eventType && event.isPending)
        (fun event => { event with cancelledAt := some now }) = db.events := by
    unfold IdentityStore.cancelEvents IdentityStore.updateAccount
    cases db
    simp only [IdentityStore.mk.injEq, true_and]
  have hevents : db.events.updateWhere
      (fun event => event.accountId = id && types.contains event.eventType && event.isPending)
      (fun event => { event with cancelledAt := some now }) = db.events ↔
      ¬∃ event ∈ db.events, event.accountId = id ∧ types.contains event.eventType = true ∧
        event.isPending = true := by
    rw [Table.updateWhere_eq_self_iff]
    simp only [Bool.and_eq_true, decide_eq_true_eq, and_imp, not_exists, not_and]
    refine forall₂_congr fun event _ => forall_congr' fun _ => forall_congr' fun _ => ?_
    constructor
    · intro h hpending
      have hrow := congrArg LifecycleEvent.cancelledAt (h hpending)
      unfold LifecycleEvent.isPending at hpending
      rw [← hrow, Bool.and_eq_true] at hpending
      cases hpending.2
    · intro h hpending
      exact (h hpending).elim
  rw [Ne, heq, Table.update_eq_self_iff h, hevents, not_and_or, not_not]

/-- What a change of the status writes. -/
def StatusWrites (inv : Invocation) (db : IdentityStore) (target : Account) : SettableStatus → Prop
  | .active => { target with status := .active, updatedAt := inv.now } ≠ target ∨
      ∃ event ∈ db.events, event.accountId = target.accountId ∧
        [LifecycleEventType.restrictAccount].contains event.eventType = true ∧
        event.isPending = true
  | .disabled =>
    if target.status = .disabled then
      { target with status := .disabled, updatedAt := inv.now } ≠ target ∨
        ∃ session ∈ db.sessions, session.accountId = target.accountId ∧
          session.revokedAt = none
    else ∀ event ∈ db.events, event.eventId ≠ inv.draws.uuid 0

theorem changes_accountStatus {text : String} {target : Account} {status : SettableStatus}
    (h : db.accounts.find? target.accountId = some target) :
    ChangesRows db (accountStatusEffect inv db text target status) ↔
      StatusWrites inv db target status := by
  unfold accountStatusEffect StatusWrites
  cases status with
  | active => exact changes_some.trans (cancelEvents_updateAccount_ne_iff h)
  | disabled =>
    dsimp only
    by_cases hdisabled : target.status = .disabled
    · rw [if_pos hdisabled, if_neg (not_not.mpr hdisabled), changes_some]
      exact revokeSessions_updateAccount_ne_iff h
    · rw [if_neg hdisabled, if_pos hdisabled, changes_bind]
      generalize hbase : IdentityStore.revokeSessions target.accountId inv.now _ = base
      have hevents : base.events = db.events := by
        rw [← hbase]
        rfl
      have hiff : (base.insertEvent? (inv.event (inv.draws.uuid 0) target.accountId
          .restrictAccount inv.now)).isSome ↔
          ∀ event ∈ db.events, event.eventId ≠ inv.draws.uuid 0 := by
        rw [insertEvent?_isSome_iff, hevents]
        exact Iff.rfl
      rw [← hiff, Option.isSome_iff_exists]
      refine exists_congr fun db' => and_iff_left_iff_imp.mpr fun hinsert => ?_
      refine changes_some.mpr ?_
      rintro rfl
      have hnew := hiff.mp (Option.isSome_iff_exists.mpr ⟨_, hinsert⟩)
      exact hnew _ ((mem_insertEvent? hinsert).mpr (.inr rfl)) rfl

end Changes

section Writes
variable (env : IdentityEnvironment) (inv : Invocation) (db : IdentityStore)

/-- The command passes its checks and changes a row before its record is appended. -/
def WritesFirst : Prop :=
  let sessionAccount token condition := db.sessionAccount env token inv.now condition
  match inv.command with
  | .bootstrapSuperadmin .. | .createInvitation _ | .registerWithInvitation .. | .login .. => False
  | .logoutCurrent sessionToken => ∃ session ∈ db.sessions,
    session.tokenHash = env.hashOpaqueSecret sessionToken ∧ session.revokedAt = none
  | .logoutAll sessionToken => ∃ account,
    sessionAccount sessionToken Account.hasFullAccess = some account
  | .changePassword currentPassword newPassword sessionToken =>
    isValidPassword newPassword = true ∧ ∃ account,
      sessionAccount sessionToken (fun account => account.status = .active) = some account ∧
      env.verifyPassword currentPassword account.passwordHash = true
  | .createAccount role sessionToken username =>
    env.isValidUsername username = true ∧ ∃ actor,
      administrator (sessionAccount sessionToken Account.hasFullAccess) = some actor ∧
      ¬(role = .admin ∧ actor.role ≠ .superadmin) ∧ ∀ old ∈ db.accounts,
        old.accountId ≠ inv.draws.uuid 0 ∧ old.usernameKey ≠ normalizeUsername username
  | .completeTemporaryPasswordChange newPassword sessionToken =>
    isValidPassword newPassword = true ∧ ∃ account,
      sessionAccount sessionToken (fun account =>
        account.status = .active && account.passwordKind = .temporary) = some account ∧
      DrawsNewSession env inv db
  | .resetAccountPassword accountId sessionToken => ∃ actor,
    administrator (sessionAccount sessionToken Account.hasFullAccess) = some actor ∧ ∃ id,
      env.parseUuid accountId = some id ∧ ∃ target, db.accounts.find? id = some target ∧
        ¬(target.status = .deleted ∨ target.role = .superadmin ∨
          (actor.role = .admin ∧ target.role ≠ .user)) ∧
        (target.withPassword (env.hashPassword (inv.draws.bytes 0) (inv.draws.bytes 1))
            .temporary inv.now ≠ target ∨
          ∃ session ∈ db.sessions, session.accountId = id ∧ session.revokedAt = none)
  | .revokeInvitation invitationId sessionToken => ∃ actor,
    administrator (sessionAccount sessionToken Account.hasFullAccess) = some actor ∧ ∃ id,
      env.parseUuid invitationId = some id ∧
        (db.invitations.find? id).any (·.isOpen inv.now) = true
  | .setAccountRole accountId currentPassword role sessionToken => ∃ actor,
    sessionAccount sessionToken Account.hasFullAccess = some actor ∧
      ¬actor.role ≠ .superadmin ∧ env.verifyPassword currentPassword actor.passwordHash = true ∧
      ∃ id, env.parseUuid accountId = some id ∧ ∃ target, db.accounts.find? id = some target ∧
        target.status ≠ .deleted ∧
        ¬db.takesLast (target.role = .superadmin && role ≠ .superadmin) id false = true ∧
        { target with role, updatedAt := inv.now } ≠ target
  | .setAccountStatus accountId currentPassword sessionToken status => ∃ actor,
    administrator (sessionAccount sessionToken Account.hasFullAccess) = some actor ∧ ∃ id,
      env.parseUuid accountId = some id ∧ ∃ target, db.accounts.find? id = some target ∧
        ¬(target.status = .deleted ∨ target.status = .pendingDeletion ∨
          (actor.role = .admin ∧ target.role ≠ .user)) ∧
        (target.role = .superadmin → ¬(actor.role ≠ .superadmin ∨
            !currentPassword.any (env.verifyPassword · actor.passwordHash)) ∧
          ¬db.takesLast (status = .disabled) id true = true) ∧
        StatusWrites inv db target status
  | .requestSelfDeletion currentPassword sessionToken => ∃ account,
    sessionAccount sessionToken Account.hasFullAccess = some account ∧
      ¬account.role ≠ .user ∧ env.verifyPassword currentPassword account.passwordHash = true ∧
      DrawsNewEvents inv db
  | .cancelSelfDeletion sessionToken => ∃ account,
    sessionAccount sessionToken (fun account => account.status = .pendingDeletion) =
      some account ∧ DrawsNewSession env inv db
  | .recoverSuperadmin isLocalRequest newPassword recoveryCode =>
    isLocalRequest = true ∧ isValidPassword newPassword = true ∧ ∃ target,
      db.recoverableAccount (env.hashOpaqueSecret recoveryCode) = some target ∧
      ¬(target.role ≠ .superadmin ∨ target.status ≠ .active) ∧
      ¬db.otherSuperadmins target.accountId true ≠ 0 ∧ DrawsNewSession env inv db
  | .requestAccountDeletion accountId currentPassword sessionToken => ∃ actor,
    sessionAccount sessionToken Account.hasFullAccess = some actor ∧
      ¬actor.role ≠ .superadmin ∧ env.verifyPassword currentPassword actor.passwordHash = true ∧
      ∃ id, env.parseUuid accountId = some id ∧ ∃ target, db.accounts.find? id = some target ∧
        ¬(target.role ≠ .user ∨ target.status ≠ .active) ∧ DrawsNewEvents inv db

variable {env inv db}

theorem changes_iteNot {b : Bool} {effect : CommandEffect} :
    ChangesRows db (if !b then none else effect) ↔ b = true ∧ ChangesRows db effect := by
  rw [changes_ite, Bool.not_eq_true, Bool.not_eq_false']

theorem changes_filter {found : Option Account} {f : Account → CommandEffect} :
    ChangesRows db (found.filter (fun _ => true) >>= f) ↔
      ∃ account, found = some account ∧ ChangesRows db (f account) := by
  rw [changes_bind]
  simp only [Option.filter_eq_some_iff, and_true]

/-- The condition is exact. -/
theorem writesFirst_iff : WritesFirst env inv db ↔
    inv.command.closes = true ∧ ChangesRows db (commandEffect env inv db) := by
  unfold WritesFirst commandEffect
  cases hcommand : inv.command with
  | bootstrapSuperadmin => simp [IdentityCommand.closes]
  | createInvitation => simp [IdentityCommand.closes]
  | registerWithInvitation => simp [IdentityCommand.closes]
  | login => simp [IdentityCommand.closes]
  | logoutCurrent sessionToken =>
    refine Iff.trans ?_ (and_iff_right rfl).symm
    unfold logoutCurrentEffect
    have heq : db.revokeSessionsWhere (fun session =>
        session.tokenHash = env.hashOpaqueSecret sessionToken) inv.now = db ↔
        db.sessions.updateWhere (fun session =>
          decide (session.tokenHash = env.hashOpaqueSecret sessionToken) &&
            session.revokedAt.isNone)
          (fun session => { session with revokedAt := some inv.now }) = db.sessions := by
      unfold IdentityStore.revokeSessionsWhere IdentityStore.setRevoked
      cases db
      simp only [IdentityStore.mk.injEq, and_true, true_and]
    rw [changes_some, Ne, heq, revoked_eq_self_iff, not_not]
    simp only [decide_eq_true_eq]
  | logoutAll sessionToken =>
    refine Iff.trans ?_ (and_iff_right rfl).symm
    have heffect : (logoutAllEffect env inv db sessionToken).map
        (fun accepted => (accepted.1.1, accepted.2)) =
        db.sessionAccount env sessionToken inv.now Account.hasFullAccess >>= fun account =>
          some (.done, db.revokeSessions account.accountId inv.now) := by
      unfold logoutAllEffect
      cases db.sessionAccount env sessionToken inv.now Account.hasFullAccess <;> rfl
    dsimp only
    rw [heffect, changes_bind]
    refine exists_congr fun account => (and_iff_left_of_imp fun haccount => ?_).symm
    exact changes_some.mpr (revokeSessions_ne haccount rfl)
  | changePassword currentPassword newPassword sessionToken =>
    refine Iff.trans ?_ (and_iff_right rfl).symm
    dsimp only
    rw [changePasswordEffect, changes_iteNot, changes_bind]
    refine and_congr_right fun _ => exists_congr fun account => and_congr_right fun haccount => ?_
    rw [changes_iteNot]
    refine (and_iff_left_of_imp fun _ => ?_).symm
    exact changes_some.mpr (revokeSessions_ne haccount rfl)
  | createAccount role sessionToken username =>
    refine Iff.trans ?_ (and_iff_right rfl).symm
    dsimp only
    rw [createAccountEffect, changes_iteNot, changes_bind]
    refine and_congr_right fun _ => exists_congr fun actor => and_congr_right fun _ => ?_
    dsimp only [Option.pure_def]
    rw [changes_ite, changes_createAccount]
    exact Iff.rfl
  | completeTemporaryPasswordChange newPassword sessionToken =>
    refine Iff.trans ?_ (and_iff_right rfl).symm
    dsimp only
    rw [completeTemporaryPasswordChangeEffect, changes_iteNot, changes_bind]
    refine and_congr_right fun _ => exists_congr fun account => and_congr_right fun _ => ?_
    dsimp only [Option.pure_def]
    refine (changes_insertSession ?_).symm
    exact sessionNames_revokeSessions.trans rfl
  | resetAccountPassword accountId sessionToken =>
    refine Iff.trans ?_ (and_iff_right rfl).symm
    dsimp only
    rw [resetAccountPasswordEffect, changes_bind]
    refine exists_congr fun actor => and_congr_right fun _ => ?_
    rw [changes_bind]
    refine exists_congr fun id => and_congr_right fun _ => ?_
    rw [changes_filter]
    refine exists_congr fun target => and_congr_right fun htarget => ?_
    rw [changes_ite]
    dsimp only [Option.pure_def]
    rw [changes_some, revokeSessions_updateAccount_ne_iff htarget]
  | revokeInvitation invitationId sessionToken =>
    refine Iff.trans ?_ (and_iff_right rfl).symm
    dsimp only
    rw [revokeInvitationEffect, changes_bind]
    refine exists_congr fun actor => and_congr_right fun _ => ?_
    rw [changes_bind]
    refine exists_congr fun id => and_congr_right fun _ => ?_
    by_cases hopen : (db.invitations.find? id).any (·.isOpen inv.now) = true
    · rw [if_pos hopen, changes_some]
      exact iff_of_true hopen (revokeInvitation_ne hopen)
    · rw [if_neg hopen]
      exact iff_of_false hopen not_changes_none
  | setAccountRole accountId currentPassword role sessionToken =>
    refine Iff.trans ?_ (and_iff_right rfl).symm
    dsimp only
    rw [setAccountRoleEffect, changes_bind]
    refine exists_congr fun actor => and_congr_right fun _ => ?_
    rw [changes_ite, changes_iteNot, changes_bind]
    refine and_congr_right fun _ => and_congr_right fun _ => ?_
    refine exists_congr fun id => and_congr_right fun _ => ?_
    rw [changes_bind]
    refine exists_congr fun target => ?_
    rw [Option.filter_eq_some_iff, decide_eq_true_eq, and_assoc]
    refine and_congr_right fun htarget => and_congr_right fun _ => ?_
    rw [changes_ite, changes_some]
    refine and_congr_right fun _ => ?_
    rw [Ne, Ne, updateAccount_eq_self_iff htarget]
  | setAccountStatus accountId currentPassword sessionToken status =>
    refine Iff.trans ?_ (and_iff_right rfl).symm
    dsimp only
    rw [setAccountStatusEffect, changes_bind]
    refine exists_congr fun actor => and_congr_right fun _ => ?_
    rw [changes_bind]
    refine exists_congr fun id => and_congr_right fun _ => ?_
    rw [changes_filter]
    refine exists_congr fun target => and_congr_right fun htarget => ?_
    rw [changes_ite]
    refine and_congr_right fun _ => ?_
    have hwrites : ∀ text, ChangesRows db (accountStatusEffect inv db text target status) ↔
        StatusWrites inv db target status := fun text => changes_accountStatus (find?_self htarget)
    by_cases hrole : target.role = .superadmin
    · rw [if_neg (not_not.mpr hrole), changes_ite, changes_ite, hwrites,
        forall_prop_of_true hrole, and_assoc]
    · rw [if_pos hrole, hwrites]
      exact and_iff_right_of_imp fun _ h => (hrole h).elim
  | requestSelfDeletion currentPassword sessionToken =>
    refine Iff.trans ?_ (and_iff_right rfl).symm
    dsimp only
    rw [requestSelfDeletionEffect, changes_bind]
    refine exists_congr fun account => and_congr_right fun _ => ?_
    rw [changes_ite, changes_iteNot, changes_deletionRequest]
  | cancelSelfDeletion sessionToken =>
    refine Iff.trans ?_ (and_iff_right rfl).symm
    dsimp only
    rw [cancelSelfDeletionEffect, changes_bind]
    refine exists_congr fun account => and_congr_right fun _ => ?_
    have hnames : sessionNames (db.revokeSessions account.accountId inv.now) = sessionNames db :=
      sessionNames_revokeSessions
    dsimp only [Option.pure_def]
    refine (changes_insertSession ?_).symm
    exact hnames
  | recoverSuperadmin isLocalRequest newPassword recoveryCode =>
    refine Iff.trans ?_ (and_iff_right rfl).symm
    dsimp only
    rw [recoverSuperadminEffect, changes_iteNot, changes_iteNot, changes_bind]
    refine and_congr_right fun _ => and_congr_right fun _ => ?_
    refine exists_congr fun target => and_congr_right fun _ => ?_
    rw [changes_ite, changes_ite]
    refine and_congr_right fun _ => and_congr_right fun _ => ?_
    dsimp only [Option.pure_def]
    refine (changes_insertSession ?_).symm
    exact sessionNames_revokeSessions.trans rfl
  | requestAccountDeletion accountId currentPassword sessionToken =>
    refine Iff.trans ?_ (and_iff_right rfl).symm
    dsimp only
    rw [requestAccountDeletionEffect, changes_bind]
    refine exists_congr fun actor => and_congr_right fun _ => ?_
    rw [changes_ite, changes_iteNot, changes_bind]
    refine and_congr_right fun _ => and_congr_right fun _ => ?_
    refine exists_congr fun id => and_congr_right fun _ => ?_
    rw [changes_filter]
    refine exists_congr fun target => and_congr_right fun _ => ?_
    rw [changes_ite, changes_deletionRequest]

end Writes

/-! ### Atomicity -/

/-- The database statement of a command that fails. -/
inductive FailurePoint
  | nowhere
  /-- the statement number `n` of the command's own ones -/
  | statement (n : Nat)
  | closingAudit

def FailurePoint.fails : FailurePoint → Site → Nat → Bool
  | nowhere, _, _ => false
  | statement n, site, k => site = .work && k = n
  | closingAudit, site, _ => site = .closingAudit

/-- A run of `execute` that changes no table where it throws, and commits its effect with exactly
one `ALLOWED` record where it returns ok. -/
structure AtomicWithAudit (env : IdentityEnvironment) (inv : Invocation) (db : IdentityStore)
    (run : Except (Failure IdentityError) IdentityCommandResult × Connection IdentityStore) :
    Prop where
  unchanged : ∀ failure, run.1 = .error failure → run.2.committed = db
  recorded : ∀ result, run.1 = .ok result → result.ok = true →
    run.2.committed.audits.rows = db.audits.rows ++ [allowedRecord env inv db result] ∧
    ∃ base, commandEffect env inv db = some (result, base) ∧
      run.2.committed = { base with audits := run.2.committed.audits }

section Atomicity
variable {env : IdentityEnvironment} {inv : Invocation} {db base db' : IdentityStore}
  {result : IdentityCommandResult}

theorem AtomicWithAudit.of_error {failure : Failure IdentityError} :
    AtomicWithAudit env inv db (.error failure, .idle db) where
  unchanged := fun _ _ => rfl
  recorded := by
    intro result hresult
    cases hresult

/-- The rows of the audit table when the closing audit record is appended. -/
theorem audits_settled {record : AuditRecord}
    (h : Settled (fun result => result.ok = false) db (commandEffect env inv db)
      (.ok result, .idle base)) (hclosing : closingAudit env inv db result = some record) :
    base.audits = db.audits := by
  generalize heffect : commandEffect env inv db = effect at h
  cases h with
  | refused => rfl
  | accepted =>
    rcases commandEffect_recorded heffect with ⟨hnone, -⟩ | ⟨-, haudits⟩
    · rw [hnone] at hclosing
      cases hclosing
    · exact haudits

theorem closingAudit_auditId {record : AuditRecord}
    (h : closingAudit env inv db result = some record) : record.auditId = inv.draws.auditId := by
  unfold closingAudit at h
  cases hcommand : inv.command with
  | _ =>
    rw [hcommand] at h
    cases h <;> rfl

/-- A command whose statements do not fail is atomic. -/
theorem Ended.atomic {ended : Except IdentityError IdentityCommandResult × Connection IdentityStore}
    (h : Ended (commandEffect env inv db) (closingAudit env inv db) db ended)
    (hfresh : ∀ record ∈ db.audits, record.auditId ≠ inv.draws.auditId) :
    AtomicWithAudit env inv db (Script.raise ended) := by
  cases h with
  | raised error => exact .of_error
  | @unrecorded result base hsettled hclosing =>
    refine ⟨fun _ h => (by cases h), ?_⟩
    rintro _ ⟨rfl⟩ hok
    have heffect := hsettled.effect_of_ok hok
    rcases commandEffect_recorded heffect with ⟨-, hrecorded⟩ | ⟨hsome, -⟩
    · exact ⟨hrecorded hok, base, heffect, rfl⟩
    · rw [hclosing] at hsome
      cases hsome
  | @recorded result base db' record hsettled hclosing hinsert =>
    refine ⟨fun _ h => (by cases h), ?_⟩
    rintro _ ⟨rfl⟩ hok
    have heffect := hsettled.effect_of_ok hok
    rcases commandEffect_recorded heffect with ⟨hnone, -⟩ | ⟨hsome, haudits⟩
    · rw [hnone] at hclosing
      cases hclosing
    · rw [hclosing, Option.some.injEq] at hsome
      refine ⟨?_, base, heffect, ?_⟩
      · rw [← haudits, ← hsome]
        exact audits_insertAudit hinsert
      · obtain ⟨audits, -, rfl⟩ := Option.map_eq_some_iff.mp hinsert
        rfl
  | @recordRefused result base record hsettled hclosing hinsert =>
    have hsome : (base.audits.insert? record).isSome := by
      refine Table.insert?_isSome_iff.mpr ?_
      rw [audits_settled hsettled hclosing, closingAudit_auditId hclosing]
      exact hfresh
    have hnone := Option.map_eq_none_iff.mp hinsert
    rw [hnone] at hsome
    cases hsome

end Atomicity

/-- The creation of an administrator account whose audit record cannot be appended. -/
def sampleUnaudited (world : IdentityWorld) :
    Except (Failure IdentityError) IdentityCommandResult × Connection IdentityStore :=
  Script.run noCall FailurePoint.closingAudit.fails
    (execute sampleEnvironment
      (sampleInvocation 1 1 (.createAccount .admin (sampleToken 0) "deputy")))
    0 (.idle world.db)

end ChoiceMind.IdentityAccess
