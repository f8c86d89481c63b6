import ChoiceMind.Foundation.Throttle
import ChoiceMind.IdentityAccess.Atomicity

/-!
# The login throttle

Logins for one username key, one after another. The throttle row of a key is a counter under a
lock; a locked login runs without a password verification.
-/

namespace ChoiceMind.IdentityAccess

set_option autoImplicit false

open Contracts Transition

/-! ### The throttle of a key -/

/-- `failedCount >= 5` sets a lock. -/
def loginFailureLimit : Nat := 5

def LoginThrottle.state (throttle : LoginThrottle) : Throttle.State :=
  ⟨throttle.failedCount, throttle.lockedUntil⟩

def IdentityStore.throttleState (db : IdentityStore) (usernameKey : String) : Throttle.State :=
  ((db.throttles.find? usernameKey).map LoginThrottle.state).getD .initial

/-- The lock that stops a login. -/
def IdentityStore.loginLock (db : IdentityStore) (usernameKey : String) (now : Instant) :
    Option Instant :=
  ((db.throttles.find? usernameKey).bind LoginThrottle.lockedUntil).filter fun lockedUntil =>
    now < lockedUntil

/-- A login without the verification of a password: what runs while the key is locked. -/
def lockedLogin (inv : Invocation) (usernameKey : String) (lockedUntil : Instant) : CommandM := do
  beginTransaction
  query (advisoryLock ("choicemind-login-" ++ usernameKey))
  let _ ← query (selectThrottle usernameKey)
  query (appendAudit (inv.audit none .account usernameKey .denied))
  commitTransaction
  return .failure .loginThrottled (some lockedUntil)

section Locks
variable {db db' : IdentityStore} {usernameKey : String} {now : Instant}

theorem loginLock_eq_none_iff :
    db.loginLock usernameKey now = none ↔ (db.throttleState usernameKey).locks now = false := by
  unfold IdentityStore.loginLock IdentityStore.throttleState Throttle.State.locks
  cases db.throttles.find? usernameKey with
  | none => exact iff_of_true rfl rfl
  | some throttle =>
    cases hlock : throttle.lockedUntil with
    | none => simp [LoginThrottle.state, hlock]
    | some lockedUntil => simp [LoginThrottle.state, hlock]

theorem throttleState_of_throttles (h : db'.throttles = db.throttles) :
    db'.throttleState usernameKey = db.throttleState usernameKey := by
  unfold IdentityStore.throttleState
  rw [h]

theorem throttleState_upsert (throttle : LoginThrottle) :
    (db.upsertThrottle throttle).throttleState throttle.usernameKey = throttle.state := by
  unfold IdentityStore.throttleState IdentityStore.upsertThrottle
  rw [Table.find?_set_self]
  rfl

theorem insertAudit?_throttles {record : AuditRecord} (h : db.insertAudit? record = some db') :
    db'.throttles = db.throttles := by
  obtain ⟨audits, -, rfl⟩ := Option.map_eq_some_iff.mp h
  rfl

end Locks

/-! ### One login -/

section Login
variable {env : IdentityEnvironment} {inv : Invocation} {db db' : IdentityStore}
  {password username : String} {result : IdentityCommandResult}

theorem execute_login (h : inv.command = .login password username) :
    execute env inv = login env inv password username := by
  unfold execute auditActor executeAs
  rw [h]
  rfl

/-- While the key is locked a login verifies no password, whatever statements fail. -/
theorem run_locked (h : inv.command = .login password username) {lockedUntil : Instant}
    (hlock : db.loginLock (normalizeUsername username) inv.now = some lockedUntil)
    (fails : Site → Nat → Bool) :
    Script.run noCall fails (execute env inv) 0 (.idle db) =
      Script.run noCall fails (lockedLogin inv (normalizeUsername username) lockedUntil) 0
        (.idle db) := by
  unfold IdentityStore.loginLock at hlock
  rw [execute_login h]
  have hthrottle : Statement.eval (selectThrottle (normalizeUsername username)) db =
      .ok (db.throttles.find? (normalizeUsername username), db) := rfl
  have hadvisory : Statement.eval
      (advisoryLock ("choicemind-login-" ++ normalizeUsername username)) db = .ok ((), db) := rfl
  -- statement by statement, both scripts are the same up to the check of the lock
  simp only [login, lockedLogin, beginTransaction, query, Script.start_bind, Script.query_bind,
    Script.done_bind, Script.run, Connection.start_idle, Connection.view_within, hadvisory,
    hthrottle, Connection.put_within, hlock]

/-- A login that returns has its effect. -/
theorem login_ok (h : inv.command = .login password username) {fails : Site → Nat → Bool}
    {c : Connection IdentityStore}
    (hrun : Script.run noCall fails (execute env inv) 0 (.idle db) = (.ok result, c)) :
    loginEffect env inv db password username = some (result, c.committed) := by
  rw [execute_login h] at hrun
  have hworks := @login_works env inv db (fun _ => False) password username
  rcases hworks.run_cases fails 0 with ⟨result', db', heffect, hended⟩ | ⟨_, hrefusal, -⟩ |
    ⟨failure, hended⟩
  · rw [hended] at hrun
    cases hrun
    exact heffect
  · exact hrefusal.elim
  · rw [hended] at hrun
    cases hrun

/-- An accepted login clears the throttle of its key. -/
theorem acceptLoginEffect_ok {usernameKey : String} {account : Account}
    (h : acceptLoginEffect env inv db usernameKey account = some (result, db')) :
    result.ok = true ∧ db'.throttles.find? usernameKey = none := by
  obtain ⟨opened, hsession, hrest⟩ := Option.bind_eq_some_iff.mp h
  obtain ⟨audited, haudit, hresult⟩ := Option.bind_eq_some_iff.mp hrest
  obtain ⟨sessions, tokens_nodup, -, rfl⟩ := IdentityStore.insertSession?_eq_some hsession
  have hcleared : audited.throttles.find? usernameKey = none := by
    rw [insertAudit?_throttles haudit]
    refine Table.find?_eq_none.mpr fun throttle hthrottle hkey => ?_
    have hkept := (Table.mem_deleteWhere.mp hthrottle).2
    rw [hkey, decide_eq_true rfl] at hkept
    cases hkept
  split at hresult
  · obtain ⟨due, -, hsame⟩ := Option.map_eq_some_iff.mp hresult
    cases hsame
    exact ⟨rfl, hcleared⟩
  · cases hresult
    exact ⟨rfl, hcleared⟩

/-- A login that a lock stops changes only the audit records. -/
theorem loginEffect_locked {lockedUntil : Instant}
    (hlock : db.loginLock (normalizeUsername username) inv.now = some lockedUntil)
    (h : loginEffect env inv db password username = some (result, db')) :
    result = .failure .loginThrottled (some lockedUntil) ∧
      db' = { db with audits := db'.audits } := by
  unfold IdentityStore.loginLock at hlock
  unfold loginEffect at h
  dsimp only at h
  rw [hlock] at h
  dsimp only at h
  obtain ⟨base, hinsert, hresult⟩ := Option.bind_eq_some_iff.mp h
  cases hresult
  obtain ⟨audits, -, rfl⟩ := Option.map_eq_some_iff.mp hinsert
  exact ⟨rfl, rfl⟩

/-- A refused login that no lock stops counts as a failure. -/
theorem loginEffect_refused (hlock : db.loginLock (normalizeUsername username) inv.now = none)
    (hrefused : result.ok = false)
    (h : loginEffect env inv db password username = some (result, db')) :
    db'.throttleState (normalizeUsername username) =
      (db.throttleState (normalizeUsername username)).fail loginFailureLimit
        loginThrottleLifetimeMs inv.now := by
  unfold IdentityStore.loginLock at hlock
  unfold loginEffect at h
  dsimp only at h
  rw [hlock] at h
  dsimp only at h
  cases haccepts : (db.accounts.rows.find? fun account =>
      account.usernameKey = normalizeUsername username).filter (acceptsLogin env password) with
  | none =>
    rw [haccepts] at h
    obtain ⟨base, hinsert, hresult⟩ := Option.bind_eq_some_iff.mp h
    have hbase : base = db' := by
      split at hresult <;> cases hresult <;> rfl
    rw [← hbase, throttleState_of_throttles (insertAudit?_throttles hinsert),
      throttleState_upsert]
    unfold IdentityStore.throttleState
    cases db.throttles.find? (normalizeUsername username) with
    | none => rfl
    | some throttle => rfl
  | some account =>
    rw [haccepts] at h
    rw [(acceptLoginEffect_ok h).1] at hrefused
    cases hrefused

/-- With new draws the password of an active account is accepted where no lock stops it. -/
theorem exists_loginEffect {account : Account} (hactive : account.status = .active)
    (hlock : db.loginLock (normalizeUsername username) inv.now = none)
    (hfound : (db.accounts.rows.find? fun account =>
      account.usernameKey = normalizeUsername username) = some account)
    (hpassword : env.verifyPassword password account.passwordHash = true)
    (hsession : DrawsNewSession env inv db)
    (haudit : ∀ record ∈ db.audits, record.auditId ≠ inv.draws.auditId) :
    ∃ result db', loginEffect env inv db password username = some (result, db') ∧
      result.ok = true ∧ db'.throttles.find? (normalizeUsername username) = none := by
  have haccepts : acceptsLogin env password account = true := by
    simp [acceptsLogin, hactive, hpassword]
  have heffect : loginEffect env inv db password username =
      acceptLoginEffect env inv db (normalizeUsername username) account := by
    unfold IdentityStore.loginLock at hlock
    unfold loginEffect
    dsimp only
    rw [hlock, hfound, Option.filter_some, haccepts]
    rfl
  have hnew : ((db.deleteThrottle (normalizeUsername username)).insertSession?
      (newSession env inv (inv.draws.uuid 0) account.accountId (inv.draws.bytes 0))).isSome :=
    insertSession?_isSome_iff.mpr hsession
  obtain ⟨opened, hopened⟩ := Option.isSome_iff_exists.mp hnew
  have haudits : opened.audits = db.audits := by
    obtain ⟨sessions, tokens_nodup, -, rfl⟩ := IdentityStore.insertSession?_eq_some hopened
    rfl
  obtain ⟨audits, hinsert⟩ := @Table.exists_insert? _ _ _ _ opened.audits
    (inv.audit (some account.accountId.text) .account account.accountId.text .allowed)
    (by rw [haudits]; exact haudit)
  have haccepted : ∃ accepted,
      acceptLoginEffect env inv db (normalizeUsername username) account = some accepted := by
    have haudited : opened.insertAudit? (inv.audit (some account.accountId.text) .account
        account.accountId.text .allowed) = some { opened with audits } := by
      unfold IdentityStore.insertAudit?
      rw [hinsert]
      rfl
    unfold acceptLoginEffect
    rw [hopened]
    dsimp only [bind, Option.bind]
    rw [haudited]
    dsimp only
    rw [if_neg (by rw [hactive]; decide)]
    exact ⟨_, rfl⟩
  obtain ⟨⟨result, db'⟩, haccepted⟩ := haccepted
  exact ⟨result, db', heffect.trans haccepted, acceptLoginEffect_ok haccepted⟩

end Login

/-! ### Logins one after another -/

/-- The invocation of a login for a key. -/
def loginFor (usernameKey : String) : IdentityLabel → Option Invocation
  | .execute inv _ =>
    match inv.command with
    | .login _ username => if normalizeUsername username = usernameKey then some inv else none
    | _ => none
  | _ => none

abbrev IdentityEntry := Entry IdentityWorld IdentityLabel IdentityReply

/-- When the login of a step is executed. -/
def loginAt (usernameKey : String) (e : IdentityEntry) : Instant :=
  ((loginFor usernameKey e.label).map Invocation.now).getD 0

/-- A login for the key that returns without success. -/
def failsLogin (usernameKey : String) (e : IdentityEntry) : Bool :=
  (loginFor usernameKey e.label).isSome &&
    match e.reply with
    | .executed (.ok result) => !result.ok
    | _ => false

/-- Logins for one key in the order of their times, none of them successful. -/
structure FailedLogins (usernameKey : String) (es : List IdentityEntry) : Prop where
  fails : ∀ e ∈ es, failsLogin usernameKey e = true
  ordered : (es.map (loginAt usernameKey)).Pairwise (· ≤ ·)

/-- No lock stops the login, so that it verifies the password. -/
def verifiesPassword (usernameKey : String) (e : IdentityEntry) : Bool :=
  (e.before.db.loginLock usernameKey (loginAt usernameKey e)).isNone

/-- A login that a lock stops runs without a verification and changes only audit records. -/
structure StoppedByLock (env : IdentityEnvironment) (usernameKey : String) (e : IdentityEntry) :
    Prop where
  unverified : ∃ inv fails lockedUntil, e.label = .execute inv fails ∧
    Script.run noCall fails (execute env inv) 0 (.idle e.before.db) =
      Script.run noCall fails (lockedLogin inv usernameKey lockedUntil) 0 (.idle e.before.db)
  kept : e.after = { e.before with db := { e.before.db with audits := e.after.db.audits } }

/-- A login with the password of an active account where no lock is in force and the draws are
new. -/
structure OpenLogin (env : IdentityEnvironment) (usernameKey : String) (db : IdentityStore)
    (inv : Invocation) : Prop where
  command : ∃ password username account, inv.command = .login password username ∧
    normalizeUsername username = usernameKey ∧
    (db.accounts.rows.find? fun account => account.usernameKey = usernameKey) = some account ∧
    account.status = .active ∧ env.verifyPassword password account.passwordHash = true
  unlocked : db.loginLock usernameKey inv.now = none
  session : DrawsNewSession env inv db
  audit : ∀ record ∈ db.audits, record.auditId ≠ inv.draws.auditId

section Runs
variable {env : IdentityEnvironment} {usernameKey : String} {world world' : IdentityWorld}
  {es : List IdentityEntry}

theorem loginFor_eq_some {label : IdentityLabel} {inv : Invocation}
    (h : loginFor usernameKey label = some inv) : ∃ fails password username,
      label = .execute inv fails ∧ inv.command = .login password username ∧
        normalizeUsername username = usernameKey := by
  unfold loginFor at h
  split at h
  · rename_i inv' fails
    split at h
    · rename_i password username hcommand
      split at h
      · rename_i hkey
        cases h
        exact ⟨fails, password, username, rfl, hcommand, hkey⟩
      · cases h
    · cases h
  · cases h

/-- What a failed login is. -/
theorem failsLogin_cases {e : IdentityEntry} (h : failsLogin usernameKey e = true)
    (hstep : worldStep env e.before e.label = some (e.reply, e.after)) :
    ∃ inv fails password username result, e.label = .execute inv fails ∧
      inv.command = .login password username ∧ normalizeUsername username = usernameKey ∧
      loginAt usernameKey e = inv.now ∧ result.ok = false ∧
      loginEffect env inv e.before.db password username = some (result, e.after.db) ∧
      e.after = { e.before with db := e.after.db } := by
  obtain ⟨hlogin, hreply⟩ := Bool.and_eq_true_iff.mp h
  obtain ⟨inv, hinv⟩ := Option.isSome_iff_exists.mp hlogin
  obtain ⟨fails, password, username, hlabel, hcommand, hkey⟩ := loginFor_eq_some hinv
  have hat : loginAt usernameKey e = inv.now := by
    unfold loginAt
    rw [hinv]
    rfl
  split at hreply
  · rename_i result hresult
    rw [Bool.not_eq_true'] at hreply
    rw [hlabel, hresult] at hstep
    unfold worldStep at hstep
    dsimp only at hstep
    rw [Option.some.injEq, Prod.mk.injEq] at hstep
    obtain ⟨hok, hafter⟩ := hstep
    have hended := login_ok hcommand (Prod.ext (IdentityReply.executed.inj hok) rfl)
    refine ⟨inv, fails, password, username, result, hlabel, hcommand, hkey, hat, hreply, ?_, ?_⟩
    · rw [← hafter]
      exact hended
    · rw [← hafter]
  · cases hreply

/-- A failed login is an attempt on the throttle of its key. -/
theorem failedLogin_attempt {e : IdentityEntry} (h : failsLogin usernameKey e = true)
    (hstep : worldStep env e.before e.label = some (e.reply, e.after)) :
    e.after.db.throttleState usernameKey = (e.before.db.throttleState usernameKey).attempt
      loginFailureLimit loginThrottleLifetimeMs (loginAt usernameKey e) := by
  obtain ⟨inv, fails, password, username, result, -, -, rfl, hat, hrefused, heffect, -⟩ :=
    failsLogin_cases h hstep
  unfold Throttle.State.attempt
  rw [hat]
  cases hlock : e.before.db.loginLock (normalizeUsername username) inv.now with
  | none =>
    rw [if_neg (Bool.eq_false_iff.mp (loginLock_eq_none_iff.mp hlock))]
    exact loginEffect_refused hlock hrefused heffect
  | some lockedUntil =>
    have hlocks : (e.before.db.throttleState (normalizeUsername username)).locks inv.now =
        true := by
      by_contra hopen
      rw [loginLock_eq_none_iff.mpr (Bool.eq_false_iff.mpr hopen)] at hlock
      cases hlock
    rw [if_pos hlocks]
    refine throttleState_of_throttles ?_
    rw [(loginEffect_locked hlock heffect).2]

/-- The verifying logins of a run are the attempts that the throttle admits. -/
theorem verified_eq_admitted (hrun : Run (worldStep env) world es world')
    (hfails : ∀ e ∈ es, failsLogin usernameKey e = true) :
    (es.filter (verifiesPassword usernameKey)).map (loginAt usernameKey) =
      Throttle.admitted loginFailureLimit loginThrottleLifetimeMs
        (world.db.throttleState usernameKey) (es.map (loginAt usernameKey)) := by
  induction hrun with
  | nil => rfl
  | @cons s t u label reply es hstep hrest ih =>
    rw [List.forall_mem_cons] at hfails
    have hafter := failedLogin_attempt hfails.1 hstep
    have hih := ih hfails.2
    unfold Throttle.State.attempt at hafter
    rw [List.map_cons, Throttle.admitted, List.filter_cons]
    cases hlocks : (s.db.throttleState usernameKey).locks
        (loginAt usernameKey ⟨s, label, reply, t⟩) with
    | true =>
      have hstopped : ¬ verifiesPassword usernameKey ⟨s, label, reply, t⟩ = true := by
        unfold verifiesPassword
        rw [Option.isNone_iff_eq_none, loginLock_eq_none_iff, hlocks]
        exact Bool.false_ne_true.symm
      rw [if_neg hstopped, if_pos rfl, hih, hafter, if_pos hlocks]
    | false =>
      have hverified : verifiesPassword usernameKey ⟨s, label, reply, t⟩ = true := by
        unfold verifiesPassword
        rw [Option.isNone_iff_eq_none, loginLock_eq_none_iff, hlocks]
      rw [if_pos hverified, if_neg Bool.false_ne_true, List.map_cons, hih, hafter,
        if_neg (Bool.eq_false_iff.mp hlocks)]

theorem stoppedByLock {e : IdentityEntry} (h : failsLogin usernameKey e = true)
    (hstep : worldStep env e.before e.label = some (e.reply, e.after))
    (hstopped : verifiesPassword usernameKey e = false) : StoppedByLock env usernameKey e := by
  obtain ⟨inv, fails, password, username, result, hlabel, hcommand, rfl, hat, -, heffect,
    hworld⟩ := failsLogin_cases h hstep
  unfold verifiesPassword at hstopped
  rw [hat] at hstopped
  obtain ⟨lockedUntil, hlock⟩ :=
    Option.isSome_iff_exists.mp (Option.isNone_eq_false_iff.mp hstopped)
  refine ⟨⟨inv, fails, lockedUntil, hlabel, run_locked hcommand hlock fails⟩, ?_⟩
  rw [← (loginEffect_locked hlock heffect).2]
  exact hworld

/-- An open login is accepted and clears the throttle. -/
theorem OpenLogin.accepted {inv : Invocation} (h : OpenLogin env usernameKey world.db inv) :
    ∃ result world', worldStep env world (.execute inv noFailure) =
        some (.executed (.ok result), world') ∧
      result.ok = true ∧ world'.db.throttles.find? usernameKey = none := by
  obtain ⟨password, username, account, hcommand, rfl, hfound, hactive, hpassword⟩ := h.command
  obtain ⟨result, db', heffect, hok, hcleared⟩ :=
    exists_loginEffect hactive h.unlocked hfound hpassword h.session h.audit
  have hworks := @login_works env inv world.db (fun _ => False) password username
  have hended := hworks.outcome_of_effect heffect
  have hsends : (login env inv password username).Sends noCall
      (fun site _ => ∀ k, noFailure site k = false) (.idle world.db) :=
    hworks.sends.mono fun _ _ _ _ => rfl
  have hrun := @Script.run_eq_outcome _ _ _ _ _ _ _ noFailure _ 0 _ hsends
  rw [hended] at hrun
  refine ⟨result, { world with db := db' }, ?_, hok, hcleared⟩
  unfold worldStep
  dsimp only
  rw [execute_login hcommand, hrun]
  rfl

/-- In every window of one throttle lifetime at most five failing logins verify a password; a
locked key is not verified; and after the lock the right password is accepted again. -/
theorem login_throttled (hrun : Run (worldStep env) world es world')
    (hlogins : FailedLogins usernameKey es) :
    (∀ start : Instant, (es.countP fun e => verifiesPassword usernameKey e &&
        (start ≤ loginAt usernameKey e &&
          loginAt usernameKey e < start + loginThrottleLifetimeMs)) ≤ 5) ∧
      (∀ e ∈ es, verifiesPassword usernameKey e = false → StoppedByLock env usernameKey e) ∧
      ∀ inv, OpenLogin env usernameKey world'.db inv →
        ∃ result world'', worldStep env world' (.execute inv noFailure) =
            some (.executed (.ok result), world'') ∧
          result.ok = true ∧ world''.db.throttles.find? usernameKey = none := by
  refine ⟨fun start => ?_, fun e he hstopped => ?_, fun inv hopen => hopen.accepted⟩
  · have hbound := @Throttle.inWindow_le_limit loginFailureLimit loginThrottleLifetimeMs
      (world.db.throttleState usernameKey) start _ (by decide) hlogins.ordered
    rw [← verified_eq_admitted hrun hlogins.fails] at hbound
    unfold Throttle.inWindow at hbound
    rw [List.countP_map, List.countP_filter] at hbound
    refine le_of_eq_of_le (List.countP_congr fun e _ => ?_) hbound
    rw [Bool.and_comm]
    rfl
  · exact stoppedByLock (hlogins.fails e he) (hrun.entry_step he) hstopped

end Runs

/-- Five logins with a wrong password. -/
def sampleLogins : List IdentityLabel :=
  (List.range 5).map fun n =>
    .execute (sampleInvocation (n + 1) (n + 1) (.login "wrong" "root")) noFailure

/-- A login with the right password after the lock. -/
def sampleLogin : Invocation := sampleInvocation 6 40000 (.login "secret" "root")

/-- The lock on the sample account has expired. -/
abbrev SampleUnlocked (db : IdentityStore) : Prop :=
  normalizeUsername "root" = "root" ∧
  (∃ account ∈ db.accounts.rows.find? fun account => account.usernameKey = "root",
    account.status = .active ∧
      sampleEnvironment.verifyPassword "secret" account.passwordHash = true) ∧
  db.loginLock "root" sampleLogin.now = none ∧
  (sampleLogin.draws.uuid 0 ∉ (sessionNames db).1 ∧
    sampleEnvironment.hashOpaqueSecret (sampleLogin.draws.bytes 0) ∉ (sessionNames db).2) ∧
  ∀ record ∈ db.audits, record.auditId ≠ sampleLogin.draws.auditId

theorem openLogin_sample {db : IdentityStore} (h : SampleUnlocked db) :
    OpenLogin sampleEnvironment "root" db sampleLogin := by
  obtain ⟨hkey, ⟨account, hfound, hactive, hpassword⟩, hunlocked, hsession, haudit⟩ := h
  exact ⟨⟨"secret", "root", account, rfl, hkey, hfound, hactive, hpassword⟩, hunlocked, hsession,
    haudit⟩

theorem login_throttled_sample : ∃ result world es world' loggedIn world'',
    worldStep sampleEnvironment .initial (.execute sampleBootstrap noFailure) =
      some (.executed (.ok result), world) ∧
    Run (worldStep sampleEnvironment) world es world' ∧ es.map Entry.label = sampleLogins ∧
    (es.countP fun e => verifiesPassword "root" e &&
      (1 ≤ loginAt "root" e && loginAt "root" e < 1 + loginThrottleLifetimeMs)) ≤ 5 ∧
    worldStep sampleEnvironment world' (.execute sampleLogin noFailure) =
      some (.executed (.ok loggedIn), world'') ∧ loggedIn.ok = true := by
  have hexec : (exec (worldStep sampleEnvironment) .initial
      (.execute sampleBootstrap noFailure :: sampleLogins)).any (fun run =>
        (run.1.take 1).all (·.reply.isOk) &&
          decide (((∀ e ∈ run.1.drop 1, failsLogin "root" e = true) ∧
            ((run.1.drop 1).map (loginAt "root")).Pairwise (· ≤ ·)) ∧
              SampleUnlocked run.2.db)) = true := by
    decide +kernel
  obtain ⟨es, world', hrun, hlabels, hcheck⟩ := exists_labelled_run_of_exec hexec
  rw [Bool.and_eq_true, decide_eq_true_iff] at hcheck
  obtain ⟨hok, ⟨hfails, hordered⟩, hunlocked⟩ := hcheck
  cases hrun with
  | nil => cases hlabels
  | @cons _ world _ label reply es hstep hrest =>
    rw [List.map_cons, List.cons.injEq] at hlabels
    obtain ⟨rfl, hlabels⟩ := hlabels
    rw [List.take_succ_cons, List.take_zero, List.all_cons, List.all_nil, Bool.and_true] at hok
    obtain ⟨result, rfl, -⟩ := IdentityReply.isOk_iff.mp hok
    obtain ⟨hwindow, -, hlater⟩ := login_throttled hrest ⟨hfails, hordered⟩
    obtain ⟨loggedIn, world'', hlogin, haccepted, -⟩ :=
      hlater sampleLogin (openLogin_sample hunlocked)
    exact ⟨result, world, es, world', loggedIn, world'', hstep, hrest, hlabels, hwindow 1, hlogin,
      haccepted⟩

end ChoiceMind.IdentityAccess
