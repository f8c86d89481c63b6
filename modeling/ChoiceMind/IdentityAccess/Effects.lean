import ChoiceMind.IdentityAccess.Commands

/-!
# What an accepted command commits

For every command the conditions under which it is accepted and the state that its own
statements commit then, as a function of the state before. The scripts of the source agree
with these functions, and commit nothing before their last statement.
-/

namespace ChoiceMind.IdentityAccess

set_option autoImplicit false

open Contracts

/-! ### Changed accounts -/

section Keys
variable (inv : Invocation)

/-- The commands keep the ids of the accounts that they change. -/
theorem roleSet_key (role : AccountRole) : ∀ account : Account,
    ({ account with role, updatedAt := inv.now } : Account).accountId = account.accountId :=
  fun _ => rfl

theorem statusSet_key (status : SettableStatus) : ∀ account : Account,
    ({ account with status := status.status, updatedAt := inv.now } : Account).accountId =
      account.accountId := fun _ => rfl

theorem deletionRequested_key (due : Instant) : ∀ account : Account,
    ({ account with
      status := .pendingDeletion
      deletionRequestedAt := some inv.now
      deletionDueAt := some due
      updatedAt := inv.now } : Account).accountId = account.accountId := fun _ => rfl

theorem deletionCancelled_key : ∀ account : Account,
    ({ account with
      status := .active
      deletionRequestedAt := none
      deletionDueAt := none
      updatedAt := inv.now } : Account).accountId = account.accountId := fun _ => rfl

end Keys

/-! ### Scripts that commit at their end -/

/-- The end of a script over `db`: with its effect, or without any change. -/
inductive Settled {α : Type} (refusal : α → Prop) (db : IdentityStore) :
    Option (α × IdentityStore) → Except IdentityError α × Connection IdentityStore → Prop
  | accepted (result : α) (db' : IdentityStore) :
    Settled refusal db (some (result, db')) (.ok result, .idle db')
  | refused {result : α} (h : refusal result) : Settled refusal db none (.ok result, .idle db)
  | raised (error : IdentityError) : Settled refusal db none (.error error, .idle db)

/-- The identity commands call no other component. -/
def noCall (_ : HandlerCall) : Bool := true

/-- A script whose statements all run while `db` is committed, and which settles. -/
structure Works {α : Type} (answer : HandlerCall → Bool) (refusal : α → Prop)
    (db : IdentityStore) (effect : Option (α × IdentityStore)) (script : IdentityM α)
    (c : Connection IdentityStore) : Prop where
  sends : script.Sends answer (fun site committed => site = .work ∧ committed = db) c
  settled : Settled refusal db effect (script.outcome answer c)

namespace Works
variable {α β γ : Type} {answer : HandlerCall → Bool} {refusal : α → Prop}
  {db view view' : IdentityStore}
  {opened : Option IdentityStore} {effect : Option (α × IdentityStore)}
  {statement : IdentityStatement β} {next : β → IdentityM α} {script : IdentityM α}

theorem accepted (result : α) :
    Works answer refusal db (some (result, view)) (return result) (.idle view) :=
  ⟨trivial, .accepted result view⟩

theorem refused {result : α} (h : refusal result) :
    Works answer refusal db none (return result) (.idle db) :=
  ⟨trivial, .refused h⟩

theorem query {b : β} (h : Statement.eval statement (opened.getD db) = .ok (b, view'))
    (hnext : Works answer refusal db effect (next b) (Connection.put ⟨db, opened⟩ view')) :
    Works answer refusal db effect (IdentityAccess.query statement >>= next) ⟨db, opened⟩ := by
  constructor
  · exact (Script.sends_query_ok (c := ⟨db, opened⟩) h).mpr ⟨⟨rfl, rfl⟩, hnext.sends⟩
  · exact (Script.outcome_query_ok (c := ⟨db, opened⟩) h) ▸ hnext.settled

theorem raised {error : IdentityError}
    (h : Statement.eval statement (opened.getD db) = .error error) :
    Works answer refusal db none (IdentityAccess.query statement >>= next) ⟨db, opened⟩ := by
  constructor
  · exact (Script.sends_query_error (c := ⟨db, opened⟩) h).mpr ⟨rfl, rfl⟩
  · exact (Script.outcome_query_error (c := ⟨db, opened⟩) h) ▸ .raised error

theorem failed (error : IdentityError) :
    Works answer refusal db none (.fail error) ⟨db, opened⟩ :=
  ⟨trivial, .raised error⟩

theorem call {request : HandlerCall} {next : Bool → IdentityM α}
    (hnext : Works answer refusal db effect (next (answer request)) (.within db view)) :
    Works answer refusal db effect (.call request next) (.within db view) :=
  ⟨hnext.sends, hnext.settled⟩

/-- A statement that only reads. -/
theorem read {b : β} (h : Statement.eval statement (opened.getD db) = .ok (b, opened.getD db))
    (hnext : Works answer refusal db effect (next b) ⟨db, opened⟩) :
    Works answer refusal db effect (IdentityAccess.query statement >>= next) ⟨db, opened⟩ := by
  refine query h ?_
  cases opened with
  | none => exact hnext
  | some view => exact hnext

/-- A row that is looked for. -/
theorem find {found : Option γ} {statement : IdentityStatement (Option γ)}
    {next : Option γ → IdentityM α} {f : γ → Option (α × IdentityStore)}
    (h : Statement.eval statement (opened.getD db) = .ok (found, opened.getD db))
    (hnone : Works answer refusal db none (next none) ⟨db, opened⟩)
    (hsome : ∀ row, Works answer refusal db (f row) (next (some row)) ⟨db, opened⟩) :
    Works answer refusal db (found.bind f) (IdentityAccess.query statement >>= next)
      ⟨db, opened⟩ := by
  refine read h ?_
  cases found with
  | none => exact hnone
  | some row => exact hsome row

theorem insert {insert : IdentityStore → Option IdentityStore}
    {locks : List (IdentityRow × LockMode)} {next : Unit → IdentityM α}
    {f : IdentityStore → Option (α × IdentityStore)}
    (hnext : ∀ view', Works answer refusal db (f view') (next ()) (.within db view')) :
    Works answer refusal db ((insert view).bind f)
      (IdentityAccess.query (inserting insert locks) >>= next) (.within db view) := by
  have heval := inserting_eval insert locks view
  cases hinsert : insert view with
  | none =>
    rw [hinsert] at heval
    exact raised heval
  | some view' =>
    rw [hinsert] at heval
    exact query heval (hnext view')

/-- The reading of a uuid. -/
theorem uuid {env : IdentityEnvironment} {text : String} {next : Uuid → IdentityM α}
    {f : Uuid → Option (α × IdentityStore)}
    (hnext : ∀ id, Works answer refusal db (f id) (next id) ⟨db, opened⟩) :
    Works answer refusal db ((env.parseUuid text).bind f) (uuidParameter env text >>= next)
      ⟨db, opened⟩ := by
  unfold uuidParameter
  cases env.parseUuid text with
  | none => exact raised rfl
  | some id => exact hnext id

theorem ite {condition : Prop} [Decidable condition] {effect₁ effect₂ : Option (α × IdentityStore)}
    {script₁ script₂ : IdentityM α} {c : Connection IdentityStore}
    (h₁ : Works answer refusal db effect₁ script₁ c)
    (h₂ : Works answer refusal db effect₂ script₂ c) :
    Works answer refusal db (if condition then effect₁ else effect₂)
      (if condition then script₁ else script₂) c := by
  by_cases h : condition
  · rw [if_pos h, if_pos h]
    exact h₁
  · rw [if_neg h, if_neg h]
    exact h₂

theorem begin (h : Works answer refusal db effect script (.within db db)) :
    Works answer refusal db effect (beginTransaction >>= fun _ => script) (.idle db) where
  sends := ⟨⟨rfl, rfl⟩, h.sends⟩
  settled := h.settled

theorem commit (result : α) :
    Works answer refusal db (some (result, view)) (commitTransaction >>= fun _ => return result)
      (.within db view) where
  sends := ⟨⟨rfl, rfl⟩, trivial⟩
  settled := .accepted result view

/-- A script with an effect ends with it. -/
theorem outcome_of_effect {result : α} {db' : IdentityStore}
    (h : Works answer refusal db effect script (.idle db)) (heffect : effect = some (result, db')) :
    script.outcome answer (.idle db) = (.ok result, .idle db') := by
  have hsettled := h.settled
  subst heffect
  generalize script.outcome answer (.idle db) = ended at hsettled ⊢
  cases hsettled
  rfl

/-- A run of a settling script has its effect, or the committed state stays. -/
theorem run_cases (h : Works answer refusal db effect script (.idle db))
    (fails : Site → Nat → Bool) (n : Nat) :
    (∃ result db', effect = some (result, db') ∧
        script.run answer fails n (.idle db) = (.ok result, .idle db')) ∨
      (∃ result, refusal result ∧ effect = none ∧
        script.run answer fails n (.idle db) = (.ok result, .idle db)) ∨
      ∃ failure, script.run answer fails n (.idle db) = (.error failure, .idle db) := by
  rcases Script.run_cases fails n h.sends with
    hwhole | ⟨site, k, committed, -, ⟨-, hcommitted⟩, hcut⟩
  · rw [hwhole]
    have hsettled := h.settled
    generalize script.outcome answer (.idle db) = ended at hsettled
    cases hsettled with
    | accepted result db' => exact .inl ⟨result, db', rfl, rfl⟩
    | refused hrefusal => exact .inr (.inl ⟨_, hrefusal, rfl, rfl⟩)
    | raised error => exact .inr (.inr ⟨.raised error, rfl⟩)
  · rw [hcut, hcommitted]
    exact .inr (.inr ⟨.statement, rfl⟩)

/-- The session of a token, and then its account. -/
theorem selectSession {env : IdentityEnvironment} {token : String} {now : Instant}
    {condition : Account → Bool} {next : Option Account → IdentityM α}
    {f : Account → Option (α × IdentityStore)}
    (hnone : Works answer refusal db none (next none) (.within db view))
    (hsome : ∀ account,
      Works answer refusal db (f account) (next (some account)) (.within db view)) :
    Works answer refusal db ((view.sessionAccount env token now condition).bind f)
      (selectSessionAccountForUpdate env token now condition >>= next) (.within db view) := by
  unfold selectSessionAccountForUpdate IdentityStore.sessionAccount
  rw [Script.bind_assoc]
  refine read (reading_eval _ _) ?_
  rw [Option.getD_some]
  cases view.liveSession env token now with
  | none => exact hnone
  | some session => exact find (selectAccountForUpdate_eval _ _ _) hnone hsome

end Works

/-- A command is refused with a result that is not `ok`. -/
abbrev CommandWorks := Works noCall fun result : IdentityCommandResult => result.ok = false

section Commands
variable {db view : IdentityStore} {code : IdentityFailureCode}

theorem Works.refuse : CommandWorks db none (refuse code) (.idle db) := Works.refused rfl

theorem Works.rollback : CommandWorks db none (rollbackAndRefuse code) (.within db view) where
  sends := ⟨⟨rfl, rfl⟩, trivial⟩
  settled := .refused rfl

/-- An account that is looked for, and that has to be an administrator's. -/
theorem Works.administrator {opened : Option IdentityStore} {found : Option Account}
    {f : Account → Option (IdentityCommandResult × IdentityStore)}
    {refusal : CommandM} {next : Account → CommandM}
    (hnone : CommandWorks db none refusal ⟨db, opened⟩)
    (hsome : ∀ actor, CommandWorks db (f actor) (next actor) ⟨db, opened⟩) :
    CommandWorks db ((administrator found).bind f)
      (match IdentityAccess.administrator found with
        | none => refusal
        | some actor => next actor) ⟨db, opened⟩ := by
  cases IdentityAccess.administrator found with
  | none => exact hnone
  | some actor => exact hsome actor

/-- A new account whose username key may be known. -/
theorem Works.insertNew {opened : Option IdentityStore} {account : Account}
    {next : Bool → CommandM} {f : IdentityStore → Option (IdentityCommandResult × IdentityStore)}
    (hview : opened.getD db = view) (hrefused : CommandWorks db none (next false) ⟨db, opened⟩)
    (hnext : ∀ view', CommandWorks db (f view') (next true) (Connection.put ⟨db, opened⟩ view')) :
    CommandWorks db ((view.insertAccount? account).bind f)
      (IdentityAccess.query (insertNewAccount account) >>= next) ⟨db, opened⟩ := by
  have heval := insertNewAccount_eval account view
  rw [← hview] at heval ⊢
  cases hinsert : (opened.getD db).insertAccount? account with
  | none =>
    rw [hinsert] at heval
    exact .read heval hrefused
  | some view' =>
    rw [hinsert] at heval
    exact .query heval (hnext view')

/-- The account of a session, which has to be an administrator's. -/
theorem Works.selectAdministrator {env : IdentityEnvironment} {token : String} {now : Instant}
    {condition : Account → Bool} {f : Account → Option (IdentityCommandResult × IdentityStore)}
    {refusal : CommandM} {next : Account → CommandM}
    (hnone : CommandWorks db none refusal (.within db view))
    (hsome : ∀ actor, CommandWorks db (f actor) (next actor) (.within db view)) :
    CommandWorks db
      ((IdentityAccess.administrator (view.sessionAccount env token now condition)).bind f)
      (selectSessionAccountForUpdate env token now condition >>= fun found =>
        match IdentityAccess.administrator found with
        | none => refusal
        | some actor => next actor) (.within db view) := by
  have hadmin :
      (IdentityAccess.administrator (view.sessionAccount env token now condition)).bind f =
        (view.sessionAccount env token now condition).bind fun account =>
          (IdentityAccess.administrator (some account)).bind f := by
    cases view.sessionAccount env token now condition with
    | none => rfl
    | some account => rfl
  rw [hadmin]
  exact .selectSession hnone fun account => .administrator hnone hsome

theorem Works.session {env : IdentityEnvironment} {inv : Invocation} {accountId : Uuid}
    {refusal : IdentityCommandResult → Prop} {next : String → CommandM}
    {f : IdentityStore → Option (IdentityCommandResult × IdentityStore)}
    (hnext : ∀ view',
      Works noCall refusal db (f view') (next (inv.draws.bytes 0)) (.within db view')) :
    Works noCall refusal db ((view.insertSession?
        (newSession env inv (inv.draws.uuid 0) accountId (inv.draws.bytes 0))).bind f)
      (insertLoginSession env inv accountId >>= next) (.within db view) := by
  unfold insertLoginSession
  rw [Script.bind_assoc]
  exact Works.insert hnext

end Commands

/-! ### The commands -/

/-- The result of a command and the state that it commits; none where it changes nothing. -/
abbrev CommandEffect := Option (IdentityCommandResult × IdentityStore)

namespace IdentityStore

/-- The other `SUPERADMIN` accounts that are `ACTIVE`, and `PERMANENT` where that is asked. -/
def otherSuperadmins (accountId : Uuid) (permanent : Bool) (db : IdentityStore) : Nat :=
  (db.accounts.select fun account => account.role = .superadmin && account.status = .active &&
    (!permanent || account.passwordKind = .permanent) && account.accountId ≠ accountId).length

/-- A change that takes a superadministrator away and would leave no other one. -/
def takesLast (takes : Bool) (accountId : Uuid) (permanent : Bool) (db : IdentityStore) : Bool :=
  takes && db.otherSuperadmins accountId permanent = 0

end IdentityStore

@[simp] theorem countOtherSuperadmins_eval (accountId : Uuid) (permanent : Bool)
    (db : IdentityStore) :
    Statement.eval (countOtherSuperadmins accountId permanent) db =
      .ok (db.otherSuperadmins accountId permanent, db) := rfl

theorem Works.takesLast {db view : IdentityStore} {effect : CommandEffect} {takes : Bool}
    {accountId : Uuid} {permanent : Bool} {next : Bool → CommandM}
    (hnext : CommandWorks db effect (next (view.takesLast takes accountId permanent))
      (.within db view)) :
    CommandWorks db effect (takesLastSuperadmin takes accountId permanent >>= next)
      (.within db view) := by
  cases takes with
  | false => exact hnext
  | true => exact .read rfl hnext

section Effects
variable (env : IdentityEnvironment) (inv : Invocation) (db : IdentityStore)

def bootstrapSuperadminEffect (isLocalRequest : Bool) (password username : String) :
    CommandEffect :=
  if !env.isValidUsername username then none
  else if !isValidPassword password then none
  else if !isLocalRequest then none
  else if db.accounts.rows.length ≠ 0 then none
  else do
    let recoveryCode := formatRecoveryCode (inv.draws.bytes 1)
    let account := newAccount inv (inv.draws.uuid 1) username .superadmin
      (env.hashPassword password (inv.draws.bytes 2)) .permanent
    let db ← db.insertAccount? account
    let db ← db.insertRecoveryCode?
      ⟨account.accountId, env.hashOpaqueSecret recoveryCode, inv.now⟩
    let db ← db.insertSession?
      (newSession env inv (inv.draws.uuid 0) account.accountId (inv.draws.bytes 0))
    let db ← db.insertAudit?
      (inv.audit (some account.accountId.text) .account account.accountId.text .allowed)
    return (.access .full (account.summary .active) (inv.draws.bytes 0) (some recoveryCode) none,
      db)

theorem bootstrapSuperadmin_works (isLocalRequest : Bool) (password username : String) :
    CommandWorks db (bootstrapSuperadminEffect env inv db isLocalRequest password username)
      (bootstrapSuperadmin env inv isLocalRequest password username) (.idle db) := by
  refine .ite .refuse (.ite .refuse (.ite .refuse (.begin ?_)))
  refine .read rfl (.read rfl (.ite .rollback ?_))
  refine .insert fun db₁ => .insert fun db₂ => .session fun db₃ => .insert fun db₄ => ?_
  exact .commit _

def recoverSuperadminEffect (isLocalRequest : Bool) (newPassword recoveryCode : String) :
    CommandEffect :=
  if !isLocalRequest then none
  else if !isValidPassword newPassword then none
  else do
    let target ← db.recoverableAccount (env.hashOpaqueSecret recoveryCode)
    if target.role ≠ .superadmin ∨ target.status ≠ .active then none
    else if db.otherSuperadmins target.accountId true ≠ 0 then none
    else do
      let nextCode := formatRecoveryCode (inv.draws.bytes 1)
      let db := db.updateAccount target.accountId fun account =>
        account.withPassword (env.hashPassword newPassword (inv.draws.bytes 2)) .permanent inv.now
      let db := db.updateRecoveryCode target.accountId (env.hashOpaqueSecret nextCode) inv.now
      let db ← (db.revokeSessions target.accountId inv.now).insertSession?
        (newSession env inv (inv.draws.uuid 0) target.accountId (inv.draws.bytes 0))
      return (.access .full (target.summary .active) (inv.draws.bytes 0) (some nextCode) none, db)

theorem recoverSuperadmin_works (isLocalRequest : Bool) (newPassword recoveryCode : String) :
    CommandWorks db (recoverSuperadminEffect env inv db isLocalRequest newPassword recoveryCode)
      (recoverSuperadmin env inv isLocalRequest newPassword recoveryCode) (.idle db) := by
  refine .ite .refuse (.ite .refuse (.begin (.read rfl ?_)))
  refine .find rfl .rollback fun target => .ite .rollback (.read rfl (.ite .rollback ?_))
  refine .query rfl (.query rfl (.query (revokeSessionsWhere_eval _ _ _) ?_))
  exact .session fun db₁ => .commit _

def createInvitationEffect (sessionToken : String) : CommandEffect := do
  let actor ← administrator (db.sessionAccount env sessionToken inv.now Account.hasFullAccess)
  let invitationId := inv.draws.uuid 0
  let invitationCode := formatRecoveryCode (inv.draws.bytes 0)
  let expiresAt := inv.now + loginSessionLifetimeMs
  let db ← db.insertInvitation? ⟨invitationId, env.hashOpaqueSecret invitationCode,
    actor.accountId, inv.now, expiresAt, none, none, none⟩
  let db ← db.insertAudit?
    (inv.audit (some actor.accountId.text) .invitation invitationId.text .allowed)
  return (.invitation expiresAt invitationCode invitationId, db)

theorem createInvitation_works (sessionToken : String) :
    CommandWorks db (createInvitationEffect env inv db sessionToken)
      (createInvitation env inv sessionToken) (.idle db) := by
  refine .read rfl (.administrator .refuse fun actor => .begin ?_)
  exact .insert fun db₁ => .insert fun db₂ => .commit _

def registerWithInvitationEffect (invitationCode password username : String) : CommandEffect :=
  if !env.isValidUsername username then none
  else if !isValidPassword password then none
  else do
    let invitation ← db.openInvitation (env.hashOpaqueSecret invitationCode) inv.now
    let account := newAccount inv (inv.draws.uuid 1) username .user
      (env.hashPassword password (inv.draws.bytes 1)) .permanent
    let db ← db.insertAccount? account
    let db ← (db.useInvitation invitation.invitationId account.accountId inv.now).insertSession?
      (newSession env inv (inv.draws.uuid 0) account.accountId (inv.draws.bytes 0))
    let db ← db.insertAudit?
      (inv.audit (some account.accountId.text) .account account.accountId.text .allowed)
    return (.access .full (account.summary .active) (inv.draws.bytes 0) none none, db)

theorem registerWithInvitation_works (invitationCode password username : String) :
    CommandWorks db (registerWithInvitationEffect env inv db invitationCode password username)
      (registerWithInvitation env inv invitationCode password username) (.idle db) := by
  refine .ite .refuse (.ite .refuse (.begin (.find rfl .rollback fun invitation => ?_)))
  refine .insertNew rfl ?_ fun db₁ => ?_
  · exact .rollback
  · exact .query rfl (.session fun db₂ => .insert fun db₃ => .commit _)

def revokeInvitationEffect (invitationId sessionToken : String) : CommandEffect := do
  let _ ← administrator (db.sessionAccount env sessionToken inv.now Account.hasFullAccess)
  let id ← env.parseUuid invitationId
  if (db.invitations.find? id).any (·.isOpen inv.now) then
    some (.done, db.revokeInvitation id inv.now)
  else none

theorem revokeOpenInvitation_works (invitationId sessionToken : String) :
    CommandWorks db (revokeInvitationEffect env inv db invitationId sessionToken)
      (revokeOpenInvitation env inv invitationId sessionToken) (.idle db) := by
  refine .read rfl (.administrator .refuse fun _ => .uuid fun id => ?_)
  have heval := revokeInvitation_eval id inv.now db
  by_cases hopen : (db.invitations.find? id).any (·.isOpen inv.now) = true
  · rw [if_pos hopen] at heval ⊢
    exact .query heval (.accepted _)
  · rw [if_neg hopen] at heval ⊢
    exact .read heval .refuse

def setAccountRoleEffect (accountId currentPassword : String) (role : AccountRole)
    (sessionToken : String) : CommandEffect := do
  let actor ← db.sessionAccount env sessionToken inv.now Account.hasFullAccess
  if actor.role ≠ .superadmin then none
  else if !env.verifyPassword currentPassword actor.passwordHash then none
  else do
    let id ← env.parseUuid accountId
    let target ← (db.accounts.find? id).filter fun account => account.status ≠ .deleted
    if db.takesLast (target.role = .superadmin && role ≠ .superadmin) id false then none
    else
      some (.roleSet accountId role,
        db.updateAccount id (fun account => { account with role, updatedAt := inv.now })
          (roleSet_key inv role))

theorem setAccountRole_works (accountId currentPassword : String) (role : AccountRole)
    (sessionToken : String) :
    CommandWorks db (setAccountRoleEffect env inv db accountId currentPassword role sessionToken)
      (setAccountRole env inv accountId currentPassword role sessionToken) (.idle db) := by
  refine .begin (.selectSession .rollback fun actor => .ite .rollback (.ite .rollback ?_))
  refine .uuid fun id => .find rfl .rollback fun target => .takesLast (.ite .rollback ?_)
  exact .query rfl (.commit _)

/-- What `setAccountStatus` commits after its checks. -/
def accountStatusEffect (accountId : String) (target : Account) (status : SettableStatus) :
    CommandEffect :=
  let db := db.updateAccount target.accountId
    (fun account => { account with status := status.status, updatedAt := inv.now })
    (statusSet_key inv status)
  match status with
  | .active =>
    some (.statusSet accountId status, db.cancelEvents target.accountId [.restrictAccount] inv.now)
  | .disabled => do
    let db := db.revokeSessions target.accountId inv.now
    if target.status ≠ .disabled then do
      let db ← db.insertEvent?
        (inv.event (inv.draws.uuid 0) target.accountId .restrictAccount inv.now)
      return (.statusSet accountId status, db)
    else some (.statusSet accountId status, db)

theorem applyAccountStatus_works (view : IdentityStore) (accountId : String) (target : Account)
    (status : SettableStatus) :
    CommandWorks db (accountStatusEffect inv view accountId target status)
      (applyAccountStatus inv accountId target status) (.within db view) := by
  refine .query rfl ?_
  cases status with
  | active => exact .query (cancelEvents_eval _ _ _ _) (.commit _)
  | disabled =>
    refine .query (revokeSessionsWhere_eval _ _ _) ?_
    by_cases hstatus : target.status ≠ .disabled
    · simp only [accountStatusEffect, if_pos hstatus]
      exact .insert fun db₁ => .commit _
    · simp only [accountStatusEffect, if_neg hstatus]
      exact .commit _

def setAccountStatusEffect (accountId : String) (currentPassword : Option String)
    (sessionToken : String) (status : SettableStatus) : CommandEffect := do
  let actor ← administrator (db.sessionAccount env sessionToken inv.now Account.hasFullAccess)
  let id ← env.parseUuid accountId
  let target ← (db.accounts.find? id).filter fun _ => true
  if target.status = .deleted ∨ target.status = .pendingDeletion ∨
      (actor.role = .admin ∧ target.role ≠ .user) then none
  else if target.role ≠ .superadmin then accountStatusEffect inv db accountId target status
  else if actor.role ≠ .superadmin ∨
      !currentPassword.any (env.verifyPassword · actor.passwordHash) then none
  else if db.takesLast (status = .disabled) id true then none
  else accountStatusEffect inv db accountId target status

theorem setAccountStatus_works (accountId : String) (currentPassword : Option String)
    (sessionToken : String) (status : SettableStatus) :
    CommandWorks db
      (setAccountStatusEffect env inv db accountId currentPassword sessionToken status)
      (setAccountStatus env inv accountId currentPassword sessionToken status) (.idle db) := by
  have happly := fun target => applyAccountStatus_works inv db db accountId target status
  refine .begin (.selectAdministrator .rollback fun actor => .uuid fun id => ?_)
  refine .find rfl .rollback fun target => .ite .rollback (.ite (happly target) ?_)
  exact .ite .rollback (.takesLast (.ite .rollback (happly target)))

/-- What both deletion requests commit. -/
def deletionRequestEffect (accountId : Uuid) (text : String) : CommandEffect := do
  let deletionDueAt := inv.now + accountDeletionWaitMs
  let db := db.updateAccount accountId
    (fun account =>
      { account with
        status := .pendingDeletion
        deletionRequestedAt := some inv.now
        deletionDueAt := some deletionDueAt
        updatedAt := inv.now })
    (deletionRequested_key inv deletionDueAt)
  let db ← (db.revokeSessions accountId inv.now).insertEvent?
    (inv.event (inv.draws.uuid 0) accountId .restrictAccount inv.now)
  let db ← db.insertEvent? (inv.event (inv.draws.uuid 1) accountId .deleteAccount deletionDueAt)
  return (.deletionRequested text deletionDueAt, db)

theorem applyDeletionRequest_works (view : IdentityStore) (accountId : Uuid) (text : String) :
    CommandWorks db (deletionRequestEffect inv view accountId text)
      (applyDeletionRequest inv accountId text) (.within db view) := by
  refine .query rfl (.query (revokeSessionsWhere_eval _ _ _) ?_)
  exact .insert fun db₁ => .insert fun db₂ => .commit _

def requestSelfDeletionEffect (currentPassword sessionToken : String) : CommandEffect := do
  let account ← db.sessionAccount env sessionToken inv.now Account.hasFullAccess
  if account.role ≠ .user then none
  else if !env.verifyPassword currentPassword account.passwordHash then none
  else deletionRequestEffect inv db account.accountId account.accountId.text

theorem requestSelfDeletion_works (currentPassword sessionToken : String) :
    CommandWorks db (requestSelfDeletionEffect env inv db currentPassword sessionToken)
      (requestSelfDeletion env inv currentPassword sessionToken) (.idle db) := by
  refine .begin (.selectSession .rollback fun account => .ite .rollback (.ite .rollback ?_))
  exact applyDeletionRequest_works inv db db _ _

def requestAccountDeletionEffect (accountId currentPassword sessionToken : String) :
    CommandEffect := do
  let actor ← db.sessionAccount env sessionToken inv.now Account.hasFullAccess
  if actor.role ≠ .superadmin then none
  else if !env.verifyPassword currentPassword actor.passwordHash then none
  else do
    let id ← env.parseUuid accountId
    let target ← (db.accounts.find? id).filter fun _ => true
    if target.role ≠ .user ∨ target.status ≠ .active then none
    else deletionRequestEffect inv db id accountId

theorem requestAccountDeletion_works (accountId currentPassword sessionToken : String) :
    CommandWorks db
      (requestAccountDeletionEffect env inv db accountId currentPassword sessionToken)
      (requestAccountDeletion env inv accountId currentPassword sessionToken) (.idle db) := by
  refine .begin (.selectSession .rollback fun actor => .ite .rollback (.ite .rollback ?_))
  refine .uuid fun id => .find rfl .rollback fun target => .ite .rollback ?_
  exact applyDeletionRequest_works inv db db _ _

def cancelSelfDeletionEffect (sessionToken : String) : CommandEffect := do
  let account ← db.sessionAccount env sessionToken inv.now fun account =>
    account.status = .pendingDeletion
  let db := db.updateAccount account.accountId
    (fun account =>
      { account with
        status := .active
        deletionRequestedAt := none
        deletionDueAt := none
        updatedAt := inv.now })
    (deletionCancelled_key inv)
  let db := (db.revokeSessions account.accountId inv.now).cancelEvents account.accountId
    [.deleteAccount, .restrictAccount] inv.now
  let db ← db.insertSession?
    (newSession env inv (inv.draws.uuid 0) account.accountId (inv.draws.bytes 0))
  return (.access .full (account.summary .active) (inv.draws.bytes 0) none none, db)

theorem cancelSelfDeletion_works (sessionToken : String) :
    CommandWorks db (cancelSelfDeletionEffect env inv db sessionToken)
      (cancelSelfDeletion env inv sessionToken) (.idle db) := by
  refine .begin (.selectSession .rollback fun account => .query rfl ?_)
  refine .query (revokeSessionsWhere_eval _ _ _) (.query (cancelEvents_eval _ _ _ _) ?_)
  exact .session fun db₁ => .commit _

def createAccountEffect (role : CreatableRole) (sessionToken username : String) :
    CommandEffect :=
  if !env.isValidUsername username then none
  else do
    let actor ← administrator (db.sessionAccount env sessionToken inv.now Account.hasFullAccess)
    if role = .admin ∧ actor.role ≠ .superadmin then none
    else do
      let account := newAccount inv (inv.draws.uuid 0) username role.role
        (env.hashPassword (inv.draws.bytes 0) (inv.draws.bytes 1)) .temporary
      let db ← db.insertAccount? account
      return (.created (account.summary .active) (inv.draws.bytes 0), db)

theorem createAccount_works (role : CreatableRole) (sessionToken username : String) :
    CommandWorks db (createAccountEffect env inv db role sessionToken username)
      (createAccount env inv role sessionToken username) (.idle db) := by
  refine .ite .refuse (.read rfl (.administrator .refuse fun actor => .ite .refuse ?_))
  refine .insertNew rfl ?_ fun db₁ => ?_
  · exact .refuse
  · exact .accepted _

def resetAccountPasswordEffect (accountId sessionToken : String) : CommandEffect := do
  let actor ← administrator (db.sessionAccount env sessionToken inv.now Account.hasFullAccess)
  let id ← env.parseUuid accountId
  let target ← (db.accounts.find? id).filter fun _ => true
  if target.status = .deleted ∨ target.role = .superadmin ∨
      (actor.role = .admin ∧ target.role ≠ .user) then none
  else do
    let db := db.updateAccount id fun account =>
      account.withPassword (env.hashPassword (inv.draws.bytes 0) (inv.draws.bytes 1)) .temporary
        inv.now
    return (.reset accountId (inv.draws.bytes 0), db.revokeSessions id inv.now)

theorem resetAccountPassword_works (accountId sessionToken : String) :
    CommandWorks db (resetAccountPasswordEffect env inv db accountId sessionToken)
      (resetAccountPassword env inv accountId sessionToken) (.idle db) := by
  refine .read rfl (.administrator .refuse fun actor => .begin (.uuid fun id => ?_))
  refine .find rfl .rollback fun target => .ite .rollback (.query rfl ?_)
  exact .query (revokeSessionsWhere_eval _ _ _) (.commit _)

def completeTemporaryPasswordChangeEffect (newPassword sessionToken : String) : CommandEffect :=
  if !isValidPassword newPassword then none
  else do
    let account ← db.sessionAccount env sessionToken inv.now fun account =>
      account.status = .active && account.passwordKind = .temporary
    let db := db.updateAccount account.accountId fun account =>
      account.withPassword (env.hashPassword newPassword (inv.draws.bytes 1)) .permanent inv.now
    let db ← (db.revokeSessions account.accountId inv.now).insertSession?
      (newSession env inv (inv.draws.uuid 0) account.accountId (inv.draws.bytes 0))
    return (.access .full (account.summary .active) (inv.draws.bytes 0) none none, db)

theorem completeTemporaryPasswordChange_works (newPassword sessionToken : String) :
    CommandWorks db (completeTemporaryPasswordChangeEffect env inv db newPassword sessionToken)
      (completeTemporaryPasswordChange env inv newPassword sessionToken) (.idle db) := by
  refine .ite .refuse (.begin (.selectSession .rollback fun account => .query rfl ?_))
  exact .query (revokeSessionsWhere_eval _ _ _) (.session fun db₁ => .commit _)

def changePasswordEffect (currentPassword newPassword sessionToken : String) : CommandEffect :=
  if !isValidPassword newPassword then none
  else do
    let account ← db.sessionAccount env sessionToken inv.now fun account =>
      account.status = .active
    if !env.verifyPassword currentPassword account.passwordHash then none
    else do
      let db := db.updateAccount account.accountId fun account =>
        account.withPassword (env.hashPassword newPassword (inv.draws.bytes 1)) .permanent inv.now
      return (.done, db.revokeSessions account.accountId inv.now)

theorem changePassword_works (currentPassword newPassword sessionToken : String) :
    CommandWorks db (changePasswordEffect env inv db currentPassword newPassword sessionToken)
      (changePassword env inv currentPassword newPassword sessionToken) (.idle db) := by
  refine .ite .refuse (.begin (.selectSession .rollback fun account => .ite .rollback ?_))
  exact .query rfl (.query (revokeSessionsWhere_eval _ _ _) (.commit _))

/-- A refused login commits its throttle and its record. -/
def refuseLoginEffect (usernameKey : String) (throttle : Option LoginThrottle)
    (account : Option Account) : CommandEffect := do
  let failedCount := (throttle.map LoginThrottle.failedCount).getD 0 + 1
  let lockedUntil := if 5 ≤ failedCount then some (inv.now + loginThrottleLifetimeMs) else none
  let accountId := account.map fun account => account.accountId.text
  let db ← (db.upsertThrottle ⟨usernameKey, failedCount, lockedUntil, inv.now⟩).insertAudit?
    (inv.audit accountId .account (accountId.getD usernameKey) .denied)
  match lockedUntil with
  | none => some (.failure .invalidCredentials none, db)
  | some lockedUntil => some (.failure .loginThrottled (some lockedUntil), db)

theorem refuseLogin_works {refusal : IdentityCommandResult → Prop} (usernameKey : String)
    (throttle : Option LoginThrottle) (account : Option Account) :
    Works noCall refusal db (refuseLoginEffect inv db usernameKey throttle account)
      (refuseLogin inv usernameKey throttle account) (.within db db) := by
  refine .query rfl (.insert fun db₁ => ?_)
  by_cases hlocked : 5 ≤ (throttle.map LoginThrottle.failedCount).getD 0 + 1
  · simp only [if_pos hlocked]
    exact .commit _
  · simp only [if_neg hlocked]
    exact .commit _

def acceptLoginEffect (usernameKey : String) (account : Account) : CommandEffect := do
  let db ← (db.deleteThrottle usernameKey).insertSession?
    (newSession env inv (inv.draws.uuid 0) account.accountId (inv.draws.bytes 0))
  let db ← db.insertAudit?
    (inv.audit (some account.accountId.text) .account account.accountId.text .allowed)
  if account.status = .pendingDeletion then
    account.deletionDueAt.map fun deletionDueAt =>
      (.access .deletionPending (account.summary .pendingDeletion) (inv.draws.bytes 0) none
        (some deletionDueAt), db)
  else
    some (.access (if account.passwordKind = .temporary then .passwordChangeRequired else .full)
      (account.summary .active) (inv.draws.bytes 0) none none, db)

theorem acceptLogin_works {refusal : IdentityCommandResult → Prop} (usernameKey : String)
    (account : Account)
    (hdue : account.status = .pendingDeletion → account.deletionDueAt ≠ none) :
    Works noCall refusal db (acceptLoginEffect env inv db usernameKey account)
      (acceptLogin env inv usernameKey account) (.within db db) := by
  refine .query rfl (.session fun db₁ => .insert fun db₂ => ?_)
  by_cases hstatus : account.status = .pendingDeletion
  · obtain ⟨due, hdueAt⟩ := Option.ne_none_iff_exists'.mp (hdue hstatus)
    simp only [if_pos hstatus, hdueAt, Option.map_some]
    exact .commit _
  · simp only [if_neg hstatus]
    exact .commit _

def loginEffect (password username : String) : CommandEffect :=
  let usernameKey := normalizeUsername username
  let throttle := db.throttles.find? usernameKey
  match (throttle.bind LoginThrottle.lockedUntil).filter fun lockedUntil =>
      inv.now < lockedUntil with
  | some lockedUntil => do
    let db ← db.insertAudit? (inv.audit none .account usernameKey .denied)
    return (.failure .loginThrottled (some lockedUntil), db)
  | none =>
    let account := db.accounts.rows.find? fun account => account.usernameKey = usernameKey
    match account.filter (acceptsLogin env password) with
    | none => refuseLoginEffect inv db usernameKey throttle account
    | some account => acceptLoginEffect env inv db usernameKey account

/-- A login never ends without a commit, whatever counts as a refusal. -/
theorem login_works {refusal : IdentityCommandResult → Prop} (password username : String) :
    Works noCall refusal db (loginEffect env inv db password username)
      (login env inv password username) (.idle db) := by
  refine .begin (.read rfl (.read rfl ?_))
  unfold loginEffect
  dsimp only [Option.getD_some]
  cases ((db.throttles.find? (normalizeUsername username)).bind LoginThrottle.lockedUntil).filter
      fun lockedUntil => inv.now < lockedUntil with
  | some lockedUntil => exact .insert fun db₁ => .commit _
  | none =>
    refine .read rfl ?_
    dsimp only [Option.getD_some]
    cases haccepts : (db.accounts.rows.find? fun account =>
        account.usernameKey = normalizeUsername username).filter (acceptsLogin env password) with
    | none => exact refuseLogin_works inv db _ _ _
    | some account =>
      refine acceptLogin_works env inv db _ _ ?_
      intro hstatus hdue
      have haccepted := (Option.filter_eq_some_iff.mp haccepts).2
      simp only [acceptsLogin, hstatus, hdue] at haccepted
      simp at haccepted

def logoutCurrentEffect (sessionToken : String) : CommandEffect :=
  let tokenHash := env.hashOpaqueSecret sessionToken
  some (.done, db.revokeSessionsWhere (fun session => session.tokenHash = tokenHash) inv.now)

theorem logoutCurrent_works (sessionToken : String) :
    CommandWorks db (logoutCurrentEffect env inv db sessionToken)
      (logoutCurrent env inv sessionToken) (.idle db) :=
  .query (revokeSessionsWhere_eval _ _ _) (.accepted _)

def logoutAllEffect (sessionToken : String) :
    Option ((IdentityCommandResult × String) × IdentityStore) := do
  let account ← db.sessionAccount env sessionToken inv.now Account.hasFullAccess
  return ((.done, account.accountId.text), db.revokeSessions account.accountId inv.now)

theorem logoutAll_works (sessionToken : String) :
    Works noCall (fun result => result = (.failure .unauthorized none, "unknown") ∧
        db.sessionAccount env sessionToken inv.now Account.hasFullAccess = none) db
      (logoutAllEffect env inv db sessionToken) (logoutAll env inv sessionToken) (.idle db) := by
  refine .read (reading_eval _ _) ?_
  unfold logoutAllEffect
  rw [Option.getD_none]
  cases db.sessionAccount env sessionToken inv.now Account.hasFullAccess with
  | none =>
    refine .refused ?_
    exact ⟨rfl, rfl⟩
  | some account =>
    refine .query (revokeSessionsWhere_eval _ _ _) ?_
    exact .accepted _

end Effects

end ChoiceMind.IdentityAccess
