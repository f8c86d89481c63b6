import ChoiceMind.SourceAccess.Interleaving

/-!
# Pending credentials

The rows and the vault are written one after the other. Between the two writes of a call its
credential is pending: stored and not yet named by a row, or no longer named and not yet deleted.
What is in the vault is then the credential of an active row or one that is pending, and nothing
that is pending, or that a completed login remembers, is active.
-/

namespace ChoiceMind.SourceAccess

set_option autoImplicit false

open Contracts TaskPersistence Security Transition

/-! ### Credentials of a call -/

/-- The credential that a call stores or deletes. -/
def CallPhase.pending : CallPhase → Option String
  | .locked _ _ credentialId | .stored _ _ credentialId => some credentialId
  | .deleting credentialId _ | .loaded credentialId _ => some credentialId
  | _ => none

/-- The new credential of a call, which no row names yet. -/
def CallPhase.minted : CallPhase → Option String
  | .locked _ _ credentialId | .stored _ _ credentialId => some credentialId
  | _ => none

theorem CallPhase.pending_of_minted {phase : CallPhase} {id : String}
    (h : phase.minted = some id) : phase.pending = some id := by
  cases phase with
  | locked => exact h
  | stored => exact h
  | _ => cases h

/-- A call is about to store or delete it, or a completed login remembers it. -/
inductive Unpublished (world : AccessWorld) (id : String) : Prop
  | pending (client : Nat) (current : OpenCall) (hcall : world.calls.find? client = some current)
    (hid : current.phase.pending = some id)
  | replaced (loginSessionId : String) (login : SourceLogin)
    (hlogin : world.tables.logins.find? loginSessionId = some login)
    (hid : login.replacedCredentialId = some id)

/-- An id of a credential. -/
inductive Occurs (world : AccessWorld) (id : String) : Prop
  | row (scope : SourceScope) (row : SourceCredential)
    (hrow : world.tables.credentials.find? scope = some row) (hid : row.credentialId = id)
  | vault (key : CredentialKey) (row : VaultRow)
    (hrow : world.tables.vault.find? key = some row) (hid : key.credentialId = id)
  | unpublished (h : Unpublished world id)

/-- An active row names the credential. -/
def Active (tables : AccessTables) (key : CredentialKey) : Prop :=
  ∃ scope row, tables.credentials.find? scope = some row ∧ row.status = .active ∧
    (⟨scope.ownerUserId, row.credentialId⟩ : CredentialKey) = key

/-- A call is about to store or delete the credential. -/
def Pending (world : AccessWorld) (key : CredentialKey) : Prop :=
  ∃ client current, world.calls.find? client = some current ∧
    current.phase.pending = some key.credentialId ∧ current.call.ownerUserId = key.ownerUserId

/-- No active row names the id. -/
def Inactive (tables : AccessTables) (id : String) : Prop :=
  ∀ scope row, tables.credentials.find? scope = some row → row.credentialId = id →
    row.status ≠ .active

/-- No row names the id, no login remembers it and no other call is about to delete it. -/
structure Alone (world : AccessWorld) (client : Nat) (id : String) : Prop where
  row : ∀ scope row, world.tables.credentials.find? scope = some row → row.credentialId ≠ id
  replaced : ∀ loginSessionId login, world.tables.logins.find? loginSessionId = some login →
    login.replacedCredentialId ≠ some id
  pending : ∀ other current, world.calls.find? other = some current →
    current.phase.pending = some id → other = client

/-- The lock of a login that waits is held by one call. -/
structure LoginHeld (world : AccessWorld) (client : Nat) (call : SourceCall)
    (login : SourceLogin) : Prop where
  owner : login.scope.ownerUserId = call.ownerUserId
  waits : ∃ row, world.tables.logins.find? login.loginSessionId = some row ∧
    row.status = .waitingChallenge ∧ row.scope = login.scope
  alone : ∀ other current login', world.calls.find? other = some current →
    current.phase.login? = some login' → login'.loginSessionId = login.loginSessionId →
    other = client

/-- The row of an account stays the same while one call holds its lock. -/
structure AccountHeld (world : AccessWorld) (client : Nat)
    (account : SourceScope × Option SourceCredential) : Prop where
  row : world.tables.credentials.find? account.1 = account.2
  alone : ∀ other current account', world.calls.find? other = some current →
    current.phase.account? = some account' → account'.1 = account.1 → other = client

structure Tidy (env : AccessEnvironment) (world : AccessWorld) : Prop where
  drawn : ∀ id, Occurs world id → ∃ index < world.tables.uuidsDrawn, id = env.randomUUID index
  sources : ∀ key row, world.tables.vault.find? key = some row →
    row.secretType = .sourceCredential
  kept : ∀ key row, world.tables.vault.find? key = some row →
    Active world.tables key ∨ Pending world key
  stored : ∀ key, Active world.tables key → (world.tables.vault.find? key).isSome = true
  inactive : ∀ id, Unpublished world id → Inactive world.tables id
  injective : ∀ scope scope' row row', world.tables.credentials.find? scope = some row →
    world.tables.credentials.find? scope' = some row' → row.credentialId = row'.credentialId →
    scope = scope'
  minted : ∀ client current id, world.calls.find? client = some current →
    current.phase.minted = some id → Alone world client id
  saved : ∀ client current login old id, world.calls.find? client = some current →
    current.phase = .stored login old id →
    (world.tables.vault.find? ⟨current.call.ownerUserId, id⟩).isSome = true
  login : ∀ client current login, world.calls.find? client = some current →
    current.phase.login? = some login → LoginHeld world client current.call login
  account : ∀ client current account, world.calls.find? client = some current →
    current.phase.account? = some account → AccountHeld world client account

section Invariant
variable {env : AccessEnvironment} {world : AccessWorld} {calls : Table OpenCall.client}
  {client : Nat} {call : SourceCall}

theorem tidy_initial (env : AccessEnvironment) : Tidy env .initial := by
  have hno : ∀ {ρ κ : Type} [DecidableEq κ] {key : ρ → κ} {k : κ} {r : ρ},
      (Table.empty : Table key).find? k ≠ some r := by
    intro ρ κ _ key k r h
    exact Table.not_mem_empty r (Table.find?_eq_some.mp h).1
  refine ⟨?_, fun _ _ h => (hno h).elim, fun _ _ h => (hno h).elim, ?_, ?_,
    fun _ _ _ _ h => (hno h).elim, fun _ _ _ h => (hno h).elim, fun _ _ _ _ _ h => (hno h).elim,
    fun _ _ _ h => (hno h).elim, fun _ _ _ h => (hno h).elim⟩
  · intro id hoccurs
    cases hoccurs with
    | row scope row hrow => exact (hno hrow).elim
    | vault key row hrow => exact (hno hrow).elim
    | unpublished h =>
      cases h with
      | pending client current hcall => exact (hno hcall).elim
      | replaced loginSessionId login hlogin => exact (hno hlogin).elim
  · rintro key ⟨scope, row, hrow, -⟩
    exact (hno hrow).elim
  · intro id h scope row hrow
    exact (hno hrow).elim

/-! ### Moves of one call -/

/-- A call after a move is the moved one, or one of before. -/
theorem moved_cases {calls' : Table OpenCall.client} {after : Option OpenCall}
    (hcalls : ∀ other, calls'.find? other = if other = client then after else calls.find? other)
    {other : Nat} {current : OpenCall} (hfound : calls'.find? other = some current) :
    (other = client ∧ after = some current) ∨
      (other ≠ client ∧ calls.find? other = some current) := by
  rw [hcalls] at hfound
  by_cases hsame : other = client
  · rw [if_pos hsame] at hfound
    exact .inl ⟨hsame, hfound⟩
  · rw [if_neg hsame] at hfound
    exact .inr ⟨hsame, hfound⟩

/-- A phase that a call may take over the same tables. -/
structure Fits (env : AccessEnvironment) (world : AccessWorld) (client : Nat) (call : SourceCall)
    (phase : CallPhase) : Prop where
  drawn : ∀ id, phase.pending = some id →
    ∃ index < world.tables.uuidsDrawn, id = env.randomUUID index
  inactive : ∀ id, phase.pending = some id → Inactive world.tables id
  apart : ∀ id, phase.pending = some id → ∀ other current, world.calls.find? other = some current →
    current.phase.minted = some id → other = client
  minted : ∀ id, phase.minted = some id → Alone world client id
  saved : ∀ login old id, phase = .stored login old id →
    (world.tables.vault.find? ⟨call.ownerUserId, id⟩).isSome = true
  login : ∀ login, phase.login? = some login → LoginHeld world client call login
  account : ∀ account, phase.account? = some account → AccountHeld world client account

/-- A phase with neither a credential nor a lock always fits. -/
theorem Fits.idle {phase : CallPhase} (hpending : phase.pending = none)
    (hlogin : phase.login? = none) (haccount : phase.account? = none) :
    Fits env world client call phase := by
  have hminted : phase.minted = none := by
    cases hphase : phase.minted with
    | none => rfl
    | some id =>
      rw [CallPhase.pending_of_minted hphase] at hpending
      cases hpending
  refine ⟨?_, ?_, ?_, ?_, ?_, ?_, ?_⟩
  · intro id h
    rw [hpending] at h
    cases h
  · intro id h
    rw [hpending] at h
    cases h
  · intro id h
    rw [hpending] at h
    cases h
  · intro id h
    rw [hminted] at h
    cases h
  · rintro login old id rfl
    cases hpending
  · intro login h
    rw [hlogin] at h
    cases h
  · intro account h
    rw [haccount] at h
    cases h

/-- One call takes another phase or ends, and leaves no credential behind. -/
theorem Tidy.move (h : Tidy env world) (after : Option OpenCall)
    (hcalls : ∀ other, calls.find? other =
      if other = client then after else world.calls.find? other)
    (hfits : ∀ current, after = some current → Fits env world client current.call current.phase)
    (hlost : ∀ current id, world.calls.find? client = some current →
      current.phase.pending = some id →
      (∃ next, after = some next ∧ next.phase.pending = some id ∧
        next.call.ownerUserId = current.call.ownerUserId) ∨
      world.tables.vault.find? ⟨current.call.ownerUserId, id⟩ = none) :
    Tidy env ⟨world.tables, calls⟩ := by
  have hunpublished : ∀ {id}, Unpublished ⟨world.tables, calls⟩ id →
      Unpublished world id ∨ ∃ current, after = some current ∧ current.phase.pending = some id := by
    intro id hid
    cases hid with
    | pending other current hcall hpending =>
      rcases moved_cases hcalls hcall with ⟨-, hafter⟩ | ⟨-, hbefore⟩
      · exact .inr ⟨current, hafter, hpending⟩
      · exact .inl (.pending other current hbefore hpending)
    | replaced loginSessionId login hlogin hreplaced =>
      exact .inl (.replaced loginSessionId login hlogin hreplaced)
  have halone : ∀ {other id}, Alone world other id →
      (∀ current, after = some current → current.phase.pending = some id → client = other) →
      Alone ⟨world.tables, calls⟩ other id := by
    intro other id hold hnew
    refine ⟨hold.row, hold.replaced, fun third current hcall hpending => ?_⟩
    rcases moved_cases hcalls hcall with ⟨rfl, hafter⟩ | ⟨-, hbefore⟩
    · exact hnew current hafter hpending
    · exact hold.pending third current hbefore hpending
  refine ⟨?_, h.sources, ?_, h.stored, ?_, h.injective, ?_, ?_, ?_, ?_⟩
  · intro id hid
    cases hid with
    | row scope row hrow hid => exact h.drawn id (.row scope row hrow hid)
    | vault key row hrow hid => exact h.drawn id (.vault key row hrow hid)
    | unpublished hid =>
      rcases hunpublished hid with hold | ⟨current, hafter, hpending⟩
      · exact h.drawn id (.unpublished hold)
      · exact (hfits current hafter).drawn id hpending
  · intro key row hrow
    rcases h.kept key row hrow with hactive | ⟨other, current, hcall, hpending, howner⟩
    · exact .inl hactive
    · by_cases hsame : other = client
      · subst hsame
        rcases hlost current _ hcall hpending with ⟨next, hafter, hnext, howner'⟩ | hnone
        · refine .inr ⟨other, next, ?_, hnext, howner'.trans howner⟩
          rw [hcalls, if_pos rfl, hafter]
        · rw [howner] at hnone
          rw [hnone] at hrow
          cases hrow
      · refine .inr ⟨other, current, ?_, hpending, howner⟩
        rw [hcalls, if_neg hsame, hcall]
  · intro id hid
    rcases hunpublished hid with hold | ⟨current, hafter, hpending⟩
    · exact h.inactive id hold
    · exact (hfits current hafter).inactive id hpending
  · intro other current id hcall hminted
    rcases moved_cases hcalls hcall with ⟨rfl, hafter⟩ | ⟨-, hbefore⟩
    · exact halone ((hfits current hafter).minted id hminted) fun _ _ _ => rfl
    · refine halone (h.minted other current id hbefore hminted) fun moved hafter hpending => ?_
      exact ((hfits moved hafter).apart id hpending other current hbefore hminted).symm
  · intro other current login old id hcall hphase
    rcases moved_cases hcalls hcall with ⟨-, hafter⟩ | ⟨-, hbefore⟩
    · exact (hfits current hafter).saved login old id hphase
    · exact h.saved other current login old id hbefore hphase
  · intro other current login hcall hlogin
    rcases moved_cases hcalls hcall with ⟨rfl, hafter⟩ | ⟨hother, hbefore⟩
    · obtain ⟨howner, hwaits, halone'⟩ := (hfits current hafter).login login hlogin
      refine ⟨howner, hwaits, fun third current' login' hcall' hlogin' hid => ?_⟩
      rcases moved_cases hcalls hcall' with ⟨rfl, -⟩ | ⟨-, hbefore'⟩
      · rfl
      · exact halone' third current' login' hbefore' hlogin' hid
    · obtain ⟨howner, hwaits, halone'⟩ := h.login other current login hbefore hlogin
      refine ⟨howner, hwaits, fun third current' login' hcall' hlogin' hid => ?_⟩
      rcases moved_cases hcalls hcall' with ⟨rfl, hafter⟩ | ⟨-, hbefore'⟩
      · have hheld := (hfits current' hafter).login login' hlogin'
        exact absurd (hheld.alone other current login hbefore hlogin hid.symm) hother
      · exact halone' third current' login' hbefore' hlogin' hid
  · intro other current account hcall haccount
    rcases moved_cases hcalls hcall with ⟨rfl, hafter⟩ | ⟨hother, hbefore⟩
    · obtain ⟨hrow, halone'⟩ := (hfits current hafter).account account haccount
      refine ⟨hrow, fun third current' account' hcall' haccount' hscope => ?_⟩
      rcases moved_cases hcalls hcall' with ⟨rfl, -⟩ | ⟨-, hbefore'⟩
      · rfl
      · exact halone' third current' account' hbefore' haccount' hscope
    · obtain ⟨hrow, halone'⟩ := h.account other current account hbefore haccount
      refine ⟨hrow, fun third current' account' hcall' haccount' hscope => ?_⟩
      rcases moved_cases hcalls hcall' with ⟨rfl, hafter⟩ | ⟨-, hbefore'⟩
      · have hheld := (hfits current' hafter).account account' haccount'
        exact absurd (hheld.alone other current account hbefore haccount hscope.symm) hother
      · exact halone' third current' account' hbefore' haccount' hscope

/-! ### Changes of the tables -/

/-- The vault, the logins or the counter change, and no call takes another phase. -/
theorem Tidy.tables (h : Tidy env world) {tables : AccessTables}
    (hdrawn : world.tables.uuidsDrawn ≤ tables.uuidsDrawn)
    (hrows : tables.credentials = world.tables.credentials)
    (hreplaced : ∀ loginSessionId login id, tables.logins.find? loginSessionId = some login →
      login.replacedCredentialId = some id → ∃ old, world.tables.logins.find? loginSessionId =
        some old ∧ old.replacedCredentialId = some id)
    (hwaits : ∀ loginSessionId row, world.tables.logins.find? loginSessionId = some row →
      row.status = .waitingChallenge → ∃ row', tables.logins.find? loginSessionId = some row' ∧
        row'.status = .waitingChallenge ∧ row'.scope = row.scope)
    (hvault : ∀ key row, tables.vault.find? key = some row →
      world.tables.vault.find? key = some row ∨
        row.secretType = .sourceCredential ∧ Pending world key)
    (hstored : ∀ key, Active world.tables key → (tables.vault.find? key).isSome = true)
    (hsaved : ∀ client current login old id, world.calls.find? client = some current →
      current.phase = .stored login old id →
      (tables.vault.find? ⟨current.call.ownerUserId, id⟩).isSome = true) :
    Tidy env ⟨tables, world.calls⟩ := by
  have hactive : ∀ {key}, Active tables key ↔ Active world.tables key := by
    intro key
    unfold Active
    rw [hrows]
  have hinactive : ∀ {id}, Inactive tables id ↔ Inactive world.tables id := by
    intro id
    unfold Inactive
    rw [hrows]
  have hunpublished : ∀ {id}, Unpublished ⟨tables, world.calls⟩ id → Unpublished world id := by
    intro id hid
    cases hid with
    | pending client current hcall hpending => exact .pending client current hcall hpending
    | replaced loginSessionId login hlogin hid =>
      obtain ⟨old, hold, hid⟩ := hreplaced loginSessionId login id hlogin hid
      exact .replaced loginSessionId old hold hid
  have hoccurs : ∀ {id}, Occurs ⟨tables, world.calls⟩ id → Occurs world id := by
    intro id hid
    cases hid with
    | row scope row hrow hid => exact .row scope row (hrows ▸ hrow) hid
    | vault key row hrow hid =>
      rcases hvault key row hrow with hold | ⟨-, client, current, hcall, hpending, -⟩
      · exact .vault key row hold hid
      · exact .unpublished (.pending client current hcall (hid ▸ hpending))
    | unpublished hid => exact .unpublished (hunpublished hid)
  refine ⟨?_, ?_, ?_, ?_, ?_, ?_, ?_, hsaved, ?_, ?_⟩
  · intro id hid
    obtain ⟨index, hindex, heq⟩ := h.drawn id (hoccurs hid)
    exact ⟨index, Nat.lt_of_lt_of_le hindex hdrawn, heq⟩
  · intro key row hrow
    rcases hvault key row hrow with hold | ⟨htype, -⟩
    · exact h.sources key row hold
    · exact htype
  · intro key row hrow
    rcases hvault key row hrow with hold | ⟨-, hpending⟩
    · exact (h.kept key row hold).imp_left hactive.mpr
    · exact .inr hpending
  · intro key hkey
    exact hstored key (hactive.mp hkey)
  · intro id hid
    exact hinactive.mpr (h.inactive id (hunpublished hid))
  · intro scope scope' row row' hrow hrow' hid
    exact h.injective scope scope' row row' (hrows ▸ hrow) (hrows ▸ hrow') hid
  · intro client current id hcall hminted
    have hold := h.minted client current id hcall hminted
    refine ⟨?_, ?_, hold.pending⟩
    · intro scope row hrow
      exact hold.row scope row (hrows ▸ hrow)
    · intro loginSessionId login hlogin hid
      obtain ⟨old, hlogin, hid⟩ := hreplaced loginSessionId login id hlogin hid
      exact hold.replaced loginSessionId old hlogin hid
  · intro client current login hcall hlogin
    have hold := h.login client current login hcall hlogin
    obtain ⟨row, hrow, hstatus, hscope⟩ := hold.waits
    obtain ⟨row', hrow', hstatus', hscope'⟩ := hwaits _ row hrow hstatus
    exact ⟨hold.owner, ⟨row', hrow', hstatus', hscope'.trans hscope⟩, hold.alone⟩
  · intro client current account hcall haccount
    have hold := h.account client current account hcall haccount
    exact ⟨(congrArg (Table.find? · account.1) hrows).trans hold.row, hold.alone⟩

theorem Tidy.draw (h : Tidy env world) :
    Tidy env ⟨{ world.tables with uuidsDrawn := world.tables.uuidsDrawn + 1 }, world.calls⟩ :=
  h.tables (Nat.le_succ _) rfl (fun _ login _ hlogin hid => ⟨login, hlogin, hid⟩)
    (fun _ row hrow hstatus => ⟨row, hrow, hstatus, rfl⟩) (fun _ _ hrow => .inl hrow) h.stored
    h.saved

/-- `BEGIN_LOGIN` -/
theorem Tidy.begin (h : Tidy env world) {scope : SourceScope} {officialLoginUrl : String}
    {now : Instant} {reply : AccessReply} {tables : AccessTables}
    (hbegin : beginLoginRow env scope officialLoginUrl now world.tables = (reply, tables)) :
    Tidy env ⟨tables, world.calls⟩ := by
  unfold beginLoginRow at hbegin
  dsimp only at hbegin
  split at hbegin
  · cases hbegin
    exact h.draw
  · rename_i logins hinsert
    cases hbegin
    refine h.tables (Nat.le_succ _) rfl ?_ ?_ (fun _ _ hrow => .inl hrow) h.stored h.saved
    · intro loginSessionId login id hlogin hid
      rw [Table.find?_insert? hinsert] at hlogin
      split at hlogin
      · cases hlogin
        cases hid
      · exact ⟨login, hlogin, hid⟩
    · intro loginSessionId row hrow hstatus
      refine ⟨row, ?_, hstatus, rfl⟩
      rw [Table.find?_insert? hinsert, if_neg, hrow]
      intro hsame
      obtain ⟨hmem, hkey⟩ := Table.find?_eq_some.mp hrow
      exact Table.key_fresh_of_insert? hinsert row hmem (hkey.trans hsame)

theorem Tidy.forget (h : Tidy env world) (loginSessionId : String) :
    Tidy env ⟨{ world.tables with
      logins := world.tables.logins.update loginSessionId SourceLogin.forgotten
        SourceLogin.forgotten_key }, world.calls⟩ := by
  refine h.tables (Nat.le_refl _) rfl ?_ ?_ (fun _ _ hrow => .inl hrow) h.stored h.saved
  · intro loginSessionId' login id hlogin hid
    dsimp only at hlogin
    rw [Table.find?_update] at hlogin
    split at hlogin
    · obtain ⟨old, -, rfl⟩ := Option.map_eq_some_iff.mp hlogin
      cases hid
    · exact ⟨login, hlogin, hid⟩
  · intro loginSessionId' row hrow hstatus
    dsimp only
    rw [Table.find?_update]
    split
    · exact ⟨row.forgotten, by rw [hrow]; rfl, hstatus, rfl⟩
    · exact ⟨row, hrow, hstatus, rfl⟩

/-- `vault.store` of a pending credential -/
theorem Tidy.save (h : Tidy env world) (key : CredentialKey) (hpending : Pending world key) :
    Tidy env ⟨{ world.tables with
      vault := world.tables.vault.set ⟨key, .sourceCredential, true⟩ }, world.calls⟩ := by
  have hkept : ∀ {key'}, (world.tables.vault.find? key').isSome = true →
      ((world.tables.vault.set ⟨key, .sourceCredential, true⟩).find? key').isSome = true := by
    intro key' hsome
    rw [Table.find?_set]
    split
    · rfl
    · exact hsome
  refine h.tables (Nat.le_refl _) rfl (fun _ login _ hlogin hid => ⟨login, hlogin, hid⟩)
    (fun _ row hrow hstatus => ⟨row, hrow, hstatus, rfl⟩) ?_ ?_ ?_
  · intro key' row hrow
    dsimp only at hrow
    rw [Table.find?_set] at hrow
    split at hrow
    · rename_i hsame
      cases hrow
      subst hsame
      exact .inr ⟨rfl, hpending⟩
    · exact .inl hrow
  · intro key' hactive
    exact hkept (h.stored key' hactive)
  · intro client current login old id hcall hphase
    exact hkept (h.saved client current login old id hcall hphase)

/-- `vault.delete` of a credential that is neither active nor a new one of a call -/
theorem Tidy.erase (h : Tidy env world) (key : CredentialKey)
    (hinactive : Inactive world.tables key.credentialId)
    (hminted : ∀ client current, world.calls.find? client = some current →
      current.phase.minted ≠ some key.credentialId) :
    Tidy env ⟨{ world.tables with vault := world.tables.vault.erase key }, world.calls⟩ := by
  refine h.tables (Nat.le_refl _) rfl (fun _ login _ hlogin hid => ⟨login, hlogin, hid⟩)
    (fun _ row hrow hstatus => ⟨row, hrow, hstatus, rfl⟩) ?_ ?_ ?_
  · intro key' row hrow
    dsimp only at hrow
    rw [Table.find?_erase] at hrow
    split at hrow
    · cases hrow
    · exact .inl hrow
  · rintro key' ⟨scope, row, hrow, hstatus, rfl⟩
    dsimp only
    rw [Table.find?_erase, if_neg]
    · exact h.stored _ ⟨scope, row, hrow, hstatus, rfl⟩
    · rintro rfl
      exact hinactive scope row hrow rfl hstatus
  · intro client current login old id hcall hphase
    dsimp only
    rw [Table.find?_erase, if_neg]
    · exact h.saved client current login old id hcall hphase
    · rintro rfl
      refine hminted client current hcall ?_
      rw [hphase]
      rfl

/-! ### Marking and publishing -/

/-- A row after a mark has its credential, and is one of before where it is active. -/
theorem find?_mark {tables : AccessTables} {scope scope' : SourceScope} {command : MarkCommand}
    {now : Instant} {row' : SourceCredential}
    (h : (tables.mark scope command now).credentials.find? scope' = some row') :
    ∃ old, tables.credentials.find? scope' = some old ∧ old.credentialId = row'.credentialId ∧
      (row'.status = .active → scope' ≠ scope ∧ old = row') := by
  unfold AccessTables.mark at h
  dsimp only at h
  rw [Table.find?_update] at h
  split at h
  · obtain ⟨old, hold, rfl⟩ := Option.map_eq_some_iff.mp h
    refine ⟨old, hold, rfl, fun hactive => ?_⟩
    cases command with
    | markInvalid => cases hactive
    | revokeCredential => cases hactive
  · rename_i hother
    exact ⟨row', h, rfl, fun _ => ⟨hother, rfl⟩⟩

theorem find?_mark_of_ne {tables : AccessTables} {scope scope' : SourceScope}
    {command : MarkCommand} {now : Instant} (h : scope' ≠ scope) :
    (tables.mark scope command now).credentials.find? scope' =
      tables.credentials.find? scope' := by
  unfold AccessTables.mark
  dsimp only
  rw [Table.find?_update, if_neg h]

theorem Inactive.mark {tables : AccessTables} {id : String} (h : Inactive tables id)
    (scope : SourceScope) (command : MarkCommand) (now : Instant) :
    Inactive (tables.mark scope command now) id := by
  intro scope' row' hfound hid hactive
  obtain ⟨old, hbefore, -, hkept⟩ := find?_mark hfound
  obtain ⟨-, rfl⟩ := hkept hactive
  exact h scope' old hbefore hid hactive

/-- The statement of `MARK_INVALID` or `REVOKE_CREDENTIAL` hands the credential of its row over to
the call that deletes it. -/
theorem Tidy.mark (h : Tidy env world) {scope : SourceScope} {row : SourceCredential}
    {next : Continuation} (command : MarkCommand) (now : Instant)
    (hfree : world.calls.find? client = none)
    (hrow : world.tables.credentials.find? scope = some row)
    (howner : scope.ownerUserId = call.ownerUserId)
    (hunlocked : ∀ other current account, world.calls.find? other = some current →
      current.phase.account? = some account → account.1 ≠ scope ∨ account.2 = none)
    (hcalls : ∀ other, calls.find? other = if other = client then
      some ⟨client, call, .deleting row.credentialId next⟩ else world.calls.find? other) :
    Tidy env ⟨world.tables.mark scope command now, calls⟩ := by
  -- the credential of the row is that of no active row any more
  have hmarked : Inactive (world.tables.mark scope command now) row.credentialId := by
    intro scope' row' hfound hid hactive
    obtain ⟨old, hbefore, -, hkept⟩ := find?_mark hfound
    obtain ⟨hother, rfl⟩ := hkept hactive
    exact hother (h.injective scope' scope old row hbefore hrow hid)
  refine ⟨?_, h.sources, ?_, ?_, ?_, ?_, ?_, ?_, ?_, ?_⟩
  · intro id hid
    apply h.drawn id
    cases hid with
    | row scope' row' hfound hid =>
      obtain ⟨old, hbefore, hsame, -⟩ := find?_mark hfound
      exact .row scope' old hbefore (hsame.trans hid)
    | vault key row' hfound hid => exact .vault key row' hfound hid
    | unpublished hid =>
      cases hid with
      | pending other current hcall hid =>
        rcases moved_cases hcalls hcall with ⟨-, hafter⟩ | ⟨-, hbefore⟩
        · cases hafter
          cases hid
          exact .row scope row hrow rfl
        · exact .unpublished (.pending other current hbefore hid)
      | replaced loginSessionId login hlogin hid =>
        exact .unpublished (.replaced loginSessionId login hlogin hid)
  · intro key vaultRow hfound
    rcases h.kept key vaultRow hfound with ⟨scope', row', hrow', hactive, hkey⟩ |
      ⟨other, current, hcall, hid, howner'⟩
    · by_cases hsame : scope' = scope
      · subst hsame
        rw [hrow] at hrow'
        cases hrow'
        subst hkey
        refine .inr ⟨client, ⟨client, call, .deleting row.credentialId next⟩, ?_, rfl, howner.symm⟩
        exact (hcalls client).trans (if_pos rfl)
      · exact .inl ⟨scope', row', (find?_mark_of_ne hsame).trans hrow', hactive, hkey⟩
    · refine .inr ⟨other, current, ?_, hid, howner'⟩
      refine (hcalls other).trans ((if_neg ?_).trans hcall)
      rintro rfl
      rw [hfree] at hcall
      cases hcall
  · rintro key ⟨scope', row', hfound, hactive, hkey⟩
    obtain ⟨old, hbefore, -, hkept⟩ := find?_mark hfound
    obtain ⟨-, rfl⟩ := hkept hactive
    exact h.stored key ⟨scope', old, hbefore, hactive, hkey⟩
  · intro id hid
    cases hid with
    | pending other current hcall hid =>
      rcases moved_cases hcalls hcall with ⟨-, hafter⟩ | ⟨-, hbefore⟩
      · cases hafter
        cases hid
        exact hmarked
      · exact (h.inactive id (.pending other current hbefore hid)).mark scope command now
    | replaced loginSessionId login hlogin hid =>
      exact (h.inactive id (.replaced loginSessionId login hlogin hid)).mark scope command now
  · intro scope' scope'' row' row'' hfound hfound' hid
    obtain ⟨old, hbefore, hsame, -⟩ := find?_mark hfound
    obtain ⟨old', hbefore', hsame', -⟩ := find?_mark hfound'
    exact h.injective scope' scope'' old old' hbefore hbefore'
      (hsame.trans (hid.trans hsame'.symm))
  · intro other current id hcall hminted
    rcases moved_cases hcalls hcall with ⟨-, hafter⟩ | ⟨-, hbefore⟩
    · cases hafter
      cases hminted
    · have hold := h.minted other current id hbefore hminted
      refine ⟨?_, hold.replaced, fun third current' hcall' hid => ?_⟩
      · intro scope' row' hfound hid
        obtain ⟨old, hbefore', hsame, -⟩ := find?_mark hfound
        exact hold.row scope' old hbefore' (hsame.trans hid)
      · rcases moved_cases hcalls hcall' with ⟨-, hafter⟩ | ⟨-, hbefore'⟩
        · cases hafter
          cases hid
          exact absurd rfl (hold.row scope row hrow)
        · exact hold.pending third current' hbefore' hid
  · intro other current login old id hcall hphase
    rcases moved_cases hcalls hcall with ⟨-, hafter⟩ | ⟨-, hbefore⟩
    · cases hafter
      cases hphase
    · exact h.saved other current login old id hbefore hphase
  · intro other current login hcall hlogin
    rcases moved_cases hcalls hcall with ⟨-, hafter⟩ | ⟨-, hbefore⟩
    · cases hafter
      cases hlogin
    · obtain ⟨howner', hwaits, halone⟩ := h.login other current login hbefore hlogin
      refine ⟨howner', hwaits, fun third current' login' hcall' hlogin' hid => ?_⟩
      rcases moved_cases hcalls hcall' with ⟨-, hafter⟩ | ⟨-, hbefore'⟩
      · cases hafter
        cases hlogin'
      · exact halone third current' login' hbefore' hlogin' hid
  · intro other current account hcall haccount
    rcases moved_cases hcalls hcall with ⟨-, hafter⟩ | ⟨-, hbefore⟩
    · cases hafter
      cases haccount
    · obtain ⟨hfound, halone⟩ := h.account other current account hbefore haccount
      refine ⟨?_, fun third current' account' hcall' haccount' hscope => ?_⟩
      · -- the locked row is another one
        refine (find?_mark_of_ne ?_).trans hfound
        intro hscope
        rcases hunlocked other current account hbefore haccount with hother | hnone
        · exact hother hscope
        · rw [hscope, hrow, hnone] at hfound
          cases hfound
      · rcases moved_cases hcalls hcall' with ⟨-, hafter⟩ | ⟨-, hbefore'⟩
        · cases hafter
          cases haccount'
        · exact halone third current' account' hbefore' haccount' hscope

/-- A row after a publication is the new one, or one of another account. -/
theorem find?_publish {tables : AccessTables} {login : SourceLogin} {old : Option SourceCredential}
    {credentialId : String} {now : Instant} {scope : SourceScope} :
    (tables.publish login old credentialId now).credentials.find? scope =
      if scope = login.scope then some (tables.activeRow login.scope credentialId now)
      else tables.credentials.find? scope := by
  have hscope : (tables.activeRow login.scope credentialId now).scope = login.scope := by
    unfold AccessTables.activeRow
    split <;> rfl
  unfold AccessTables.publish
  dsimp only
  rw [Table.find?_set, hscope]

theorem activeRow_credentialId {tables : AccessTables} {scope : SourceScope}
    {credentialId : String} {now : Instant} :
    (tables.activeRow scope credentialId now).credentialId = credentialId := by
  unfold AccessTables.activeRow
  split <;> rfl

theorem activeRow_status {tables : AccessTables} {scope : SourceScope} {credentialId : String}
    {now : Instant} : (tables.activeRow scope credentialId now).status = .active := by
  unfold AccessTables.activeRow
  split <;> rfl

/-- A login after a publication is one of before, unless it is the completed one. -/
theorem publish_login {tables : AccessTables} {login : SourceLogin} {old : Option SourceCredential}
    {credentialId : String} {now : Instant} {loginSessionId : String} :
    (tables.publish login old credentialId now).logins.find? loginSessionId =
      if loginSessionId = login.loginSessionId then
        (tables.logins.find? loginSessionId).map
          (SourceLogin.completed (old.map SourceCredential.credentialId) now)
      else tables.logins.find? loginSessionId := by
  unfold AccessTables.publish
  dsimp only
  rw [Table.find?_update]

/-- The end of the transaction of `COMPLETE_LOGIN` publishes the new credential and hands the old
one over to the call that deletes it. -/
theorem Tidy.publish (h : Tidy env world) {current : OpenCall} {login : SourceLogin}
    {old : Option SourceCredential} {id : String} (after : Option OpenCall) (now : Instant)
    (hcall : world.calls.find? client = some current)
    (hphase : current.phase = .stored login old id)
    (hcalls : ∀ other, calls.find? other =
      if other = client then after else world.calls.find? other)
    (hafter : ∀ moved, after = some moved → ∃ row next, old = some row ∧
      moved.call = current.call ∧ moved.phase = .deleting row.credentialId next)
    (hhanded : ∀ row, old = some row → after.isSome = true) :
    Tidy env ⟨world.tables.publish login old id now, calls⟩ := by
  have halone : Alone world client id := h.minted client current id hcall (by rw [hphase]; rfl)
  obtain ⟨howner, hwaits, hlogin⟩ := h.login client current login hcall (by rw [hphase]; rfl)
  obtain ⟨hrow, haccount⟩ := h.account client current (login.scope, old) hcall (by rw [hphase]; rfl)
  dsimp only at hrow haccount
  have hsaved := h.saved client current login old id hcall hphase
  -- a row is the new one, or one of another account
  have hrows : ∀ {scope row}, (world.tables.publish login old id now).credentials.find? scope =
      some row → (scope = login.scope ∧ row.credentialId = id) ∨
        (scope ≠ login.scope ∧ world.tables.credentials.find? scope = some row) := by
    intro scope row hfound
    rw [find?_publish] at hfound
    split at hfound
    · rename_i hsame
      cases hfound
      exact .inl ⟨hsame, activeRow_credentialId⟩
    · rename_i hother
      exact .inr ⟨hother, hfound⟩
  have hinactive : ∀ {x}, Inactive world.tables x → x ≠ id →
      Inactive (world.tables.publish login old id now) x := by
    intro x hold hne scope row hfound hid
    rcases hrows hfound with ⟨-, hnew⟩ | ⟨-, hbefore⟩
    · exact absurd (hid.symm.trans hnew) hne
    · exact hold scope row hbefore hid
  -- the credential of the old row is that of no active row any more
  have hretired : ∀ {row}, old = some row →
      Inactive (world.tables.publish login old id now) row.credentialId := by
    rintro row rfl scope row' hfound hid
    rcases hrows hfound with ⟨-, hnew⟩ | ⟨hother, hbefore⟩
    · exact absurd (hid.symm.trans hnew) (halone.row login.scope row hrow)
    · exact absurd (h.injective scope login.scope row' row hbefore hrow hid) hother
  have hlogins : ∀ {loginSessionId login'},
      (world.tables.publish login old id now).logins.find? loginSessionId = some login' →
      (∃ row, old = some row ∧ login'.replacedCredentialId = some row.credentialId) ∨
        login'.replacedCredentialId = none ∨
        world.tables.logins.find? loginSessionId = some login' := by
    intro loginSessionId login' hfound
    rw [publish_login] at hfound
    split at hfound
    · obtain ⟨before, -, rfl⟩ := Option.map_eq_some_iff.mp hfound
      cases old with
      | none => exact .inr (.inl rfl)
      | some row => exact .inl ⟨row, rfl, rfl⟩
    · exact .inr (.inr hfound)
  refine ⟨?_, h.sources, ?_, ?_, ?_, ?_, ?_, ?_, ?_, ?_⟩
  · intro x hx
    apply h.drawn x
    cases hx with
    | row scope row hfound hid =>
      rcases hrows hfound with ⟨-, hnew⟩ | ⟨-, hbefore⟩
      · refine .unpublished (.pending client current hcall ?_)
        rw [hphase, ← hid, hnew]
        rfl
      · exact .row scope row hbefore hid
    | vault key row hfound hid => exact .vault key row hfound hid
    | unpublished hx =>
      cases hx with
      | pending other moved hmoved hid =>
        rcases moved_cases hcalls hmoved with ⟨-, hsome⟩ | ⟨-, hbefore⟩
        · obtain ⟨row, next, rfl, -, hdeleting⟩ := hafter moved hsome
          rw [hdeleting] at hid
          exact .row login.scope row hrow (Option.some.inj hid)
        · exact .unpublished (.pending other moved hbefore hid)
      | replaced loginSessionId login' hfound hid =>
        rcases hlogins hfound with ⟨row, rfl, hnew⟩ | hnone | hbefore
        · exact .row login.scope row hrow (Option.some.inj (hnew.symm.trans hid))
        · rw [hnone] at hid
          cases hid
        · exact .unpublished (.replaced loginSessionId login' hbefore hid)
  · intro key vaultRow hfound
    rcases h.kept key vaultRow hfound with ⟨scope, row, hbefore, hactive, hkey⟩ |
      ⟨other, moved, hmoved, hid, howner'⟩
    · by_cases hsame : scope = login.scope
      · -- the old credential, which the call deletes next
        subst hsame
        rw [hrow] at hbefore
        obtain ⟨moved, hsome⟩ := Option.isSome_iff_exists.mp (hhanded row hbefore)
        obtain ⟨row', next, hold, hsamecall, hdeleting⟩ := hafter moved hsome
        rw [hbefore] at hold
        cases hold
        refine .inr ⟨client, moved, (hcalls client).trans ((if_pos rfl).trans hsome), ?_, ?_⟩
        · rw [hdeleting, ← hkey]
          rfl
        · rw [hsamecall, ← hkey]
          exact howner.symm
      · exact .inl ⟨scope, row, find?_publish.trans ((if_neg hsame).trans hbefore), hactive, hkey⟩
    · by_cases hsame : other = client
      · subst hsame
        rw [hcall] at hmoved
        cases hmoved
        rw [hphase] at hid
        refine .inl ⟨login.scope, _, find?_publish.trans (if_pos rfl), activeRow_status, ?_⟩
        rw [activeRow_credentialId, howner, howner', Option.some.inj hid]
      · exact .inr ⟨other, moved, (hcalls other).trans ((if_neg hsame).trans hmoved), hid, howner'⟩
  · rintro key ⟨scope, row, hfound, hactive, rfl⟩
    rcases hrows hfound with ⟨rfl, hnew⟩ | ⟨-, hbefore⟩
    · rw [hnew, howner]
      exact hsaved
    · exact h.stored _ ⟨scope, row, hbefore, hactive, rfl⟩
  · intro x hx
    cases hx with
    | pending other moved hmoved hid =>
      rcases moved_cases hcalls hmoved with ⟨-, hsome⟩ | ⟨hother, hbefore⟩
      · obtain ⟨row, next, hold, -, hdeleting⟩ := hafter moved hsome
        rw [hdeleting] at hid
        cases hid
        exact hretired hold
      · refine hinactive (h.inactive x (.pending other moved hbefore hid)) ?_
        rintro rfl
        exact hother (halone.pending other moved hbefore hid)
    | replaced loginSessionId login' hfound hid =>
      rcases hlogins hfound with ⟨row, hold, hnew⟩ | hnone | hbefore
      · rw [hnew] at hid
        cases hid
        exact hretired hold
      · rw [hnone] at hid
        cases hid
      · refine hinactive (h.inactive x (.replaced loginSessionId login' hbefore hid)) ?_
        rintro rfl
        exact halone.replaced loginSessionId login' hbefore hid
  · intro scope scope' row row' hfound hfound' hid
    rcases hrows hfound with ⟨rfl, hnew⟩ | ⟨-, hbefore⟩
    · rcases hrows hfound' with ⟨hsame', -⟩ | ⟨-, hbefore'⟩
      · exact hsame'.symm
      · exact absurd (hid.symm.trans hnew) (halone.row scope' row' hbefore')
    · rcases hrows hfound' with ⟨-, hnew'⟩ | ⟨-, hbefore'⟩
      · exact absurd (hid.trans hnew') (halone.row scope row hbefore)
      · exact h.injective scope scope' row row' hbefore hbefore' hid
  · intro other moved x hmoved hminted
    rcases moved_cases hcalls hmoved with ⟨-, hsome⟩ | ⟨hother, hbefore⟩
    · obtain ⟨row, next, -, -, hdeleting⟩ := hafter moved hsome
      rw [hdeleting] at hminted
      cases hminted
    · have hold := h.minted other moved x hbefore hminted
      have hne : id ≠ x := by
        rintro rfl
        exact hother (halone.pending other moved hbefore (CallPhase.pending_of_minted hminted))
      refine ⟨?_, ?_, fun third moved' hmoved' hid => ?_⟩
      · intro scope row hfound hid
        rcases hrows hfound with ⟨-, hnew⟩ | ⟨-, hbefore'⟩
        · exact hne (hnew.symm.trans hid)
        · exact hold.row scope row hbefore' hid
      · intro loginSessionId login' hfound hid
        rcases hlogins hfound with ⟨row, rfl, hnew⟩ | hnone | hbefore'
        · exact hold.row login.scope row hrow (Option.some.inj (hnew.symm.trans hid))
        · rw [hnone] at hid
          cases hid
        · exact hold.replaced loginSessionId login' hbefore' hid
      · rcases moved_cases hcalls hmoved' with ⟨-, hsome⟩ | ⟨-, hbefore'⟩
        · obtain ⟨row, next, rfl, -, hdeleting⟩ := hafter moved' hsome
          rw [hdeleting] at hid
          exact absurd (Option.some.inj hid) (hold.row login.scope row hrow)
        · exact hold.pending third moved' hbefore' hid
  · intro other moved login' old' x hmoved hstored
    rcases moved_cases hcalls hmoved with ⟨-, hsome⟩ | ⟨-, hbefore⟩
    · obtain ⟨row, next, -, -, hdeleting⟩ := hafter moved hsome
      rw [hdeleting] at hstored
      cases hstored
    · exact h.saved other moved login' old' x hbefore hstored
  · intro other moved login' hmoved hheld
    rcases moved_cases hcalls hmoved with ⟨-, hsome⟩ | ⟨hother, hbefore⟩
    · obtain ⟨row, next, -, -, hdeleting⟩ := hafter moved hsome
      rw [hdeleting] at hheld
      cases hheld
    · obtain ⟨howner', ⟨row, hfound, hstatus, hscope⟩, halone'⟩ :=
        h.login other moved login' hbefore hheld
      refine ⟨howner', ⟨row, ?_, hstatus, hscope⟩,
        fun third moved' login'' hmoved' hheld' hid => ?_⟩
      · refine publish_login.trans ((if_neg ?_).trans hfound)
        intro hsame
        exact hother (hlogin other moved login' hbefore hheld hsame)
      · rcases moved_cases hcalls hmoved' with ⟨-, hsome⟩ | ⟨-, hbefore'⟩
        · obtain ⟨row, next, -, -, hdeleting⟩ := hafter moved' hsome
          rw [hdeleting] at hheld'
          cases hheld'
        · exact halone' third moved' login'' hbefore' hheld' hid
  · intro other moved account hmoved hheld
    rcases moved_cases hcalls hmoved with ⟨-, hsome⟩ | ⟨hother, hbefore⟩
    · obtain ⟨row, next, -, -, hdeleting⟩ := hafter moved hsome
      rw [hdeleting] at hheld
      cases hheld
    · obtain ⟨hfound, halone'⟩ := h.account other moved account hbefore hheld
      refine ⟨?_, fun third moved' account' hmoved' hheld' hscope => ?_⟩
      · refine find?_publish.trans ((if_neg ?_).trans hfound)
        intro hsame
        exact hother (haccount other moved account hbefore hheld hsame)
      · rcases moved_cases hcalls hmoved' with ⟨-, hsome⟩ | ⟨-, hbefore'⟩
        · obtain ⟨row, next, -, -, hdeleting⟩ := hafter moved' hsome
          rw [hdeleting] at hheld'
          cases hheld'
        · exact halone' third moved' account' hbefore' hheld' hscope

end Invariant

end ChoiceMind.SourceAccess
