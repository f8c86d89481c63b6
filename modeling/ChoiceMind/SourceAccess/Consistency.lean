import ChoiceMind.SourceAccess.Pending

/-!
# Source credentials and the vault

Every step of the calls keeps pending credentials in order, so that with no command in progress
the active rows and the vault name the same credentials.
-/

namespace ChoiceMind.SourceAccess

set_option autoImplicit false

open Contracts TaskPersistence Security Transition

section Invariant
variable {env : AccessEnvironment} {world : AccessWorld} {client : Nat} {call : SourceCall}

/-! ### Steps -/

/-- A call takes a phase that fits. -/
theorem Tidy.take (h : Tidy env world) {phase : CallPhase}
    (hfits : Fits env world client call phase)
    (hlost : ∀ current id, world.calls.find? client = some current →
      current.phase.pending = some id →
      (phase.pending = some id ∧ call = current.call) ∨
        world.tables.vault.find? ⟨current.call.ownerUserId, id⟩ = none) :
    Tidy env ⟨world.tables, world.calls.set ⟨client, call, phase⟩⟩ := by
  refine h.move (some ⟨client, call, phase⟩) (fun _ => Table.find?_set) ?_ ?_
  · intro current hsome
    cases hsome
    exact hfits
  · intro current id hcall hid
    refine (hlost current id hcall hid).imp_left ?_
    rintro ⟨hkept, rfl⟩
    exact ⟨_, rfl, hkept, rfl⟩

/-- A call that has no credential left ends. -/
theorem Tidy.finish (h : Tidy env world)
    (hlost : ∀ current id, world.calls.find? client = some current →
      current.phase.pending = some id →
      world.tables.vault.find? ⟨current.call.ownerUserId, id⟩ = none) :
    Tidy env ⟨world.tables, world.calls.erase client⟩ := by
  refine h.move none (fun _ => Table.find?_erase) ?_ ?_
  · intro current hsome
    cases hsome
  · intro current id hcall hid
    exact .inr (hlost current id hcall hid)

/-- A phase with no more credentials and locks than the current one fits. -/
theorem Tidy.fits (h : Tidy env world) {current : OpenCall} {phase : CallPhase}
    (hcall : world.calls.find? client = some current)
    (hpending : ∀ id, phase.pending = some id → current.phase.pending = some id)
    (hminted : ∀ id, phase.minted = some id → current.phase.minted = some id)
    (hsaved : ∀ login old id, phase = .stored login old id →
      (world.tables.vault.find? ⟨current.call.ownerUserId, id⟩).isSome = true)
    (hlogin : ∀ login, phase.login? = some login → current.phase.login? = some login)
    (haccount : ∀ account, phase.account? = some account →
      current.phase.account? = some account) :
    Fits env world client current.call phase where
  drawn := fun id hid => h.drawn id (.unpublished (.pending client current hcall (hpending id hid)))
  inactive := fun id hid => h.inactive id (.pending client current hcall (hpending id hid))
  apart := fun id hid other current' hcall' hnew =>
    ((h.minted other current' id hcall' hnew).pending client current hcall (hpending id hid)).symm
  minted := fun id hid => h.minted client current id hcall (hminted id hid)
  saved := hsaved
  login := fun login hheld => h.login client current login hcall (hlogin login hheld)
  account := fun account hheld => h.account client current account hcall (haccount account hheld)

/-- The next uuid occurs nowhere. -/
theorem Tidy.fresh (h : Tidy env world) :
    ¬ Occurs world (env.randomUUID world.tables.uuidsDrawn) := by
  intro hoccurs
  obtain ⟨index, hindex, heq⟩ := h.drawn _ hoccurs
  rw [env.randomUUID_injective heq] at hindex
  exact Nat.lt_irrefl _ hindex

/-- `COMPLETE_LOGIN` takes the lock of its account and draws the new id. -/
theorem Tidy.lock (h : Tidy env world) {current : OpenCall} {login : SourceLogin}
    (hcall : world.calls.find? client = some current) (hphase : current.phase = .opened login)
    (hfree : world.waitsFor current.phase = false) :
    Fits env ⟨{ world.tables with uuidsDrawn := world.tables.uuidsDrawn + 1 }, world.calls⟩ client
      current.call (.locked login (world.tables.credentials.find? login.scope)
        (env.randomUUID world.tables.uuidsDrawn)) := by
  have hheld := h.login client current login hcall (by rw [hphase]; rfl)
  refine ⟨?_, ?_, ?_, ?_, ?_, ?_, ?_⟩
  · intro id hid
    cases hid
    exact ⟨world.tables.uuidsDrawn, Nat.lt_succ_self _, rfl⟩
  · intro id hid scope row hrow hsame
    cases hid
    exact absurd (.row scope row hrow hsame) h.fresh
  · intro id hid other current' hcall' hminted
    cases hid
    exact absurd (.unpublished (.pending other current' hcall'
      (CallPhase.pending_of_minted hminted))) h.fresh
  · intro id hid
    cases hid
    refine ⟨fun scope row hrow hsame => h.fresh (.row scope row hrow hsame), ?_, ?_⟩
    · intro loginSessionId login' hlogin hsame
      exact h.fresh (.unpublished (.replaced loginSessionId login' hlogin hsame))
    · intro other current' hcall' hsame
      exact absurd (.unpublished (.pending other current' hcall' hsame)) h.fresh
  · intro login' old id hstored
    cases hstored
  · intro login' hlogin
    cases hlogin
    exact ⟨hheld.owner, hheld.waits, hheld.alone⟩
  · intro account haccount
    cases haccount
    refine ⟨rfl, fun other current' account' hcall' haccount' hscope => ?_⟩
    -- another call with this lock would make the step wait
    rw [hphase] at hfree
    unfold AccessWorld.waitsFor at hfree
    have hother := List.any_eq_false.mp hfree current' (Table.find?_eq_some.mp hcall').1
    unfold CallPhase.holdsScope at hother
    rw [haccount'] at hother
    exact absurd (decide_eq_true hscope) hother

/-- A call deletes its credential and goes on. -/
theorem Tidy.delete (h : Tidy env world) {current : OpenCall} {id : String} {next : Continuation}
    {reply : AccessReply} {world' : AccessWorld} (hcall : world.calls.find? client = some current)
    (hpending : current.phase.pending = some id) (hminted : current.phase.minted = none)
    (hput : world.put client current.call (next.result, { world.tables with
      vault := world.tables.vault.erase ⟨current.call.ownerUserId, id⟩ }) = (reply, world')) :
    Tidy env world' := by
  have herased := h.erase ⟨current.call.ownerUserId, id⟩
    (h.inactive id (.pending client current hcall hpending)) (by
      intro other current' hcall' hnew
      have hsame := (h.minted other current' id hcall' hnew).pending client current hcall hpending
      subst hsame
      rw [hcall] at hcall'
      cases hcall'
      rw [hminted] at hnew
      cases hnew)
  have hlost : ∀ current' id', world.calls.find? client = some current' →
      current'.phase.pending = some id' →
      (world.tables.vault.erase ⟨current.call.ownerUserId, id⟩).find?
        ⟨current'.call.ownerUserId, id'⟩ = none := by
    intro current' id' hcall' hpending'
    rw [hcall] at hcall'
    cases hcall'
    rw [hpending] at hpending'
    cases hpending'
    rw [Table.find?_erase, if_pos rfl]
  cases next with
  | marked row =>
    cases hput
    exact herased.finish hlost
  | cleaned error =>
    cases hput
    exact herased.finish hlost
  | replaced loginSessionId existing =>
    cases hput
    exact herased.take (.idle rfl rfl rfl) fun current' id' hcall' hpending' =>
      .inr (hlost current' id' hcall' hpending')

theorem Tidy.advance (h : Tidy env world) (haudit : env.systemAuditError = none)
    {current : OpenCall} {now : Instant} {returns : Bool} {reply : AccessReply}
    {world' : AccessWorld} (hcall : world.calls.find? client = some current)
    (hfree : world.waitsFor current.phase = false)
    (hput : world.put client current.call
      (SourceAccess.advance env current.call now returns world.tables current.phase) =
        (reply, world')) :
    Tidy env world' := by
  have hsame : ∀ {current'}, world.calls.find? client = some current' → current' = current :=
    fun hcall' => Option.some.inj (hcall'.symm.trans hcall)
  -- a call that has no credential leaves none behind
  have hnone : current.phase.pending = none → ∀ current' id,
      world.calls.find? client = some current' → current'.phase.pending ≠ some id := by
    intro hphase current' id hcall' hid
    rw [hsame hcall', hphase] at hid
    cases hid
  cases hphase : current.phase with
  | opened login =>
    have hfits := h.lock hcall hphase hfree
    rw [hphase] at hput
    cases hput
    exact h.draw.take hfits fun current' id hcall' hid =>
      absurd hid (hnone (by rw [hphase]; rfl) current' id hcall')
  | locked login old id =>
    have hpending : current.phase.pending = some id := by rw [hphase]; rfl
    have hkept : ∀ {phase : CallPhase}, phase.pending = some id → ∀ current' id',
        world.calls.find? client = some current' → current'.phase.pending = some id' →
        phase.pending = some id' ∧ current.call = current'.call := by
      intro phase hphase' current' id' hcall' hid
      rw [hsame hcall'] at hid ⊢
      exact ⟨hphase'.trans (hpending.symm.trans hid), rfl⟩
    rw [hphase] at hput
    unfold SourceAccess.advance at hput
    dsimp only at hput
    split at hput
    · cases hput
      refine h.take (h.fits hcall (by rw [hphase]; exact fun _ hid => hid)
        (fun _ hid => nomatch hid) (fun _ _ _ hstored => nomatch hstored)
        (fun _ hheld => nomatch hheld) fun _ hheld => nomatch hheld)
        fun current' id' hcall' hid => ?_
      exact .inl (hkept rfl current' id' hcall' hid)
    · cases hput
      have hsaved := h.save ⟨current.call.ownerUserId, id⟩
        ⟨client, current, hcall, hpending, rfl⟩
      refine hsaved.take (hsaved.fits hcall (by rw [hphase]; exact fun _ hid => hid)
        (by rw [hphase]; exact fun _ hid => hid) ?_ (by rw [hphase]; exact fun _ hheld => hheld)
        (by rw [hphase]; exact fun _ hheld => hheld)) fun current' id' hcall' hid => ?_
      · intro login' old' id' hstored
        cases hstored
        dsimp only
        rw [Table.find?_set, if_pos rfl]
        rfl
      · exact .inl (hkept rfl current' id' hcall' hid)
  | stored login old id =>
    have halone := h.minted client current id hcall (by rw [hphase]; rfl)
    have hrow := (h.account client current (login.scope, old) hcall (by rw [hphase]; rfl)).row
    rw [hphase] at hput
    unfold SourceAccess.advance at hput
    dsimp only at hput hrow
    cases old with
    | none =>
      cases hput
      exact h.publish none now hcall hphase (fun _ => Table.find?_erase)
        (fun _ hsome => nomatch hsome) fun _ hsome => nomatch hsome
    | some row =>
      dsimp only at hput
      rw [if_neg (halone.row login.scope row hrow)] at hput
      cases hput
      refine h.publish _ now hcall hphase (fun _ => Table.find?_set) ?_ fun _ _ => rfl
      intro moved hsome
      cases hsome
      exact ⟨row, _, rfl, rfl, rfl⟩
  | deleting id next =>
    have hpending : current.phase.pending = some id := by rw [hphase]; rfl
    rw [hphase] at hput
    unfold SourceAccess.advance at hput
    dsimp only at hput
    split at hput
    · rw [haudit] at hput
      split at hput
      · -- the vault has no such credential
        rename_i habsent
        cases hput
        refine h.finish fun current' id' hcall' hid => ?_
        rw [hsame hcall'] at hid ⊢
        cases hpending.symm.trans hid
        cases hfound : world.tables.vault.find? ⟨current.call.ownerUserId, id⟩ with
        | none => rfl
        | some row =>
          unfold AccessTables.holdsSource at habsent
          rw [hfound, Option.any_some, h.sources _ row hfound] at habsent
          exact absurd habsent (by decide)
      · cases hput
        refine h.take (h.fits hcall (by rw [hphase]; exact fun _ hid => hid)
          (fun _ hid => nomatch hid) (fun _ _ _ hstored => nomatch hstored)
          (fun _ hheld => nomatch hheld) fun _ hheld => nomatch hheld)
          fun current' id' hcall' hid => ?_
        rw [hsame hcall'] at hid ⊢
        exact .inl ⟨hpending.symm.trans hid, rfl⟩
    · exact h.delete hcall hpending (by rw [hphase]; rfl) hput
  | loaded id next =>
    rw [hphase] at hput
    exact h.delete hcall (by rw [hphase]; rfl) (by rw [hphase]; rfl) hput
  | forgetting loginSessionId existing =>
    rw [hphase] at hput
    cases hput
    exact (h.forget loginSessionId).finish fun current' id hcall' hid =>
      absurd hid (hnone (by rw [hphase]; rfl) current' id hcall')
  | reading id =>
    have hend : Tidy env ⟨world.tables, world.calls.erase client⟩ :=
      h.finish fun current' id hcall' hid =>
        absurd hid (hnone (by rw [hphase]; rfl) current' id hcall')
    have hnext : Tidy env ⟨world.tables, world.calls.set ⟨client, current.call, .operating id⟩⟩ :=
      h.take (.idle rfl rfl rfl) fun current' id hcall' hid =>
        absurd hid (hnone (by rw [hphase]; rfl) current' id hcall')
    rw [hphase] at hput
    unfold SourceAccess.advance at hput
    dsimp only at hput
    repeat' split at hput
    all_goals
      cases hput
      first
      | exact hend
      | exact hnext
  | operating id =>
    rw [hphase] at hput
    cases hput
    exact h.finish fun current' id hcall' hid =>
      absurd hid (hnone (by rw [hphase]; rfl) current' id hcall')

/-- A phase of a new call. -/
theorem Tidy.enter (h : Tidy env world) {phase : CallPhase}
    (hfree : world.calls.find? client = none) (hfits : Fits env world client call phase) :
    Tidy env ⟨world.tables, world.calls.set ⟨client, call, phase⟩⟩ :=
  h.take hfits fun current id hcall => by
    rw [hfree] at hcall
    cases hcall

theorem Tidy.refuse (h : Tidy env world) (hfree : world.calls.find? client = none) :
    Tidy env ⟨world.tables, world.calls.erase client⟩ :=
  h.finish fun current id hcall => by
    rw [hfree] at hcall
    cases hcall

/-- A login that waits is opened by one call; the one that a completed login remembers is
deleted. -/
theorem Tidy.open (h : Tidy env world) {login : SourceLogin} {phase : CallPhase}
    (hfound : world.tables.logins.find? login.loginSessionId = some login)
    (howner : login.scope.ownerUserId = call.ownerUserId)
    (hfree : ∀ other current, world.calls.find? other = some current →
      current.call.ownerUserId = call.ownerUserId →
      current.phase.holdsLogin login.loginSessionId = false)
    (hopen : openLogin world.tables login = .next phase) :
    Fits env world client call phase := by
  unfold openLogin at hopen
  split at hopen
  · split at hopen
    · cases hopen
    · rename_i replaced hreplaced
      cases hopen
      have hid : Unpublished world replaced := .replaced _ login hfound hreplaced
      refine ⟨?_, ?_, ?_, by rintro _ ⟨⟩, by rintro _ _ _ ⟨⟩, by rintro _ ⟨⟩, by rintro _ ⟨⟩⟩
      · intro id hpending
        cases hpending
        exact h.drawn _ (.unpublished hid)
      · intro id hpending
        cases hpending
        exact h.inactive _ hid
      · intro id hpending other current hcall hnew
        cases hpending
        exact absurd hreplaced ((h.minted other current _ hcall hnew).replaced _ login hfound)
  · rename_i hwaits
    cases hopen
    refine ⟨by rintro _ ⟨⟩, by rintro _ ⟨⟩, by rintro _ ⟨⟩, by rintro _ ⟨⟩, by rintro _ _ _ ⟨⟩, ?_,
      by rintro _ ⟨⟩⟩
    intro login' hlogin
    cases hlogin
    have hstatus : login.status = .waitingChallenge := by
      cases hcase : login.status with
      | waitingChallenge => rfl
      | completed => exact absurd hcase hwaits
    refine ⟨howner, ⟨login, hfound, hstatus, rfl⟩, fun other current login' hcall hheld hsame => ?_⟩
    -- another holder of the lock is a call of the same owner
    have hother := h.login other current login' hcall hheld
    obtain ⟨row, hrow, -, hscope⟩ := hother.waits
    rw [hsame, hfound] at hrow
    cases hrow
    have howner' : current.call.ownerUserId = call.ownerUserId := by
      rw [← hother.owner, ← hscope, howner]
    have hheld' := hfree other current hcall howner'
    unfold CallPhase.holdsLogin at hheld'
    rw [hheld, Option.any_some, hsame] at hheld'
    exact absurd rfl (of_decide_eq_false hheld')

theorem tidy_step (haudit : env.systemAuditError = none) {world world' : AccessWorld}
    {label : AccessLabel} {reply : AccessReply} (h : Tidy env world)
    (hstep : accessStep env world label = some (reply, world')) : Tidy env world' := by
  cases label with
  | beginLogin scope officialLoginUrl now =>
    cases hstep
    exact h.begin rfl
  | completeLogin client call loginSessionId =>
    unfold accessStep at hstep
    dsimp only at hstep
    split at hstep
    · cases hstep
    · rename_i hclient
      split at hstep
      · cases hstep
        exact h
      · split at hstep
        · cases hstep
        · rename_i hunlocked
          split at hstep
          · cases hstep
            exact h
          · rename_i login hlogin
            rw [Option.filter_eq_some_iff, decide_eq_true_eq] at hlogin
            obtain ⟨hfound, howner⟩ := hlogin
            have hclient' := Option.not_isSome_iff_eq_none.mp hclient
            have hkey := (Table.find?_eq_some.mp hfound).2
            cases hopen : openLogin world.tables login with
            | ended reply' =>
              rw [hopen] at hstep
              cases hstep
              exact h.refuse hclient'
            | next phase =>
              rw [hopen] at hstep
              cases hstep
              refine h.enter hclient' (h.open (hkey.symm ▸ hfound) howner ?_ hopen)
              intro other current hcall howner'
              have hother := List.any_eq_false.mp (Bool.not_eq_true _ ▸ hunlocked) current
                (Table.find?_eq_some.mp hcall).1
              rw [Bool.and_eq_true, not_and, decide_eq_true_eq, Bool.not_eq_true] at hother
              rw [hkey]
              exact hother howner'
  | markCredential client call sourceId sourceAccountId command now =>
    unfold accessStep at hstep
    dsimp only at hstep
    split at hstep
    · cases hstep
    · rename_i hclient
      have hclient' := Option.not_isSome_iff_eq_none.mp hclient
      split at hstep
      · cases hstep
        exact h
      · split at hstep
        · cases hstep
        · rename_i hunlocked
          unfold markRow at hstep
          split at hstep
          · cases hstep
            exact h.refuse hclient'
          · rename_i row hrow
            cases hstep
            refine h.mark command now hclient' hrow rfl ?_ fun _ => Table.find?_set
            intro other current account hcall haccount
            have hother := List.any_eq_false.mp (Bool.not_eq_true _ ▸ hunlocked) current
              (Table.find?_eq_some.mp hcall).1
            unfold CallPhase.holdsRow at hother
            rw [haccount, Option.any_some, Bool.and_eq_true, not_and, decide_eq_true_eq] at hother
            by_cases hscope : account.1 = ⟨call.ownerUserId, sourceId, sourceAccountId⟩
            · exact .inr (Option.not_isSome_iff_eq_none.mp (hother hscope))
            · exact .inl hscope
  | withCredential client call sourceId sourceAccountId =>
    unfold accessStep at hstep
    dsimp only at hstep
    split at hstep
    · cases hstep
    · rename_i hclient
      have hclient' := Option.not_isSome_iff_eq_none.mp hclient
      split at hstep
      · cases hstep
        exact h
      · unfold readCredential at hstep
        split at hstep
        · cases hstep
          exact h.refuse hclient'
        · cases hstep
          exact h.enter hclient' (.idle rfl rfl rfl)
  | advance client now returns =>
    unfold accessStep at hstep
    dsimp only at hstep
    split at hstep
    · cases hstep
    · rename_i current hcall
      split at hstep
      · cases hstep
      · rename_i hfree
        exact h.advance haudit hcall (by simpa using hfree) (Option.some.inj hstep)

end Invariant

/-! ### Agreement -/

/-- The active rows and the source credentials of the vault name each other. -/
structure Agree (tables : AccessTables) : Prop where
  active_stored : ∀ row ∈ tables.credentials, row.status = .active →
    ∃ stored ∈ tables.vault, stored.key = ⟨row.scope.ownerUserId, row.credentialId⟩ ∧
      stored.secretType = .sourceCredential
  stored_active : ∀ stored ∈ tables.vault, stored.secretType = .sourceCredential →
    ∃ row ∈ tables.credentials, row.status = .active ∧
      stored.key = ⟨row.scope.ownerUserId, row.credentialId⟩

/-- A call of `withCredential`, which is no command. -/
def CallPhase.isUse : CallPhase → Bool
  | .reading _ | .operating _ => true
  | _ => false

theorem CallPhase.pending_of_isUse {phase : CallPhase} (h : phase.isUse = true) :
    phase.pending = none := by
  cases phase with
  | reading => rfl
  | operating => rfl
  | _ => cases h

theorem Tidy.agree {env : AccessEnvironment} {world : AccessWorld} (h : Tidy env world)
    (hidle : ∀ current ∈ world.calls, current.phase.isUse = true) : Agree world.tables where
  active_stored := by
    intro row hrow hactive
    obtain ⟨stored, hstored⟩ := Option.isSome_iff_exists.mp
      (h.stored _ ⟨row.scope, row, Table.find?_of_mem hrow, hactive, rfl⟩)
    obtain ⟨hmem, hkey⟩ := Table.find?_eq_some.mp hstored
    exact ⟨stored, hmem, hkey, h.sources _ stored hstored⟩
  stored_active := by
    intro stored hstored _
    rcases h.kept _ stored (Table.find?_of_mem hstored) with ⟨scope, row, hrow, hactive, hkey⟩ |
      ⟨client, current, hcall, hpending, -⟩
    · obtain ⟨hmem, rfl⟩ := Table.find?_eq_some.mp hrow
      exact ⟨row, hmem, hactive, hkey.symm⟩
    · have huse := hidle current (Table.find?_eq_some.mp hcall).1
      rw [CallPhase.pending_of_isUse huse] at hpending
      cases hpending

/-! ### Replays -/

/-- A step of a `COMPLETE_LOGIN` of the login session. -/
def AccessWorld.completes (world : AccessWorld) (loginSessionId : String) : AccessLabel → Bool
  | .completeLogin _ _ id => id = loginSessionId
  | .advance client _ _ => (world.calls.find? client).any fun current =>
    current.phase.loginSession? = some loginSessionId
  | _ => false

def AccessTables.isCompleted (tables : AccessTables) (loginSessionId : String) : Bool :=
  (tables.logins.find? loginSessionId).any fun login => login.status = .completed

/-- A step stores no credential and deletes none of an active row. -/
structure Replayed (before after : AccessTables) : Prop where
  rows : after.credentials = before.credentials
  stores_none : ∀ stored ∈ after.vault, stored ∈ before.vault
  active_kept : ∀ row ∈ before.credentials, row.status = .active →
    ∀ stored ∈ before.vault, stored.key = ⟨row.scope.ownerUserId, row.credentialId⟩ →
      stored ∈ after.vault

theorem Replayed.refl (tables : AccessTables) : Replayed tables tables :=
  ⟨rfl, fun _ hstored => hstored, fun _ _ _ _ hstored _ => hstored⟩

theorem Replayed.erase {tables : AccessTables} {key : CredentialKey}
    (h : Inactive tables key.credentialId) :
    Replayed tables { tables with vault := tables.vault.erase key } where
  rows := rfl
  stores_none := by
    intro stored hstored
    exact (Table.mem_deleteWhere.mp hstored).1
  active_kept := by
    intro row hrow hactive stored hstored hkey
    refine Table.mem_deleteWhere.mpr ⟨hstored, decide_eq_false ?_⟩
    rintro rfl
    refine h row.scope row (Table.find?_of_mem hrow) ?_ hactive
    rw [hkey]

theorem Tidy.replayed {env : AccessEnvironment} {world world' : AccessWorld} {label : AccessLabel}
    {reply : AccessReply} {loginSessionId : String} (h : Tidy env world)
    (hstep : accessStep env world label = some (reply, world'))
    (hlabel : world.completes loginSessionId label = true)
    (hcompleted : world.tables.isCompleted loginSessionId = true) :
    Replayed world.tables world'.tables := by
  cases label with
  | beginLogin scope officialLoginUrl now => cases hlabel
  | markCredential client call sourceId sourceAccountId command now => cases hlabel
  | withCredential client call sourceId sourceAccountId => cases hlabel
  | completeLogin client call id =>
    unfold accessStep at hstep
    dsimp only at hstep
    repeat' split at hstep
    · cases hstep
    · cases hstep
      exact .refl _
    · cases hstep
    · cases hstep
      exact .refl _
    · rw [tables_of_put (Option.some.inj hstep)]
      exact .refl _
  | advance client now returns =>
    unfold accessStep at hstep
    dsimp only at hstep
    split at hstep
    · cases hstep
    · rename_i current hcall
      split at hstep
      · cases hstep
      · unfold AccessWorld.completes at hlabel
        dsimp only at hlabel
        rw [hcall, Option.any_some, decide_eq_true_eq] at hlabel
        have htables := tables_of_put (Option.some.inj hstep)
        -- the lock of a login is not held once it is completed
        have hwaits : ∀ login, current.phase.login? = some login →
            login.loginSessionId ≠ loginSessionId := by
          rintro login hlogin rfl
          obtain ⟨row, hrow, hstatus, -⟩ := (h.login client current login hcall hlogin).waits
          unfold AccessTables.isCompleted at hcompleted
          rw [hrow, Option.any_some, hstatus] at hcompleted
          cases hcompleted
        have hinactive : ∀ id, current.phase.pending = some id → Inactive world.tables id :=
          fun id hid => h.inactive id (.pending client current hcall hid)
        rw [htables]
        cases hphase : current.phase with
        | opened login =>
          rw [hphase] at hlabel hwaits
          exact absurd (Option.some.inj hlabel) (hwaits login rfl)
        | locked login old id =>
          rw [hphase] at hlabel hwaits
          exact absurd (Option.some.inj hlabel) (hwaits login rfl)
        | stored login old id =>
          rw [hphase] at hlabel hwaits
          exact absurd (Option.some.inj hlabel) (hwaits login rfl)
        | deleting id next =>
          rw [hphase] at hinactive
          unfold SourceAccess.advance
          dsimp only
          split
          · split
            · exact .refl _
            · exact .refl _
          · exact .erase (hinactive id rfl)
        | loaded id next =>
          rw [hphase] at hinactive
          exact .erase (hinactive id rfl)
        | forgetting id existing =>
          exact ⟨rfl, fun _ hstored => hstored, fun _ _ _ _ hstored _ => hstored⟩
        | reading id =>
          rw [hphase] at hlabel
          cases hlabel
        | operating id =>
          rw [hphase] at hlabel
          cases hlabel

/-- With no command in progress the rows and the vault agree, and a `COMPLETE_LOGIN` of a
completed login stores nothing and deletes nothing that is active. -/
theorem credentials_agree {env : AccessEnvironment} (haudit : env.systemAuditError = none)
    {es : List (Entry AccessWorld AccessLabel AccessReply)} {world : AccessWorld}
    (h : Run (accessStep env) .initial es world) :
    ((∀ current ∈ world.calls, current.phase.isUse = true) → Agree world.tables) ∧
    ∀ entry ∈ es, ∀ loginSessionId,
      entry.before.completes loginSessionId entry.label = true →
      entry.before.tables.isCompleted loginSessionId = true →
      Replayed entry.before.tables entry.after.tables := by
  have hkeeps : ∀ {s t : AccessWorld} {a : AccessLabel} {r : AccessReply}, Tidy env s → True →
      accessStep env s a = some (r, t) → Tidy env t := fun hs _ hstep => tidy_step haudit hs hstep
  constructor
  · intro hidle
    exact (h.invariant (G := fun _ _ => True) hkeeps (fun _ _ => trivial)
      (tidy_initial env)).agree hidle
  · intro entry hentry loginSessionId hlabel hcompleted
    have hbefore := (h.invariant_entry (G := fun _ _ => True) hkeeps (fun _ _ => trivial)
      (tidy_initial env) hentry).1
    exact hbefore.replayed (h.entry_step hentry) hlabel hcompleted

def sampleAccess : AccessEnvironment := ⟨uuidText, uuidText_injective, none⟩

/-- A login, which the owner completes twice. -/
def sampleLogins : List AccessLabel :=
  [.beginLogin ⟨"user", "source", "account"⟩ "login" 0,
   .completeLogin 0 ⟨.api, .other ⟨"user", .user⟩, "user", "request"⟩ "",
   .advance 0 1 true, .advance 0 1 true, .advance 0 1 true,
   .completeLogin 0 ⟨.api, .other ⟨"user", .user⟩, "user", "request"⟩ ""]

theorem credentials_agree_sample : ∃ es world,
    Run (accessStep sampleAccess) .initial es world ∧ es.map Entry.label = sampleLogins ∧
      world.tables.credentials.rows.length = 1 ∧ Agree world.tables := by
  have hexec : (exec (accessStep sampleAccess) .initial sampleLogins).any
      (fun result => result.2.calls.rows.length == 0 &&
        result.2.tables.credentials.rows.length == 1) = true := by decide +kernel
  obtain ⟨es, world, hrun, hlabels, hcheck⟩ := exists_labelled_run_of_exec hexec
  rw [Bool.and_eq_true, beq_iff_eq, beq_iff_eq, List.length_eq_zero_iff] at hcheck
  refine ⟨es, world, hrun, hlabels, hcheck.2, (credentials_agree rfl hrun).1 ?_⟩
  intro current hcurrent
  rw [← Table.mem_rows, hcheck.1] at hcurrent
  cases hcurrent

end ChoiceMind.SourceAccess
