import ChoiceMind.IdentityAccess.Changes

/-!
# The last usable superadministrator

After the bootstrap a usable superadministrator remains as long as the last one does not
demote itself: the count that guards a change of roles takes accounts with a temporary
password for superadministrators, which the counts of its siblings do not.
-/

namespace ChoiceMind.IdentityAccess

set_option autoImplicit false

open Contracts Transition

def Account.isUsableSuperadmin (account : Account) : Bool :=
  account.role = .superadmin && account.status = .active && account.passwordKind = .permanent

namespace IdentityStore

def HasUsableSuperadmin (db : IdentityStore) : Prop :=
  ∃ account ∈ db.accounts, account.isUsableSuperadmin = true

instance (db : IdentityStore) : Decidable db.HasUsableSuperadmin :=
  inferInstanceAs (Decidable (∃ account ∈ db.accounts.rows, account.isUsableSuperadmin = true))

theorem otherSuperadmins_eq_zero {accountId : Uuid} {db : IdentityStore} :
    db.otherSuperadmins accountId true = 0 ↔
      ∀ account ∈ db.accounts, account.isUsableSuperadmin = true →
        account.accountId = accountId := by
  unfold otherSuperadmins Account.isUsableSuperadmin
  rw [List.length_eq_zero_iff, List.eq_nil_iff_forall_not_mem]
  simp only [Table.mem_select, not_and, Bool.not_true, Bool.false_or, Bool.and_eq_true,
    decide_eq_true_eq, and_imp, not_not]

/-- A usable superadministrator whose row stays. -/
theorem HasUsableSuperadmin.of_row {db' : IdentityStore} {account : Account}
    (husable : account.isUsableSuperadmin = true)
    (h : db'.accounts.find? account.accountId = some account) : db'.HasUsableSuperadmin :=
  ⟨account, (Table.find?_eq_some.mp h).1, husable⟩

/-- A usable superadministrator other than the account that changes. -/
theorem HasUsableSuperadmin.of_other {db db' : IdentityStore} {account : Account} {target : Uuid}
    (hmem : account ∈ db.accounts) (husable : account.isUsableSuperadmin = true)
    (hother : account.accountId ≠ target) (hsame : db.SameElsewhere db' target) :
    db'.HasUsableSuperadmin := by
  refine .of_row husable ?_
  rw [(hsame _ hother).row]
  exact Table.find?_of_mem hmem

end IdentityStore

open IdentityStore
section Superadmins
variable {env : IdentityEnvironment} {inv : Invocation} {db db' : IdentityStore}

/-- The last usable superadministrator gives its role away, while another superadministrator
with a temporary password is active. -/
def demotesLastSuperadmin (env : IdentityEnvironment) (inv : Invocation) (db : IdentityStore) :
    Bool :=
  match inv.command with
  | .setAccountRole accountId currentPassword role sessionToken =>
    (db.sessionAccount env sessionToken inv.now Account.hasFullAccess).any fun actor =>
      env.parseUuid accountId = some actor.accountId && actor.role = .superadmin &&
        role ≠ .superadmin && env.verifyPassword currentPassword actor.passwordHash &&
        db.otherSuperadmins actor.accountId true = 0 &&
        db.otherSuperadmins actor.accountId false ≠ 0
  | _ => false

/-- A usable superadministrator remains where its own row or another one is usable. -/
theorem IdentityStore.HasUsableSuperadmin.of_change {before after : Account}
    (h : db.HasUsableSuperadmin) (hbefore : db.accounts.find? before.accountId = some before)
    (hafter : db'.accounts.find? before.accountId = some after)
    (hothers : db.SameElsewhere db' before.accountId)
    (hkept : before.isUsableSuperadmin = true →
      db.otherSuperadmins before.accountId true = 0 → after.isUsableSuperadmin = true) :
    db'.HasUsableSuperadmin := by
  obtain ⟨account, hmem, husable⟩ := h
  by_cases hsame : account.accountId = before.accountId
  · have heq : account = before :=
      Table.eq_of_key_eq hmem (Table.find?_eq_some.mp hbefore).1 hsame
    subst heq
    by_cases hnone : db.otherSuperadmins account.accountId true = 0
    · exact ⟨after, (Table.find?_eq_some.mp hafter).1, hkept husable hnone⟩
    · rw [otherSuperadmins_eq_zero] at hnone
      push Not at hnone
      obtain ⟨other, hother, husable', hne⟩ := hnone
      exact .of_other hother husable' hne hothers
  · exact .of_other hmem husable hsame hothers

theorem takesLast_eq_false {takes : Bool} {accountId : Uuid} {permanent : Bool}
    (h : db.takesLast takes accountId permanent = false) (htakes : takes = true) :
    db.otherSuperadmins accountId permanent ≠ 0 := by
  intro hnone
  rw [IdentityStore.takesLast, htakes, hnone] at h
  cases h

theorem RowChange.usable {before after : Account} {pending : List LifecycleEvent}
    (h : RowChange env inv db before after pending)
    (hguard : demotesLastSuperadmin env inv db = false)
    (husable : before.isUsableSuperadmin = true)
    (hlast : db.otherSuperadmins before.accountId true = 0) : after.isUsableSuperadmin = true := by
  simp only [Account.isUsableSuperadmin, Bool.and_eq_true, decide_eq_true_eq] at husable ⊢
  obtain ⟨⟨hrole, hactive⟩, hkind⟩ := husable
  cases h with
  | password passwordHash kind hlive hpermanent =>
    refine ⟨⟨hrole, hactive⟩, ?_⟩
    rcases hpermanent with hpermanent | hnot
    · exact hpermanent
    · exact absurd hrole hnot
  | role text currentPassword role sessionToken actor hcommand hactor hsuper hpassword htarget
      hlive hothers =>
    by_cases hkeeps : role = .superadmin
    · exact ⟨⟨hkeeps, hactive⟩, hkind⟩
    · -- the actor is usable too, so it is the account itself
      obtain ⟨_, -, -, -, -, hfound, hfull⟩ := sessionAccount_eq_some hactor
      rw [Account.hasFullAccess, Bool.and_eq_true, decide_eq_true_eq, decide_eq_true_eq] at hfull
      have hself : actor.accountId = before.accountId := by
        refine otherSuperadmins_eq_zero.mp hlast actor (Table.find?_eq_some.mp hfound).1 ?_
        simp [Account.isUsableSuperadmin, hsuper, hfull]
      have hcount := takesLast_eq_false hothers (by simp [hrole, hkeeps])
      rw [← hself] at hcount hlast htarget
      unfold demotesLastSuperadmin at hguard
      simp [hcommand, hactor, htarget, hsuper, hkeeps, hpassword, hlast, hcount] at hguard
  | status status hstatus hothers =>
    cases status with
    | active => exact ⟨⟨hrole, rfl⟩, hkind⟩
    | disabled => exact absurd hlast (takesLast_eq_false (hothers hrole) rfl)
  | deletionRequested eventId huser =>
    rw [huser] at hrole
    cases hrole
  | deletionCancelled hpending =>
    rw [hpending] at hactive
    cases hactive

theorem Accepted.usable (h : Accepted env inv db db')
    (hguard : demotesLastSuperadmin env inv db = false) (hbefore : db.HasUsableSuperadmin) :
    db'.HasUsableSuperadmin := by
  cases h with
  | elsewhere hsame =>
    obtain ⟨account, hmem, husable⟩ := hbefore
    refine .of_row husable ?_
    rw [(hsame account.accountId).row]
    exact Table.find?_of_mem hmem
  | closedSession sessionToken htoken hclosed =>
    subst hclosed
    exact hbefore
  | created account hnew hafter hactive hdue hpending hothers =>
    obtain ⟨old, hmem, husable⟩ := hbefore
    exact .of_other hmem husable (Table.find?_eq_none.mp hnew old hmem) hothers
  | sessions account hfound hafter hlive hpending hothers =>
    exact .of_change hbefore hfound hafter hothers fun husable _ => husable
  | changed before after hfound hafter hchange hothers =>
    exact .of_change hbefore hfound hafter hothers (hchange.usable hguard)

theorem CommandStep.usable (h : CommandStep env inv db db')
    (hguard : demotesLastSuperadmin env inv db = false) (hbefore : db.HasUsableSuperadmin) :
    db'.HasUsableSuperadmin := by
  induction h with
  | kept => exact hbefore
  | changed heffect => exact (commandEffect_accepted heffect).usable hguard hbefore
  | audited _ hinsert ih =>
    obtain ⟨audits, -, rfl⟩ := Option.map_eq_some_iff.mp hinsert
    exact ih

/-- The worker changes only the rows of accounts that are pending deletion. -/
theorem WorkerChange.usable {clock : WorkerClock} {handled : LifecycleEvent → Bool}
    (h : WorkerChange env clock handled db db') (hbefore : db.HasUsableSuperadmin) :
    db'.HasUsableSuperadmin := by
  cases h with
  | idle => exact hbefore
  | attempted => exact hbefore
  | processed => exact hbefore
  | erased event account hdue hhandled htype hfound hpending hfree =>
    obtain ⟨other, hmem, husable⟩ := hbefore
    refine .of_row husable ?_
    have hne : other.accountId ≠ event.accountId := by
      intro hsame
      rw [← hsame, Table.find?_of_mem hmem] at hfound
      cases hfound
      simp [Account.isUsableSuperadmin, hpending] at husable
    rw [find?_erased, if_neg hne]
    exact Table.find?_of_mem hmem

theorem WorkerStep.usable {clock : WorkerClock} {handled : LifecycleEvent → Bool}
    (h : WorkerStep env clock handled db db') (hbefore : db.HasUsableSuperadmin) :
    db'.HasUsableSuperadmin := by
  cases h with
  | kept => exact hbefore
  | cleaned => exact hbefore
  | processed hbase heffect =>
    refine (processEffect_change heffect).usable ?_
    rcases hbase with rfl | rfl
    · exact hbefore
    · exact hbefore

/-- No step of a run is a demotion of the last usable superadministrator. -/
def KeepsLastSuperadmin (env : IdentityEnvironment) (world : IdentityWorld) :
    IdentityLabel → Prop
  | .execute inv _ => demotesLastSuperadmin env inv world.db = false
  | _ => True

theorem worldStep_usable {world world' : IdentityWorld} {label : IdentityLabel}
    {reply : IdentityReply} (hbefore : world.db.HasUsableSuperadmin)
    (hguard : KeepsLastSuperadmin env world label)
    (hstep : worldStep env world label = some (reply, world')) :
    world'.db.HasUsableSuperadmin := by
  cases label with
  | execute inv fails =>
    cases hstep
    exact (execute_commits env inv fails world.db).usable hguard hbefore
  | runOnce clock handled cleanupFails fails =>
    cases hstep
    exact (runOnce_commits env world clock handled cleanupFails fails).usable hbefore
  | openWorker =>
    cases hstep
    exact hbefore

theorem bootstrapSuperadmin_usable {fails : Site → Nat → Bool} {result : IdentityCommandResult}
    {c : Connection IdentityStore} (htype : inv.command.type = .bootstrapSuperadmin)
    (h : Script.run noCall fails (execute env inv) 0 (.idle db) = (.ok result, c))
    (hok : result.ok = true) : c.committed.HasUsableSuperadmin := by
  obtain ⟨base, hsettled, hclosing⟩ := execute_ok env h
  have heffect := hsettled.effect_of_ok hok
  unfold commandEffect at heffect
  unfold closingAudit at hclosing
  cases hcommand : inv.command with
  | bootstrapSuperadmin isLocalRequest password username =>
    rw [hcommand] at heffect hclosing
    rcases hclosing with ⟨-, rfl⟩ | ⟨record, db', hnone, -⟩
    · simp only [bootstrapSuperadminEffect, Option.ite_none_left_eq_some, Option.bind_eq_bind,
        Option.bind_eq_some_iff] at heffect
      obtain ⟨-, -, -, -, db₁, haccount, db₂, hcode, db₃, hsession, db₄, haudit, hend⟩ := heffect
      cases hend
      obtain ⟨-, hsome, -⟩ := find?_insertAccount haccount
      rw [← ((SameTables.insertRecoveryCode hcode).trans
        ((SameTables.insertSession hsession).trans (.insertAudit haudit))).row] at hsome
      exact ⟨_, (Table.find?_eq_some.mp hsome).1, rfl⟩
    · cases hnone
  | _ =>
    rw [hcommand] at htype
    cases htype

/-- A usable superadministrator remains after the bootstrap, in every state of every run in
which the last one does not demote itself. -/
theorem usable_superadmin_remains {env : IdentityEnvironment} {inv : Invocation}
    {fails : Site → Nat → Bool} {before world world' : IdentityWorld}
    {result : IdentityCommandResult}
    {es : List (Entry IdentityWorld IdentityLabel IdentityReply)}
    (htype : inv.command.type = .bootstrapSuperadmin)
    (hbootstrap : worldStep env before (.execute inv fails) =
      some (.executed (.ok result), world))
    (hok : result.ok = true) (hrun : Run (worldStep env) world es world')
    (hguard : Guarded (KeepsLastSuperadmin env) es) :
    world'.db.HasUsableSuperadmin ∧ ∀ e ∈ es, e.after.db.HasUsableSuperadmin := by
  have hfirst : world.db.HasUsableSuperadmin := by
    generalize hend : Script.run noCall fails (execute env inv) 0 (.idle before.db) = ended
    obtain ⟨answer, c⟩ := ended
    unfold worldStep at hbootstrap
    dsimp only at hbootstrap
    rw [hend] at hbootstrap
    cases hbootstrap
    exact bootstrapSuperadmin_usable htype hend hok
  have hrest := hrun.forall_entry (G := KeepsLastSuperadmin env)
    (P := fun _ _ _ t => t.db.HasUsableSuperadmin)
    (fun h hguard hstep => worldStep_usable h hguard hstep)
    (fun h hguard hstep => worldStep_usable h hguard hstep) hguard hfirst
  refine ⟨?_, hrest⟩
  exact hrun.invariant (G := KeepsLastSuperadmin env)
    (fun h hguard hstep => worldStep_usable h hguard hstep) hguard hfirst

end Superadmins

/-- A bootstrap from the empty tables, and the commands after it. -/
theorem exists_run_after_bootstrap (labels : List IdentityLabel) (check : IdentityWorld → Bool)
    (h : (exec (worldStep sampleEnvironment) .initial
      (.execute sampleBootstrap noFailure :: labels)).any
        (fun run => (run.1.take 1).all (·.reply.isOk) && check run.2) = true) :
    ∃ result world es world', worldStep sampleEnvironment .initial
        (.execute sampleBootstrap noFailure) = some (.executed (.ok result), world) ∧
      result.ok = true ∧ Run (worldStep sampleEnvironment) world es world' ∧
      es.map Entry.label = labels ∧ check world' = true := by
  obtain ⟨es, world', hrun, hlabels, hcheck⟩ := exists_labelled_run_of_exec h
  rw [Bool.and_eq_true] at hcheck
  cases hrun with
  | nil => cases hlabels
  | cons hstep hrest =>
    simp only [List.map_cons, List.cons.injEq] at hlabels
    obtain ⟨rfl, hlabels⟩ := hlabels
    simp only [List.take_succ_cons, List.take_zero, List.all_cons, List.all_nil, Bool.and_true]
      at hcheck
    obtain ⟨result, rfl, hok⟩ := IdentityReply.isOk_iff.mp hcheck.1
    exact ⟨result, _, _, world', hstep, hok, hrest, hlabels, hcheck.2⟩

/-- The first superadministrator creates another administrator. -/
def sampleDeputy : IdentityLabel :=
  .execute (sampleInvocation 1 1 (.createAccount .admin (sampleToken 0) "deputy")) noFailure

theorem usable_superadmin_remains_sample : ∃ result world es world',
    worldStep sampleEnvironment .initial (.execute sampleBootstrap noFailure) =
      some (.executed (.ok result), world) ∧
    Run (worldStep sampleEnvironment) world es world' ∧ es.map Entry.label = [sampleDeputy] ∧
    world'.db.HasUsableSuperadmin := by
  obtain ⟨result, world, es, world', hbootstrap, hok, hrun, hlabels, -⟩ :=
    exists_run_after_bootstrap [sampleDeputy] (fun _ => true) (by decide +kernel)
  refine ⟨result, world, es, world', hbootstrap, hrun, hlabels, ?_⟩
  refine (usable_superadmin_remains rfl hbootstrap hok hrun ?_).1
  intro e he
  have hlabel := List.mem_map_of_mem (f := Entry.label) he
  rw [hlabels, List.mem_singleton] at hlabel
  rw [hlabel]
  rfl

/-- The deputy becomes a superadministrator before its first change of the temporary password,
and then the first one demotes itself. -/
def sampleDemotion : List IdentityLabel :=
  [sampleDeputy,
   .execute (sampleInvocation 2 2
     (.setAccountRole (sampleUuid 5).text "secret" .superadmin (sampleToken 0))) noFailure,
   .execute (sampleInvocation 3 3
     (.setAccountRole (sampleUuid 2).text "secret" .admin (sampleToken 0))) noFailure]

theorem last_superadmin_demotes_itself : ∃ result world es world',
    worldStep sampleEnvironment .initial (.execute sampleBootstrap noFailure) =
      some (.executed (.ok result), world) ∧ result.ok = true ∧
    Run (worldStep sampleEnvironment) world es world' ∧ es.map Entry.label = sampleDemotion ∧
    ¬ world'.db.HasUsableSuperadmin := by
  obtain ⟨result, world, es, world', hbootstrap, hok, hrun, hlabels, hcheck⟩ :=
    exists_run_after_bootstrap sampleDemotion (fun world => !decide world.db.HasUsableSuperadmin)
      (by decide +kernel)
  rw [Bool.not_eq_true', decide_eq_false_iff_not] at hcheck
  exact ⟨result, world, es, world', hbootstrap, hok, hrun, hlabels, hcheck⟩

end ChoiceMind.IdentityAccess
