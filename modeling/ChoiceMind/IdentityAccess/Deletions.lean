import ChoiceMind.IdentityAccess.Changes

/-!
# The state of a deletion

The status of an account, its due date and its pending deletion event agree in every reachable
state, and a deleted account stays as the erasure left it.
-/

namespace ChoiceMind.IdentityAccess

set_option autoImplicit false

open Contracts Transition IdentityStore

/-- The status, the due date, the pending deletions and the sessions of one account. -/
inductive Consistent : Option Account → List LifecycleEvent → List LoginSession → Prop
  | missing : Consistent none [] []
  | awaiting (account : Account) (event : LifecycleEvent) (sessions : List LoginSession)
    (hstatus : account.status = .pendingDeletion)
    (hdue : account.deletionDueAt = some event.scheduledAt) :
    Consistent (some account) [event] sessions
  | present (account : Account) (sessions : List LoginSession)
    (hstatus : account.status ≠ .pendingDeletion) (hdue : account.deletionDueAt = none)
    (hdeleted : account.status = .deleted → sessions = []) :
    Consistent (some account) [] sessions

/-- Every account is consistent. -/
def DeletionsAgree (db : IdentityStore) : Prop :=
  ∀ accountId, Consistent (db.accounts.find? accountId) (db.pendingDeletions accountId)
    (db.sessionsOf accountId)

theorem deletionsAgree_empty : DeletionsAgree .empty := fun _ => .missing

section Steps
variable {env : IdentityEnvironment} {inv : Invocation} {db db' : IdentityStore}

theorem Consistent.of_sameAccount {accountId : Uuid}
    (h : Consistent (db.accounts.find? accountId) (db.pendingDeletions accountId)
      (db.sessionsOf accountId)) (hsame : db.SameAccount db' accountId) :
    Consistent (db'.accounts.find? accountId) (db'.pendingDeletions accountId)
      (db'.sessionsOf accountId) := by
  rw [hsame.row, hsame.pendingDeletions, hsame.sessions]
  exact h

/-- An account that is not pending deletion has no due date and no pending deletion. -/
theorem Consistent.present_of {account : Account} {pending : List LifecycleEvent}
    {sessions : List LoginSession} (h : Consistent (some account) pending sessions)
    (hstatus : account.status ≠ .pendingDeletion) :
    account.deletionDueAt = none ∧ pending = [] := by
  cases h with
  | awaiting _ event _ hpending hdue => exact absurd hpending hstatus
  | present _ _ hpresent hdue => exact ⟨hdue, rfl⟩

theorem Consistent.awaiting_of {account : Account} {pending : List LifecycleEvent}
    {sessions : List LoginSession} (h : Consistent (some account) pending sessions)
    (hstatus : account.status = .pendingDeletion) :
    ∃ event, pending = [event] ∧ account.deletionDueAt = some event.scheduledAt := by
  cases h with
  | awaiting _ event _ hpending hdue => exact ⟨event, rfl, hdue⟩
  | present _ _ hpresent hdue => exact absurd hstatus hpresent

/-- A row that lives, with the same status and due date, may have any sessions. -/
theorem Consistent.of_live {before after : Account} {pending : List LifecycleEvent}
    {sessions sessions' : List LoginSession} (h : Consistent (some before) pending sessions)
    (hlive : before.status ≠ .deleted) (hstatus : after.status = before.status)
    (hdue : after.deletionDueAt = before.deletionDueAt) :
    Consistent (some after) pending sessions' := by
  cases h with
  | awaiting _ event _ hpending hscheduled =>
    exact .awaiting after event sessions' (hstatus.trans hpending) (hdue.trans hscheduled)
  | present _ _ hpresent hnone =>
    refine .present after sessions' (hstatus ▸ hpresent) (hdue.trans hnone) ?_
    rw [hstatus]
    exact fun hdeleted => absurd hdeleted hlive

/-- No accepted command changes a deleted account. -/
theorem RowChange.live {before after : Account} {pending : List LifecycleEvent}
    (h : RowChange env inv db before after pending) : before.status ≠ .deleted := by
  cases h with
  | password passwordHash kind hlive => exact hlive
  | role _ _ role _ _ _ _ _ _ _ hlive => exact hlive
  | status status hstatus => exact hstatus.1
  | deletionRequested eventId hrole hactive =>
    rw [hactive]
    decide
  | deletionCancelled hpending =>
    rw [hpending]
    decide

/-- An accepted change of a row, where the sessions may change too. -/
theorem RowChange.consistent {before after : Account} {pending : List LifecycleEvent}
    {sessions sessions' : List LoginSession} (h : RowChange env inv db before after pending)
    (hbefore : Consistent (some before) (db.pendingDeletions before.accountId) sessions) :
    Consistent (some after) pending sessions' ∧ after.status ≠ .deleted := by
  cases h with
  | password passwordHash kind hlive => exact ⟨hbefore.of_live hlive rfl rfl, hlive⟩
  | role _ _ role _ _ _ _ _ _ _ hlive => exact ⟨hbefore.of_live hlive rfl rfl, hlive⟩
  | status status hstatus =>
    obtain ⟨hdue, hpending⟩ := hbefore.present_of hstatus.2
    have hsettable : status.status ≠ .pendingDeletion ∧ status.status ≠ .deleted := by
      cases status <;> decide
    rw [hpending]
    refine ⟨.present _ _ hsettable.1 hdue ?_, hsettable.2⟩
    exact fun hdeleted => absurd hdeleted hsettable.2
  | deletionRequested eventId hrole hactive =>
    obtain ⟨-, hpending⟩ := hbefore.present_of (by rw [hactive]; decide)
    rw [hpending]
    refine ⟨.awaiting _ _ _ rfl rfl, ?_⟩
    intro hdeleted
    cases hdeleted
  | deletionCancelled hpending =>
    refine ⟨.present _ _ ?_ rfl ?_, ?_⟩ <;> (intro hstatus; cases hstatus)

theorem sessionsOf_revokeSessionsWhere {condition : LoginSession → Bool} {now : Instant}
    {accountId : Uuid} (h : db.sessionsOf accountId = []) :
    (db.revokeSessionsWhere condition now).sessionsOf accountId = [] := by
  refine (Table.select_updateWhere_map fun _ _ _ => ?_).trans ?_
  · rfl
  · rw [show db.sessions.select _ = [] from h, List.map_nil]

theorem Accepted.consistent (h : Accepted env inv db db') (hbefore : DeletionsAgree db) :
    DeletionsAgree db' := by
  intro accountId
  cases h with
  | elsewhere hsame => exact (hbefore accountId).of_sameAccount (hsame accountId)
  | closedSession sessionToken htoken hclosed =>
    subst hclosed
    have hold := hbefore accountId
    change Consistent (db.accounts.find? accountId) (db.pendingDeletions accountId) _
    generalize hsessions : db.sessionsOf accountId = sessions at hold
    cases hrow : db.accounts.find? accountId with
    | none =>
      rw [hrow] at hold
      generalize db.pendingDeletions accountId = pending at hold ⊢
      cases hold
      rw [sessionsOf_revokeSessionsWhere hsessions]
      exact .missing
    | some account =>
      rw [hrow] at hold
      generalize db.pendingDeletions accountId = pending at hold ⊢
      cases hold with
      | awaiting _ event _ hstatus hdue => exact .awaiting account event _ hstatus hdue
      | present _ _ hstatus hdue hdeleted =>
        refine .present account _ hstatus hdue fun hdel => ?_
        exact sessionsOf_revokeSessionsWhere (hsessions.trans (hdeleted hdel))
  | created account hnew hafter hactive hdue hpending hothers =>
    by_cases hsame : accountId = account.accountId
    · subst hsame
      have hold := hbefore account.accountId
      rw [hnew] at hold
      rw [hafter, hpending]
      generalize db.pendingDeletions account.accountId = pending at hold ⊢
      generalize db.sessionsOf account.accountId = sessions at hold
      cases hold
      refine .present account _ (by rw [hactive]; decide) hdue ?_
      rw [hactive]
      intro hdeleted
      cases hdeleted
    · exact (hbefore accountId).of_sameAccount (hothers accountId hsame)
  | sessions account hfound hafter hlive hpending hothers =>
    by_cases hsame : accountId = account.accountId
    · subst hsame
      have hold := hbefore account.accountId
      rw [hfound] at hold
      rw [hafter, hpending]
      exact hold.of_live hlive rfl rfl
    · exact (hbefore accountId).of_sameAccount (hothers accountId hsame)
  | changed before after hfound hafter hchange hothers =>
    by_cases hsame : accountId = before.accountId
    · subst hsame
      have hold := hbefore before.accountId
      rw [hfound] at hold
      rw [hafter]
      exact (hchange.consistent hold).1
    · exact (hbefore accountId).of_sameAccount (hothers accountId hsame)

theorem CommandStep.consistent (h : CommandStep env inv db db') (hbefore : DeletionsAgree db) :
    DeletionsAgree db' := by
  obtain ⟨base, hbase, hsame⟩ := h.exists_base
  rw [hsame]
  rcases hbase with rfl | ⟨result, heffect⟩
  · exact hbefore
  · exact (commandEffect_accepted heffect).consistent hbefore

end Steps

/-! ### The worker -/

section Worker
variable {env : IdentityEnvironment} {clock : WorkerClock} {handled : LifecycleEvent → Bool}
  {db db' : IdentityStore}

theorem Consistent.map_pending {row : Option Account} {pending : List LifecycleEvent}
    {sessions : List LoginSession} {g : LifecycleEvent → LifecycleEvent}
    (h : Consistent row pending sessions)
    (hg : ∀ event, (g event).scheduledAt = event.scheduledAt) :
    Consistent row (pending.map g) sessions := by
  cases h with
  | missing => exact .missing
  | awaiting account event _ hstatus hdue =>
    exact .awaiting account (g event) sessions hstatus (hdue.trans (by rw [hg]))
  | present account _ hstatus hdue hdeleted => exact .present account sessions hstatus hdue hdeleted

/-- The pending deletion that the worker takes is one of its account's. -/
theorem mem_pendingDeletions_of_due {event : LifecycleEvent}
    (hdue : db.dueEvent clock.runAt (fun _ => false) = some event)
    (htype : event.eventType = .deleteAccount) :
    event ∈ db.pendingDeletions event.accountId := by
  obtain ⟨hmem, hpending, -⟩ := mem_of_dueEvent hdue
  exact mem_pendingDeletions.mpr ⟨hmem, htype, hpending, rfl⟩

theorem pendingDeletions_attempted {eventId accountId : Uuid} {now : Instant} :
    (db.updateEvent eventId fun event => event.attempted now).pendingDeletions accountId =
      (db.pendingDeletions accountId).map fun event =>
        if event.eventId = eventId then event.attempted now else event := by
  refine (Table.select_updateWhere_map fun _ _ _ => ?_).trans ?_
  · rfl
  · simp only [decide_eq_true_eq]
    rfl

/-- A processed event is not pending any more. -/
theorem pendingDeletions_processed {eventId accountId : Uuid} {now : Instant} :
    (db.updateEvent eventId fun event => event.processed now).pendingDeletions accountId =
      (db.pendingDeletions accountId).filter fun event => event.eventId ≠ eventId := by
  refine Table.select_update_out fun event _ _ => ?_
  simp [LifecycleEvent.processed, LifecycleEvent.isPending]

/-- An event of an account that has no pending deletion is none. -/
theorem Consistent.eq_nil {row : Option Account} {pending : List LifecycleEvent}
    {sessions : List LoginSession} (h : Consistent row pending sessions)
    (hrow : ∀ account, row = some account → account.status = .deleted) : pending = [] := by
  cases h with
  | missing => rfl
  | awaiting account event _ hstatus =>
    rw [hrow account rfl] at hstatus
    cases hstatus
  | present => rfl

theorem sessionsOf_erased {event : LifecycleEvent} {account : Account} {accountId : Uuid} :
    (db.erased env clock event account).sessionsOf accountId =
      if accountId = event.accountId then [] else db.sessionsOf accountId := by
  by_cases hsame : accountId = event.accountId
  · rw [if_pos hsame, List.eq_nil_iff_forall_not_mem]
    intro session hsession
    obtain ⟨hmem, howner⟩ := Table.mem_select.mp hsession
    obtain ⟨-, hkept⟩ := Table.mem_deleteWhere.mp hmem
    rw [of_decide_eq_true howner, hsame] at hkept
    simp at hkept
  · rw [if_neg hsame]
    refine Table.select_deleteWhere fun session _ howner => ?_
    rw [of_decide_eq_true howner]
    exact decide_eq_false hsame

theorem pendingDeletions_erased {event : LifecycleEvent} {account : Account} {accountId : Uuid} :
    (db.erased env clock event account).pendingDeletions accountId =
      (db.pendingDeletions accountId).filter fun other => other.eventId ≠ event.eventId :=
  pendingDeletions_processed

/-- Another account has none of an account's events. -/
theorem filter_pendingDeletions {event : LifecycleEvent} {accountId : Uuid}
    (hmem : event ∈ db.events)
    (hother : event.eventType = .restrictAccount ∨ accountId ≠ event.accountId) :
    (db.pendingDeletions accountId).filter (fun other => other.eventId ≠ event.eventId) =
      db.pendingDeletions accountId := by
  rw [List.filter_eq_self]
  intro other hpending
  obtain ⟨hothermem, htype, -, howner⟩ := mem_pendingDeletions.mp hpending
  refine decide_eq_true fun hsame => ?_
  have heq := Table.eq_of_key_eq hothermem hmem hsame
  subst heq
  rcases hother with hrestrict | hne
  · rw [htype] at hrestrict
    cases hrestrict
  · exact hne howner.symm

theorem WorkerChange.consistent (h : WorkerChange env clock handled db db')
    (hbefore : DeletionsAgree db) : DeletionsAgree db' := by
  cases h with
  | idle => exact hbefore
  | attempted event =>
    intro accountId
    change Consistent (db.accounts.find? accountId) _ (db.sessionsOf accountId)
    rw [pendingDeletions_attempted]
    refine (hbefore accountId).map_pending fun other => ?_
    split
    · rfl
    · rfl
  | processed event hdue hhandled hnothing =>
    intro accountId
    change Consistent (db.accounts.find? accountId) _ (db.sessionsOf accountId)
    rw [pendingDeletions_processed]
    rcases hnothing with hrestrict | hdeleted
    · rw [filter_pendingDeletions (mem_of_dueEvent hdue).1 (.inl hrestrict)]
      exact hbefore accountId
    · by_cases hsame : accountId = event.accountId
      · subst hsame
        have hnil := (hbefore event.accountId).eq_nil hdeleted
        have hold := hbefore event.accountId
        rw [hnil] at hold ⊢
        exact hold
      · rw [filter_pendingDeletions (mem_of_dueEvent hdue).1 (.inr hsame)]
        exact hbefore accountId
  | erased event account hdue hhandled htype hfound hpending hfree =>
    intro accountId
    rw [find?_erased, sessionsOf_erased, pendingDeletions_erased]
    by_cases hsame : accountId = event.accountId
    · subst hsame
      have hold := hbefore event.accountId
      rw [hfound] at hold
      obtain ⟨only, honly, -⟩ := hold.awaiting_of hpending
      have hmem := mem_pendingDeletions_of_due hdue htype
      rw [honly, List.mem_singleton] at hmem
      rw [if_pos rfl, if_pos rfl, hfound, Option.map_some, honly, hmem]
      simp only [ne_eq, not_true, decide_false, List.filter_cons, Bool.false_eq_true, if_false,
        List.filter_nil]
      refine .present _ _ ?_ rfl fun _ => rfl
      intro hstatus
      cases hstatus
    · rw [if_neg hsame, if_neg hsame,
        filter_pendingDeletions (mem_of_dueEvent hdue).1 (.inr hsame)]
      exact hbefore accountId

theorem WorkerStep.consistent (h : WorkerStep env clock handled db db')
    (hbefore : DeletionsAgree db) : DeletionsAgree db' := by
  cases h with
  | kept => exact hbefore
  | cleaned => exact hbefore
  | processed hbase heffect =>
    refine (processEffect_change heffect).consistent ?_
    rcases hbase with rfl | rfl
    · exact hbefore
    · exact hbefore

end Worker

/-! ### Runs -/

/-- The three signs of a pending deletion agree. -/
structure DeletionAgrees (db : IdentityStore) (account : Account) : Prop where
  due_iff : account.status = .pendingDeletion ↔ account.deletionDueAt ≠ none
  event_iff : account.deletionDueAt ≠ none ↔
    (db.pendingDeletions account.accountId).length = 1
  scheduled : ∀ event ∈ db.pendingDeletions account.accountId,
    account.deletionDueAt = some event.scheduledAt
  no_event : account.status ≠ .pendingDeletion → db.pendingDeletions account.accountId = []

theorem Consistent.deletionAgrees {db : IdentityStore} {account : Account}
    {sessions : List LoginSession}
    (h : Consistent (some account) (db.pendingDeletions account.accountId) sessions) :
    DeletionAgrees db account := by
  by_cases hstatus : account.status = .pendingDeletion
  · obtain ⟨event, hevents, hdue⟩ := h.awaiting_of hstatus
    refine ⟨?_, ?_, ?_, fun hother => absurd hstatus hother⟩
    · simp [hstatus, hdue]
    · simp [hevents, hdue]
    · intro other hother
      rw [hevents, List.mem_singleton] at hother
      rw [hother]
      exact hdue
  · obtain ⟨hdue, hevents⟩ := h.present_of hstatus
    refine ⟨?_, ?_, ?_, fun _ => hevents⟩
    · simp [hstatus, hdue]
    · simp [hevents, hdue]
    · rw [hevents]
      exact List.forall_mem_nil _

section Runs
variable {env : IdentityEnvironment}

/-- A worker step that processes a due deletion of the account. -/
def ProcessesDeletion (e : Entry IdentityWorld IdentityLabel IdentityReply)
    (account : Account) : Prop :=
  account.status = .pendingDeletion ∧
    ∃ clock handled cleanupFails fails event processed,
      e.label = .runOnce clock handled cleanupFails fails ∧
      event ∈ e.before.db.pendingDeletions account.accountId ∧
      event.scheduledAt ≤ clock.runAt ∧ handled event = true ∧
      e.after.db.events.find? event.eventId = some processed ∧ processed.processedAt ≠ none

/-- How a step reaches and keeps deleted accounts. -/
structure KeepsDeleted (e : Entry IdentityWorld IdentityLabel IdentityReply) : Prop where
  reached : ∀ account ∈ e.after.db.accounts, account.status = .deleted →
    ∃ before, e.before.db.accounts.find? account.accountId = some before ∧
      (before.status = .deleted ∨ ProcessesDeletion e before)
  kept : ∀ account ∈ e.before.db.accounts, account.status = .deleted →
    e.after.db.accounts.find? account.accountId = some account ∧
      e.before.db.sessionsOf account.accountId = [] ∧
      e.after.db.sessionsOf account.accountId = []

theorem Accepted.deleted_iff {inv : Invocation} {db db' : IdentityStore}
    (h : Accepted env inv db db') (hbefore : DeletionsAgree db) {account : Account}
    (hdeleted : account.status = .deleted) :
    db'.accounts.find? account.accountId = some account ↔
      db.accounts.find? account.accountId = some account := by
  have hkept : db.SameAccount db' account.accountId →
      (db'.accounts.find? account.accountId = some account ↔
        db.accounts.find? account.accountId = some account) := by
    intro hsame
    rw [hsame.row]
  cases h with
  | elsewhere hsame => exact hkept (hsame _)
  | closedSession sessionToken htoken hclosed =>
    subst hclosed
    exact Iff.rfl
  | created other hnew hafter hactive hdue hpending hothers =>
    by_cases hsame : account.accountId = other.accountId
    · rw [hsame, hnew, hafter]
      refine ⟨fun heq => ?_, fun heq => by cases heq⟩
      cases heq
      rw [hactive] at hdeleted
      cases hdeleted
    · exact hkept (hothers _ hsame)
  | sessions other hfound hafter hlive hpending hothers =>
    by_cases hsame : account.accountId = other.accountId
    · rw [hsame, hfound, hafter]
    · exact hkept (hothers _ hsame)
  | changed before after hfound hafter hchange hothers =>
    by_cases hsame : account.accountId = before.accountId
    · have hold := hbefore before.accountId
      rw [hfound] at hold
      obtain ⟨-, hlive⟩ : Consistent (some after) _ [] ∧ after.status ≠ .deleted :=
        hchange.consistent hold
      rw [hsame, hfound, hafter]
      refine ⟨fun heq => ?_, fun heq => ?_⟩
      · cases heq
        exact absurd hdeleted hlive
      · cases heq
        exact absurd hdeleted hchange.live
    · exact hkept (hothers _ hsame)

theorem CommandStep.deleted_iff {inv : Invocation} {db db' : IdentityStore}
    (h : CommandStep env inv db db') (hbefore : DeletionsAgree db) {account : Account}
    (hdeleted : account.status = .deleted) :
    db'.accounts.find? account.accountId = some account ↔
      db.accounts.find? account.accountId = some account := by
  obtain ⟨base, hbase, hsame⟩ := h.exists_base
  rw [hsame]
  rcases hbase with rfl | ⟨result, heffect⟩
  · exact Iff.rfl
  · exact (commandEffect_accepted heffect).deleted_iff hbefore hdeleted

/-- A worker step keeps the deleted accounts, and one that it adds it has processed. -/
theorem WorkerChange.deleted {clock : WorkerClock} {handled : LifecycleEvent → Bool}
    {db db' : IdentityStore} (h : WorkerChange env clock handled db db') {account : Account}
    (hdeleted : account.status = .deleted) :
    (db.accounts.find? account.accountId = some account →
      db'.accounts.find? account.accountId = some account) ∧
    (db'.accounts.find? account.accountId = some account →
      ∃ before, db.accounts.find? account.accountId = some before ∧
        (before.status = .deleted ∨ before.status = .pendingDeletion ∧
          ∃ event processed, event ∈ db.pendingDeletions account.accountId ∧
            event.scheduledAt ≤ clock.runAt ∧ handled event = true ∧
            db'.events.find? event.eventId = some processed ∧ processed.processedAt ≠ none)) := by
  cases h with
  | idle => exact ⟨fun h => h, fun h => ⟨account, h, .inl hdeleted⟩⟩
  | attempted => exact ⟨fun h => h, fun h => ⟨account, h, .inl hdeleted⟩⟩
  | processed => exact ⟨fun h => h, fun h => ⟨account, h, .inl hdeleted⟩⟩
  | erased event target hdue hhandled htype hfound hpending hfree =>
    rw [find?_erased]
    by_cases hsame : account.accountId = event.accountId
    · rw [if_pos hsame, hsame, hfound]
      obtain ⟨hmem, -, htime⟩ := mem_of_dueEvent hdue
      refine ⟨fun heq => ?_, fun _ => ⟨target, rfl, .inr ⟨hpending, event, _, ?_, htime, hhandled,
        find?_event_erased hmem, ?_⟩⟩⟩
      · cases heq
        rw [hpending] at hdeleted
        cases hdeleted
      · exact mem_pendingDeletions_of_due hdue htype
      · intro hnone
        cases hnone
    · rw [if_neg hsame]
      exact ⟨fun h => h, fun h => ⟨account, h, .inl hdeleted⟩⟩

theorem WorkerStep.deleted {clock : WorkerClock} {handled : LifecycleEvent → Bool}
    {db db' : IdentityStore} (h : WorkerStep env clock handled db db') {account : Account}
    (hdeleted : account.status = .deleted) :
    (db.accounts.find? account.accountId = some account →
      db'.accounts.find? account.accountId = some account) ∧
    (db'.accounts.find? account.accountId = some account →
      ∃ before, db.accounts.find? account.accountId = some before ∧
        (before.status = .deleted ∨ before.status = .pendingDeletion ∧
          ∃ event processed, event ∈ db.pendingDeletions account.accountId ∧
            event.scheduledAt ≤ clock.runAt ∧ handled event = true ∧
            db'.events.find? event.eventId = some processed ∧ processed.processedAt ≠ none)) := by
  cases h with
  | kept => exact ⟨fun h => h, fun h => ⟨account, h, .inl hdeleted⟩⟩
  | cleaned => exact ⟨fun h => h, fun h => ⟨account, h, .inl hdeleted⟩⟩
  | processed hbase heffect =>
    have hchange := (processEffect_change heffect).deleted hdeleted
    rcases hbase with rfl | rfl
    · exact hchange
    · exact hchange

/-- Every account of the database is consistent. -/
def IdentityWorld.deletionsAgree (world : IdentityWorld) : Prop := DeletionsAgree world.db

theorem worldStep_consistent {world world' : IdentityWorld} {label : IdentityLabel}
    {reply : IdentityReply} (hbefore : world.deletionsAgree)
    (hstep : worldStep env world label = some (reply, world')) : world'.deletionsAgree := by
  cases label with
  | execute inv fails =>
    cases hstep
    exact (execute_commits env inv fails world.db).consistent hbefore
  | runOnce clock handled cleanupFails fails =>
    cases hstep
    exact (runOnce_commits env world clock handled cleanupFails fails).consistent hbefore
  | openWorker =>
    cases hstep
    exact hbefore

/-- A deleted account has no sessions. -/
theorem DeletionsAgree.sessions_eq_nil {db : IdentityStore} (h : DeletionsAgree db)
    {account : Account} (hfound : db.accounts.find? account.accountId = some account)
    (hdeleted : account.status = .deleted) : db.sessionsOf account.accountId = [] := by
  have hold := h account.accountId
  rw [hfound] at hold
  generalize db.pendingDeletions account.accountId = pending at hold
  generalize db.sessionsOf account.accountId = sessions at hold ⊢
  cases hold with
  | awaiting _ event _ hstatus =>
    rw [hdeleted] at hstatus
    cases hstatus
  | present _ _ hstatus hdue hnone => exact hnone hdeleted

theorem worldStep_keepsDeleted {world world' : IdentityWorld} {label : IdentityLabel}
    {reply : IdentityReply} (hbefore : world.deletionsAgree)
    (hstep : worldStep env world label = some (reply, world')) :
    KeepsDeleted ⟨world, label, reply, world'⟩ := by
  have hafter := worldStep_consistent hbefore hstep
  have hkeeps : ∀ account : Account, account.status = .deleted →
      (world.db.accounts.find? account.accountId = some account →
        world'.db.accounts.find? account.accountId = some account) ∧
      (world'.db.accounts.find? account.accountId = some account →
        ∃ before, world.db.accounts.find? account.accountId = some before ∧
          (before.status = .deleted ∨ ProcessesDeletion ⟨world, label, reply, world'⟩ before)) := by
    intro account hdeleted
    cases label with
    | execute inv fails =>
      cases hstep
      have hiff := (execute_commits env inv fails world.db).deleted_iff hbefore hdeleted
      exact ⟨hiff.mpr, fun h => ⟨account, hiff.mp h, .inl hdeleted⟩⟩
    | runOnce clock handled cleanupFails fails =>
      cases hstep
      obtain ⟨hkept, hreached⟩ :=
        (runOnce_commits env world clock handled cleanupFails fails).deleted hdeleted
      refine ⟨hkept, fun h => ?_⟩
      obtain ⟨before, hfound, hstatus | ⟨hstatus, event, processed, hevent, hprocessed⟩⟩ :=
        hreached h
      · exact ⟨before, hfound, .inl hstatus⟩
      · rw [← (Table.find?_eq_some.mp hfound).2] at hevent
        exact ⟨before, hfound, .inr ⟨hstatus, clock, handled, cleanupFails, fails, event,
          processed, rfl, hevent, hprocessed⟩⟩
    | openWorker =>
      cases hstep
      exact ⟨fun h => h, fun h => ⟨account, h, .inl hdeleted⟩⟩
  constructor
  · intro account hmem hdeleted
    exact (hkeeps account hdeleted).2 (Table.find?_of_mem hmem)
  · intro account hmem hdeleted
    have hfound := Table.find?_of_mem hmem
    have hfound' := (hkeeps account hdeleted).1 hfound
    exact ⟨hfound', hbefore.sessions_eq_nil hfound hdeleted,
      hafter.sessions_eq_nil hfound' hdeleted⟩

/-- In every reachable state the signs of a deletion agree for every account, and every step
reaches deleted accounts only by processing, and keeps them. -/
theorem deletion_state_invariant {world : IdentityWorld}
    {es : List (Entry IdentityWorld IdentityLabel IdentityReply)}
    (hrun : Run (worldStep env) .initial es world) :
    (∀ account ∈ world.db.accounts, DeletionAgrees world.db account) ∧
      ∀ e ∈ es, KeepsDeleted e := by
  constructor
  · intro account hmem
    have hend : world.deletionsAgree := hrun.invariant (G := fun _ _ => True)
      (fun h _ hstep => worldStep_consistent h hstep) (fun _ _ => trivial) deletionsAgree_empty
    have hold := hend account.accountId
    rw [Table.find?_of_mem hmem] at hold
    exact hold.deletionAgrees
  · exact hrun.forall_entry (G := fun _ _ => True) (P := fun s a r t => KeepsDeleted ⟨s, a, r, t⟩)
      (fun h _ hstep => worldStep_consistent h hstep)
      (fun h _ hstep => worldStep_keepsDeleted h hstep) (fun _ _ => trivial) deletionsAgree_empty

theorem deletion_state_invariant_sample : ∃ es world,
    Run (worldStep sampleEnvironment) .initial es world ∧
    es.map Entry.label =
      sampleDeletion ++ [sampleRunOnce 3, sampleRunOnce (3 + accountDeletionWaitMs)] ∧
    world.db.accounts.rows.map Account.status = [.active, .deleted] ∧
    (∀ account ∈ world.db.accounts, DeletionAgrees world.db account) ∧
      ∀ e ∈ es, KeepsDeleted e := by
  have hexec : (exec (worldStep sampleEnvironment) .initial (sampleDeletion ++
      [sampleRunOnce 3, sampleRunOnce (3 + accountDeletionWaitMs)])).any (fun run =>
        run.2.db.accounts.rows.map Account.status = [.active, .deleted]) = true := by
    decide +kernel
  obtain ⟨es, world, hrun, hlabels, hstatuses⟩ := exists_labelled_run_of_exec hexec
  exact ⟨es, world, hrun, hlabels, of_decide_eq_true hstatuses, deletion_state_invariant hrun⟩

end Runs

end ChoiceMind.IdentityAccess
