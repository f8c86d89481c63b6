import ChoiceMind.SourceAccess.Consistency
import ChoiceMind.SourceResearch.Fences
import ChoiceMind.SourceWorker.Moves

/-!
# Steps of workers, requests and purges

What one step does to the rows of source access, to the calls in progress and to the jobs.
-/

namespace ChoiceMind.SourceWorker

set_option autoImplicit false

open Contracts TaskPersistence Security SourceAccess SourceResearch

/-! ### Calls -/

section Calls
variable {env : AccessEnvironment} {world world' : AccessWorld} {label : AccessLabel}
  {reply : AccessReply} {client other : Nat} {call : SourceCall} {current : OpenCall}

theorem put_other {result : CallResult × AccessTables}
    (h : world.put client call result = (reply, world')) (hother : other ≠ client) :
    world'.calls.find? other = world.calls.find? other := by
  obtain ⟨result, tables⟩ := result
  cases result with
  | next phase =>
    cases h
    exact Table.find?_set.trans (if_neg hother)
  | ended reply =>
    cases h
    exact Table.find?_erase.trans (if_neg hother)

/-- The call that a client has after its step. -/
theorem put_self {result : CallResult × AccessTables}
    (h : world.put client call result = (reply, world'))
    (hfound : world'.calls.find? client = some current) :
    reply = .pending ∧ result.1 = .next current.phase ∧ current.call = call := by
  obtain ⟨result, tables⟩ := result
  cases result with
  | next phase =>
    cases h
    have hsame := hfound.symm.trans Table.find?_set_self
    cases hsame
    exact ⟨rfl, rfl, rfl⟩
  | ended reply =>
    cases h
    have hnone := hfound.symm.trans (Table.find?_erase.trans (if_pos rfl))
    cases hnone

/-- The first step of a call leaves the calls of other clients. -/
theorem opened_other (h : accessStep env world label = some (reply, world'))
    (hnew : ∀ client, accessClient label ≠ some (client, false))
    (hother : accessClient label ≠ some (other, true)) :
    world'.calls.find? other = world.calls.find? other := by
  unfold accessStep at h
  cases label with
  | beginLogin scope officialLoginUrl now =>
    cases h
    rfl
  | completeLogin client call id =>
    have hne : other ≠ client := fun hsame => hother (by rw [hsame]; rfl)
    dsimp only at h
    repeat' split at h
    · cases h
    · cases h
      rfl
    · cases h
    · cases h
      rfl
    · exact put_other (Option.some.inj h) hne
  | markCredential client call sourceId sourceAccountId command now =>
    have hne : other ≠ client := fun hsame => hother (by rw [hsame]; rfl)
    dsimp only at h
    repeat' split at h
    · cases h
    · cases h
      rfl
    · cases h
    · exact put_other (Option.some.inj h) hne
  | withCredential client call sourceId sourceAccountId =>
    have hne : other ≠ client := fun hsame => hother (by rw [hsame]; rfl)
    dsimp only at h
    repeat' split at h
    · cases h
    · cases h
      rfl
    · exact put_other (Option.some.inj h) hne
  | advance client now returns => exact absurd rfl (hnew client)

/-- Only `COMPLETE_LOGIN` opens a call that has a login session. -/
theorem opened_session (h : accessStep env world label = some (reply, world'))
    (houtside : isOutsideAccess label = true)
    (hclient : accessClient label = some (client, true))
    (hfound : world'.calls.find? client = some current)
    (hsession : current.phase.loginSession?.isSome = true) :
    world.calls.find? client = some current := by
  unfold accessStep at h
  cases label with
  | beginLogin scope officialLoginUrl now => cases hclient
  | completeLogin client' call id => cases houtside
  | markCredential client' call sourceId sourceAccountId command now =>
    cases hclient
    dsimp only at h
    repeat' split at h
    · cases h
    · cases h
      exact hfound
    · cases h
    · obtain ⟨-, hnext, -⟩ := put_self (Option.some.inj h) hfound
      unfold markRow at hnext
      split at hnext
      · cases hnext
      · cases hphase : current.phase with
        | deleting id next =>
          rw [hphase] at hnext hsession
          cases hnext
          cases hsession
        | _ =>
          rw [hphase] at hnext
          cases hnext
  | withCredential client' call sourceId sourceAccountId =>
    cases hclient
    dsimp only at h
    repeat' split at h
    · cases h
    · cases h
      exact hfound
    · obtain ⟨-, hnext, -⟩ := put_self (Option.some.inj h) hfound
      dsimp only at hnext
      unfold readCredential at hnext
      split at hnext
      · cases hnext
      · cases hphase : current.phase with
        | reading id =>
          rw [hphase] at hsession
          cases hsession
        | _ =>
          rw [hphase] at hnext
          cases hnext
  | advance client' now returns => cases hclient

/-- The call that `COMPLETE_LOGIN` opens. -/
theorem opened_login {loginSessionId : String}
    (h : accessStep env world (.completeLogin client call loginSessionId) = some (reply, world'))
    (hfound : world'.calls.find? client = some current) :
    reply = .pending ∧ current.call = call := by
  unfold accessStep at h
  dsimp only at h
  repeat' split at h
  · cases h
  · rename_i hfree _
    cases h
    rw [hfound] at hfree
    cases hfree rfl
  · cases h
  · rename_i hfree _ _ _ _
    cases h
    rw [hfound] at hfree
    cases hfree rfl
  · obtain ⟨hreply, -, hcall⟩ := put_self (Option.some.inj h) hfound
    exact ⟨hreply, hcall⟩

/-- A call keeps its login session. -/
theorem advance_session {now : Instant} {returns : Bool} {tables : AccessTables}
    {phase next : CallPhase} (h : (advance env call now returns tables phase).1 = .next next)
    (hsession : next.loginSession?.isSome = true) : phase.loginSession?.isSome = true := by
  unfold advance at h
  cases phase with
  | opened login => rfl
  | locked login old id => rfl
  | stored login old id => rfl
  | deleting id continuation =>
    cases continuation with
    | replaced loginSessionId existing => rfl
    | marked row =>
      dsimp only at h
      repeat' split at h
      · cases h
      · cases h
        cases hsession
      · cases h
    | cleaned error =>
      dsimp only at h
      repeat' split at h
      · cases h
      · cases h
        cases hsession
      · cases h
  | loaded id continuation =>
    cases continuation with
    | replaced loginSessionId existing => rfl
    | marked row => cases h
    | cleaned error => cases h
  | forgetting id existing => cases h
  | reading id =>
    dsimp only at h
    repeat' split at h
    all_goals cases h
    all_goals cases hsession
  | operating id => cases h

end Calls

/-! ### Rows -/

/-- The row of an account was there before with the same credential, and it is the same row if it
is active. -/
def RowKept (before after : AccessTables) (scope : SourceScope) : Prop :=
  ∀ row', after.credentials.find? scope = some row' →
    ∃ row, before.credentials.find? scope = some row ∧ row.credentialId = row'.credentialId ∧
      (row'.status = .active → row = row')

/-- The account has an active credential. -/
def isActive (tables : AccessTables) (scope : SourceScope) : Bool :=
  (tables.credentials.find? scope).any fun row => row.status = .active

/-- The account whose new credential a step publishes. -/
def AccessWorld.publishes (world : AccessWorld) : AccessLabel → Option SourceScope
  | .advance client .. =>
    (world.calls.find? client).bind fun current =>
      match current.phase with
      | .stored login _ _ => some login.scope
      | _ => none
  | _ => none

def WorkerWorld.publishes (world : WorkerWorld) : WorkerLabel → Option SourceScope
  | .outsideAccess label => AccessWorld.publishes world.access label
  | _ => none

section Rows
variable {env : AccessEnvironment} {before after : AccessTables} {scope : SourceScope}

theorem RowKept.of_eq (h : after.credentials = before.credentials) : RowKept before after scope := by
  intro row' hrow'
  rw [h] at hrow'
  exact ⟨row', hrow', rfl, fun _ => rfl⟩

theorem RowKept.mark (scope' : SourceScope) (command : MarkCommand) (now : Instant) :
    RowKept before (before.mark scope' command now) scope := by
  intro row' hrow'
  obtain ⟨row, hrow, hid, hactive⟩ := find?_mark hrow'
  exact ⟨row, hrow, hid, fun hstatus => (hactive hstatus).2⟩

theorem RowKept.purge (ownerUserId : String) :
    RowKept before (purgeSources ownerUserId before) scope := by
  intro row' hrow'
  unfold purgeSources at hrow'
  dsimp only at hrow'
  rw [Table.find?_deleteWhere, Option.filter_eq_some_iff] at hrow'
  exact ⟨row', hrow'.1, rfl, fun _ => rfl⟩

/-- Only the publication of a credential and a mark change rows. -/
theorem advance_credentials {call : SourceCall} {now : Instant} {returns : Bool}
    {phase : CallPhase} (h : ∀ login old id, phase ≠ .stored login old id) :
    (advance env call now returns before phase).2.credentials = before.credentials := by
  unfold advance
  cases phase with
  | opened login => rfl
  | locked login old id =>
    dsimp only
    split <;> rfl
  | stored login old id => exact absurd rfl (h login old id)
  | deleting id next =>
    dsimp only
    split
    · split <;> rfl
    · rfl
  | loaded id next => rfl
  | forgetting id existing => rfl
  | reading id =>
    dsimp only
    split
    · split
      · rfl
      · split <;> rfl
    · rfl
    · split <;> rfl
  | operating id => rfl

/-- A publication leaves the rows of other accounts. -/
theorem advance_stored {call : SourceCall} {now : Instant} {returns : Bool} {login : SourceLogin}
    {old : Option SourceCredential} {id : String} :
    (advance env call now returns before (.stored login old id)).2 =
      before.publish login old id now := by
  unfold advance
  dsimp only
  split
  · rfl
  · split <;> rfl

theorem RowKept.advance {call : SourceCall} {now : Instant} {returns : Bool} {phase : CallPhase}
    (h : ∀ login old id, phase = .stored login old id → login.scope ≠ scope) :
    RowKept before (advance env call now returns before phase).2 scope := by
  by_cases hstored : ∃ login old id, phase = .stored login old id
  · obtain ⟨login, old, id, rfl⟩ := hstored
    rw [advance_stored]
    intro row' hrow'
    rw [find?_publish, if_neg (h login old id rfl).symm] at hrow'
    exact ⟨row', hrow', rfl, fun _ => rfl⟩
  · exact .of_eq (advance_credentials fun login old id hphase =>
      hstored ⟨login, old, id, hphase⟩)

theorem beginLoginRow_credentials {officialLoginUrl : String} {now : Instant} {reply : AccessReply}
    (h : beginLoginRow env scope officialLoginUrl now before = (reply, after)) :
    after.credentials = before.credentials := by
  unfold beginLoginRow at h
  dsimp only at h
  split at h
  · cases h
    rfl
  · cases h
    rfl

/-- A call that is no step of one in progress keeps the rows. -/
theorem RowKept.opened {world world' : AccessWorld} {label : AccessLabel} {reply : AccessReply}
    (hnew : ∀ client, accessClient label ≠ some (client, false))
    (h : accessStep env world label = some (reply, world')) :
    RowKept world.tables world'.tables scope := by
  unfold accessStep at h
  cases label with
  | beginLogin scope' officialLoginUrl now =>
    cases h
    exact .of_eq (beginLoginRow_credentials rfl)
  | completeLogin client call id =>
    dsimp only at h
    repeat' split at h
    all_goals try cases h
    · exact .of_eq rfl
    · exact .of_eq rfl
    · exact .of_eq (congrArg AccessTables.credentials (tables_of_put (Option.some.inj h)))
  | markCredential client call sourceId sourceAccountId command now =>
    dsimp only at h
    repeat' split at h
    all_goals try cases h
    · exact .of_eq rfl
    · rw [tables_of_put (Option.some.inj h)]
      unfold markRow
      split
      · exact .of_eq rfl
      · exact .mark _ command now
  | withCredential client call sourceId sourceAccountId =>
    dsimp only at h
    repeat' split at h
    all_goals try cases h
    · exact .of_eq rfl
    · exact .of_eq (congrArg AccessTables.credentials (tables_of_put (Option.some.inj h)))
  | advance client now returns => exact absurd rfl (hnew client)

theorem RowKept.accessPhase {wenv : WorkerEnvironment} {run : WorkerRun} {now : Instant}
    {answer : AdapterAnswer} {locked : SourceScope → Bool} {phase : RunPhase} {result : RunResult}
    (h : SourceWorker.accessPhase wenv run now answer locked before phase = some (result, after)) :
    RowKept before after scope := by
  cases accessPhase_move h with
  | marked => exact .mark _ _ now
  | loggedIn challenge login tables hlogin => exact .of_eq (beginLoginRow_credentials hlogin)
  | refused challenge error tables hlogin => exact .of_eq (beginLoginRow_credentials hlogin)
  | _ => exact .of_eq rfl

end Rows

section Worlds
variable {env : WorkerEnvironment} {world world' : WorkerWorld} {label : WorkerLabel}
  {reply : WorkerReply}

theorem put_access {run : WorkerRun} {result : RunResult}
    (h : world.put run result = (reply, world')) : world'.access = world.access := by
  cases result with
  | next phase heartbeat =>
    cases h
    rfl
  | ended result =>
    cases h
    rfl

theorem put_research {run : WorkerRun} {result : RunResult}
    (h : world.put run result = (reply, world')) : world'.research = world.research := by
  cases result with
  | next phase heartbeat =>
    cases h
    rfl
  | ended result =>
    cases h
    rfl

theorem put_requests {run : WorkerRun} {result : RunResult}
    (h : world.put run result = (reply, world')) : world'.requests = world.requests := by
  cases result with
  | next phase heartbeat =>
    cases h
    rfl
  | ended result =>
    cases h
    rfl

/-- The runs after a step of one of them. -/
theorem put_runs {run : WorkerRun} {result : RunResult}
    (hput : world.put run result = (reply, world')) {other : Nat} {run' : WorkerRun} (hfound : world'.runs.find? other = some run') :
    (other = run.client ∧ ∃ phase heartbeat, result = .next phase heartbeat ∧
      run' = { run with phase, heartbeat }) ∨
    (other ≠ run.client ∧ world.runs.find? other = some run') := by
  cases result with
  | next phase heartbeat =>
    cases hput
    dsimp only at hfound
    rw [Table.find?_set] at hfound
    split at hfound
    · cases hfound
      exact .inl ⟨‹_›, phase, heartbeat, rfl, rfl⟩
    · exact .inr ⟨‹_›, hfound⟩
  | ended result =>
    cases hput
    dsimp only at hfound
    rw [Table.find?_erase] at hfound
    split at hfound
    · cases hfound
    · exact .inr ⟨‹_›, hfound⟩

/-- A step keeps the row of an account unless it publishes a credential for it. -/
theorem workerStep_row (h : workerStep env world label = some (reply, world'))
    (scope : SourceScope) :
    RowKept world.access.tables world'.access.tables scope ∨
      world.publishes label = some scope := by
  cases workerStep_move h with
  | claimed => exact .inl (.of_eq rfl)
  | unclaimed => exact .inl (.of_eq rfl)
  | access client now answer run result tables hrun hphase _ _ hput =>
    rw [put_access hput]
    exact .inl (.accessPhase hphase)
  | complete client lockedAt timestamp run result research hrun hphase _ _ hput =>
    rw [put_access hput]
    exact .inl (.of_eq rfl)
  | heartbeat => exact .inl (.of_eq rfl)
  | request client principal correlationId loginSessionId reply access hfree hstep =>
    refine .inl (.opened ?_ hstep)
    rintro client' hclient
    cases hclient
  | resume => exact .inl (.of_eq rfl)
  | opened label reply access hlogin hnew hfree hstep => exact .inl (.opened hnew hstep)
  | advanced client now returns current hcall hfree reply access hput =>
    rw [tables_of_put hput]
    by_cases hstored : ∃ login old id, current.phase = .stored login old id ∧ login.scope = scope
    · obtain ⟨login, old, id, hphase, rfl⟩ := hstored
      refine .inr ?_
      unfold WorkerWorld.publishes AccessWorld.publishes
      dsimp only
      rw [hcall, Option.bind_some, hphase]
    · refine .inl (.advance fun login old id hphase hscope => ?_)
      exact hstored ⟨login, old, id, hphase, hscope⟩
  | outsideResearch => exact .inl (.of_eq rfl)
  | purgeSources ownerUserId => exact .inl (.purge ownerUserId)
  | purgeVault ownerUserId => exact .inl (.of_eq rfl)

/-! ### Jobs -/

/-- The call of source research that a step makes. -/
def WorkerWorld.researchCall (world : WorkerWorld) : WorkerLabel → Option ResearchLabel
  | .claimNext _ workerId leaseDurationMs now locked =>
    some (.claimNext workerId leaseDurationMs now locked)
  | .complete client lockedAt timestamp =>
    (world.runs.find? client).bind fun run =>
      match run.phase with
      | .finishing outcome => some (.beginComplete run.claim outcome)
      | .completing outcome => some (.settle run.claim outcome lockedAt timestamp)
      | _ => none
  | .heartbeat client leaseDurationMs now =>
    (world.runs.find? client).map fun run => .renewLease run.claim leaseDurationMs now
  | .resume client now =>
    ((world.requests.find? client).bind LoginRequest.resuming).map fun scope =>
      .resumeSource scope now
  | .outsideResearch label => some label
  | _ => none

theorem workerStep_research (h : workerStep env world label = some (reply, world')) :
    world'.research = world.research ∨ ∃ call answer, world.researchCall label = some call ∧
      researchStep env.research world.research call = some (answer, world'.research) := by
  cases workerStep_move h with
  | claimed client workerId leaseDurationMs now locked claim research hfree hstep =>
    exact .inr ⟨_, _, rfl, hstep⟩
  | unclaimed client workerId leaseDurationMs now locked reply research hnone hstep =>
    exact .inr ⟨_, _, rfl, hstep⟩
  | access client now answer run result tables hrun hphase _ _ hput =>
    exact .inl ((put_research hput).trans rfl)
  | complete client lockedAt timestamp run result research hrun hphase _ _ hput =>
    rw [put_research hput]
    unfold WorkerWorld.researchCall
    dsimp only
    rw [hrun, Option.bind_some]
    have hmove := researchPhase_move hphase
    generalize run.phase = phase at hmove ⊢
    cases hmove with
    | repeated outcome hcommitted hstep => exact .inr ⟨_, _, rfl, hstep⟩
    | begun outcome research' hopen hcompleting hstep => exact .inr ⟨_, _, rfl, hstep⟩
    | settled outcome status research' hstep => exact .inr ⟨_, _, rfl, hstep⟩
    | refused outcome error research' hstep => exact .inr ⟨_, _, rfl, hstep⟩
  | heartbeat client leaseDurationMs now run reply research hrun hon hstep =>
    refine .inr ⟨_, _, ?_, hstep⟩
    unfold WorkerWorld.researchCall
    dsimp only
    rw [hrun, Option.map_some]
  | request => exact .inl rfl
  | resume client now scope reply research hrequest hstep =>
    refine .inr ⟨_, _, ?_, hstep⟩
    unfold WorkerWorld.researchCall
    dsimp only
    rw [hrequest]
    rfl
  | opened => exact .inl rfl
  | advanced => exact .inl rfl
  | outsideResearch label reply research houtside hstep => exact .inr ⟨_, _, rfl, hstep⟩
  | purgeSources => exact .inl rfl
  | purgeVault => exact .inl rfl

theorem workerStep_linked (hlinked : Linked env.research world.research)
    (h : workerStep env world label = some (reply, world')) :
    Linked env.research world'.research := by
  rcases workerStep_research h with hsame | ⟨call, answer, -, hstep⟩
  · rw [hsame]
    exact hlinked
  · exact linked_step hlinked hstep

end Worlds

/-! ### A small platform -/

/-- Short uuids, no failure of an audit, and one adapter. -/
def sampleWorker : WorkerEnvironment where
  access := sampleAccess
  research := sampleResearch
  adapters sourceId := if sourceId = "source" then some "login" else none

/-- The owner opens a login, and a worker claims the job. -/
def sampleClaimed : List WorkerLabel :=
  [.outsideResearch (.createBatch sampleBatch 0),
   .outsideAccess (.beginLogin ⟨"owner", "source", "account"⟩ "login" 0),
   .claimNext 0 "worker" 10 1 fun _ => false]

/-- The owner completes the login and resumes the account. -/
def sampleLoggedIn : List WorkerLabel :=
  [.request 1 ⟨"owner", .user⟩ "request" "", .outsideAccess (.advance 1 3 true),
   .outsideAccess (.advance 1 3 true), .outsideAccess (.advance 1 3 true), .resume 1 3]

end ChoiceMind.SourceWorker
