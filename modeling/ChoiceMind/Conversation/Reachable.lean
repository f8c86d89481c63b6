import ChoiceMind.Conversation.Sessions

/-!
# Reachable conversations

Every step keeps the rows of every session a record of the turns committed to it, whatever
commands overlap and wherever they fail.
-/

namespace ChoiceMind.Conversation

set_option autoImplicit false

open Contracts Transition

variable {env : Environment}

/-! ### Statements of a call -/

section Statements
variable {around : Surroundings} {progress : Progress} {draws : Nat} {db' : Store}

/-- What comes after a statement of `createSession`. -/
inductive Prepares (env : Environment) (around : Surroundings) (command : CreateSessionCommand)
    (draws : Nat) : CreatePhase → CreatePhase → Prop
  | idle {phase phase' : CreatePhase}
    (hidle : Idle (.creating command phase')) : Prepares env around command draws phase phase'
  | inserts (hdraws : draws = 1)
    (hfree : around.contested (newSession env around command) = false)
    (hnone : around.db.sessionFor command.ownerUserId command.clientRequestId = none) :
    Prepares env around command draws .absent (.inserted (newSession env around command))
  | opens (session : SessionRow) : Prepares env around command draws (.inserted session)
    (.opened session (openingMessage env around session))

theorem createSession_continues {command : CreateSessionCommand} {phase : CreatePhase}
    (h : createSession env around command phase = .continues progress draws) :
    ∃ phase', progress = .creating command phase' ∧
      Prepares env around command draws phase phase' := by
  cases phase with
  | started =>
    simp only [createSession] at h
    split at h
    · cases h
      exact ⟨_, rfl, .idle ⟨rfl, rfl⟩⟩
    · cases h
      exact ⟨_, rfl, .idle ⟨rfl, rfl⟩⟩
  | absent =>
    simp only [createSession] at h
    split at h
    · cases h
    · rename_i hfree
      split at h
      · cases h
        exact ⟨_, rfl, .idle ⟨rfl, rfl⟩⟩
      · rename_i hnone
        cases h
        refine ⟨_, rfl, .inserts rfl (Bool.not_eq_true _ ▸ hfree) ?_⟩
        rwa [Bool.not_eq_true, Option.isSome_eq_false_iff, Option.isNone_iff_eq_none] at hnone
  | inserted session =>
    simp only [createSession] at h
    split at h
    · cases h
      exact ⟨_, rfl, .opens session⟩
    · cases h
  | opened session message => cases h
  | conflicting =>
    cases h
    exact ⟨_, rfl, .idle ⟨rfl, rfl⟩⟩
  | found sessionId missing =>
    simp only [createSession] at h
    split at h <;> cases h

/-- A `COMMIT` publishes a session with its opening message, or nothing. -/
theorem createSession_commits {command : CreateSessionCommand} {phase : CreatePhase}
    (h : createSession env around command phase = .commits progress db') :
    ∃ sessionId missing, progress = .loading command.ownerUserId sessionId missing ∧
      (phase = .found (some sessionId) missing ∧ db' = around.db ∨
        ∃ session message, phase = .opened session message ∧ sessionId = session.sessionId ∧
          db' = (around.db.addSession session).addMessage message) := by
  cases phase with
  | started =>
    simp only [createSession] at h
    split at h <;> cases h
  | absent =>
    simp only [createSession] at h
    repeat' split at h
    all_goals cases h
  | inserted session =>
    simp only [createSession] at h
    split at h <;> cases h
  | opened session message =>
    cases h
    exact ⟨_, _, rfl, .inr ⟨session, message, rfl, rfl, rfl⟩⟩
  | conflicting => cases h
  | found sessionId missing =>
    simp only [createSession] at h
    split at h
    · cases h
      exact ⟨_, _, rfl, .inl ⟨rfl, rfl⟩⟩
    · cases h

theorem idle_loading (ownerUserId sessionId missing : String) :
    Idle (.loading ownerUserId sessionId missing) := ⟨rfl, rfl⟩

end Statements

/-! ### Steps of the system -/

/-- What a step is. -/
inductive Move (env : Environment) (w : World) : Label → Reply → World → Prop
  | stays {label : Label} {error : ConversationError} (hlabel : ∀ callId, label ≠ .next callId) :
    Move env w label (.failed error) w
  | begins {callId : Nat} {command : Command} {calledAt : Instant} {progress : Progress}
    {calls : Table Call.callId} (hstart : command.start = .ok progress)
    (hcalls : w.calls.insert? ⟨callId, calledAt, progress⟩ = some calls) :
    Move env w (.call callId command calledAt) .progress { w with calls }
  | continues {call : Call} {progress : Progress} {draws : Nat} (hcall : call ∈ w.calls)
    (hadvance : advance env (w.around call) call.progress = .continues progress draws) :
    Move env w (.next call.callId) .progress
      { w.goOn call.callId progress with drawn := w.drawn + draws }
  | commits {call : Call} {progress : Progress} {db : Store} (hcall : call ∈ w.calls)
    (hadvance : advance env (w.around call) call.progress = .commits progress db) :
    Move env w (.next call.callId) .progress { w.goOn call.callId progress with db }
  | ends {call : Call} {reply : Reply} (hcall : call ∈ w.calls)
    (hadvance : advance env (w.around call) call.progress = .ends reply) :
    Move env w (.next call.callId) reply (w.close call.callId)
  | fails {callId : Nat} :
    Move env w (.fail callId) (.failed .statement) (w.close callId)
  | links {command : LinkDecisionTaskCommand} {linkedAt : Instant}
    {session : ConversationSession} (links : List LinkRow) :
    Move env w (.linkDecisionTask command linkedAt) (.session session)
      { w with db := { w.db with links } }
  | purges {ownerUserId : String} {deleted : Nat} (hpurgeable : w.purgeable ownerUserId = true) :
    Move env w (.purgePrivateDataForOwner ownerUserId) (.purged deleted)
      { w with db := w.db.purgePrivateDataForOwner ownerUserId }

theorem insertLink_ok {sessionId : String} {command : LinkDecisionTaskCommand}
    {linkedAt : Instant} {db db' : Store} (h : insertLink db sessionId command linkedAt = .ok db') :
    ∃ links, db' = { db with links } := by
  simp only [insertLink] at h
  repeat' split at h
  all_goals cases h
  · exact ⟨_, rfl⟩
  · exact ⟨_, rfl⟩

theorem linkDecisionTask_ok {command : LinkDecisionTaskCommand} {linkedAt : Instant}
    {db db' : Store} {session : ConversationSession}
    (h : linkDecisionTask env command linkedAt db = .ok (session, db')) :
    ∃ links, db' = { db with links } := by
  simp only [linkDecisionTask, bind_eq_ok] at h
  obtain ⟨_, -, _, -, _, -, h⟩ := h
  split at h
  · cases h
  · simp only [bind_eq_ok] at h
    obtain ⟨inserted, hinserted, h⟩ := h
    split at h
    · cases h
      exact insertLink_ok hinserted
    · cases h

theorem step_move {w w' : World} {label : Label} {reply : Reply}
    (h : w.step env label = some (reply, w')) : Move env w label reply w' := by
  cases label with
  | call callId command calledAt =>
    simp only [World.step] at h
    split at h
    · cases h
      exact .stays fun _ heq => by cases heq
    · rename_i progress hstart
      obtain ⟨calls, hcalls, heq⟩ := Option.map_eq_some_iff.mp h
      cases heq
      exact .begins hstart hcalls
  | next callId =>
    obtain ⟨call, hfound, h⟩ := Option.bind_eq_some_iff.mp h
    obtain ⟨hcall, rfl⟩ := Table.find?_eq_some.mp hfound
    cases hadvance : advance env (w.around call) call.progress with
    | waits =>
      rw [hadvance] at h
      cases h
    | continues progress draws =>
      rw [hadvance] at h
      cases h
      exact .continues hcall hadvance
    | commits progress db =>
      rw [hadvance] at h
      cases h
      exact .commits hcall hadvance
    | ends reply =>
      rw [hadvance] at h
      cases h
      exact .ends hcall hadvance
  | fail callId =>
    obtain ⟨call, -, heq⟩ := Option.map_eq_some_iff.mp h
    cases heq
    exact .fails
  | linkDecisionTask command linkedAt =>
    simp only [World.step] at h
    split at h
    · cases h
      exact .stays fun _ heq => by cases heq
    · rename_i session db hlink
      cases h
      obtain ⟨links, rfl⟩ := linkDecisionTask_ok hlink
      exact .links links
  | purgePrivateDataForOwner ownerUserId =>
    simp only [World.step] at h
    split at h
    · cases h
      exact .stays fun _ heq => by cases heq
    · split at h
      · rename_i hpurgeable
        cases h
        exact .purges hpurgeable
      · cases h

/-! ### The invariant is kept -/

section Invariant
variable {turns : String → List Turn} {w w' : World} {call : Call} {label : Label} {reply : Reply}

theorem publishedTurn_next (hcall : call ∈ w.calls) :
    publishedTurn ⟨w, .next call.callId, reply, w'⟩ = call.progress.publishes := by
  simp only [publishedTurn, Table.find?_of_mem hcall, Option.bind_some]

/-- Only the `COMMIT` of a turn publishes one. -/
theorem commits_of_publishes {around : Surroundings} {progress : Progress}
    {published : String × Turn} (h : progress.publishes = some published) :
    ∃ next db, advance env around progress = .commits next db := by
  unfold Progress.publishes at h
  split at h
  · exact ⟨_, _, rfl⟩
  · cases h

theorem publishes_of_continues {around : Surroundings} {progress next : Progress} {draws : Nat}
    (h : advance env around progress = .continues next draws) : progress.publishes = none := by
  by_contra hsome
  obtain ⟨published, hpublished⟩ := Option.ne_none_iff_exists'.mp hsome
  obtain ⟨_, _, hcommits⟩ := commits_of_publishes hpublished
  rw [hcommits] at h
  cases h

theorem publishes_of_ends {around : Surroundings} {progress : Progress}
    (h : advance env around progress = .ends reply) : progress.publishes = none := by
  by_contra hsome
  obtain ⟨published, hpublished⟩ := Option.ne_none_iff_exists'.mp hsome
  obtain ⟨_, _, hcommits⟩ := commits_of_publishes hpublished
  rw [hcommits] at h
  cases h

theorem pending_newSession (h : Sound env turns w) {command : CreateSessionCommand} {drawn : Nat}
    (hdrawn : w.drawn < drawn)
    (hnone : w.db.sessionFor command.ownerUserId command.clientRequestId = none) :
    Pending env turns w.db drawn (newSession env (w.around call) command) := by
  refine ⟨⟨w.drawn, hdrawn, rfl⟩, ?_, ?_⟩
  · intro row hrow
    constructor
    · intro hid
      have hrowId := h.tables.ids row hrow
      rw [hid] at hrowId
      exact not_drawn env w.drawn hrowId
    · rintro ⟨howner, hrequest⟩
      have hother := List.find?_eq_none.mp hnone row hrow
      exact hother (by rw [howner, hrequest]; simp [newSession])
  · by_contra hturns
    exact not_drawn env w.drawn (h.tables.heard _ hturns)

/-- No other call has inserted a session of this id or for this request. -/
theorem apart_newSession (h : Sound env turns w) {command : CreateSessionCommand}
    (hfree : (w.around call).contested (newSession env (w.around call) command) = false)
    {other : Call} (hother : other ∈ w.calls) (hne : other.callId ≠ call.callId)
    {session : SessionRow} (hsession : other.progress.pendingSession = some session) :
    Apart (newSession env (w.around call) command) session := by
  constructor
  · intro hid
    have hother := ((h.calls other hother).pending session hsession).id
    rw [← hid] at hother
    exact not_drawn env w.drawn hother
  · rintro ⟨howner, hrequest⟩
    have hothers := List.any_eq_false.mp hfree other hother
    exact hothers (by simp [hne, hsession, howner, hrequest])

theorem not_locked_of_around {sessionId : String} (h : (w.around call).locked sessionId = false)
    {other : Call} (hother : other ∈ w.calls) (hne : other.callId ≠ call.callId) :
    other.progress.lockedSession ≠ some sessionId := by
  intro hlocked
  exact List.any_eq_false.mp h other hother (by simp [hne, hlocked])

/-- A locked session is committed. -/
theorem Sound.owned_locked (h : Sound env turns w) (hcall : call ∈ w.calls) {sessionId : String}
    (hlocked : call.progress.lockedSession = some sessionId) :
    ∃ row ∈ w.db.sessions, row.sessionId = sessionId := by
  cases hprogress : call.progress with
  | creating | loading =>
    rw [hprogress] at hlocked
    cases hlocked
  | appending command turn phase =>
    rw [hprogress] at hlocked
    have hsound := (h.calls call hcall).appending command turn phase hprogress
    obtain ⟨row, hrow, hid, -⟩ := hsound.owned hlocked
    exact ⟨row, hrow, hid⟩

/-- The rows of a locked session are recorded. -/
theorem Sound.recorded_locked (h : Sound env turns w) (hcall : call ∈ w.calls) {sessionId : String}
    (hlocked : call.progress.lockedSession = some sessionId) :
    Recorded env (turns sessionId) (w.db.messagesOf sessionId) (w.db.revisionsOf sessionId) := by
  obtain ⟨row, hrow, rfl⟩ := h.owned_locked hcall hlocked
  exact h.tables.recorded row hrow

theorem Sound.continues (h : Sound env turns w) (hcall : call ∈ w.calls) {progress : Progress}
    {draws : Nat}
    (hadvance : advance env (w.around call) call.progress = .continues progress draws) :
    Sound env turns { w.goOn call.callId progress with drawn := w.drawn + draws } := by
  have hle : w.drawn ≤ w.drawn + draws := Nat.le_add_right _ _
  have hcallSound := h.calls call hcall
  refine h.replaced hcall rfl (h.tables.mono hle) ?_ ?_ ?_
  · intro other hother _
    exact (h.calls other hother).mono hle
  · cases hprogress : call.progress with
    | creating command phase =>
      rw [hprogress] at hadvance
      obtain ⟨phase', rfl, hprepares⟩ := createSession_continues hadvance
      cases hprepares with
      | idle hidle =>
        apply hidle.callSound
        intro _ _ _ heq
        cases heq
      | inserts hdraws hfree hnone =>
        apply CallSound.of_creating
        · intro _ _ heq
          cases heq
        · intro session hsession
          cases hsession
          have hless : w.drawn < w.drawn + draws := by omega
          exact pending_newSession h hless hnone
      | opens session =>
        apply CallSound.of_creating
        · intro _ _ heq
          cases heq
          exact ⟨rfl, rfl, rfl, rfl⟩
        · intro other hother
          cases hother
          exact (hcallSound.pending session (by rw [hprogress]; rfl)).mono hle
    | appending command turn phase =>
      rw [hprogress] at hadvance
      obtain ⟨phase', rfl, hproceeds⟩ := appendUserTurn_continues
        (hcallSound.appending command turn phase hprogress)
        (fun sessionId hlocked => ⟨_, h.recorded_locked hcall (by rw [hprogress]; exact hlocked)⟩)
        hadvance
      exact CallSound.of_appending hproceeds.sound
    | loading ownerUserId sessionId missing =>
      rw [hprogress] at hadvance
      simp only [advance] at hadvance
      split at hadvance <;> cases hadvance
  · intro other hother hne
    have hbefore := h.disjoint call hcall other hother (Ne.symm hne)
    cases hprogress : call.progress with
    | creating command phase =>
      rw [hprogress] at hadvance hbefore
      obtain ⟨phase', rfl, hprepares⟩ := createSession_continues hadvance
      cases hprepares with
      | idle hidle => exact hidle.disjoint
      | inserts hdraws hfree hnone =>
        apply disjoint_creating
        intro p q hp hq
        cases hp
        exact apart_newSession h hfree hother hne hq
      | opens session => exact disjoint_creating hbefore.pending
    | appending command turn phase =>
      rw [hprogress] at hadvance hbefore
      obtain ⟨phase', rfl, hproceeds⟩ := appendUserTurn_continues
        (hcallSound.appending command turn phase hprogress)
        (fun sessionId hlocked => ⟨_, h.recorded_locked hcall (by rw [hprogress]; exact hlocked)⟩)
        hadvance
      apply disjoint_appending
      intro sessionId hlocked
      rcases hproceeds.session with hsame | ⟨-, locked, hnew, -, hfree⟩
      · exact hbefore.locked sessionId (hsame.symm.trans hlocked)
      · have heq : sessionId = locked := Option.some.inj (hlocked.symm.trans hnew)
        rw [heq]
        exact not_locked_of_around hfree hother hne
    | loading ownerUserId sessionId missing =>
      rw [hprogress] at hadvance
      simp only [advance] at hadvance
      split at hadvance <;> cases hadvance

/-- Calls that go on to the read after a `COMMIT`, with the others beside them. -/
theorem Sound.loads (h : Sound env turns w) (hcall : call ∈ w.calls) {turns' : String → List Turn}
    {ownerUserId sessionId missing : String} {db : Store}
    (htables : TablesSound env turns' db w.drawn)
    (hkept : ∀ other ∈ w.calls, other.callId ≠ call.callId →
      CallSound env turns' db w.drawn other.progress) :
    Sound env turns' { w.goOn call.callId (.loading ownerUserId sessionId missing) with db } := by
  refine h.replaced hcall rfl htables hkept ?_ ?_
  · apply (idle_loading ownerUserId sessionId missing).callSound
    intro _ _ _ heq
    cases heq
  · intro other _ _
    exact (idle_loading ownerUserId sessionId missing).disjoint

theorem Sound.commits_turn (h : Sound env turns w) (hcall : call ∈ w.calls)
    {command : AppendUserTurnCommand} {turn : Turn} {message answer : MessageRow}
    {revision : Option RevisionRow} {missing : String} {title : Option String} {updatedAt : Instant}
    (hprogress : call.progress = .appending command turn (.titled message revision answer)) :
    Sound env (hear turns (some (message.sessionId, turn)))
      { w.goOn call.callId (.loading command.ownerUserId message.sessionId missing) with
        db := (w.db.addTurn message revision answer).touchSession message.sessionId
          command.ownerUserId title updatedAt } := by
  have hturn : Answered env w.db command.ownerUserId turn message revision answer :=
    (h.calls call hcall).appending command turn _ hprogress
  refine h.loads hcall ((h.tables.addTurn hturn).touchSession title updatedAt) ?_
  intro other hother hne
  have hsound := h.calls other hother
  have hdisjoint := h.disjoint call hcall other hother (Ne.symm hne)
  rw [hprogress] at hdisjoint
  refine hsound.frame ?_ ?_
  · intro sessionId hlocked
    apply sameTurns_addTurn hturn
    intro hsame
    exact hdisjoint.locked sessionId (congrArg some hsame) hlocked
  · intro session hsession
    obtain ⟨hid, hapart, hunheard⟩ := hsound.pending session hsession
    obtain ⟨row, hrow, hrowId, -⟩ := hturn.owned
    refine ⟨hid, ?_, ?_⟩
    · intro other hother
      obtain ⟨old, hold, hsameId, hsameOwner, hsameRequest⟩ := mem_touchSession hother
      rw [sessions_addTurn] at hold
      constructor
      · rw [hsameId]
        exact (hapart old hold).sessionId
      · rw [hsameOwner, hsameRequest]
        exact (hapart old hold).request
    · rw [hear_of_ne, hunheard]
      rw [← hrowId]
      exact (hapart row hrow).sessionId

theorem Sound.commits_session (h : Sound env turns w) (hcall : call ∈ w.calls)
    {command : CreateSessionCommand} {session : SessionRow} {message : MessageRow}
    {missing : String} (hprogress : call.progress = .creating command (.opened session message)) :
    Sound env turns
      { w.goOn call.callId (.loading command.ownerUserId session.sessionId missing) with
        db := (w.db.addSession session).addMessage message } := by
  have hcallSound := h.calls call hcall
  have hpending : Pending env turns w.db w.drawn session :=
    hcallSound.pending session (by rw [hprogress]; rfl)
  obtain ⟨hmessage, hasks⟩ := hcallSound.opening command session message hprogress
  refine h.loads hcall (h.tables.addSession hpending hmessage hasks) ?_
  intro other hother hne
  have hsound := h.calls other hother
  have hdisjoint := h.disjoint call hcall other hother (Ne.symm hne)
  rw [hprogress] at hdisjoint
  refine hsound.frame ?_ ?_
  · intro sessionId hlocked
    apply sameTurns_addSession hmessage
    obtain ⟨row, hrow, rfl⟩ := h.owned_locked hother hlocked
    exact (hpending.apart row hrow).sessionId.symm
  · intro session' hsession'
    obtain ⟨hid, hapart, hunheard⟩ := hsound.pending session' hsession'
    refine ⟨hid, ?_, hunheard⟩
    intro row hrow
    rcases List.mem_append.mp hrow with hold | hnew
    · exact hapart row hold
    · rw [List.mem_singleton.mp hnew]
      exact hdisjoint.pending session session' rfl hsession'

theorem Sound.commits (h : Sound env turns w) (hcall : call ∈ w.calls) {progress : Progress}
    {db : Store} (hadvance : advance env (w.around call) call.progress = .commits progress db) :
    Sound env (hear turns call.progress.publishes) { w.goOn call.callId progress with db } := by
  cases hprogress : call.progress with
  | creating command phase =>
    rw [hprogress] at hadvance
    obtain ⟨sessionId, missing, rfl, ⟨-, rfl⟩ | ⟨session, message, rfl, rfl, rfl⟩⟩ :=
      createSession_commits hadvance
    · rw [show (Progress.creating command phase).publishes = none from rfl, hear_none]
      exact h.loads hcall h.tables fun other hother _ => h.calls other hother
    · rw [show (Progress.creating command _).publishes = none from rfl, hear_none]
      exact h.commits_session hcall hprogress
  | appending command turn phase =>
    rw [hprogress] at hadvance
    obtain ⟨sessionId, missing, rfl, ⟨rfl, rfl⟩ | ⟨message, revision, answer, rfl, rfl, rfl⟩⟩ :=
      appendUserTurn_commits hadvance
    · rw [show (Progress.appending command turn (.known sessionId)).publishes = none from rfl,
        hear_none]
      exact h.loads hcall h.tables fun other hother _ => h.calls other hother
    · exact h.commits_turn hcall hprogress
  | loading ownerUserId sessionId missing =>
    rw [hprogress] at hadvance
    simp only [advance] at hadvance
    split at hadvance <;> cases hadvance

theorem Sound.begins (h : Sound env turns w) {callId : Nat} {command : Command}
    {calledAt : Instant} {progress : Progress} {calls : Table Call.callId}
    (hstart : command.start = .ok progress)
    (hcalls : w.calls.insert? ⟨callId, calledAt, progress⟩ = some calls) :
    Sound env turns { w with calls } := by
  have hidle : Idle progress ∧ ∀ command turn phase, progress = .appending command turn phase →
      phase = .started := by
    cases command with
    | createSession command =>
      simp only [Command.start, bind_eq_ok] at hstart
      obtain ⟨_, -, hstart⟩ := hstart
      cases hstart
      refine ⟨⟨rfl, rfl⟩, ?_⟩
      intro _ _ _ heq
      cases heq
    | appendUserTurn command =>
      simp only [Command.start, bind_eq_ok] at hstart
      obtain ⟨turn, -, hstart⟩ := hstart
      cases hstart
      refine ⟨⟨rfl, rfl⟩, ?_⟩
      intro _ _ _ heq
      cases heq
      rfl
  refine ⟨h.tables, ?_, ?_⟩
  · intro call hcall
    rcases (Table.mem_insert? hcalls).mp hcall with hold | rfl
    · exact h.calls call hold
    · exact hidle.1.callSound hidle.2
  · intro a ha b hb hne
    rcases (Table.mem_insert? hcalls).mp ha with hold | rfl
    · rcases (Table.mem_insert? hcalls).mp hb with hold' | rfl
      · exact h.disjoint a hold b hold' hne
      · exact hidle.1.disjoint.symm
    · exact hidle.1.disjoint

theorem Sound.purges (h : Sound env turns w) {ownerUserId : String}
    (hpurgeable : w.purgeable ownerUserId = true) :
    Sound env turns { w with db := w.db.purgePrivateDataForOwner ownerUserId } := by
  refine ⟨h.tables.purge ownerUserId, ?_, h.disjoint⟩
  intro call hcall
  apply (h.calls call hcall).frame
  · intro sessionId hlocked
    apply sameTurns_purge
    rw [← ownedSession_isSome]
    have hkept := List.all_eq_true.mp hpurgeable call hcall
    rw [hlocked, Option.all_some, Option.isNone_iff_eq_none] at hkept
    rw [hkept]
    exact Bool.false_ne_true
  · intro session hsession
    obtain ⟨hid, hapart, hunheard⟩ := (h.calls call hcall).pending session hsession
    exact ⟨hid, fun row hrow => hapart row (mem_purge_sessions.mp hrow).1, hunheard⟩

theorem Sound.links (h : Sound env turns w) (links : List LinkRow) :
    Sound env turns { w with db := { w.db with links } } := by
  obtain ⟨htables, hcalls, hdisjoint⟩ := h
  refine ⟨⟨htables.apart, htables.ids, htables.messages, htables.revisions, htables.recorded,
    htables.heard⟩, ?_, hdisjoint⟩
  intro call hcall
  apply (hcalls call hcall).frame
  · intro sessionId _
    exact ⟨rfl, rfl, fun _ howned => howned⟩
  · intro session hsession
    obtain ⟨hid, hapart, hunheard⟩ := (hcalls call hcall).pending session hsession
    exact ⟨hid, hapart, hunheard⟩

/-- Every step keeps the invariant, with the turn that it publishes. -/
theorem Sound.step (h : Sound env turns w) (hstep : w.step env label = some (reply, w')) :
    Sound env (hear turns (publishedTurn ⟨w, label, reply, w'⟩)) w' := by
  cases step_move hstep with
  | @stays _ error hlabel =>
    have hnone : publishedTurn ⟨w, label, .failed error, w⟩ = none := by
      cases label with
      | next callId => exact absurd rfl (hlabel callId)
      | call | fail | linkDecisionTask | purgePrivateDataForOwner => rfl
    rw [hnone, hear_none]
    exact h
  | begins hstart hcalls =>
    rw [show publishedTurn ⟨w, .call _ _ _, _, _⟩ = none from rfl, hear_none]
    exact h.begins hstart hcalls
  | continues hcall hadvance =>
    rw [publishedTurn_next hcall, publishes_of_continues hadvance, hear_none]
    exact h.continues hcall hadvance
  | commits hcall hadvance =>
    rw [publishedTurn_next hcall]
    exact h.commits hcall hadvance
  | ends hcall hadvance =>
    rw [publishedTurn_next hcall, publishes_of_ends hadvance, hear_none]
    exact h.of_subset rfl rfl fun other hother => (Table.mem_deleteWhere.mp hother).1
  | fails =>
    rw [show publishedTurn ⟨w, .fail _, _, _⟩ = none from rfl, hear_none]
    exact h.of_subset rfl rfl fun other hother => (Table.mem_deleteWhere.mp hother).1
  | links links =>
    rw [show publishedTurn ⟨w, .linkDecisionTask _ _, _, _⟩ = none from rfl, hear_none]
    exact h.links links
  | purges hpurgeable =>
    rw [show publishedTurn ⟨w, .purgePrivateDataForOwner _, _, _⟩ = none from rfl, hear_none]
    exact h.purges hpurgeable

end Invariant

end ChoiceMind.Conversation
