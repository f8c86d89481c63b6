import ChoiceMind.Conversation.Runs

/-!
# Commands that are sent again

What a call knows of the command that it serves, and how it ends when the command was carried
out before: without a change, in at most as many statements as are left.
-/

namespace ChoiceMind.Conversation

set_option autoImplicit false

open Contracts Transition

variable {env : Environment}

/-! ### The commands of a trace -/

/-- The command that begins a call. -/
def arrival (e : Entry World Label Reply) (callId : Nat) : Option Command :=
  match e.label, e.reply with
  | .call id command _, .progress => if id = callId then some command else none
  | _, _ => none

/-- The command of a call: the last one that began under its id. -/
def commandOf (es : List (Entry World Label Reply)) (callId : Nat) : Option Command :=
  es.reverse.findSome? fun e => arrival e callId

theorem commandOf_concat (es : List (Entry World Label Reply)) (e : Entry World Label Reply)
    (callId : Nat) :
    commandOf (es ++ [e]) callId = (arrival e callId).or (commandOf es callId) := by
  rw [commandOf, List.reverse_concat, List.findSome?_cons]
  cases arrival e callId <;> rfl

/-! ### What stays -/

/-- The row is for the request of the command. -/
def SessionRow.IsFor (row : SessionRow) (command : CreateSessionCommand) : Prop :=
  row.ownerUserId = command.ownerUserId ∧ row.clientRequestId = command.clientRequestId

/-- The sessions are still there. -/
def Kept (db db' : Store) : Prop :=
  ∀ row ∈ db.sessions, ∃ row' ∈ db'.sessions, row'.sessionId = row.sessionId ∧
    row'.ownerUserId = row.ownerUserId ∧ row'.clientRequestId = row.clientRequestId

theorem Kept.refl (db : Store) : Kept db db := fun row hrow => ⟨row, hrow, rfl, rfl, rfl⟩

theorem Kept.owned {db db' : Store} (h : Kept db db') {sessionId ownerUserId : String}
    (howned : db.Owned sessionId ownerUserId) : db'.Owned sessionId ownerUserId := by
  obtain ⟨row, hrow, rfl, rfl⟩ := howned
  obtain ⟨row', hrow', hid, howner, -⟩ := h row hrow
  exact ⟨row', hrow', hid, howner⟩

theorem kept_touchSession (db : Store) (sessionId ownerUserId : String) (title : Option String)
    (updatedAt : Instant) : Kept db (db.touchSession sessionId ownerUserId title updatedAt) := by
  intro row hrow
  refine ⟨_, List.mem_map.mpr ⟨row, hrow, rfl⟩, ?_⟩
  split <;> exact ⟨rfl, rfl, rfl⟩

/-- Nothing is deleted. -/
def NoPurge (_ : World) (label : Label) : Prop :=
  ∀ ownerUserId, label ≠ .purgePrivateDataForOwner ownerUserId

section Step
variable {w w' : World} {call : Call} {label : Label} {reply : Reply} {progress : Progress}
  {db : Store}

/-- A `COMMIT` publishes a whole turn or a whole session, or nothing. -/
inductive Publishes (call : Call) (before : Store) : Store → Prop
  | nothing : Publishes call before before
  | turn {command : AppendUserTurnCommand} {turn : Turn} {message answer : MessageRow}
    {revision : Option RevisionRow}
    (hprogress : call.progress = .appending command turn (.titled message revision answer)) :
    Publishes call before ((before.addTurn message revision answer).touchSession
      message.sessionId command.ownerUserId turn.update.consumptionGoal call.calledAt)
  | session {command : CreateSessionCommand} {session : SessionRow} {message : MessageRow}
    (hprogress : call.progress = .creating command (.opened session message)) :
    Publishes call before ((before.addSession session).addMessage message)

theorem publishes_of_commits
    (h : advance env (w.around call) call.progress = .commits progress db) :
    Publishes call w.db db := by
  cases hprogress : call.progress with
  | creating command phase =>
    rw [hprogress] at h
    obtain ⟨_, _, -, ⟨-, rfl⟩ | ⟨session, message, rfl, -, rfl⟩⟩ := createSession_commits h
    · exact .nothing
    · exact .session hprogress
  | appending command turn phase =>
    rw [hprogress] at h
    obtain ⟨_, _, -, ⟨-, rfl⟩ | ⟨message, revision, answer, rfl, -, rfl⟩⟩ :=
      appendUserTurn_commits h
    · exact .nothing
    · exact .turn hprogress
  | loading ownerUserId sessionId missing =>
    rw [hprogress] at h
    simp only [advance] at h
    split at h <;> cases h

theorem Publishes.kept (h : Publishes call w.db db) : Kept w.db db := by
  cases h with
  | nothing => exact .refl _
  | @turn command turn message answer revision hprogress =>
    intro row hrow
    have hsessions : (w.db.addTurn message revision answer).sessions = w.db.sessions :=
      sessions_addTurn
    apply kept_touchSession
    rwa [hsessions]
  | session hprogress =>
    intro row hrow
    exact ⟨row, List.mem_append_left _ hrow, rfl, rfl, rfl⟩

theorem Move.kept (h : Move env w label reply w') (hlabel : NoPurge w label) :
    Kept w.db w'.db := by
  cases h with
  | stays | begins | continues | ends | fails | links => exact .refl _
  | commits hcall hadvance => exact (publishes_of_commits hadvance).kept
  | purges => exact absurd rfl (hlabel _)

end Step

/-! ### What a call knows of its command -/

/-- The turn was committed to the session, with a fingerprint as the given one's. -/
def Said (env : Environment) (turns : String → List Turn) (sessionId : String) (turn : Turn) :
    Prop :=
  ∃ said ∈ turns sessionId, said.clientTurnId = turn.clientTurnId ∧
    said.fingerprint env = turn.fingerprint env

/-- What a transaction that creates a session has found or inserted. -/
def CreatePhase.Serves (db : Store) (command : CreateSessionCommand) : CreatePhase → Prop
  | .started | .absent => True
  | .inserted session | .opened session _ => session.IsFor command
  | .conflicting => ∃ row ∈ db.sessions, row.IsFor command
  | .found sessionId _ => ∃ row ∈ db.sessions, row.IsFor command ∧ sessionId = some row.sessionId

/-- The call carries out the command. -/
inductive Serves (env : Environment) (turns : String → List Turn) (db : Store) :
    Command → Progress → Prop
  | creating {command : CreateSessionCommand} {phase : CreatePhase}
    (hphase : phase.Serves db command) :
    Serves env turns db (.createSession command) (.creating command phase)
  | created {command : CreateSessionCommand} {row : SessionRow} {missing : String}
    (hrow : row ∈ db.sessions) (hfor : row.IsFor command) :
    Serves env turns db (.createSession command)
      (.loading command.ownerUserId row.sessionId missing)
  | appending {command : AppendUserTurnCommand} {turn : Turn} {phase : AppendPhase}
    (hturn : command.turn = .ok turn)
    (hsession : ∀ sessionId, phase.sessionId = some sessionId →
      env.readUuid command.sessionId = some sessionId) :
    Serves env turns db (.appendUserTurn command) (.appending command turn phase)
  | appended {command : AppendUserTurnCommand} {turn : Turn} {sessionId missing : String}
    (hturn : command.turn = .ok turn) (hsession : env.readUuid command.sessionId = some sessionId)
    (howned : db.Owned sessionId command.ownerUserId) (hsaid : Said env turns sessionId turn) :
    Serves env turns db (.appendUserTurn command)
      (.loading command.ownerUserId sessionId missing)

section Serves
variable {turns turns' : String → List Turn} {db db' : Store} {command : Command}
  {progress : Progress}

theorem Kept.exists_for (h : Kept db db') {command : CreateSessionCommand} {row : SessionRow}
    (hrow : row ∈ db.sessions) (hfor : row.IsFor command) :
    ∃ row' ∈ db'.sessions, row'.IsFor command ∧ row'.sessionId = row.sessionId := by
  obtain ⟨row', hrow', hid, howner, hrequest⟩ := h row hrow
  exact ⟨row', hrow', ⟨howner.trans hfor.1, hrequest.trans hfor.2⟩, hid⟩

theorem Said.mono {sessionId : String} {turn : Turn} (h : Said env turns sessionId turn)
    (hturns : ∀ turn ∈ turns sessionId, turn ∈ turns' sessionId) :
    Said env turns' sessionId turn := by
  obtain ⟨said, hsaid, hsame⟩ := h
  exact ⟨said, hturns said hsaid, hsame⟩

/-- Without deletions a call goes on to serve its command. -/
theorem Serves.mono (h : Serves env turns db command progress) (hkept : Kept db db')
    (hturns : ∀ sessionId, ∀ turn ∈ turns sessionId, turn ∈ turns' sessionId) :
    Serves env turns' db' command progress := by
  cases h with
  | @creating command phase hphase =>
    apply Serves.creating
    cases phase with
    | started | absent => trivial
    | inserted | opened => exact hphase
    | conflicting =>
      obtain ⟨row, hrow, hfor⟩ := hphase
      obtain ⟨row', hrow', hfor', -⟩ := hkept.exists_for hrow hfor
      exact ⟨row', hrow', hfor'⟩
    | found sessionId missing =>
      obtain ⟨row, hrow, hfor, rfl⟩ := hphase
      obtain ⟨row', hrow', hfor', hid⟩ := hkept.exists_for hrow hfor
      exact ⟨row', hrow', hfor', congrArg some hid.symm⟩
  | created hrow hfor =>
    obtain ⟨row', hrow', hfor', hid⟩ := hkept.exists_for hrow hfor
    rw [← hid]
    exact .created hrow' hfor'
  | appending hturn hsession => exact .appending hturn hsession
  | appended hturn hsession howned hsaid =>
    exact .appended hturn hsession (hkept.owned howned) (hsaid.mono (hturns _))

end Serves

/-! ### Steps of the calls -/

section Steps
variable {turns : String → List Turn} {w w' : World} {call : Call} {command : Command}
  {progress : Progress} {draws : Nat} {db : Store}

theorem sessionFor_eq_some {command : CreateSessionCommand} {row : SessionRow}
    (h : db.sessionFor command.ownerUserId command.clientRequestId = some row) :
    row ∈ db.sessions ∧ row.IsFor command := by
  have hrow := List.find?_some h
  simp only [Bool.and_eq_true, decide_eq_true_eq] at hrow
  exact ⟨List.mem_of_find?_eq_some h, hrow⟩

theorem exists_sessionFor {command : CreateSessionCommand} {row : SessionRow}
    (hrow : row ∈ db.sessions) (hfor : row.IsFor command) :
    ∃ found, db.sessionFor command.ownerUserId command.clientRequestId = some found := by
  rw [← Option.isSome_iff_exists, Store.sessionFor, List.find?_isSome]
  exact ⟨row, hrow, by simp [hfor.1, hfor.2]⟩

theorem Sound.serves_continues (h : Sound env turns w) (hcall : call ∈ w.calls)
    (hserves : Serves env turns w.db command call.progress)
    (hadvance : advance env (w.around call) call.progress = .continues progress draws) :
    Serves env turns w.db command progress := by
  have hcallSound := h.calls call hcall
  have hlocked : ∀ sessionId, call.progress.lockedSession = some sessionId → ∃ turns,
      Recorded env turns (w.db.messagesOf sessionId) (w.db.revisionsOf sessionId) :=
    fun sessionId hlocked => ⟨_, h.recorded_locked hcall hlocked⟩
  cases hprogress : call.progress with
  | creating command phase =>
    rw [hprogress] at hserves hadvance
    cases hserves with
    | creating hphase =>
      cases phase with
      | started =>
        simp only [advance, createSession] at hadvance
        split at hadvance
        · rename_i row hrow
          cases hadvance
          obtain ⟨hin, hfor⟩ := sessionFor_eq_some hrow
          exact .creating ⟨row, hin, hfor, rfl⟩
        · cases hadvance
          exact .creating trivial
      | absent =>
        simp only [advance, createSession] at hadvance
        split at hadvance
        · cases hadvance
        · split at hadvance
          · rename_i hsome
            cases hadvance
            obtain ⟨row, hrow⟩ := Option.isSome_iff_exists.mp hsome
            exact .creating ⟨row, sessionFor_eq_some hrow⟩
          · cases hadvance
            exact .creating ⟨rfl, rfl⟩
      | inserted session =>
        simp only [advance, createSession] at hadvance
        split at hadvance
        · cases hadvance
          exact .creating hphase
        · cases hadvance
      | opened => cases hadvance
      | conflicting =>
        cases hadvance
        obtain ⟨row, hrow, hfor⟩ := hphase
        obtain ⟨found, hfound⟩ := exists_sessionFor hrow hfor
        obtain ⟨hin, hfoundFor⟩ := sessionFor_eq_some hfound
        refine .creating ⟨found, hin, hfoundFor, ?_⟩
        show Option.map _ (w.db.sessionFor _ _) = _
        rw [hfound]
        rfl
      | found =>
        simp only [advance, createSession] at hadvance
        split at hadvance <;> cases hadvance
  | appending command turn phase =>
    rw [hprogress] at hserves hadvance hlocked
    cases hserves with
    | appending hturn hsession =>
      obtain ⟨phase', rfl, hproceeds⟩ := appendUserTurn_continues
        (hcallSound.appending command turn phase hprogress)
        (fun sessionId hphase => hlocked sessionId hphase) hadvance
      refine .appending hturn ?_
      intro sessionId hlocked'
      rcases hproceeds.session with hsame | ⟨-, locked, hnew, hread, -⟩
      · exact hsession sessionId (hsame.symm.trans hlocked')
      · rwa [Option.some.inj (hlocked'.symm.trans hnew)]
  | loading ownerUserId sessionId missing =>
    rw [hprogress] at hadvance
    simp only [advance] at hadvance
    split at hadvance <;> cases hadvance

/-- After its `COMMIT` a call has carried out its command. -/
theorem Sound.serves_commits (h : Sound env turns w) (hcall : call ∈ w.calls)
    (hserves : Serves env turns w.db command call.progress)
    (hadvance : advance env (w.around call) call.progress = .commits progress db) :
    Serves env (hear turns call.progress.publishes) db command progress := by
  have hcallSound := h.calls call hcall
  cases hprogress : call.progress with
  | creating command phase =>
    rw [hprogress] at hserves hadvance
    rw [show (Progress.creating command phase).publishes = none from rfl, hear_none]
    cases hserves with
    | creating hphase =>
      obtain ⟨sessionId, missing, rfl, ⟨rfl, rfl⟩ | ⟨session, message, rfl, rfl, rfl⟩⟩ :=
        createSession_commits hadvance
      · obtain ⟨row, hrow, hfor, heq⟩ := hphase
        cases heq
        exact .created hrow hfor
      · exact .created (List.mem_append_right _ List.mem_cons_self) hphase
  | appending command turn phase =>
    rw [hprogress] at hserves hadvance
    cases hserves with
    | appending hturn hsession =>
      have hsound := hcallSound.appending command turn phase hprogress
      obtain ⟨sessionId, missing, rfl, ⟨rfl, rfl⟩ | ⟨message, revision, answer, rfl, rfl, rfl⟩⟩ :=
        appendUserTurn_commits hadvance
      · rw [show (Progress.appending command turn (.known sessionId)).publishes = none from rfl,
          hear_none]
        obtain ⟨howned, other, hother, hid, hfingerprint⟩ := hsound
        have hlocked : call.progress.lockedSession = some sessionId := by rw [hprogress]; rfl
        have hrecorded := h.recorded_locked hcall hlocked
        obtain ⟨said, hsaid, hsaidId, hsame⟩ := hrecorded.exists_turn hother hid
        refine .appended hturn (hsession sessionId rfl) howned ⟨said, hsaid, hsaidId, ?_⟩
        exact Option.some.inj (hsame.symm.trans hfingerprint)
      · have hanswered : Answered env w.db command.ownerUserId turn message revision answer :=
          hsound
        obtain ⟨row, hrow, hid, howner⟩ := hanswered.owned
        refine .appended hturn (hsession message.sessionId rfl) ?_ ⟨turn, ?_, rfl, rfl⟩
        · apply owned_touchSession
          refine ⟨row, ?_, hid, howner⟩
          rw [sessions_addTurn]
          exact hrow
        · rw [show (Progress.appending command turn _).publishes = some (message.sessionId, turn)
            from rfl, hear_self]
          exact List.mem_append_right _ List.mem_cons_self
  | loading ownerUserId sessionId missing =>
    rw [hprogress] at hadvance
    simp only [advance] at hadvance
    split at hadvance <;> cases hadvance

end Steps

/-! ### Every call serves its command -/

def Issued (env : Environment) (es : List (Entry World Label Reply)) (w : World) : Prop :=
  ∀ call ∈ w.calls, ∃ command, commandOf es call.callId = some command ∧
    Serves env (acceptedTurns es) w.db command call.progress

theorem serves_start {turns : String → List Turn} {db : Store} {command : Command}
    {progress : Progress} (h : command.start = .ok progress) :
    Serves env turns db command progress := by
  cases command with
  | createSession command =>
    simp only [Command.start, bind_eq_ok] at h
    obtain ⟨_, -, h⟩ := h
    cases h
    exact .creating trivial
  | appendUserTurn command =>
    simp only [Command.start, bind_eq_ok] at h
    obtain ⟨turn, hturn, h⟩ := h
    cases h
    refine .appending hturn ?_
    intro sessionId hlocked
    cases hlocked

section Issued
variable {es : List (Entry World Label Reply)} {w w' : World} {label : Label} {reply : Reply}

/-- Calls that the step leaves as they are. -/
theorem Issued.of_kept (h : Issued env es w) {e : Entry World Label Reply} {db : Store}
    (hkept : Kept w.db db) {call : Call} (hcall : call ∈ w.calls)
    (harrival : arrival e call.callId = none) :
    ∃ command, commandOf (es ++ [e]) call.callId = some command ∧
      Serves env (acceptedTurns (es ++ [e])) db command call.progress := by
  obtain ⟨command, hcommand, hserves⟩ := h call hcall
  refine ⟨command, ?_, hserves.mono hkept ?_⟩
  · rw [commandOf_concat, harrival, Option.none_or, hcommand]
  · intro sessionId turn hturn
    rw [acceptedTurns_append]
    exact List.mem_append_left _ hturn

theorem Issued.step (hsound : Sound env (acceptedTurns es) w) (h : Issued env es w)
    (hstep : w.step env label = some (reply, w')) (hlabel : NoPurge w label) :
    Issued env (es ++ [⟨w, label, reply, w'⟩]) w' := by
  have hmove := step_move hstep
  have hkept := hmove.kept hlabel
  cases hmove with
  | stays hlabel =>
    intro call hcall
    apply h.of_kept hkept hcall
    cases label <;> rfl
  | begins hstart hcalls =>
    intro call hcall
    rcases (Table.mem_insert? hcalls).mp hcall with hold | rfl
    · apply h.of_kept hkept hold
      exact if_neg (Ne.symm (Table.key_fresh_of_insert? hcalls call hold))
    · refine ⟨_, ?_, serves_start hstart⟩
      rw [commandOf_concat]
      simp [arrival]
  | @continues call progress draws hcall hadvance =>
    intro other hother
    rcases (mem_goOn hcall).mp hother with rfl | ⟨hold, -⟩
    · obtain ⟨command, hcommand, hserves⟩ := h call hcall
      refine ⟨command, ?_, (hsound.serves_continues hcall hserves hadvance).mono hkept ?_⟩
      · rw [commandOf_concat]
        exact hcommand
      · intro sessionId turn hturn
        rw [acceptedTurns_append]
        exact List.mem_append_left _ hturn
    · exact h.of_kept hkept hold rfl
  | @commits call progress db hcall hadvance =>
    intro other hother
    rcases (mem_goOn hcall).mp hother with rfl | ⟨hold, -⟩
    · obtain ⟨command, hcommand, hserves⟩ := h call hcall
      have hcommits := hsound.serves_commits hcall hserves hadvance
      rw [← publishedTurn_next hcall, ← acceptedTurns_concat] at hcommits
      refine ⟨command, ?_, hcommits⟩
      rw [commandOf_concat]
      exact hcommand
    · exact h.of_kept hkept hold rfl
  | ends hcall hadvance =>
    intro other hother
    exact h.of_kept hkept (Table.mem_deleteWhere.mp hother).1 rfl
  | fails =>
    intro other hother
    exact h.of_kept hkept (Table.mem_deleteWhere.mp hother).1 rfl
  | links =>
    intro other hother
    exact h.of_kept hkept hother rfl
  | purges => exact absurd rfl (hlabel _)

/-- Without deletions the rows record the trace, and the calls serve its commands. -/
def Served (env : Environment) (es : List (Entry World Label Reply)) (w : World) : Prop :=
  Guarded NoPurge es → Faithful env es w ∧ Issued env es w

theorem served_step (h : Served env es w) (hstep : w.step env label = some (reply, w')) :
    Served env (es ++ [⟨w, label, reply, w'⟩]) w' := by
  intro hguard
  rw [Guarded.append_iff, Guarded.cons_iff] at hguard
  obtain ⟨hfaithful, hissued⟩ := h hguard.1
  exact ⟨faithful_step hfaithful hstep, hissued.step hfaithful hstep hguard.2.1⟩

theorem served_of_run (hrun : Run (World.step env) .start es w) : Served env es w := by
  have hstart : Served env [] .start := by
    intro _
    refine ⟨sound_start env, ?_⟩
    intro call hcall
    cases hcall
  exact hrun.history served_step hstart

end Issued

end ChoiceMind.Conversation
