import ChoiceMind.Conversation.Replays

/-!
# Idempotent commands

What the next statement of a call does when its command was carried out before, when the
session belongs to somebody else, and when it fails.
-/

namespace ChoiceMind.Conversation

set_option autoImplicit false

open Contracts Transition

variable {env : Environment}

/-! ### How a call ends -/

/-- How many statements are left to a call at most. -/
def Progress.left : Progress → Nat
  | .creating _ .started => 5
  | .creating _ .absent => 4
  | .creating _ (.inserted _) => 3
  | .creating _ (.opened _ _) => 2
  | .creating _ .conflicting => 3
  | .creating _ (.found _ _) => 2
  | .appending _ _ .started => 10
  | .appending _ _ (.locked _) => 9
  | .appending _ _ (.known _) => 2
  | .appending _ _ (.fresh _) => 8
  | .appending _ _ (.numbered _ _) => 7
  | .appending _ _ (.spoken _) => 6
  | .appending _ _ (.merged _ _) => 5
  | .appending _ _ (.revised _ _ _) => 4
  | .appending _ _ (.answered _ _ _) => 3
  | .appending _ _ (.titled _ _ _) => 2
  | .loading _ _ _ => 1

/-- The call goes on, with fewer statements left. -/
def GoesOn (call : Call) (w : World) : Prop :=
  ∃ next ∈ w.calls, next.callId = call.callId ∧ next.progress.left < call.progress.left

/-- What the next statement of a call comes to: it waits for the lock of a call that can go on,
or it changes nothing and goes on or ends. -/
inductive Answers (env : Environment) (w : World) (call : Call) (ending : Reply → Prop) :
    Option (Reply × World) → Prop
  | waits {other : Call} {sessionId : String} (hother : other ∈ w.calls)
    (hne : other.callId ≠ call.callId) (hlocked : other.progress.lockedSession = some sessionId)
    (hfree : (w.step env (.next other.callId)).isSome = true) : Answers env w call ending none
  | goesOn {w' : World} (hdb : w'.db = w.db) (hon : GoesOn call w') :
    Answers env w call ending (some (.progress, w'))
  | ends {reply : Reply} (hreply : ending reply) :
    Answers env w call ending (some (reply, w.close call.callId))

section Statements
variable {around : Surroundings} {progress next : Progress} {draws : Nat} {db : Store}

theorem left_of_continues (h : advance env around progress = .continues next draws) :
    next.left < progress.left := by
  cases progress with
  | creating command phase =>
    cases phase with
    | opened => cases h
    | conflicting =>
      cases h
      simp [Progress.left]
    | started | absent | inserted | found =>
      simp only [advance, createSession] at h
      repeat' split at h
      all_goals cases h
      all_goals simp [Progress.left]
  | appending command turn phase =>
    cases phase with
    | known | titled => cases h
    | fresh | spoken | answered =>
      cases h
      simp [Progress.left]
    | started | locked | numbered | merged | revised =>
      simp only [advance, appendUserTurn] at h
      repeat' split at h
      all_goals cases h
      all_goals simp [Progress.left]
  | loading ownerUserId sessionId missing =>
    simp only [advance] at h
    split at h <;> cases h

theorem left_of_commits (h : advance env around progress = .commits next db) :
    next.left < progress.left := by
  cases progress with
  | creating command phase =>
    obtain ⟨_, _, rfl, ⟨rfl, -⟩ | ⟨_, _, rfl, -, -⟩⟩ := createSession_commits h
    · simp [Progress.left]
    · simp [Progress.left]
  | appending command turn phase =>
    obtain ⟨_, _, rfl, ⟨rfl, -⟩ | ⟨_, _, _, rfl, -, -⟩⟩ := appendUserTurn_commits h
    · simp [Progress.left]
    · simp [Progress.left]
  | loading ownerUserId sessionId missing =>
    simp only [advance] at h
    split at h <;> cases h

/-- Who holds a session waits for nobody. -/
theorem not_waits_of_locked {sessionId : String} (h : progress.lockedSession = some sessionId) :
    advance env around progress ≠ .waits := by
  intro hwaits
  cases progress with
  | creating | loading => cases h
  | appending command turn phase =>
    cases phase with
    | started => cases h
    | known | fresh | spoken | answered | titled => cases hwaits
    | locked | numbered | merged | revised =>
      simp only [advance, appendUserTurn] at hwaits
      repeat' split at hwaits
      all_goals cases hwaits

end Statements

section Answers
variable {w : World} {call : Call} {progress : Progress} {draws : Nat} {ending : Reply → Prop}
  {reply : Reply}

theorem step_next (hcall : call ∈ w.calls) : w.step env (.next call.callId) =
    w.apply call.callId (advance env (w.around call) call.progress) := by
  simp only [World.step, Table.find?_of_mem hcall, Option.bind_some]

theorem goesOn_goOn (hcall : call ∈ w.calls) {w' : World}
    (hcalls : w'.calls = (w.goOn call.callId progress).calls)
    (hless : progress.left < call.progress.left) : GoesOn call w' := by
  refine ⟨call.goOn progress, ?_, rfl, hless⟩
  rw [hcalls]
  exact (mem_goOn hcall).mpr (.inl rfl)

theorem Answers.of_continues (hcall : call ∈ w.calls)
    (h : advance env (w.around call) call.progress = .continues progress draws) :
    Answers env w call ending (w.step env (.next call.callId)) := by
  rw [step_next hcall, h]
  exact .goesOn rfl (goesOn_goOn hcall rfl (left_of_continues h))

/-- A `COMMIT` of nothing. -/
theorem Answers.of_commits (hcall : call ∈ w.calls)
    (h : advance env (w.around call) call.progress = .commits progress w.db) :
    Answers env w call ending (w.step env (.next call.callId)) := by
  rw [step_next hcall, h]
  exact .goesOn rfl (goesOn_goOn hcall rfl (left_of_commits h))

theorem Answers.of_ends (hcall : call ∈ w.calls)
    (h : advance env (w.around call) call.progress = .ends reply) (hreply : ending reply) :
    Answers env w call ending (w.step env (.next call.callId)) := by
  rw [step_next hcall, h]
  exact .ends hreply

theorem Answers.of_locked (hcall : call ∈ w.calls) {sessionId : String}
    (h : advance env (w.around call) call.progress = .waits)
    (hlocked : (w.around call).locked sessionId = true) :
    Answers env w call ending (w.step env (.next call.callId)) := by
  rw [step_next hcall, h]
  obtain ⟨other, hother, hholds⟩ := List.any_eq_true.mp hlocked
  simp only [Bool.and_eq_true, decide_eq_true_eq] at hholds
  refine .waits hother hholds.1 hholds.2 ?_
  rw [step_next hother]
  cases hadvance : advance env (w.around other) other.progress with
  | waits => exact absurd hadvance (not_waits_of_locked hholds.2)
  | continues | commits | ends => rfl

end Answers

/-! ### Commands that were carried out before -/

section Repeated
variable {turns : String → List Turn} {w : World} {call : Call} {db : Store}

theorem exists_loadSession (env : Environment) {sessionId ownerUserId : String}
    (h : db.Owned sessionId ownerUserId) :
    ∃ session, db.loadSession env ownerUserId sessionId = some session := by
  rw [← ownedSession_isSome, Option.isSome_iff_exists] at h
  obtain ⟨row, hrow⟩ := h
  simp only [Store.loadSession, hrow, Option.bind_eq_bind, Option.bind_some]
  exact ⟨_, rfl⟩

/-- The read after a `COMMIT` finds the session. -/
theorem Answers.of_loading {ownerUserId sessionId missing : String} {ending : Reply → Prop}
    (hcall : call ∈ w.calls) (hprogress : call.progress = .loading ownerUserId sessionId missing)
    (howned : w.db.Owned sessionId ownerUserId)
    (hending : ∀ session, w.db.loadSession env ownerUserId sessionId = some session →
      ending (.session session)) :
    Answers env w call ending (w.step env (.next call.callId)) := by
  obtain ⟨session, hsession⟩ := exists_loadSession env howned
  have hadvance : advance env (w.around call) call.progress = .ends (.session session) := by
    rw [hprogress]
    simp only [advance]
    rw [show (w.around call).db = w.db from rfl, hsession]
  exact .of_ends hcall hadvance (hending session hsession)

/-- There is one session for a request. -/
theorem TablesSound.eq_of_for {drawn : Nat} (h : TablesSound env turns db drawn)
    {command : CreateSessionCommand} {a b : SessionRow} (ha : a ∈ db.sessions)
    (hb : b ∈ db.sessions) (hfora : a.IsFor command) (hforb : b.IsFor command) : a = b := by
  by_contra hne
  apply (h.apart.forall ha hb hne).request
  exact ⟨hfora.1.trans hforb.1.symm, hfora.2.trans hforb.2.symm⟩

theorem answers_created (h : Sound env turns w) (hcall : call ∈ w.calls)
    {command : CreateSessionCommand} {row : SessionRow}
    (hserves : Serves env turns w.db (.createSession command) call.progress)
    (hrow : row ∈ w.db.sessions) (hfor : row.IsFor command) :
    Answers env w call (fun reply => ∃ session, reply = .session session ∧
        w.db.loadSession env command.ownerUserId row.sessionId = some session)
      (w.step env (.next call.callId)) := by
  have hpending := (h.calls call hcall).pending
  obtain ⟨found, hfound⟩ := exists_sessionFor hrow hfor
  cases hprogress : call.progress with
  | creating other phase =>
    rw [hprogress] at hserves hpending
    cases hserves with
    | creating hphase =>
      cases phase with
      | started =>
        apply Answers.of_continues hcall
        rw [hprogress]
        simp only [advance, createSession]
        rw [show (w.around call).db = w.db from rfl, hfound]
      | absent =>
        -- no other call inserts a session for this request, since one is committed
        have hfree : (w.around call).contested (newSession env (w.around call) command) =
            false := by
          refine List.any_eq_false.mpr ?_
          intro other hother hholds
          simp only [Bool.and_eq_true, decide_eq_true_eq, Option.any_eq_true] at hholds
          obtain ⟨-, pending, hin, howner, hrequest⟩ := hholds
          apply ((((h.calls other hother).pending pending hin).apart row hrow).request)
          exact ⟨hfor.1.trans howner.symm, hfor.2.trans hrequest.symm⟩
        apply Answers.of_continues hcall
        rw [hprogress]
        simp only [advance, createSession]
        rw [if_neg (Bool.not_eq_true _ ▸ hfree), show (w.around call).db = w.db from rfl, hfound]
        exact if_pos rfl
      | inserted session =>
        apply absurd _ (((hpending session rfl).apart row hrow).request)
        exact ⟨hfor.1.trans hphase.1.symm, hfor.2.trans hphase.2.symm⟩
      | opened session message =>
        apply absurd _ (((hpending session rfl).apart row hrow).request)
        exact ⟨hfor.1.trans hphase.1.symm, hfor.2.trans hphase.2.symm⟩
      | conflicting =>
        apply Answers.of_continues hcall
        rw [hprogress]
        rfl
      | found sessionId missing =>
        obtain ⟨other, -, -, rfl⟩ := hphase
        apply Answers.of_commits hcall
        rw [hprogress]
        rfl
  | appending other turn phase =>
    rw [hprogress] at hserves
    cases hserves
  | loading ownerUserId sessionId missing =>
    rw [hprogress] at hserves
    cases hserves with
    | created hrow' hfor' =>
      rw [h.tables.eq_of_for hrow' hrow hfor' hfor] at hprogress
      apply Answers.of_loading hcall hprogress ⟨row, hrow, rfl, hfor.1⟩
      intro session hsession
      exact ⟨session, rfl, hsession⟩

/-- What has been found out about the turn of a transaction. -/
theorem AppendPhase.Sound.known_or_new {ownerUserId : String} {turn : Turn} {phase : AppendPhase}
    (h : phase.Sound env db ownerUserId turn) :
    phase = .started ∨ (∃ sessionId, phase = .locked sessionId) ∨
      (∃ sessionId, phase = .known sessionId ∧ KnownIn env db sessionId turn) ∨
        ∃ sessionId, phase.sessionId = some sessionId ∧ NewIn db sessionId turn := by
  cases phase with
  | started => exact .inl rfl
  | locked sessionId => exact .inr (.inl ⟨sessionId, rfl⟩)
  | known sessionId => exact .inr (.inr (.inl ⟨sessionId, rfl, h.2⟩))
  | fresh sessionId => exact .inr (.inr (.inr ⟨sessionId, rfl, h.2⟩))
  | numbered sessionId userOrdinal => exact .inr (.inr (.inr ⟨sessionId, rfl, h.2.1⟩))
  | spoken message => exact .inr (.inr (.inr ⟨_, rfl, Drafted.new h⟩))
  | merged message previous => exact .inr (.inr (.inr ⟨_, rfl, h.1.new⟩))
  | revised message revision missingKeys =>
    exact .inr (.inr (.inr ⟨_, rfl, (Reviewed.toDrafted h).new⟩))
  | answered message revision answer =>
    exact .inr (.inr (.inr ⟨_, rfl, (Answered.toReviewed h).new⟩))
  | titled message revision answer =>
    exact .inr (.inr (.inr ⟨_, rfl, (Answered.toReviewed h).new⟩))

/-- The turns say the same. -/
def Turn.SaysSame (a b : Turn) : Prop := a.text = b.text ∧ a.update = b.update

theorem saysSame_iff (hsha : Function.Injective env.sha256) {a b : Turn} :
    a.SaysSame b ↔ a.fingerprint env = b.fingerprint env :=
  (fingerprintUserTurn_inj hsha).symm

/-- How a turn ends whose id was committed before: with the session, if it says the same, and
with a conflict otherwise. -/
inductive Settles (env : Environment) (w : World) (ownerUserId sessionId : String)
    (said turn : Turn) : Reply → Prop
  | same {session : ConversationSession} (hsame : said.SaysSame turn)
    (hsession : w.db.loadSession env ownerUserId sessionId = some session) :
    Settles env w ownerUserId sessionId said turn (.session session)
  | differs (hdiffers : ¬ said.SaysSame turn) : Settles env w ownerUserId sessionId said turn
    (.failed (.idempotencyConflict turn.clientTurnId))

/-- A turn of the session with this id is the one that was committed. -/
theorem Recorded.eq_of_clientTurnId {turns : List Turn} {messages : List MessageRow}
    {revisions : List RevisionRow} (h : Recorded env turns messages revisions) {a b : Turn}
    (ha : a ∈ turns) (hb : b ∈ turns) (hid : a.clientTurnId = b.clientTurnId) : a = b :=
  List.inj_on_of_nodup_map h.nodup ha hb hid

theorem answers_repeated (hsha : Function.Injective env.sha256) (h : Sound env turns w)
    (hcall : call ∈ w.calls) {command : AppendUserTurnCommand} {turn said : Turn}
    {sessionId : String}
    (hserves : Serves env turns w.db (.appendUserTurn command) call.progress)
    (hturn : command.turn = .ok turn) (hread : env.readUuid command.sessionId = some sessionId)
    (howned : w.db.Owned sessionId command.ownerUserId) (hsaid : said ∈ turns sessionId)
    (hid : said.clientTurnId = turn.clientTurnId) :
    Answers env w call (Settles env w command.ownerUserId sessionId said turn)
      (w.step env (.next call.callId)) := by
  have hcallSound := h.calls call hcall
  obtain ⟨row, hrow, rfl, -⟩ : w.db.Owned sessionId command.ownerUserId := id howned
  have hrecorded := h.tables.recorded row hrow
  cases hprogress : call.progress with
  | creating other phase =>
    rw [hprogress] at hserves
    cases hserves
  | appending other turn' phase =>
    rw [hprogress] at hserves
    cases hserves with
    | appending hturn' hsession =>
      cases hturn.symm.trans hturn'
      have hsound := hcallSound.appending _ _ _ hprogress
      have hlocked : ∀ locked, phase.sessionId = some locked → locked = row.sessionId :=
        fun locked hphase => Option.some.inj ((hsession locked hphase).symm.trans hread)
      rcases hsound.known_or_new with rfl | ⟨locked, rfl⟩ | ⟨locked, rfl, -⟩ |
        ⟨locked, hphase, hnew⟩
      · obtain ⟨owned, howned⟩ := Option.isSome_iff_exists.mp (ownedSession_isSome.mpr howned)
        cases hheld : (w.around call).locked row.sessionId with
        | true =>
          apply Answers.of_locked hcall _ hheld
          rw [hprogress]
          simp only [advance, appendUserTurn, hread]
          rw [show (w.around call).db = w.db from rfl, howned]
          exact if_pos hheld
        | false =>
          apply Answers.of_continues hcall
          rw [hprogress]
          simp only [advance, appendUserTurn, hread]
          rw [show (w.around call).db = w.db from rfl, howned]
          exact if_neg (Bool.not_eq_true _ ▸ hheld)
      · cases hlocked locked rfl
        -- the message that the `SELECT` finds is that of the committed turn
        obtain ⟨message, hmessage, hmessageId, -⟩ := hrecorded.exists_message hsaid
        rw [hid] at hmessageId
        cases hexisting : w.db.existingTurn row.sessionId turn.clientTurnId with
        | none => exact absurd hmessageId (newIn_of_existingTurn hexisting message hmessage)
        | some existing =>
          obtain ⟨hin, hexistingId⟩ := existingTurn_eq_some hexisting
          obtain ⟨other, hother, hotherId, hfingerprint⟩ := hrecorded.exists_turn hin hexistingId
          cases hrecorded.eq_of_clientTurnId hother hsaid (hotherId.trans hid.symm)
          by_cases hsame : said.SaysSame turn
          · apply Answers.of_continues hcall
            rw [hprogress]
            simp only [advance, appendUserTurn]
            rw [show (w.around call).db = w.db from rfl, hexisting]
            apply if_neg
            rw [not_not, hfingerprint, (saysSame_iff hsha).mp hsame]
          · refine Answers.of_ends hcall ?_ (.differs hsame)
            rw [hprogress]
            simp only [advance, appendUserTurn]
            rw [show (w.around call).db = w.db from rfl, hexisting]
            apply if_pos
            rw [hfingerprint]
            intro heq
            exact hsame ((saysSame_iff hsha).mpr (Option.some.inj heq))
      · apply Answers.of_commits hcall
        rw [hprogress]
        rfl
      · cases hlocked locked hphase
        obtain ⟨message, hmessage, hmessageId, -⟩ := hrecorded.exists_message hsaid
        exact absurd (hmessageId.trans (congrArg some hid)) (hnew message hmessage)
  | loading ownerUserId other missing =>
    rw [hprogress] at hserves
    cases hserves with
    | appended hturn' hsession howned' hsaid' =>
      cases hturn.symm.trans hturn'
      cases hread.symm.trans hsession
      obtain ⟨other, hother, hotherId, hfingerprint⟩ := hsaid'
      cases hrecorded.eq_of_clientTurnId hother hsaid (hotherId.trans hid.symm)
      apply Answers.of_loading hcall hprogress howned
      intro session hloaded
      exact .same ((saysSame_iff hsha).mpr hfingerprint) hloaded

/-- A turn for a session that its owner does not have. -/
theorem rejects_foreign (h : Sound env turns w) (hcall : call ∈ w.calls)
    {command : AppendUserTurnCommand} {sessionId : String}
    (hserves : Serves env turns w.db (.appendUserTurn command) call.progress)
    (hread : env.readUuid command.sessionId = some sessionId)
    (hforeign : ¬ w.db.Owned sessionId command.ownerUserId) :
    w.step env (.next call.callId) = some (.failed .notFound, w.close call.callId) := by
  rw [step_next hcall]
  cases hprogress : call.progress with
  | creating other phase =>
    rw [hprogress] at hserves
    cases hserves
  | appending other turn phase =>
    rw [hprogress] at hserves
    cases hserves with
    | appending hturn hsession =>
      have hsound := (h.calls call hcall).appending _ _ _ hprogress
      cases hlocked : phase.sessionId with
      | some locked =>
        cases hread.symm.trans (hsession locked hlocked)
        exact absurd (hsound.owned hlocked) hforeign
      | none =>
        cases phase with
        | started =>
          have hnone : w.db.ownedSession sessionId command.ownerUserId = none := by
            rwa [← ownedSession_isSome, Bool.not_eq_true, Option.isSome_eq_false_iff,
              Option.isNone_iff_eq_none] at hforeign
          simp only [advance, appendUserTurn, hread]
          rw [show (w.around call).db = w.db from rfl, hnone]
          rfl
        | locked | known | fresh | numbered | spoken | merged | revised | answered | titled =>
          cases hlocked
  | loading ownerUserId other missing =>
    rw [hprogress] at hserves
    cases hserves with
    | appended hturn hsession howned hsaid =>
      cases hread.symm.trans hsession
      exact absurd howned hforeign

end Repeated

/-! ### Runs of commands -/

/-- A step leaves the sessions in place, changes the tables at a `COMMIT` only, as a whole, and
changes nothing where it fails. -/
structure Atomic (e : Entry World Label Reply) : Prop where
  kept : Kept e.before.db e.after.db
  whole : (∃ links, e.after.db = { e.before.db with links }) ∨
    ∃ call ∈ e.before.calls, e.label = .next call.callId ∧ Publishes call e.before.db e.after.db
  failed : ∀ error, e.reply = .failed error → e.after.db = e.before.db

/-- Every command is carried out once. -/
structure Idempotent (env : Environment) (es : List (Entry World Label Reply)) (w : World) :
    Prop where
  sessions : w.db.sessions.Pairwise fun a b =>
    ¬ (a.ownerUserId = b.ownerUserId ∧ a.clientRequestId = b.clientRequestId)
  opened : ∀ row ∈ w.db.sessions,
    ((w.db.messagesOf row.sessionId).map MessageRow.ordinal).count 1 = 1
  turns : ∀ row ∈ w.db.sessions, (w.db.messagesOf row.sessionId).filterMap MessageRow.clientTurnId =
    (acceptedTurns es row.sessionId).map Turn.clientTurnId
  once : ∀ row ∈ w.db.sessions, ((acceptedTurns es row.sessionId).map Turn.clientTurnId).Nodup
  created : ∀ call ∈ w.calls, ∀ command, commandOf es call.callId = some (.createSession command) →
    (∀ session w', w.step env (.next call.callId) = some (.session session, w') →
      ∃ row ∈ w.db.sessions, row.IsFor command) ∧
    ∀ row ∈ w.db.sessions, row.IsFor command →
      Answers env w call (fun reply => ∃ session, reply = .session session ∧
          w.db.loadSession env command.ownerUserId row.sessionId = some session)
        (w.step env (.next call.callId))
  appended : ∀ call ∈ w.calls, ∀ command,
    commandOf es call.callId = some (.appendUserTurn command) →
      ∃ turn, command.turn = .ok turn ∧
      (∀ session w', w.step env (.next call.callId) = some (.session session, w') →
        ∃ sessionId, env.readUuid command.sessionId = some sessionId ∧
          ∃ said ∈ acceptedTurns es sessionId, said.clientTurnId = turn.clientTurnId) ∧
      ∀ sessionId, env.readUuid command.sessionId = some sessionId →
        (w.db.Owned sessionId command.ownerUserId → ∀ said ∈ acceptedTurns es sessionId,
          said.clientTurnId = turn.clientTurnId →
            Answers env w call (Settles env w command.ownerUserId sessionId said turn)
              (w.step env (.next call.callId))) ∧
        (¬ w.db.Owned sessionId command.ownerUserId →
          w.step env (.next call.callId) = some (.failed .notFound, w.close call.callId))

section Runs
variable {es : List (Entry World Label Reply)} {w w' : World} {call : Call} {label : Label}
  {reply : Reply}

theorem Move.atomic (h : Move env w label reply w') (hlabel : NoPurge w label) :
    Atomic ⟨w, label, reply, w'⟩ := by
  refine ⟨h.kept hlabel, ?_, ?_⟩
  · cases h with
    | stays | begins | continues | ends | fails => exact .inl ⟨_, rfl⟩
    | commits hcall hadvance => exact .inr ⟨_, hcall, rfl, publishes_of_commits hadvance⟩
    | links links => exact .inl ⟨links, rfl⟩
    | purges => exact absurd rfl (hlabel _)
  · intro error hreply
    cases h with
    | stays | ends | fails => rfl
    | begins | continues | commits | links | purges => cases hreply

/-- A call that replies with a session has committed before. -/
theorem loading_of_session {around : Surroundings} {progress : Progress}
    {session : ConversationSession} (h : advance env around progress = .ends (.session session)) :
    ∃ ownerUserId sessionId missing, progress = .loading ownerUserId sessionId missing := by
  cases progress with
  | creating command phase =>
    cases phase with
    | opened | conflicting => cases h
    | started | absent | inserted | found =>
      simp only [advance, createSession] at h
      repeat' split at h
      all_goals cases h
  | appending command turn phase =>
    cases phase with
    | known | fresh | spoken | answered | titled => cases h
    | started | locked | numbered | merged | revised =>
      simp only [advance, appendUserTurn] at h
      repeat' split at h
      all_goals cases h
  | loading ownerUserId sessionId missing => exact ⟨_, _, _, rfl⟩

theorem loading_of_reply (hcall : call ∈ w.calls) {session : ConversationSession}
    (h : w.step env (.next call.callId) = some (.session session, w')) :
    ∃ ownerUserId sessionId missing, call.progress = .loading ownerUserId sessionId missing := by
  rw [step_next hcall] at h
  cases hadvance : advance env (w.around call) call.progress with
  | waits | continues | commits =>
    rw [hadvance] at h
    cases h
  | ends reply =>
    rw [hadvance] at h
    cases h
    exact loading_of_session hadvance

/-- Under a digest without collisions every command is carried out once, however calls overlap,
fail and are sent again. -/
theorem idempotent_of_run (hsha : Function.Injective env.sha256)
    (hrun : Run (World.step env) .start es w) (hguard : Guarded NoPurge es) :
    Idempotent env es w ∧ ∀ e ∈ es, Atomic e := by
  obtain ⟨hsound, hissued⟩ := served_of_run hrun hguard
  have hserves : ∀ call ∈ w.calls, ∀ command, commandOf es call.callId = some command →
      Serves env (acceptedTurns es) w.db command call.progress := by
    intro call hcall command hcommand
    obtain ⟨other, hother, hserves⟩ := hissued call hcall
    cases hcommand.symm.trans hother
    exact hserves
  refine ⟨⟨?_, ?_, ?_, ?_, ?_, ?_⟩, ?_⟩
  · exact hsound.tables.apart.imp fun hapart => hapart.request
  · intro row hrow
    have hordinals := (hsound.tables.recorded row hrow).ordinals
    rw [hordinals]
    apply List.count_eq_one_of_mem List.nodup_range'
    rw [List.mem_range'_1]
    omega
  · intro row hrow
    exact (hsound.tables.recorded row hrow).clientTurnIds
  · intro row hrow
    exact (hsound.tables.recorded row hrow).nodup
  · intro call hcall command hcommand
    have hcreates := hserves call hcall _ hcommand
    refine ⟨?_, fun row hrow hfor => answers_created hsound hcall hcreates hrow hfor⟩
    intro session w' hstep
    obtain ⟨_, _, _, hprogress⟩ := loading_of_reply hcall hstep
    rw [hprogress] at hcreates
    cases hcreates with
    | created hrow hfor => exact ⟨_, hrow, hfor⟩
  · intro call hcall command hcommand
    have happends := hserves call hcall _ hcommand
    have hturn : ∃ turn, command.turn = .ok turn := by
      generalize call.progress = progress at happends
      cases happends with
      | appending hturn => exact ⟨_, hturn⟩
      | appended hturn => exact ⟨_, hturn⟩
    obtain ⟨turn, hturn⟩ := hturn
    refine ⟨turn, hturn, ?_, ?_⟩
    · intro session w' hstep
      obtain ⟨_, _, _, hprogress⟩ := loading_of_reply hcall hstep
      rw [hprogress] at happends
      cases happends with
      | appended hturn' hsession howned hsaid =>
        cases hturn.symm.trans hturn'
        obtain ⟨said, hsaid, hid, -⟩ := hsaid
        exact ⟨_, hsession, said, hsaid, hid⟩
    · intro sessionId hread
      constructor
      · intro howned said hsaid hid
        exact answers_repeated hsha hsound hcall happends hturn hread howned hsaid hid
      · exact rejects_foreign hsound hcall happends hread
  · intro e he
    exact (step_move (hrun.entry_step he)).atomic (hguard e he)

end Runs

theorem sampleSha256_injective : Function.Injective sampleEnv.sha256 := by
  have hother : ∀ text digest : String, digest.toList.head? ≠ some '-' → digest ≠ "-" ++ text := by
    rintro text digest hhead rfl
    rw [String.toList_append] at hhead
    exact hhead rfl
  intro a b h
  simp only [sampleEnv, sampleSha256] at h
  split at h
  · rename_i ha
    split at h
    · rename_i hb
      rw [ha, hb]
    · split at h
      · exact absurd h (by decide)
      · exact absurd h (hother _ _ (by decide))
  · split at h
    · rename_i ha
      split at h
      · exact absurd h (by decide)
      · split at h
        · rename_i hb
          rw [ha, hb]
        · exact absurd h (hother _ _ (by decide))
    · split at h
      · exact absurd h.symm (hother _ _ (by decide))
      · split at h
        · exact absurd h.symm (hother _ _ (by decide))
        · have hchars := congrArg String.toList h
          rw [String.toList_append, String.toList_append, List.append_cancel_left_eq] at hchars
          exact String.toList_inj.mp hchars

/-- A session of one turn, and calls that come later: the same request, the same turn, another
turn under its id, and a turn of somebody else. -/
def sampleReplays : List Label :=
  .call 0 (.createSession ⟨"request", "owner"⟩) 0 :: List.replicate 5 (.next 0) ++
  .call 1 (.appendUserTurn firstTurn) 1 :: List.replicate 10 (.next 1) ++
  [.call 2 (.createSession ⟨"request", "owner"⟩) 2, .call 3 (.appendUserTurn firstTurn) 3,
    .call 4 (.appendUserTurn { secondTurn with clientTurnId := "turn" }) 4,
    .call 5 (.appendUserTurn { firstTurn with ownerUserId := "other" }) 5]

theorem idempotent_of_run_sample : ∃ es w, Run (World.step sampleEnv) .start es w ∧
    w.calls.rows.map Call.callId = [2, 3, 4, 5] ∧
    (acceptedTurns es "0").map Turn.clientTurnId = ["turn"] ∧ Idempotent sampleEnv es w ∧
    ∀ e ∈ es, Atomic e := by
  have hexec : (exec (World.step sampleEnv) .start sampleReplays).any (fun result =>
      decide (result.2.calls.rows.map Call.callId = [2, 3, 4, 5]) &&
        decide ((acceptedTurns result.1 "0").map Turn.clientTurnId = ["turn"])) = true := by
    decide +kernel
  obtain ⟨es, w, hrun, hlabels, hcheck⟩ := exists_labelled_run_of_exec hexec
  obtain ⟨hcalls, hturns⟩ := Bool.and_eq_true_iff.mp hcheck
  have hguard : Guarded NoPurge es := by
    intro e he ownerUserId hlabel
    have hin := List.mem_map_of_mem (f := Entry.label) he
    rw [hlabels, hlabel] at hin
    simp [sampleReplays] at hin
  exact ⟨es, w, hrun, of_decide_eq_true hcalls, of_decide_eq_true hturns,
    idempotent_of_run sampleSha256_injective hrun hguard⟩

end ChoiceMind.Conversation
