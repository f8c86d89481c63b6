import ChoiceMind.Foundation.Table
import ChoiceMind.Security.AuditOrder

/-!
# What is left of a vault call that fails

The vault over a storage that keeps what it holds when a call throws. An effect is lost from
sight exactly when the closing audit record after it is refused.
-/

namespace ChoiceMind.Security

set_option autoImplicit false

open Contracts TaskPersistence Calls

/-! ### A storage that fails -/

def credentialKey (record : EncryptedCredentialRecord) : String × String :=
  (record.ownerUserId, record.credentialId)

/-- What a storage holds, and the positions of the calls that throw. -/
structure CredentialStorage where
  held : Table credentialKey
  deletes : Bool
  fails : Nat → Bool
  randomBytes : Nat → String
  now : Nat → Instant

/-- A call that throws changes nothing. -/
def PortEvent.apply (held : Table credentialKey) : PortEvent → Table credentialKey
  | .save record true => held.set record
  | .delete credentialId ownerUserId (some _) => held.erase (ownerUserId, credentialId)
  | _ => held

namespace CredentialStorage

/-- What the storage holds after some calls. -/
def after (storage : CredentialStorage) (events : List PortEvent) : Table credentialKey :=
  events.foldl PortEvent.apply storage.held

def answer {α : Type} (storage : CredentialStorage) (events : List PortEvent) (value : α) :
    Option α :=
  if storage.fails events.length then none else some value

def answers (storage : CredentialStorage) : VaultAnswers where
  appendAuditRecord events _ := storage.answer events ()
  save events _ := storage.answer events ()
  load events credentialId ownerUserId :=
    storage.answer events ((storage.after events).find? (ownerUserId, credentialId))
  delete :=
    if storage.deletes then some fun events credentialId ownerUserId =>
      storage.answer events ((storage.after events).find? (ownerUserId, credentialId)).isSome
    else none
  randomBytes := storage.randomBytes
  now := storage.now

end CredentialStorage

def CredentialCall.key (input : CredentialCall) : String × String :=
  (input.ownerUserId, input.credentialId)

/-! ### Atomic calls -/

section Atomic
variable (cipher : Cipher) (masterKey : String) (access : Option SystemCredentialAccess)
  (storage : CredentialStorage) (input : CredentialCall)

/-- A store that throws has stored nothing, and a record of its success comes after the effect. -/
structure StoreAtomic (secret : String) (result : Except (VaultError Unit) Unit)
    (events : List PortEvent) : Prop where
  thrown : ∀ error, result = .error error →
    (∀ record, .save record true ∉ events) ∧ storage.after events = storage.held
  allowed : ∀ before audit persisted later, events = before ++ .audit audit persisted :: later →
    audit.result = .allowed → ∃ record, (storage.after before).find? input.key = some record ∧
      openSecret cipher masterKey record = some secret

/-- A deletion that throws or is recorded as failed has left the credential as it was, and a
record of its success comes after the effect. -/
structure DeleteAtomic (result : Except (VaultError Unit) Bool) (events : List PortEvent) :
    Prop where
  kept : (∃ error, result = .error error) ∨
      (∃ audit persisted, .audit audit persisted ∈ events ∧ audit.result = .failed) →
    ∀ record, storage.held.find? input.key = some record →
      (storage.after events).find? input.key = some record
  allowed : ∀ before audit persisted later, events = before ++ .audit audit persisted :: later →
    audit.result = .allowed → (storage.after before).find? input.key = none

/-- The secret is saved, and the closing record of the store is refused. -/
def LosesStore : Prop :=
  input.mayPerform (tracedVault cipher masterKey access storage.answers) .store = true ∧
    storage.fails 0 = false ∧ storage.fails 1 = false ∧ storage.fails 2 = true

/-- The calls of a deletion before its first audit record: the system actor loads the record. -/
def callsBefore : Nat := if input.isSystem then 1 else 0

/-- A stored credential is deleted, and the closing record of the deletion is refused. -/
def LosesDelete : Prop :=
  input.mayPerform (tracedVault cipher masterKey access storage.answers) .delete = true ∧
    storage.deletes = true ∧
    (∀ position ≤ callsBefore input + 1, storage.fails position = false) ∧
    storage.fails (callsBefore input + 2) = true ∧
    ∃ record, storage.held.find? input.key = some record ∧ (input.isSystem = true →
      some record.secretType = access.map SystemCredentialAccess.secretType)

end Atomic

/-! ### Quiet calls -/

/-- A call without an effect that does not record one. -/
def PortEvent.isQuiet : PortEvent → Bool
  | .save _ saved => !saved
  | .delete _ _ answer => answer.isNone
  | .audit record _ => record.result ≠ .allowed
  | _ => true

section Quiet
variable {storage : CredentialStorage} {events : List PortEvent} {event : PortEvent}

theorem apply_of_quiet {held : Table credentialKey} (h : event.isQuiet = true) :
    event.apply held = held := by
  cases event with
  | save record saved =>
    cases saved with
    | false => rfl
    | true => cases h
  | delete credentialId ownerUserId answer =>
    cases answer with
    | none => rfl
    | some deleted => cases h
  | audit record persisted => rfl
  | load credentialId ownerUserId answer => rfl
  | operation succeeded => rfl

theorem after_append (events events' : List PortEvent) :
    storage.after (events ++ events') = events'.foldl PortEvent.apply (storage.after events) :=
  List.foldl_append

theorem foldl_apply_of_quiet {held : Table credentialKey}
    (h : ∀ event ∈ events, event.isQuiet = true) : events.foldl PortEvent.apply held = held := by
  induction events with
  | nil => rfl
  | cons event events ih =>
    rw [List.foldl_cons, apply_of_quiet (h event List.mem_cons_self)]
    exact ih fun other hother => h other (List.mem_cons_of_mem event hother)

theorem after_of_quiet (h : ∀ event ∈ events, event.isQuiet = true) :
    storage.after events = storage.held := foldl_apply_of_quiet h

/-- A record of success is the one after the quiet calls and the effect. -/
theorem allowed_split {before before' later : List PortEvent} {effect : PortEvent}
    {closing audit : CredentialAuditRecord} {persisted persisted' : Bool}
    (hquiet : ∀ event ∈ before, event.isQuiet = true) (heffect : ∀ audit persisted,
      effect ≠ .audit audit persisted) {rest : List PortEvent}
    (hrest : ∀ event ∈ rest, event.isQuiet = true)
    (hsplit : before ++ effect :: .audit closing persisted :: rest =
      before' ++ .audit audit persisted' :: later) (hallowed : audit.result = .allowed) :
    before' = before ++ [effect] := by
  have hloud : (PortEvent.audit audit persisted').isQuiet = false := by
    simp [PortEvent.isQuiet, hallowed]
  rcases List.append_eq_append_iff.mp hsplit with
    ⟨middle, hbefore, hrest'⟩ | ⟨middle, hbefore, hrest'⟩
  · -- the record stands in what follows the quiet calls
    cases middle with
    | nil =>
      rw [List.nil_append, List.cons.injEq] at hrest'
      exact absurd hrest'.1 (heffect audit persisted')
    | cons first middle =>
      rw [List.cons_append, List.cons.injEq] at hrest'
      obtain ⟨rfl, hrest'⟩ := hrest'
      cases middle with
      | nil => exact hbefore
      | cons second middle =>
        rw [List.cons_append, List.cons.injEq] at hrest'
        obtain ⟨-, hrest'⟩ := hrest'
        have hquiet' := hrest (.audit audit persisted')
          (hrest' ▸ List.mem_append_right _ List.mem_cons_self)
        rw [hloud] at hquiet'
        cases hquiet'
  · have hin : PortEvent.audit audit persisted' ∈ before ∨ middle = [] := by
      cases middle with
      | nil => exact .inr rfl
      | cons first middle =>
        rw [List.cons_append, List.cons.injEq] at hrest'
        rw [hbefore, ← hrest'.1]
        exact .inl (List.mem_append_right _ List.mem_cons_self)
    rcases hin with hin | rfl
    · have hquiet' := hquiet _ hin
      rw [hloud] at hquiet'
      cases hquiet'
    · rw [List.nil_append, List.cons.injEq] at hrest'
      exact absurd hrest'.1.symm (heffect audit persisted')

end Quiet

/-! ### The runs of a store -/

section Store
variable {cipher : Cipher} {masterKey : String} {access : Option SystemCredentialAccess}
  {storage : CredentialStorage} {input : CredentialCall} {secret : String}

theorem answer_eq_some {α : Type} {events : List PortEvent} {value a : α} :
    storage.answer events value = some a ↔ storage.fails events.length = false ∧ value = a := by
  unfold CredentialStorage.answer
  cases storage.fails events.length with
  | false => simp
  | true => simp

theorem answer_eq_none {α : Type} {events : List PortEvent} {value : α} :
    storage.answer events value = none ↔ storage.fails events.length = true := by
  unfold CredentialStorage.answer
  cases storage.fails events.length with
  | false => simp
  | true => simp

variable (cipher masterKey access storage input secret) in
/-- How a store ends: without an effect, or with one whose closing record is refused or not. -/
inductive StoreRun : Except (VaultError Unit) Unit → List PortEvent → Prop
  | quiet (error : VaultError Unit) (events : List PortEvent)
      (quiet : ∀ event ∈ events, event.isQuiet = true)
      (kept : ¬ LosesStore cipher masterKey access storage input) :
      StoreRun (.error error) events
  | saved (result : Except (VaultError Unit) Unit) (before : List PortEvent)
      (record : EncryptedCredentialRecord) (audit : CredentialAuditRecord) (persisted : Bool)
      (quiet : ∀ event ∈ before, event.isQuiet = true) (key : credentialKey record = input.key)
      (sealedSecret : openSecret cipher masterKey record = some secret)
      (thrown : (∃ error, result = .error error) ↔
        LosesStore cipher masterKey access storage input) :
      StoreRun result (before ++ [.save record true, .audit audit persisted])

theorem audited_events (answers : VaultAnswers) (action : CredentialAction) (result : AuditResult)
    (persisted : Bool) (trace : CallTrace) :
    (audited answers input action result persisted trace).events =
      trace.events ++ [.audit (auditNow answers input action result trace) persisted] := rfl

theorem quiet_audit {answers : VaultAnswers} {action : CredentialAction} {result : AuditResult}
    {persisted : Bool} {trace : CallTrace} (hresult : result ≠ .allowed) :
    (PortEvent.audit (auditNow answers input action result trace) persisted).isQuiet = true :=
  decide_eq_true hresult

theorem quiet_concat {events : List PortEvent} {event : PortEvent}
    (h : ∀ event ∈ events, event.isQuiet = true) (hevent : event.isQuiet = true) :
    ∀ other ∈ events ++ [event], other.isQuiet = true := by
  intro other hother
  rcases List.mem_append.mp hother with hold | hnew
  · exact h other hold
  · rw [List.mem_singleton.mp hnew]
    exact hevent

theorem quiet_nil : ∀ event ∈ CallTrace.initial.events, event.isQuiet = true := by
  intro event hevent
  cases hevent

theorem save_run (record : EncryptedCredentialRecord) (trace : CallTrace) :
    (storage.fails trace.events.length = true ∧ ∃ error,
      (attempt (callPort ((tracedVault cipher masterKey access storage.answers).ports.save
        record))).run trace = (.ok (.error error), trace.push (.save record false))) ∨
    storage.fails trace.events.length = false ∧
      (attempt (callPort ((tracedVault cipher masterKey access storage.answers).ports.save
        record))).run trace = (.ok (.ok ()), trace.push (.save record true)) := by
  rcases traced_cases (fun answer => .save record answer.isSome)
    (fun events => storage.answers.save events record) trace with
      ⟨hsave, hrun⟩ | ⟨_, hsave, hrun⟩
  · exact .inl ⟨answer_eq_none.mp hsave, _, run_attempt hrun⟩
  · exact .inr ⟨(answer_eq_some.mp hsave).1, run_attempt hrun⟩

theorem store_run (secretType : SecretType) :
    StoreRun cipher masterKey access storage input secret
      ((store (tracedVault cipher masterKey access storage.answers) input secret secretType).run
        .initial).1
      (callTrace (tracedVault cipher masterKey access storage.answers) input
        (.store secret secretType)).events := by
  unfold callTrace store
  dsimp only
  split
  · rename_i hdenied
    have hkept : ¬ LosesStore cipher masterKey access storage input := by
      rintro ⟨hmay, -⟩
      unfold CredentialCall.mayPerform at hmay
      simp only [Bool.and_eq_true, Bool.not_eq_true', decide_eq_true_eq] at hmay
      rcases hdenied with hsystem | hother
      · rw [hmay.1] at hsystem
        cases hsystem
      · exact hother hmay.2
    rcases append_cases cipher masterKey access storage.answers input .store .initial .denied with
      ⟨-, hrun⟩ | ⟨-, hrun⟩
    · rw [run_bind_ok hrun]
      exact .quiet _ _ (quiet_concat quiet_nil (quiet_audit (by decide))) hkept
    · rw [run_bind_error hrun]
      exact .quiet _ _ (quiet_concat quiet_nil (quiet_audit (by decide))) hkept
  · rename_i hadmitted
    have hmay : input.mayPerform (tracedVault cipher masterKey access storage.answers) .store =
        true := by
      unfold CredentialCall.mayPerform
      simpa using hadmitted
    have hstarted : ∀ persisted, ∀ event ∈ (audited storage.answers input .store .started persisted
        .initial).events, event.isQuiet = true :=
      fun persisted => quiet_concat quiet_nil (quiet_audit (by decide))
    rcases append_cases cipher masterKey access storage.answers input .store .initial .started with
      ⟨hstart, hrun⟩ | ⟨hstart, hrun⟩
    · rw [run_bind_ok hrun, run_bind_ok run_randomBytes, run_bind_ok run_randomBytes,
        run_bind_ok run_randomBytes]
      generalize hrecord : sealSecret _ _ _ _ _ _ _ _ _ = record
      have hfirst : storage.fails 0 = false := (answer_eq_some.mp hstart).1
      rcases save_run record
        (audited storage.answers input .store .started true .initial).draw.draw.draw with
          ⟨hsecond, error, hthrown⟩ | ⟨hsecond, hsaved⟩
      · have hkept : ¬ LosesStore cipher masterKey access storage input := by
          rintro ⟨-, -, hother, -⟩
          cases hother.symm.trans hsecond
        rw [run_bind_ok hthrown]
        have hunsaved : (PortEvent.save record false).isQuiet = true := rfl
        have hquiet := quiet_concat (hstarted true) hunsaved
        rcases append_cases cipher masterKey access storage.answers input .store
          ((audited storage.answers input .store .started true .initial).draw.draw.draw.push
            (.save record false)) .failed with ⟨-, hclose⟩ | ⟨-, hclose⟩
        · rw [run_bind_ok hclose]
          exact .quiet _ _ (quiet_concat hquiet (quiet_audit (by decide))) hkept
        · rw [run_bind_error hclose]
          exact .quiet _ _ (quiet_concat hquiet (quiet_audit (by decide))) hkept
      · have hkey : credentialKey record = input.key := by
          rw [← hrecord]
          rfl
        have hopens : openSecret cipher masterKey record = some secret := by
          rw [← hrecord]
          exact openSecret_sealSecret ..
        rw [run_bind_ok hsaved]
        rcases append_cases cipher masterKey access storage.answers input .store
          ((audited storage.answers input .store .started true .initial).draw.draw.draw.push
            (.save record true)) .allowed with ⟨hclosing, hclose⟩ | ⟨hclosing, hclose⟩
        · have hthird : storage.fails 2 = false := (answer_eq_some.mp hclosing).1
          simp only [hclose]
          refine .saved _ _ _ _ _ (hstarted true) hkey hopens (iff_of_false ?_ ?_)
          · rintro ⟨error, herror⟩
            cases herror
          · rintro ⟨-, -, -, hother⟩
            rw [hthird] at hother
            cases hother
        · have hthird : storage.fails 2 = true := answer_eq_none.mp hclosing
          simp only [hclose]
          exact .saved _ _ _ _ _ (hstarted true) hkey hopens
            (iff_of_true ⟨_, rfl⟩ ⟨hmay, hfirst, hsecond, hthird⟩)
    · rw [run_bind_error hrun]
      have hfirst : storage.fails 0 = true := answer_eq_none.mp hstart
      refine .quiet _ _ (hstarted false) ?_
      rintro ⟨-, hother, -⟩
      rw [hfirst] at hother
      cases hother

end Store

/-! ### The runs of a deletion -/

section Delete
variable {cipher : Cipher} {masterKey : String} {access : Option SystemCredentialAccess}
  {storage : CredentialStorage} {input : CredentialCall} {trace : CallTrace}

variable (cipher masterKey access storage input) in
/-- How a deletion ends: without an effect, or with one whose closing record is refused or not. -/
inductive DeleteRun : Except (VaultError Unit) Bool → List PortEvent → Prop
  | quiet (error : VaultError Unit) (events : List PortEvent)
      (quiet : ∀ event ∈ events, event.isQuiet = true)
      (kept : ¬ LosesDelete cipher masterKey access storage input) :
      DeleteRun (.error error) events
  | closed (deleted : Bool) (before : List PortEvent) (audit : CredentialAuditRecord)
      (quiet : ∀ event ∈ before, event.isQuiet = true)
      (unfailed : ∀ audit persisted, .audit audit persisted ∈ before → audit.result ≠ .failed)
      (allowed : audit.result = .allowed)
      (kept : ¬ LosesDelete cipher masterKey access storage input) :
      DeleteRun (.ok deleted) (before ++
        [.delete input.credentialId input.ownerUserId (some deleted)] ++ [.audit audit true])
  | unclosed (error : VaultError Unit) (before : List PortEvent) (deleted : Bool)
      (audit failure : CredentialAuditRecord) (persisted : Bool)
      (quiet : ∀ event ∈ before, event.isQuiet = true) (failed : failure.result = .failed)
      (lost : (∃ record, storage.held.find? input.key = some record) →
        LosesDelete cipher masterKey access storage input) :
      DeleteRun (.error error) (before ++
        [.delete input.credentialId input.ownerUserId (some deleted)] ++ [.audit audit false] ++
        [.audit failure persisted])

/-- A last audit record of a call that fails. -/
theorem deleteRun_failing {result : AuditResult} (hresult : result ≠ .allowed)
    (hquiet : ∀ event ∈ trace.events, event.isQuiet = true)
    (hkept : ¬ LosesDelete cipher masterKey access storage input) (error : VaultError Unit)
    {run : Except (VaultError Unit) Bool × CallTrace}
    (hrun : run = ((appendCredentialAudit (tracedVault cipher masterKey access storage.answers)
      input .delete result >>= fun _ => throw error : VaultM CallTrace Unit Bool).run trace)) :
    DeleteRun cipher masterKey access storage input run.1 run.2.events := by
  rcases append_cases cipher masterKey access storage.answers input .delete trace result with
    ⟨-, happend⟩ | ⟨-, happend⟩
  · rw [hrun, run_bind_ok happend]
    exact .quiet _ _ (quiet_concat hquiet (quiet_audit hresult)) hkept
  · rw [hrun, run_bind_error happend]
    exact .quiet _ _ (quiet_concat hquiet (quiet_audit hresult)) hkept

theorem delete_port (h : storage.deletes = true) :
    (tracedVault cipher masterKey access storage.answers).ports.delete =
      some fun credentialId ownerUserId => traced (.delete credentialId ownerUserId) fun events =>
        storage.answer events
          ((storage.after events).find? (ownerUserId, credentialId)).isSome := by
  unfold tracedVault tracedPorts CredentialStorage.answers
  dsimp only
  rw [if_pos h]
  rfl

theorem delete_unsupported (h : storage.deletes = false) :
    (tracedVault cipher masterKey access storage.answers).ports.delete = none := by
  unfold tracedVault tracedPorts CredentialStorage.answers
  dsimp only
  rw [if_neg (by rw [h]; exact Bool.false_ne_true)]
  rfl

theorem deleteStored_run (hlength : trace.events.length = callsBefore input)
    (hquiet : ∀ event ∈ trace.events, event.isQuiet = true)
    (hunaudited : ∀ audit persisted, .audit audit persisted ∉ trace.events)
    (hmay : input.mayPerform (tracedVault cipher masterKey access storage.answers) .delete = true)
    (hprior : ∀ position < callsBefore input, storage.fails position = false)
    (hadmitted : ∀ record, storage.held.find? input.key = some record → input.isSystem = true →
      some record.secretType = access.map SystemCredentialAccess.secretType) :
    DeleteRun cipher masterKey access storage input
      ((deleteStored (tracedVault cipher masterKey access storage.answers) input).run trace).1
      ((deleteStored (tracedVault cipher masterKey access storage.answers) input).run
        trace).2.events := by
  have hstarted : ∀ persisted, ∀ event ∈ (audited storage.answers input .delete .started persisted
      trace).events, event.isQuiet = true :=
    fun persisted => quiet_concat hquiet (quiet_audit (by decide))
  unfold deleteStored
  rcases append_cases cipher masterKey access storage.answers input .delete trace .started with
    ⟨hstart, hrun⟩ | ⟨hstart, hrun⟩
  · rw [run_bind_ok hrun]
    have hfirst : storage.fails (callsBefore input) = false :=
      hlength ▸ (answer_eq_some.mp hstart).1
    cases hdeletes : storage.deletes with
    | false =>
      have hkept : ¬ LosesDelete cipher masterKey access storage input := by
        rintro ⟨-, hother, -⟩
        rw [hdeletes] at hother
        cases hother
      rw [delete_unsupported hdeletes, run_bind_ok (run_attempt (run_throw _ _))]
      exact deleteRun_failing (by decide) (hstarted true) hkept _ rfl
    | true =>
      rw [delete_port hdeletes]
      dsimp only
      rcases traced_cases (.delete input.credentialId input.ownerUserId)
        (fun events => storage.answer events
          ((storage.after events).find? (input.ownerUserId, input.credentialId)).isSome)
        (audited storage.answers input .delete .started true trace) with
          ⟨hdelete, hthrown⟩ | ⟨deleted, hdelete, hdone⟩
      · have hsecond : storage.fails (callsBefore input + 1) = true := by
          have hfails := answer_eq_none.mp hdelete
          rwa [audited_events, List.length_append, hlength] at hfails
        have hkept : ¬ LosesDelete cipher masterKey access storage input := by
          rintro ⟨-, -, hother, -⟩
          cases (hother _ (Nat.le_refl _)).symm.trans hsecond
        rw [run_bind_ok (run_attempt (run_bind_error hthrown))]
        exact deleteRun_failing (by decide) (quiet_concat (hstarted true) rfl) hkept _ rfl
      · have hsecond : storage.fails (callsBefore input + 1) = false := by
          have hfails := (answer_eq_some.mp hdelete).1
          rwa [audited_events, List.length_append, hlength] at hfails
        rcases append_cases cipher masterKey access storage.answers input .delete
          ((audited storage.answers input .delete .started true trace).push
            (.delete input.credentialId input.ownerUserId (some deleted))) .allowed with
              ⟨hclosing, hclose⟩ | ⟨hclosing, hclose⟩
        · have hthird : storage.fails (callsBefore input + 2) = false := by
            have hfails := (answer_eq_some.mp hclosing).1
            rwa [CallTrace.push_events, audited_events, List.length_append, List.length_append,
              hlength] at hfails
          rw [run_bind_ok (run_attempt (run_bind_ok hdone |>.trans (run_bind_ok hclose)))]
          have hkept : ¬ LosesDelete cipher masterKey access storage input := by
            rintro ⟨-, -, -, hother, -⟩
            cases hother.symm.trans hthird
          have hunfailed : ∀ audit persisted, .audit audit persisted ∈ (audited storage.answers
              input .delete .started true trace).events → audit.result ≠ .failed := by
            intro audit persisted hmem
            rcases List.mem_append.mp hmem with hold | hnew
            · exact absurd hold (hunaudited audit persisted)
            · have hresult : AuditResult.started ≠ .failed := by decide
              cases List.mem_singleton.mp hnew
              exact hresult
          exact .closed deleted _ (auditNow storage.answers input .delete .allowed _)
            (hstarted true) hunfailed rfl hkept
        · have hthird : storage.fails (callsBefore input + 2) = true := by
            have hfails := answer_eq_none.mp hclosing
            rwa [CallTrace.push_events, audited_events, List.length_append, List.length_append,
              hlength] at hfails
          rw [run_bind_ok (run_attempt (run_bind_ok hdone |>.trans (run_bind_error hclose)))]
          have hlost : (∃ record, storage.held.find? input.key = some record) →
              LosesDelete cipher masterKey access storage input := by
            rintro ⟨record, hrecord⟩
            refine ⟨hmay, hdeletes, ?_, hthird, record, hrecord, hadmitted record hrecord⟩
            intro position hposition
            rcases Nat.lt_trichotomy position (callsBefore input) with hlt | rfl | hgt
            · exact hprior position hlt
            · exact hfirst
            · have heq : position = callsBefore input + 1 := by omega
              rw [heq]
              exact hsecond
          rcases append_cases cipher masterKey access storage.answers input .delete
            (audited storage.answers input .delete .allowed false
              ((audited storage.answers input .delete .started true trace).push
                (.delete input.credentialId input.ownerUserId (some deleted)))) .failed with
                  ⟨-, hfailure⟩ | ⟨-, hfailure⟩
          · simp only [run_bind_ok hfailure]
            exact .unclosed _ _ deleted (auditNow storage.answers input .delete .allowed _)
              (auditNow storage.answers input .delete .failed _) true (hstarted true) rfl hlost
          · simp only [run_bind_error hfailure]
            exact .unclosed _ _ deleted (auditNow storage.answers input .delete .allowed _)
              (auditNow storage.answers input .delete .failed _) false (hstarted true) rfl hlost
  · have hfirst : storage.fails (callsBefore input) = true := hlength ▸ answer_eq_none.mp hstart
    rw [run_bind_error hrun]
    refine .quiet _ _ (hstarted false) ?_
    rintro ⟨-, -, hother, -⟩
    cases (hother _ (Nat.le_succ _)).symm.trans hfirst

theorem delete_run : DeleteRun cipher masterKey access storage input
    ((delete (tracedVault cipher masterKey access storage.answers) input).run .initial).1
    (callTrace (tracedVault cipher masterKey access storage.answers) input .delete).events := by
  unfold callTrace delete
  dsimp only
  cases hmay : input.authorised (tracedVault cipher masterKey access storage.answers) .delete with
  | false =>
    have hkept : ¬ LosesDelete cipher masterKey access storage input := by
      rintro ⟨hother, -⟩
      cases hother.symm.trans hmay
    exact deleteRun_failing (by decide) quiet_nil hkept _ rfl
  | true =>
    cases hsystem : input.isSystem with
    | false =>
      have hbefore : callsBefore input = 0 := by
        unfold callsBefore
        rw [hsystem]
        rfl
      refine deleteStored_run hbefore.symm quiet_nil (fun _ _ => List.not_mem_nil) hmay ?_ ?_
      · intro position hposition
        rw [hbefore] at hposition
        cases hposition
      · intro _ _ hother
        rw [hsystem] at hother
        cases hother
    | true =>
      have hbefore : callsBefore input = 1 := by
        unfold callsBefore
        rw [hsystem]
        rfl
      have hloaded : ∀ answer, ∀ event ∈ (CallTrace.initial.push (.load input.credentialId
          input.ownerUserId answer)).events, event.isQuiet = true :=
        fun answer => quiet_concat quiet_nil rfl
      rcases @load_cases cipher masterKey access storage.answers input.credentialId
        input.ownerUserId .initial with ⟨hload, error, hrun⟩ | ⟨record, hload, hrun⟩
      · have hkept : ¬ LosesDelete cipher masterKey access storage input := by
          rintro ⟨-, -, hother, -⟩
          cases (hother 0 (Nat.zero_le _)).symm.trans (answer_eq_none.mp hload)
        simp only [Bool.not_true, Bool.false_eq_true, if_false, if_true, run_bind_ok hrun]
        exact deleteRun_failing (by decide) (hloaded none) hkept _ rfl
      · obtain ⟨hfirst, hfound⟩ := answer_eq_some.mp hload
        have hrecord : storage.held.find? input.key = record := hfound
        simp only [Bool.not_true, Bool.false_eq_true, if_false, if_true, run_bind_ok hrun]
        split
        · rename_i hother
          have hkept : ¬ LosesDelete cipher masterKey access storage input := by
            rintro ⟨-, -, -, -, held, hheld, hadmitted⟩
            rw [← hrecord, hheld] at hother
            exact hother (hadmitted hsystem)
          exact deleteRun_failing (by decide) (hloaded (some record)) hkept _ rfl
        · rename_i hadmitted
          have hunaudited : ∀ audit persisted, .audit audit persisted ∉ (CallTrace.initial.push
              (.load input.credentialId input.ownerUserId (some record))).events := by
            intro audit persisted hmem
            cases List.mem_singleton.mp hmem
          refine deleteStored_run hbefore.symm (hloaded (some record)) hunaudited hmay ?_ ?_
          · intro position hposition
            rw [hbefore, Nat.lt_one_iff] at hposition
            rw [hposition]
            exact hfirst
          · intro held hheld _
            rw [← hrecord, hheld] at hadmitted
            exact not_not.mp hadmitted

end Delete

/-! ### Atomicity -/

section Atomicity
variable {cipher : Cipher} {masterKey : String} {access : Option SystemCredentialAccess}
  {storage : CredentialStorage} {input : CredentialCall} {secret : String}
  {events : List PortEvent}

/-- Quiet calls record no success. -/
theorem not_allowed_of_quiet (h : ∀ event ∈ events, event.isQuiet = true)
    {before later : List PortEvent} {audit : CredentialAuditRecord} {persisted : Bool}
    (hsplit : events = before ++ .audit audit persisted :: later) : audit.result ≠ .allowed := by
  have hquiet := h (.audit audit persisted) (hsplit ▸ List.mem_append_right _ List.mem_cons_self)
  exact of_decide_eq_true hquiet

theorem StoreRun.atomic_iff {result : Except (VaultError Unit) Unit}
    (h : StoreRun cipher masterKey access storage input secret result events) :
    StoreAtomic cipher masterKey storage input secret result events ↔
      ¬ LosesStore cipher masterKey access storage input := by
  cases h with
  | quiet error events hquiet hkept =>
    refine iff_of_true ⟨?_, ?_⟩ hkept
    · intro _ _
      refine ⟨fun record hsaved => ?_, after_of_quiet hquiet⟩
      cases hquiet _ hsaved
    · intro before audit persisted later hsplit hallowed
      exact absurd hallowed (not_allowed_of_quiet hquiet hsplit)
  | saved _ before record audit persisted hquiet hkey hopens hthrown =>
    constructor
    · intro hatomic hlost
      obtain ⟨error, herror⟩ := hthrown.mpr hlost
      exact (hatomic.thrown error herror).1 record
        (List.mem_append_right _ List.mem_cons_self)
    · intro hkept
      constructor
      · intro error herror
        exact absurd (hthrown.mp ⟨error, herror⟩) hkept
      · intro before' audit' persisted' later hsplit hallowed
        have hbefore := allowed_split hquiet (fun _ _ heq => by cases heq)
          (fun event hevent => by cases hevent) hsplit hallowed
        refine ⟨record, ?_, hopens⟩
        rw [hbefore, after_append, after_of_quiet hquiet, ← hkey]
        exact Table.find?_set_self

/-- A deletion after quiet calls. -/
theorem after_deleted {deleted : Bool} {before : List PortEvent}
    (hquiet : ∀ event ∈ before, event.isQuiet = true) :
    (storage.after (before ++
      [.delete input.credentialId input.ownerUserId (some deleted)])).find? input.key = none := by
  rw [after_append, after_of_quiet hquiet]
  exact Table.find?_erase.trans (if_pos rfl)

theorem after_audit (events : List PortEvent) (audit : CredentialAuditRecord) (persisted : Bool) :
    storage.after (events ++ [.audit audit persisted]) = storage.after events := by
  rw [after_append]
  rfl

/-- A record of success after a deletion. -/
theorem deleted_split {deleted : Bool} {before before' rest later : List PortEvent}
    {closing audit : CredentialAuditRecord} {persisted persisted' : Bool}
    (hquiet : ∀ event ∈ before, event.isQuiet = true)
    (hrest : ∀ event ∈ rest, event.isQuiet = true)
    (hsplit : before ++ [.delete input.credentialId input.ownerUserId (some deleted)] ++
      [.audit closing persisted] ++ rest = before' ++ .audit audit persisted' :: later)
    (hallowed : audit.result = .allowed) : (storage.after before').find? input.key = none := by
  simp only [List.append_assoc, List.cons_append, List.nil_append] at hsplit
  have hbefore := allowed_split hquiet (fun _ _ heq => by cases heq) hrest hsplit hallowed
  rw [hbefore]
  exact after_deleted hquiet

theorem DeleteRun.atomic_iff {result : Except (VaultError Unit) Bool}
    (h : DeleteRun cipher masterKey access storage input result events) :
    DeleteAtomic storage input result events ↔
      ¬ LosesDelete cipher masterKey access storage input := by
  cases h with
  | quiet error events hquiet hkept =>
    refine iff_of_true ⟨?_, ?_⟩ hkept
    · intro _ record hrecord
      rwa [after_of_quiet hquiet]
    · intro before audit persisted later hsplit hallowed
      exact absurd hallowed (not_allowed_of_quiet hquiet hsplit)
  | closed deleted before audit hquiet hunfailed hallowed hkept =>
    refine iff_of_true ⟨?_, ?_⟩ hkept
    · rintro (⟨error, herror⟩ | ⟨failure, persisted, hmem, hfailed⟩)
      · cases herror
      · simp only [List.mem_append, List.mem_singleton] at hmem
        rcases hmem with (hold | hdelete) | hclosing
        · exact absurd hfailed (hunfailed failure persisted hold)
        · cases hdelete
        · cases hclosing
          rw [hallowed] at hfailed
          cases hfailed
    · intro before' audit' persisted later hsplit hallowed'
      exact deleted_split hquiet (fun event hevent => by cases hevent)
        ((List.append_nil _).trans hsplit) hallowed'
  | unclosed error before deleted audit failure persisted hquiet hfailed hlost =>
    have hgone : (storage.after (before ++ [.delete input.credentialId input.ownerUserId
        (some deleted)] ++ [.audit audit false] ++ [.audit failure persisted])).find? input.key =
          none := by
      rw [after_audit, after_audit]
      exact after_deleted hquiet
    constructor
    · rintro hatomic ⟨-, -, -, -, record, hrecord, -⟩
      have hstill := hatomic.kept (.inl ⟨error, rfl⟩) record hrecord
      rw [hgone] at hstill
      cases hstill
    · intro hkept
      constructor
      · intro _ record hrecord
        exact absurd (hlost ⟨record, hrecord⟩) hkept
      · intro before' audit' persisted' later hsplit hallowed
        refine deleted_split hquiet (fun event hevent => ?_) hsplit hallowed
        rw [List.mem_singleton.mp hevent]
        exact decide_eq_true (by rw [hfailed]; decide)

/-- A store and a deletion are atomic on errors exactly when the closing audit record is not
refused after their effect. -/
theorem vault_atomic_iff (cipher : Cipher) (masterKey : String)
    (access : Option SystemCredentialAccess) (storage : CredentialStorage)
    (input : CredentialCall) (secret : String) (secretType : SecretType) :
    (StoreAtomic cipher masterKey storage input secret
        ((store (tracedVault cipher masterKey access storage.answers) input secret
          secretType).run .initial).1
        (callTrace (tracedVault cipher masterKey access storage.answers) input
          (.store secret secretType)).events ↔
      ¬ LosesStore cipher masterKey access storage input) ∧
    (DeleteAtomic storage input
        ((delete (tracedVault cipher masterKey access storage.answers) input).run .initial).1
        (callTrace (tracedVault cipher masterKey access storage.answers) input .delete).events ↔
      ¬ LosesDelete cipher masterKey access storage input) :=
  ⟨(store_run secretType).atomic_iff, delete_run.atomic_iff⟩

/-! ### A closing record that is refused -/

def storedRecord : EncryptedCredentialRecord :=
  sealSecret plainCipher "key" "credential" "owner" "secret" .sourceCredential "" "" ""

/-- The third call of a vault throws. -/
def sampleStorage : CredentialStorage where
  held := (Table.empty : Table credentialKey).set storedRecord
  deletes := true
  fails position := position = 2
  randomBytes _ := ""
  now _ := 0

def sampleOwner : CredentialCall where
  credentialId := "credential"
  ownerUserId := "owner"
  caller := .other ⟨"owner", .user⟩
  correlationId := "correlation"

/-- Both calls throw after their effect. -/
theorem refused_closing_not_atomic :
    sampleStorage.held.find? sampleOwner.key = some storedRecord ∧
    ¬ StoreAtomic plainCipher "key" sampleStorage sampleOwner "secret"
      ((store (tracedVault plainCipher "key" none sampleStorage.answers) sampleOwner "secret"
        .sourceCredential).run .initial).1
      (callTrace (tracedVault plainCipher "key" none sampleStorage.answers) sampleOwner
        (.store "secret" .sourceCredential)).events ∧
    ¬ DeleteAtomic sampleStorage sampleOwner
      ((delete (tracedVault plainCipher "key" none sampleStorage.answers) sampleOwner).run
        .initial).1
      (callTrace (tracedVault plainCipher "key" none sampleStorage.answers) sampleOwner
        .delete).events := by
  have hstored : sampleStorage.held.find? sampleOwner.key = some storedRecord := rfl
  refine ⟨hstored, ?_, ?_⟩
  · rw [(store_run .sourceCredential).atomic_iff, not_not]
    exact ⟨rfl, rfl, rfl, rfl⟩
  · rw [delete_run.atomic_iff, not_not]
    have hcalls : ∀ position ≤ callsBefore sampleOwner + 1,
        sampleStorage.fails position = false := by
      decide
    refine ⟨rfl, rfl, hcalls, rfl, storedRecord, hstored, ?_⟩
    intro hsystem
    cases hsystem

end Atomicity

end ChoiceMind.Security
