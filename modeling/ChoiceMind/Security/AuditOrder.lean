import ChoiceMind.Foundation.Calls
import ChoiceMind.Foundation.Trace
import ChoiceMind.Security.Vault

/-!
# Audit before release

The calls of the vault in their order, with a storage, an audit sink and an operation that may
fail at any point. A secret is a cell that the vault empties, whoever keeps it.
-/

namespace ChoiceMind.Security

set_option autoImplicit false

open Contracts TaskPersistence Calls

/-! ### Traces -/

/-- A call with its answer, `none` where it threw. -/
inductive PortEvent
  | audit (record : CredentialAuditRecord) (persisted : Bool)
  | save (record : EncryptedCredentialRecord) (saved : Bool)
  | load (credentialId ownerUserId : String) (answer : Option (Option EncryptedCredentialRecord))
  | delete (credentialId ownerUserId : String) (answer : Option Bool)
  | operation (succeeded : Bool)

/-- What the ports answer after the calls so far. -/
structure VaultAnswers where
  appendAuditRecord : List PortEvent → CredentialAuditRecord → Option Unit
  save : List PortEvent → EncryptedCredentialRecord → Option Unit
  load : List PortEvent → String → String → Option (Option EncryptedCredentialRecord)
  delete : Option (List PortEvent → String → String → Option Bool)
  randomBytes : Nat → String
  now : Nat → Instant

structure CallTrace where
  events : List PortEvent
  /-- the plaintext of each `SecretValue`, `none` once it is disposed of -/
  secrets : List (Option String)
  drawn : Nat

def CallTrace.initial : CallTrace := ⟨[], [], 0⟩

def CallTrace.push (event : PortEvent) (trace : CallTrace) : CallTrace :=
  { trace with events := trace.events ++ [event] }

/-- Bytes or an instant are drawn. -/
def CallTrace.draw (trace : CallTrace) : CallTrace := { trace with drawn := trace.drawn + 1 }

@[simp] theorem CallTrace.push_events (event : PortEvent) (trace : CallTrace) :
    (trace.push event).events = trace.events ++ [event] := rfl

@[simp] theorem CallTrace.push_secrets (event : PortEvent) (trace : CallTrace) :
    (trace.push event).secrets = trace.secrets := rfl

@[simp] theorem CallTrace.draw_events (trace : CallTrace) : trace.draw.events = trace.events :=
  rfl

@[simp] theorem CallTrace.draw_secrets (trace : CallTrace) :
    trace.draw.secrets = trace.secrets := rfl

/-- A call that the trace shows. -/
def traced {α : Type} (event : Option α → PortEvent) (answer : List PortEvent → Option α) :
    ExceptT Unit (StateM CallTrace) α := fun trace =>
  match answer trace.events with
  | none => (.error (), trace.push (event none))
  | some value => (.ok value, trace.push (event (some value)))

def tracedPorts (answers : VaultAnswers) : VaultPorts CallTrace Unit where
  appendAuditRecord record := traced (fun answer => .audit record answer.isSome)
    fun events => answers.appendAuditRecord events record
  save record := traced (fun answer => .save record answer.isSome)
    fun events => answers.save events record
  load credentialId ownerUserId := traced (.load credentialId ownerUserId)
    fun events => answers.load events credentialId ownerUserId
  delete := answers.delete.map fun delete credentialId ownerUserId =>
    traced (.delete credentialId ownerUserId) fun events => delete events credentialId ownerUserId
  randomBytes trace := (answers.randomBytes trace.drawn, trace.draw)
  now trace := (answers.now trace.drawn, trace.draw)

def tracedVault (cipher : Cipher) (masterKey : String) (access : Option SystemCredentialAccess)
    (answers : VaultAnswers) : VaultOptions CallTrace Unit :=
  ⟨cipher, masterKey, tracedPorts answers, access⟩

/-! ### Secrets -/

/-- `new SecretValue(plaintext)` -/
def newSecret (plaintext : String) : StateM CallTrace Nat := fun trace =>
  (trace.secrets.length, { trace with secrets := trace.secrets ++ [some plaintext] })

/-- `reveal()`, `none` where it throws. -/
def CallTrace.reveal (trace : CallTrace) (secret : Nat) : Option String :=
  trace.secrets[secret]?.join

def CallTrace.dispose (secret : Nat) (trace : CallTrace) : CallTrace :=
  { trace with secrets := trace.secrets.set secret none }

/-- What an operation does with its secret. -/
inductive SecretProgram
  | reveal (next : Option String → SecretProgram)
  | dispose (next : SecretProgram)
  | done (succeeded : Bool)

def SecretProgram.run (secret : Nat) : SecretProgram → CallTrace → Bool × CallTrace
  | .reveal next, trace => (next (trace.reveal secret)).run secret trace
  | .dispose next, trace => next.run secret (trace.dispose secret)
  | .done succeeded, trace => (succeeded, trace)

/-- The operation of a `use` on a new secret, which is disposed of however the operation ends. -/
def withSecret (operation : SecretProgram) (plaintext : String) : StateM CallTrace Bool :=
  fun trace =>
    let (secret, trace) := newSecret plaintext trace
    let (succeeded, trace) := operation.run secret trace
    (succeeded, (trace.dispose secret).push (.operation succeeded))

/-! ### The rule -/

inductive VaultCall
  | store (secret : String) (secretType : SecretType)
  | use (operation : SecretProgram)
  | delete

def VaultCall.action : VaultCall → CredentialAction
  | .store .. => .store
  | .use _ => .use
  | .delete => .delete

section Rule
variable {σ ε : Type}

/-- The calls of the vault. -/
def callTrace (options : VaultOptions CallTrace Unit) (input : CredentialCall) :
    VaultCall → CallTrace
  | .store secret secretType => ((store options input secret secretType).run .initial).2
  | .use operation => ((use options input (withSecret operation)).run .initial).2
  | .delete => ((delete options input).run .initial).2

/-- The actor may perform the action. -/
def CredentialCall.mayPerform (options : VaultOptions σ ε) (input : CredentialCall) :
    CredentialAction → Bool
  | .store => !input.isSystem && input.caller.actor.userId = input.ownerUserId
  | .use => input.authorised options .use
  | .delete => input.authorised options .delete

end Rule

def PortEvent.releases : PortEvent → Bool
  | .save .. | .delete .. | .operation _ => true
  | _ => false

def PortEvent.isLoad : PortEvent → Bool
  | .load .. => true
  | _ => false

/-- The audit record of a call. -/
structure CredentialCall.Audits (input : CredentialCall) (action : CredentialAction)
    (result : AuditResult) (record : CredentialAuditRecord) : Prop where
  actor : record.actor = input.caller.actor
  action : record.action = action
  credentialId : record.credentialId = input.credentialId
  result : record.result = result

/-- Nothing is handed out, stored or deleted before a persisted record of an authorised actor. -/
def ReleaseRule (options : VaultOptions CallTrace Unit) (input : CredentialCall)
    (action : CredentialAction) (before : List PortEvent) (event : PortEvent) : Prop :=
  event.releases = true → input.mayPerform options action = true ∧
    ∃ record, input.Audits action .started record ∧ .audit record true ∈ before

structure AuditedFirst (options : VaultOptions CallTrace Unit) (input : CredentialCall)
    (action : CredentialAction) (trace : CallTrace) : Prop where
  started : Trace.Keeps (ReleaseRule options input action) trace.events
  closing : ∀ before succeeded after, trace.events = before ++ .operation succeeded :: after →
    ∃ record persisted, after = [.audit record persisted] ∧
      input.Audits action (if succeeded then .allowed else .failed) record
  refused : ∀ record, .audit record false ∈ trace.events → record.result = .started →
    ∀ event ∈ trace.events, event.isLoad = false
  disposed : ∀ secret, trace.reveal secret = none

/-! ### Steps of a trace -/

section Steps
variable {cipher : Cipher} {masterKey : String} {access : Option SystemCredentialAccess}
  {answers : VaultAnswers} {input : CredentialCall} {action : CredentialAction}
  {trace trace' : CallTrace}

/-- The audit record that a call appends now. -/
def auditNow (answers : VaultAnswers) (input : CredentialCall) (action : CredentialAction)
    (result : AuditResult) (trace : CallTrace) : CredentialAuditRecord :=
  ⟨input.caller.actor, action, input.credentialId, result, input.correlationId,
    answers.now trace.drawn⟩

/-- The trace after an audit record. -/
def audited (answers : VaultAnswers) (input : CredentialCall) (action : CredentialAction)
    (result : AuditResult) (persisted : Bool) (trace : CallTrace) : CallTrace :=
  trace.draw.push (.audit (auditNow answers input action result trace) persisted)

theorem audits_auditNow (result : AuditResult) :
    input.Audits action result (auditNow answers input action result trace) := ⟨rfl, rfl, rfl, rfl⟩

variable (cipher masterKey access answers input action trace) in
/-- An append persists the record and goes on, or goes through to the caller. -/
theorem append_cases (result : AuditResult) :
    (answers.appendAuditRecord trace.events (auditNow answers input action result trace) = some () ∧
      (appendCredentialAudit (tracedVault cipher masterKey access answers) input action result).run
        trace = (.ok (), audited answers input action result true trace)) ∨
    answers.appendAuditRecord trace.events (auditNow answers input action result trace) = none ∧
      (appendCredentialAudit (tracedVault cipher masterKey access answers) input action result).run
        trace = (.error (.port ()), audited answers input action result false trace) := by
  have hnow : (readPort (tracedVault cipher masterKey access answers).ports.now :
      VaultM CallTrace Unit Instant).run trace = (.ok (answers.now trace.drawn), trace.draw) := rfl
  unfold appendCredentialAudit
  cases happend : answers.appendAuditRecord trace.events
      (auditNow answers input action result trace) with
  | none =>
    refine .inr ⟨rfl, ?_⟩
    rw [run_bind_ok hnow]
    refine run_callPort_error ?_
    unfold auditNow at happend
    simp only [ExceptT.run, tracedVault, tracedPorts, traced, CallTrace.draw_events, happend]
    rfl
  | some _ =>
    refine .inl ⟨rfl, ?_⟩
    rw [run_bind_ok hnow]
    refine run_callPort_ok ?_
    unfold auditNow at happend
    simp only [ExceptT.run, tracedVault, tracedPorts, traced, CallTrace.draw_events, happend]
    rfl

theorem traced_cases {α : Type} (event : Option α → PortEvent)
    (answer : List PortEvent → Option α) (trace : CallTrace) :
    (answer trace.events = none ∧ (callPort (traced event answer)).run trace =
      (.error (.port ()), trace.push (event none))) ∨
    ∃ value, answer trace.events = some value ∧ (callPort (traced event answer)).run trace =
      (.ok value, trace.push (event (some value))) := by
  cases h : answer trace.events with
  | none =>
    refine .inl ⟨rfl, run_callPort_error ?_⟩
    simp only [ExceptT.run, traced, h]
  | some value =>
    refine .inr ⟨value, rfl, run_callPort_ok ?_⟩
    simp only [ExceptT.run, traced, h]

end Steps

/-! ### Orders without an operation -/

/-- The rule, where no operation has run. -/
structure Orderly (options : VaultOptions CallTrace Unit) (input : CredentialCall)
    (action : CredentialAction) (trace : CallTrace) : Prop where
  started : Trace.Keeps (ReleaseRule options input action) trace.events
  quiet : ∀ succeeded, .operation succeeded ∉ trace.events
  refused : ∀ record, .audit record false ∈ trace.events → record.result = .started →
    ∀ event ∈ trace.events, event.isLoad = false
  disposed : ∀ secret, trace.reveal secret = none

section Orders
variable {options : VaultOptions CallTrace Unit} {answers : VaultAnswers} {input : CredentialCall}
  {action : CredentialAction} {trace : CallTrace}

theorem orderly_initial : Orderly options input action .initial where
  started := Trace.keeps_nil
  quiet := fun _ hevent => nomatch hevent
  refused := fun _ hevent => nomatch hevent
  disposed := fun _ => rfl

theorem Orderly.auditedFirst (h : Orderly options input action trace) :
    AuditedFirst options input action trace where
  started := h.started
  closing := fun _ succeeded _ hsplit =>
    absurd (hsplit ▸ List.mem_append_right _ List.mem_cons_self) (h.quiet succeeded)
  refused := h.refused
  disposed := h.disposed

/-- A call that releases nothing, or does so after its record. -/
theorem Orderly.push (h : Orderly options input action trace) {event : PortEvent}
    (hrule : ReleaseRule options input action trace.events event)
    (hquiet : ∀ succeeded, event ≠ .operation succeeded)
    (hrefused : ∀ record, .audit record false ∈ trace.events ++ [event] →
      record.result = .started → ∀ other ∈ trace.events ++ [event], other.isLoad = false) :
    Orderly options input action (trace.push event) where
  started := Trace.keeps_concat.mpr ⟨h.started, hrule⟩
  quiet := by
    intro succeeded hmem
    rcases List.mem_append.mp hmem with hold | hnew
    · exact h.quiet succeeded hold
    · exact hquiet succeeded (List.mem_singleton.mp hnew).symm
  refused := hrefused
  disposed := h.disposed

theorem Orderly.draw (h : Orderly options input action trace) :
    Orderly options input action trace.draw := ⟨h.started, h.quiet, h.refused, h.disposed⟩

/-- An audit record, unless it is a refused first one after a load. -/
theorem Orderly.audited (h : Orderly options input action trace) {result : AuditResult}
    {persisted : Bool} (hfirst : persisted = false → result = .started →
      ∀ event ∈ trace.events, event.isLoad = false) :
    Orderly options input action (audited answers input action result persisted trace) := by
  refine h.draw.push nofun nofun fun record hmem hstarted other hother => ?_
  have hloads : ∀ event ∈ trace.events, event.isLoad = false := by
    rcases List.mem_append.mp hmem with hold | hnew
    · exact h.refused record hold hstarted
    · cases List.mem_singleton.mp hnew
      exact hfirst rfl hstarted
  rcases List.mem_append.mp hother with hold | hnew
  · exact hloads other hold
  · rw [List.mem_singleton.mp hnew]
    rfl

/-- A load, after no refused first record. -/
theorem Orderly.load (h : Orderly options input action trace)
    (hpersisted : ∀ record, .audit record false ∉ trace.events) {credentialId ownerUserId : String}
    {answer : Option (Option EncryptedCredentialRecord)} :
    Orderly options input action (trace.push (.load credentialId ownerUserId answer)) := by
  refine h.push nofun nofun fun record hmem => ?_
  rcases List.mem_append.mp hmem with hold | hnew
  · exact absurd hold (hpersisted record)
  · cases List.mem_singleton.mp hnew

/-- A release after the record of its start. -/
theorem Orderly.release (h : Orderly options input action trace) {event : PortEvent}
    (hmay : input.mayPerform options action = true) {record : CredentialAuditRecord}
    (hrecord : input.Audits action .started record) (hstarted : .audit record true ∈ trace.events)
    (hquiet : ∀ succeeded, event ≠ .operation succeeded) (hload : event.isLoad = false)
    (haudit : ∀ record, event ≠ .audit record false) :
    Orderly options input action (trace.push event) := by
  refine h.push (fun _ => ⟨hmay, record, hrecord, hstarted⟩) hquiet fun first hmem hfirst => ?_
  intro other hother
  rcases List.mem_append.mp hmem with hold | hnew
  · rcases List.mem_append.mp hother with hothers | hlast
    · exact h.refused first hold hfirst other hothers
    · rw [List.mem_singleton.mp hlast]
      exact hload
  · exact absurd (List.mem_singleton.mp hnew).symm (haudit first)

end Orders

/-! ### The calls -/

section VaultCalls
variable {cipher : Cipher} {masterKey : String} {access : Option SystemCredentialAccess}
  {answers : VaultAnswers} {input : CredentialCall} {action : CredentialAction}
  {trace : CallTrace}

variable (cipher masterKey access answers input action trace) in
theorem append_snd (result : AuditResult) :
    ∃ persisted, ((appendCredentialAudit (tracedVault cipher masterKey access answers) input action
      result).run trace).2 = audited answers input action result persisted trace := by
  rcases append_cases cipher masterKey access answers input action trace result with
    ⟨-, hrun⟩ | ⟨-, hrun⟩
  · exact ⟨true, by rw [hrun]⟩
  · exact ⟨false, by rw [hrun]⟩

/-- A last audit record that is no first one, and whatever is thrown after it. -/
theorem orderly_append {α : Type} {options : VaultOptions CallTrace Unit} {result : AuditResult}
    (h : Orderly options input action trace) (hresult : result ≠ .started)
    (next : Unit → VaultM CallTrace Unit α) (hsilent : ∀ a s, ((next a).run s).2 = s) :
    Orderly options input action ((appendCredentialAudit
      (tracedVault cipher masterKey access answers) input action result >>= next).run trace).2 := by
  obtain ⟨persisted, hrun⟩ :=
    append_snd cipher masterKey access answers input action trace result
  rw [run_bind_silent hsilent, hrun]
  exact h.audited fun _ hstarted => absurd hstarted hresult

theorem run_randomBytes :
    (readPort (tracedVault cipher masterKey access answers).ports.randomBytes :
      VaultM CallTrace Unit String).run trace =
        (.ok (answers.randomBytes trace.drawn), trace.draw) := rfl

/-- The record of a start is in the trace. -/
theorem started_mem (trace : CallTrace) : .audit (auditNow answers input action .started trace)
    true ∈ (audited answers input action .started true trace).events :=
  List.mem_append_right _ (List.mem_singleton_self _)

/-- A persisted start, and a refused one. -/
theorem orderly_started {options : VaultOptions CallTrace Unit}
    (h : Orderly options input action trace) :
    Orderly options input action (audited answers input action .started true trace) :=
  h.audited fun hpersisted => nomatch hpersisted

theorem orderly_refused {options : VaultOptions CallTrace Unit} :
    Orderly options input action (audited answers input action .started false .initial) :=
  orderly_initial.audited fun _ _ _ hevent => nomatch hevent

theorem save_cases (record : EncryptedCredentialRecord) (trace : CallTrace) :
    (∃ error, (attempt (callPort ((tracedVault cipher masterKey access answers).ports.save
        record))).run trace = (.ok (.error error), trace.push (.save record false))) ∨
      (attempt (callPort ((tracedVault cipher masterKey access answers).ports.save record))).run
        trace = (.ok (.ok ()), trace.push (.save record true)) := by
  rcases traced_cases (fun answer => .save record answer.isSome)
    (fun events => answers.save events record) trace with ⟨-, hrun⟩ | ⟨_, -, hrun⟩
  · exact .inl ⟨_, run_attempt hrun⟩
  · exact .inr (run_attempt hrun)

theorem store_orderly (secret : String) (secretType : SecretType) :
    Orderly (tracedVault cipher masterKey access answers) input .store
      (callTrace (tracedVault cipher masterKey access answers) input
        (.store secret secretType)) := by
  unfold callTrace store
  dsimp only
  split
  · exact orderly_append orderly_initial (by decide) _ fun _ _ => rfl
  · rename_i hdenied
    have hmay : input.mayPerform (tracedVault cipher masterKey access answers) .store = true := by
      unfold CredentialCall.mayPerform
      simpa using hdenied
    rcases append_cases cipher masterKey access answers input .store .initial .started with
      ⟨-, hrun⟩ | ⟨-, hrun⟩
    · rw [run_bind_ok hrun, run_bind_ok run_randomBytes, run_bind_ok run_randomBytes,
        run_bind_ok run_randomBytes]
      have hstart : Orderly (tracedVault cipher masterKey access answers) input .store
          (audited answers input .store .started true .initial).draw.draw.draw :=
        (orderly_started orderly_initial).draw.draw.draw
      have hsaved : ∀ record saved, Orderly (tracedVault cipher masterKey access answers) input
          .store ((audited answers input .store .started true .initial).draw.draw.draw.push
            (.save record saved)) :=
        fun record saved => hstart.release hmay (audits_auditNow _) (started_mem _) nofun rfl nofun
      rcases save_cases _ _ with ⟨error, hrun⟩ | hrun
      · rw [run_bind_ok hrun]
        exact orderly_append (hsaved _ _) (by decide) _ fun _ _ => rfl
      · rw [run_bind_ok hrun]
        obtain ⟨persisted, hlast⟩ := append_snd cipher masterKey access answers input .store
          ((audited answers input .store .started true .initial).draw.draw.draw.push
            (.save _ true)) .allowed
        exact hlast ▸ (hsaved _ _).audited fun _ hstarted => nomatch hstarted
    · rw [run_bind_error hrun]
      exact orderly_refused

theorem load_cases (credentialId ownerUserId : String) (trace : CallTrace) :
    (answers.load trace.events credentialId ownerUserId = none ∧
      ∃ error, (attempt (callPort ((tracedVault cipher masterKey access answers).ports.load
        credentialId ownerUserId))).run trace =
          (.ok (.error error), trace.push (.load credentialId ownerUserId none))) ∨
    ∃ record, answers.load trace.events credentialId ownerUserId = some record ∧
      (attempt (callPort ((tracedVault cipher masterKey access answers).ports.load credentialId
        ownerUserId))).run trace =
          (.ok (.ok record), trace.push (.load credentialId ownerUserId (some record))) := by
  rcases traced_cases (.load credentialId ownerUserId)
    (fun events => answers.load events credentialId ownerUserId) trace with
      ⟨hnone, hrun⟩ | ⟨record, hsome, hrun⟩
  · exact .inl ⟨hnone, _, run_attempt hrun⟩
  · exact .inr ⟨record, hsome, run_attempt hrun⟩

/-- The deletion and its closing record. -/
theorem deletion_orderly
    (h : Orderly (tracedVault cipher masterKey access answers) input .delete trace)
    (hmay : input.mayPerform (tracedVault cipher masterKey access answers) .delete = true)
    {record : CredentialAuditRecord} (hrecord : input.Audits .delete .started record)
    (hstarted : .audit record true ∈ trace.events)
    (port : String → String → ExceptT Unit (StateM CallTrace) Bool)
    (hport : (tracedVault cipher masterKey access answers).ports.delete = some port) :
    Orderly (tracedVault cipher masterKey access answers) input .delete
      ((do
        let deleted ← callPort (port input.credentialId input.ownerUserId)
        appendCredentialAudit (tracedVault cipher masterKey access answers) input .delete .allowed
        return deleted : VaultM CallTrace Unit Bool).run trace).2 := by
  change answers.delete.map _ = _ at hport
  rw [Option.map_eq_some_iff] at hport
  obtain ⟨answer, -, rfl⟩ := hport
  have hdeleted : ∀ deleted, Orderly (tracedVault cipher masterKey access answers) input .delete
      (trace.push (.delete input.credentialId input.ownerUserId deleted)) :=
    fun deleted => h.release hmay hrecord hstarted nofun rfl nofun
  rcases traced_cases (.delete input.credentialId input.ownerUserId)
    (fun events => answer events input.credentialId input.ownerUserId) trace with
      ⟨-, hrun⟩ | ⟨deleted, -, hrun⟩
  · rw [run_bind_error hrun]
    exact hdeleted none
  · rw [run_bind_ok hrun]
    exact orderly_append (hdeleted (some deleted)) (by decide) _ fun _ _ => rfl

/-- A part in a `try`, whatever it returns or throws. -/
theorem orderly_attempt {options : VaultOptions CallTrace Unit} {α β : Type}
    {body : VaultM CallTrace Unit α}
    {next : Except (VaultError Unit) α → VaultM CallTrace Unit β}
    (hbody : Orderly options input action (body.run trace).2)
    (hnext : ∀ result s, Orderly options input action s →
      Orderly options input action ((next result).run s).2) :
    Orderly options input action ((attempt body >>= next).run trace).2 := by
  cases hrun : body.run trace with
  | mk result s =>
    rw [hrun] at hbody
    rw [run_bind_ok (run_attempt hrun)]
    exact hnext result s hbody

theorem deleteStored_orderly
    (h : Orderly (tracedVault cipher masterKey access answers) input .delete trace)
    (hmay : input.mayPerform (tracedVault cipher masterKey access answers) .delete = true)
    (hfirst : answers.appendAuditRecord trace.events
      (auditNow answers input .delete .started trace) = none → ∀ event ∈ trace.events, event.isLoad = false) :
    Orderly (tracedVault cipher masterKey access answers) input .delete
      ((deleteStored (tracedVault cipher masterKey access answers) input).run trace).2 := by
  unfold deleteStored
  rcases append_cases cipher masterKey access answers input .delete trace .started with
    ⟨-, hrun⟩ | ⟨hnone, hrun⟩
  · rw [run_bind_ok hrun]
    have hstart : Orderly (tracedVault cipher masterKey access answers) input .delete
        (audited answers input .delete .started true trace) := orderly_started h
    refine orderly_attempt ?_ fun result s hs => ?_
    · split
      · exact hstart
      · rename_i port hport
        exact deletion_orderly hstart hmay (audits_auditNow _) (started_mem _) port hport
    · split
      · exact hs
      · exact orderly_append hs (by decide) _ fun _ _ => rfl
  · rw [run_bind_error hrun]
    exact h.audited fun _ _ => hfirst hnone

/-- The record that the system actor deletes is loaded and admitted before a first audit record
that is then refused. -/
def LoadsFirst (access : Option SystemCredentialAccess) (answers : VaultAnswers)
    (input : CredentialCall) : Prop :=
  ∃ record, answers.load [] input.credentialId input.ownerUserId = some record ∧
    record.map EncryptedCredentialRecord.secretType =
      access.map SystemCredentialAccess.secretType ∧
    answers.appendAuditRecord [.load input.credentialId input.ownerUserId (some record)]
      (auditNow answers input .delete .started .initial) = none

theorem delete_orderly (hfirst : input.isSystem = true →
      input.mayPerform (tracedVault cipher masterKey access answers) .delete = true →
      ¬ LoadsFirst access answers input) :
    Orderly (tracedVault cipher masterKey access answers) input .delete
      (callTrace (tracedVault cipher masterKey access answers) input .delete) := by
  unfold callTrace delete
  dsimp only
  split
  · exact orderly_append orderly_initial (by decide) _ fun _ _ => rfl
  · rename_i hauthorised
    have hmay : input.mayPerform (tracedVault cipher masterKey access answers) .delete = true := by
      unfold CredentialCall.mayPerform
      simpa using hauthorised
    split
    · rename_i hsystem
      have hloaded : ∀ answer, Orderly (tracedVault cipher masterKey access answers) input .delete
          (CallTrace.initial.push (.load input.credentialId input.ownerUserId answer)) :=
        fun answer => orderly_initial.load fun _ hmem => nomatch hmem
      rcases load_cases input.credentialId input.ownerUserId .initial with
        ⟨-, error, hrun⟩ | ⟨record, hload, hrun⟩
      · rw [run_bind_ok hrun]
        exact orderly_append (hloaded none) (by decide) _ fun _ _ => rfl
      · rw [run_bind_ok hrun]
        dsimp only
        split
        · exact orderly_append (hloaded (some record)) (by decide) _ fun _ _ => rfl
        · rename_i hadmitted
          refine deleteStored_orderly (hloaded (some record)) hmay fun hnone => ?_
          exact absurd ⟨record, hload, not_not.mp hadmitted, hnone⟩ (hfirst hsystem hmay)
    · exact deleteStored_orderly orderly_initial hmay fun _ _ hevent => nomatch hevent

/-- A record that was loaded first and a refused audit record break the rule. -/
theorem not_auditedFirst_of_loadsFirst (hsystem : input.isSystem = true)
    (hmay : input.mayPerform (tracedVault cipher masterKey access answers) .delete = true)
    (hfirst : LoadsFirst access answers input) :
    ¬ AuditedFirst (tracedVault cipher masterKey access answers) input .delete
      (callTrace (tracedVault cipher masterKey access answers) input .delete) := by
  obtain ⟨record, hload, hadmitted, hnone⟩ := hfirst
  have hauthorised :
      input.authorised (tracedVault cipher masterKey access answers) .delete = true := hmay
  have htrace : callTrace (tracedVault cipher masterKey access answers) input .delete =
      audited answers input .delete .started false
        (CallTrace.initial.push (.load input.credentialId input.ownerUserId (some record))) := by
    unfold callTrace delete
    dsimp only
    rw [hauthorised, if_neg (by decide), if_pos hsystem]
    rcases load_cases input.credentialId input.ownerUserId .initial with
      ⟨hthrown, -⟩ | ⟨loaded, hloaded, hrun⟩
    · cases hthrown.symm.trans hload
    · cases hloaded.symm.trans hload
      rw [run_bind_ok hrun]
      have hadmitted' : ¬ record.map EncryptedCredentialRecord.secretType ≠
          (tracedVault cipher masterKey access answers).systemAccess.map
            SystemCredentialAccess.secretType := not_not.mpr hadmitted
      dsimp only
      rw [if_neg hadmitted']
      unfold deleteStored
      rcases append_cases cipher masterKey access answers input .delete
        (CallTrace.initial.push (.load input.credentialId input.ownerUserId (some record)))
        .started with ⟨hpersisted, -⟩ | ⟨-, hstart⟩
      · cases hpersisted.symm.trans hnone
      · rw [run_bind_error hstart]
  intro haudited
  rw [htrace] at haudited
  have hnoload := haudited.refused _ (List.mem_append_right _ (List.mem_singleton_self _)) rfl
    (.load input.credentialId input.ownerUserId (some record))
    (List.mem_append_left _ (List.mem_singleton_self _))
  cases hnoload

/-- An operation reveals and disposes of its own secret only. -/
theorem run_program (operation : SecretProgram) (secret : Nat) (trace : CallTrace) :
    (operation.run secret trace).2.events = trace.events ∧
      ∀ other, other ≠ secret →
        (operation.run secret trace).2.reveal other = trace.reveal other := by
  induction operation generalizing trace with
  | reveal next ih => exact ih _ trace
  | dispose next ih =>
    obtain ⟨hevents, hothers⟩ := ih (trace.dispose secret)
    refine ⟨hevents, fun other hother => (hothers other hother).trans ?_⟩
    unfold CallTrace.reveal CallTrace.dispose
    dsimp only
    rw [List.getElem?_set_ne (Ne.symm hother)]
  | done succeeded => exact ⟨rfl, fun _ _ => rfl⟩

/-- However the operation ends, its secret is disposed of. -/
theorem run_withSecret (operation : SecretProgram) (plaintext : String) {trace : CallTrace}
    (h : ∀ secret, trace.reveal secret = none) :
    ∃ succeeded trace', (withSecret operation plaintext).run trace = (succeeded, trace') ∧
      trace'.events = trace.events ++ [.operation succeeded] ∧
      ∀ secret, trace'.reveal secret = none := by
  obtain ⟨hevents, hothers⟩ := run_program operation trace.secrets.length
    { trace with secrets := trace.secrets ++ [some plaintext] }
  refine ⟨_, _, rfl, congrArg (· ++ [_]) hevents, fun secret => ?_⟩
  change (CallTrace.dispose _ _).reveal secret = none
  by_cases hsecret : secret = trace.secrets.length
  · unfold CallTrace.dispose CallTrace.reveal
    dsimp only
    rw [hsecret, List.getElem?_set_self']
    cases (operation.run trace.secrets.length _).2.secrets[trace.secrets.length]? <;> rfl
  · have hother := hothers secret hsecret
    have hold := h secret
    unfold CallTrace.reveal at hother hold
    unfold CallTrace.dispose CallTrace.reveal
    dsimp only
    rw [List.getElem?_set_ne (Ne.symm hsecret), hother, List.getElem?_append]
    split
    · exact hold
    · rw [List.getElem?_eq_none (by rw [List.length_singleton]; omega)]
      rfl

/-- The one closing record of an operation. -/
theorem auditedFirst_closing {options : VaultOptions CallTrace Unit} {trace' : CallTrace}
    (h : Orderly options input .use trace) (hmay : input.mayPerform options .use = true)
    {record : CredentialAuditRecord} (hrecord : input.Audits .use .started record)
    (hstarted : .audit record true ∈ trace.events)
    (hpersisted : ∀ record, .audit record false ∉ trace.events) {succeeded persisted : Bool}
    (hevents : trace'.events = trace.events ++ [.operation succeeded])
    (hdisposed : ∀ secret, trace'.reveal secret = none) :
    AuditedFirst options input .use (audited answers input .use
      (if succeeded then .allowed else .failed) persisted trace') := by
  have hall : (audited answers input .use (if succeeded then .allowed else .failed) persisted
      trace').events = (trace.events ++ [.operation succeeded]) ++
        [.audit (auditNow answers input .use (if succeeded then .allowed else .failed) trace')
          persisted] := congrArg (· ++ [_]) hevents
  refine ⟨?_, ?_, ?_, hdisposed⟩
  · rw [hall, Trace.keeps_concat, Trace.keeps_concat]
    exact ⟨⟨h.started, fun _ => ⟨hmay, record, hrecord, hstarted⟩⟩, nofun⟩
  · intro before other after hsplit
    rw [hall] at hsplit
    -- the record is the last event, and the operation the one before it
    rcases List.eq_nil_or_concat after with rfl | ⟨middle, last, rfl⟩
    · cases (List.append_inj' hsplit rfl).2
    · rw [List.concat_eq_append, ← List.cons_append, ← List.append_assoc] at hsplit
      obtain ⟨hbefore, hlast⟩ := List.append_inj' hsplit rfl
      cases hlast
      rcases List.eq_nil_or_concat middle with rfl | ⟨middle, last, rfl⟩
      · cases (List.append_inj' hbefore rfl).2
        exact ⟨_, _, rfl, audits_auditNow _⟩
      · rw [List.concat_eq_append, ← List.cons_append, ← List.append_assoc] at hbefore
        have hfirst := (List.append_inj' hbefore rfl).1
        exact absurd (hfirst ▸ List.mem_append_right _ List.mem_cons_self) (h.quiet other)
  · intro first hfirst hresult
    rw [hall, List.mem_append, List.mem_append, List.mem_singleton, List.mem_singleton] at hfirst
    rcases hfirst with (hold | hoperation) | hclosing
    · exact absurd hold (hpersisted first)
    · cases hoperation
    · cases hclosing
      cases succeeded <;> cases hresult

theorem use_auditedFirst (operation : SecretProgram) :
    AuditedFirst (tracedVault cipher masterKey access answers) input .use
      (callTrace (tracedVault cipher masterKey access answers) input (.use operation)) := by
  unfold callTrace use
  dsimp only
  split
  · exact (orderly_append orderly_initial (by decide) _ fun _ _ => rfl).auditedFirst
  · rename_i hauthorised
    have hmay : input.mayPerform (tracedVault cipher masterKey access answers) .use = true := by
      unfold CredentialCall.mayPerform
      simpa using hauthorised
    rcases append_cases cipher masterKey access answers input .use .initial .started with
      ⟨-, hrun⟩ | ⟨-, hrun⟩
    · rw [run_bind_ok hrun]
      have hstart : Orderly (tracedVault cipher masterKey access answers) input .use
          (audited answers input .use .started true .initial) := orderly_started orderly_initial
      have hpersisted : ∀ record, .audit record false ∉
          (audited answers input .use .started true .initial).events := by
        intro record hmem
        cases List.mem_singleton.mp hmem
      have hloaded : ∀ answer, Orderly (tracedVault cipher masterKey access answers) input .use
          ((audited answers input .use .started true .initial).push
            (.load input.credentialId input.ownerUserId answer)) :=
        fun answer => hstart.load hpersisted
      rcases load_cases input.credentialId input.ownerUserId
        (audited answers input .use .started true .initial) with
          ⟨-, error, hload⟩ | ⟨record, -, hload⟩
      · rw [run_bind_ok hload]
        exact (orderly_append (hloaded none) (by decide) _ fun _ _ => rfl).auditedFirst
      · rw [run_bind_ok hload]
        dsimp only
        split
        · exact (orderly_append (hloaded (some record)) (by decide) _ fun _ _ => rfl).auditedFirst
        · split
          · exact (orderly_append (hloaded (some record)) (by decide) _ fun _ _ => rfl).auditedFirst
          · rename_i secret _
            obtain ⟨succeeded, trace', hoperation, hevents, hdisposed⟩ :=
              run_withSecret operation secret (hloaded (some record)).disposed
            rw [run_bind_ok (run_readPort hoperation)]
            have hclosing : ∀ persisted,
                AuditedFirst (tracedVault cipher masterKey access answers) input .use
                  (audited answers input .use (if succeeded then .allowed else .failed) persisted
                    trace') := by
              intro persisted
              refine auditedFirst_closing (hloaded (some record)) hmay (audits_auditNow .started)
                (List.mem_append_left _ (started_mem _)) (fun first hfirst => ?_) hevents hdisposed
              rcases List.mem_append.mp hfirst with hold | hload
              · exact hpersisted first hold
              · cases List.mem_singleton.mp hload
            cases succeeded with
            | true =>
              obtain ⟨persisted, hlast⟩ :=
                append_snd cipher masterKey access answers input .use trace' .allowed
              rw [if_pos rfl, hlast]
              exact hclosing persisted
            | false =>
              obtain ⟨persisted, hlast⟩ :=
                append_snd cipher masterKey access answers input .use trace' .failed
              rw [if_neg Bool.false_ne_true, run_bind_silent fun _ _ => rfl, hlast]
              exact hclosing persisted
    · rw [run_bind_error hrun]
      exact orderly_refused.auditedFirst

/-- The rule fails exactly for a deletion by the system actor whose record is loaded and whose
first audit record is then refused. -/
theorem auditedFirst_iff (cipher : Cipher) (masterKey : String)
    (access : Option SystemCredentialAccess) (answers : VaultAnswers) (input : CredentialCall)
    (call : VaultCall) :
    AuditedFirst (tracedVault cipher masterKey access answers) input call.action
        (callTrace (tracedVault cipher masterKey access answers) input call) ↔
      ¬ (call.action = .delete ∧ input.isSystem = true ∧
        allowsSystemAccess access input.caller .delete = true ∧
        LoadsFirst access answers input) := by
  cases call with
  | store secret secretType =>
    exact iff_of_true (store_orderly secret secretType).auditedFirst nofun
  | use operation => exact iff_of_true (use_auditedFirst operation) nofun
  | delete =>
    have hmay : input.isSystem = true → (allowsSystemAccess access input.caller .delete = true ↔
        input.mayPerform (tracedVault cipher masterKey access answers) .delete = true) := by
      intro hsystem
      unfold CredentialCall.mayPerform CredentialCall.authorised
      dsimp only
      rw [if_pos hsystem]
      rfl
    constructor
    · rintro haudited ⟨-, hsystem, hallowed, hfirst⟩
      exact not_auditedFirst_of_loadsFirst hsystem ((hmay hsystem).mp hallowed) hfirst haudited
    · intro hlater
      refine (delete_orderly fun hsystem hperform hfirst => ?_).auditedFirst
      exact hlater ⟨rfl, hsystem, (hmay hsystem).mpr hperform, hfirst⟩

end VaultCalls

/-! ### A record that is loaded first -/

/-- The key and the associated data are in the tag. -/
def plainCipher : Cipher where
  encrypt plaintext key aad iv := ⟨plaintext, iv, key ++ aad⟩
  decrypt text key aad := if text.tag = key ++ aad then some text.ciphertext else none
  decrypt_encrypt plaintext key aad iv := by simp

def sourceAccess : SystemCredentialAccess := ⟨.sourceCredential, [.use, .delete]⟩

def sourceRecord : EncryptedCredentialRecord :=
  ⟨"credential", "owner", .sourceCredential, ⟨"", "", ""⟩, ⟨"", "", ""⟩⟩

/-- The storage answers, and the audit sink refuses. -/
def refusingAnswers : VaultAnswers where
  appendAuditRecord _ _ := none
  save _ _ := some ()
  load _ _ _ := some (some sourceRecord)
  delete := some fun _ _ _ => some true
  randomBytes _ := ""
  now _ := 0

/-- The source worker deletes a credential. -/
def workerDeletion : CredentialCall := ⟨"credential", "owner", .systemActor "worker", "job"⟩

theorem deletion_loads_first :
    ¬ AuditedFirst (tracedVault plainCipher "key" (some sourceAccess) refusingAnswers)
      workerDeletion .delete (callTrace (tracedVault plainCipher "key" (some sourceAccess) refusingAnswers)
        workerDeletion .delete) :=
  not_auditedFirst_of_loadsFirst rfl rfl ⟨some sourceRecord, rfl, rfl, rfl⟩

end ChoiceMind.Security
