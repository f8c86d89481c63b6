import ChoiceMind.Foundation.Calls
import ChoiceMind.Foundation.Transition
import ChoiceMind.Security.Vault
import Mathlib.Data.List.Basic

/-!
# What the associated data of an envelope binds

A vault over a storage that answers as an adversary likes. The cipher is ideal on what the
storage presents: a decryption that succeeds is of one encryption that a `store` call made.
-/

namespace ChoiceMind.Security

set_option autoImplicit false

open Contracts TaskPersistence Calls Transition

/-! ### The associated data -/

/-- The character that separates the parts of the associated data. -/
def separator : Char := '\x00'

theorem toList_associatedData (credentialId ownerUserId : String) (secretType : SecretType) :
    (associatedData credentialId ownerUserId secretType).toList =
      credentialId.toList ++ separator :: (ownerUserId.toList ++
        separator :: (secretTypeText secretType).toList) := by
  simp [associatedData, separator]

theorem separator_notMem_secretTypeText (secretType : SecretType) :
    separator ∉ (secretTypeText secretType).toList := by
  cases secretType <;> decide

theorem secretTypeText_injective : Function.Injective secretTypeText := by
  intro left right h
  cases left <;> cases right <;> first | rfl | exact absurd h (by decide)

/-- A text before the first separator is as long as the separator is far. -/
theorem append_separator_inj {x y z w : List Char} (hx : separator ∉ x) (hy : separator ∉ y)
    (h : x ++ separator :: z = y ++ separator :: w) : x = y ∧ z = w := by
  have hindex := congrArg (List.idxOf separator) h
  rw [List.idxOf_append_of_notMem hx, List.idxOf_append_of_notMem hy, List.idxOf_cons_self,
    List.idxOf_cons_self] at hindex
  obtain ⟨rfl, hrest⟩ := List.append_inj h hindex
  rw [List.cons.injEq] at hrest
  exact ⟨rfl, hrest.2⟩

/-- Texts without a separator are read back from the associated data. -/
theorem associatedData_injective {c o c' o' : String} {t t' : SecretType}
    (hc : separator ∉ c.toList) (ho : separator ∉ o.toList)
    (h : associatedData c' o' t' = associatedData c o t) : c' = c ∧ o' = o ∧ t' = t := by
  have hlist := congrArg String.toList h
  rw [toList_associatedData, toList_associatedData] at hlist
  -- the separators on both sides are as many, so the other ids have none either
  have hcount := congrArg (List.count separator) hlist
  simp only [List.count_append, List.count_cons_self,
    List.count_eq_zero_of_not_mem (separator_notMem_secretTypeText _),
    List.count_eq_zero_of_not_mem hc, List.count_eq_zero_of_not_mem ho] at hcount
  have hc' : separator ∉ c'.toList := by
    rw [← List.count_eq_zero]
    omega
  have ho' : separator ∉ o'.toList := by
    rw [← List.count_eq_zero]
    omega
  obtain ⟨hsame, hrest⟩ := append_separator_inj hc' hc hlist
  obtain ⟨howner, htype⟩ := append_separator_inj ho' ho hrest
  exact ⟨String.toList_injective hsame, String.toList_injective howner,
    secretTypeText_injective (String.toList_injective htype)⟩

/-! ### Calls of a vault over an adversarial storage -/

/-- What the audit sink, the storage and the random source answer during one call. -/
structure Answers where
  /-- whether the audit append of that number is taken -/
  audits : Nat → Bool
  saves : Bool
  /-- `none` where the storage throws -/
  loads : Option (Option EncryptedCredentialRecord)
  deletes : Option Bool
  randomBytes : Nat → String
  now : Instant

/-- One call while it runs: the answers, how many were taken, the records given to the storage
and the secrets given to the operation. -/
structure CallWorld where
  answers : Answers
  audits : Nat
  drawn : Nat
  saved : List EncryptedCredentialRecord
  handed : List String

def CallWorld.start (answers : Answers) : CallWorld := ⟨answers, 0, 0, [], []⟩

def adversarialPorts : VaultPorts CallWorld Unit where
  appendAuditRecord _ := fun world =>
    (if world.answers.audits world.audits then .ok () else .error (),
      { world with audits := world.audits + 1 })
  save record := fun world =>
    (if world.answers.saves then .ok () else .error (),
      { world with saved := world.saved ++ [record] })
  load _ _ := fun world =>
    (match world.answers.loads with
      | some record => .ok record
      | none => .error (), world)
  delete := some fun _ _ world =>
    (match world.answers.deletes with
      | some deleted => .ok deleted
      | none => .error (), world)
  randomBytes := fun world =>
    (world.answers.randomBytes world.drawn, { world with drawn := world.drawn + 1 })
  now := fun world => (world.answers.now, world)

/-- What a history of calls of one vault fixes. -/
structure VaultSetting where
  cipher : Cipher
  masterKey : String
  systemAccess : Option SystemCredentialAccess

def VaultSetting.options (setting : VaultSetting) : VaultOptions CallWorld Unit :=
  ⟨setting.cipher, setting.masterKey, adversarialPorts, setting.systemAccess⟩

/-- A secret that a `store` call has encrypted, with the bytes that it drew. -/
structure Sealing where
  credentialId : String
  ownerUserId : String
  secretType : SecretType
  secret : String
  dataKey : String
  secretIv : String
  dataKeyIv : String
  deriving DecidableEq

/-- One encryption by the cipher. -/
structure Encryption where
  key : String
  aad : String
  plaintext : String
  text : SealedText
  deriving DecidableEq

def Sealing.aad (sealing : Sealing) : String :=
  associatedData sealing.credentialId sealing.ownerUserId sealing.secretType

/-- Both encryptions of a `store` call. -/
def Sealing.encryptions (setting : VaultSetting) (sealing : Sealing) : List Encryption :=
  [⟨sealing.dataKey, sealing.aad, sealing.secret,
      setting.cipher.encrypt sealing.secret sealing.dataKey sealing.aad sealing.secretIv⟩,
    ⟨setting.masterKey, sealing.aad, sealing.dataKey,
      setting.cipher.encrypt sealing.dataKey setting.masterKey sealing.aad sealing.dataKeyIv⟩]

inductive VaultEvent
  | store (input : CredentialCall) (secret : String) (secretType : SecretType)
  /-- the operation returns normally or not -/
  | use (input : CredentialCall) (returns : Bool)
  | delete (input : CredentialCall)

structure VaultReply where
  returned : Bool
  handed : List String

def VaultReply.of {α : Type} (run : Except (VaultError Unit) α × CallWorld) : VaultReply :=
  ⟨run.1.isOk, run.2.handed⟩

/-- The operation of a `use`, which sees the secret. -/
def operate (returns : Bool) (secret : String) : StateM CallWorld Bool := fun world =>
  (returns, { world with handed := world.handed ++ [secret] })

/-- One call; a `store` that reaches the storage has encrypted its secret. -/
def vaultStep (setting : VaultSetting) (sealings : List Sealing) :
    Answers × VaultEvent → Option (VaultReply × List Sealing)
  | (answers, .store input secret secretType) =>
    let run := (store setting.options input secret secretType).run (CallWorld.start answers)
    let made := run.2.saved.map fun _ =>
      ⟨input.credentialId, input.ownerUserId, secretType, secret, answers.randomBytes 0,
        answers.randomBytes 1, answers.randomBytes 2⟩
    some (.of run, sealings ++ made)
  | (answers, .use input returns) =>
    some (.of ((use setting.options input (operate returns)).run (CallWorld.start answers)),
      sealings)
  | (answers, .delete input) =>
    some (.of ((delete setting.options input).run (CallWorld.start answers)), sealings)

/-! ### What a call does -/

section OneCall
variable {setting : VaultSetting} {input : CredentialCall} {answers : Answers} {world : CallWorld}

theorem run_audit (action : CredentialAction) (result : AuditResult) :
    (appendCredentialAudit setting.options input action result).run world =
      (if world.answers.audits world.audits then .ok () else .error (.port ()),
        { world with audits := world.audits + 1 }) := by
  have hnow : setting.options.ports.now.run world = (world.answers.now, world) := rfl
  unfold appendCredentialAudit
  rw [run_bind_ok (run_readPort hnow)]
  by_cases haudit : world.answers.audits world.audits = true
  · rw [if_pos haudit]
    apply run_callPort_ok
    simp only [ExceptT.run, VaultSetting.options, adversarialPorts, haudit, if_true]
  · rw [if_neg haudit]
    apply run_callPort_error
    simp only [ExceptT.run, VaultSetting.options, adversarialPorts, haudit, if_false,
      Bool.false_eq_true]

/-- A rest that follows an audit record starts in a world that differs in the count alone. -/
theorem run_audit_bind {α : Type} (action : CredentialAction) (result : AuditResult)
    (rest : Unit → VaultM CallWorld Unit α) :
    (appendCredentialAudit setting.options input action result >>= rest).run world =
      if world.answers.audits world.audits then
        (rest ()).run { world with audits := world.audits + 1 }
      else (.error (.port ()), { world with audits := world.audits + 1 }) := by
  have haudit : (appendCredentialAudit setting.options input action result).run world = _ :=
    run_audit action result
  split
  · rw [if_pos ‹_›] at haudit
    exact run_bind_ok haudit
  · rw [if_neg ‹_›] at haudit
    exact run_bind_error haudit

theorem handed_closing {α : Type} {action : CredentialAction} {result : AuditResult}
    {rest : Unit → VaultM CallWorld Unit α}
    (hrest : ∀ world, ((rest ()).run world).2.handed = world.handed) :
    ((appendCredentialAudit setting.options input action result >>= rest).run world).2.handed =
      world.handed := by
  rw [run_audit_bind]
  split
  · exact hrest _
  · rfl

theorem run_load : (callPort (setting.options.ports.load input.credentialId
      input.ownerUserId)).run world =
    (match world.answers.loads with
      | some record => .ok record
      | none => .error (.port ()), world) := by
  cases hloads : world.answers.loads <;>
    simp only [ExceptT.run, callPort, VaultSetting.options, adversarialPorts, hloads]

/-- The operation sees the secret, and what follows it hands out no other one. -/
theorem handed_operation {returns : Bool} {secret : String} :
    ((do
      if ← readPort (operate returns secret) then
        appendCredentialAudit setting.options input .use .allowed
      else do
        appendCredentialAudit setting.options input .use .failed
        throw (.message "SECRET_OPERATION_FAILED") :
      VaultM CallWorld Unit Unit).run world).2.handed = world.handed ++ [secret] := by
  have hoperation : (operate returns secret).run world =
    (returns, { world with handed := world.handed ++ [secret] }) := rfl
  rw [run_bind_ok (run_readPort hoperation)]
  cases returns with
  | false => exact handed_closing fun _ => rfl
  | true =>
    rw [if_pos rfl, run_audit]

/-- A secret reaches the operation only from a loaded record of the ids that were asked for. -/
theorem handed_use {returns : Bool} {secret : String} (hstart : world.handed = [])
    (h : secret ∈ ((use setting.options input (operate returns)).run world).2.handed) :
    ∃ record, world.answers.loads = some (some record) ∧
      record.credentialId = input.credentialId ∧ record.ownerUserId = input.ownerUserId ∧
      openSecret setting.cipher setting.masterKey record = some secret := by
  unfold use at h
  split at h
  · rw [handed_closing fun _ => rfl, hstart] at h
    cases h
  · rw [run_audit_bind] at h
    split at h
    · rw [run_bind_ok (run_attempt run_load)] at h
      cases hloads : world.answers.loads with
      | none =>
        simp only [hloads] at h
        rw [handed_closing fun _ => rfl, hstart] at h
        cases h
      | some loaded =>
        simp only [hloads] at h
        split at h
        · rw [handed_closing fun _ => rfl, hstart] at h
          cases h
        · rename_i record hadmitted
          obtain ⟨rfl, hadmits⟩ := Option.filter_eq_some_iff.mp hadmitted
          simp only [admitsRecord, Bool.and_eq_true, decide_eq_true_eq] at hadmits
          refine ⟨record, rfl, hadmits.1.2, hadmits.1.1, ?_⟩
          split at h
          · rw [handed_closing fun _ => rfl, hstart] at h
            cases h
          · rename_i opened hopens
            rw [handed_operation, hstart] at h
            rw [List.mem_singleton.mp h]
            exact hopens
    · rw [hstart] at h
      cases h

end OneCall

/-! ### Histories -/

abbrev VaultTrace := List (Entry (List Sealing) (Answers × VaultEvent) VaultReply)

/-- The ideal cipher on a presented text: what decrypts is one of the encryptions made. -/
def Genuine (setting : VaultSetting) (sealings : List Sealing) (text : SealedText) : Prop :=
  ∀ key aad plaintext, setting.cipher.decrypt text key aad = some plaintext →
    ⟨key, aad, plaintext, text⟩ ∈ sealings.flatMap (Sealing.encryptions setting)

/-- The cipher is ideal on every text that the storage presents. -/
def IdealCipher (setting : VaultSetting) (es : VaultTrace) : Prop :=
  ∀ e ∈ es, ∀ record, e.label.1.loads = some (some record) →
    Genuine setting e.before record.secret ∧ Genuine setting e.before record.wrappedDataKey

/-- No bytes drawn are the master key. -/
def FreshKeys (setting : VaultSetting) (es : VaultTrace) : Prop :=
  ∀ e ∈ es, ∀ index, e.label.1.randomBytes index ≠ setting.masterKey

/-- A `store` call of the history sealed this secret for these ids and this type. -/
def StoredBy (es : VaultTrace) (credentialId ownerUserId : String) (secretType : SecretType)
    (secret : String) : Prop :=
  ∃ e ∈ es, e.before.length < e.after.length ∧
    ∃ input, e.label.2 = .store input secret secretType ∧
      input.credentialId = credentialId ∧ input.ownerUserId = ownerUserId

/-- In every history, what a `use` of these ids hands out was stored for exactly them and the
type of the loaded record. -/
def BoundTo (credentialId ownerUserId : String) : Prop :=
  ∀ setting es sealings, Run (vaultStep setting) [] es sealings → IdealCipher setting es →
    FreshKeys setting es → ∀ pre e post, es = pre ++ e :: post →
      ∀ input returns, e.label.2 = .use input returns → input.credentialId = credentialId →
        input.ownerUserId = ownerUserId → ∀ secret ∈ e.reply.handed,
          ∃ record, e.label.1.loads = some (some record) ∧
            StoredBy pre credentialId ownerUserId record.secretType secret

section Histories
variable {setting : VaultSetting} {es : VaultTrace} {sealings sealings' : List Sealing}

/-- A sealing that a step adds is of its `store` call, under bytes that it drew. -/
theorem mem_vaultStep {label : Answers × VaultEvent} {reply : VaultReply} {sealing : Sealing}
    (h : vaultStep setting sealings label = some (reply, sealings')) (hmem : sealing ∈ sealings') :
    sealing ∈ sealings ∨ sealing.dataKey = label.1.randomBytes 0 ∧
      sealings.length < sealings'.length ∧ ∃ input, label.2 = .store input sealing.secret sealing.secretType ∧
        input.credentialId = sealing.credentialId ∧ input.ownerUserId = sealing.ownerUserId := by
  obtain ⟨answers, event⟩ := label
  cases event with
  | store input secret secretType =>
    simp only [vaultStep, Option.some.injEq, Prod.mk.injEq] at h
    rw [← h.2] at hmem ⊢
    rcases List.mem_append.mp hmem with hold | hnew
    · exact .inl hold
    · have hmade := List.length_pos_of_mem hnew
      obtain ⟨_, -, rfl⟩ := List.mem_map.mp hnew
      refine .inr ⟨rfl, ?_, input, rfl, rfl, rfl⟩
      rw [List.length_append]
      omega
  | use input returns =>
    simp only [vaultStep, Option.some.injEq, Prod.mk.injEq] at h
    exact .inl (h.2 ▸ hmem)
  | delete input =>
    simp only [vaultStep, Option.some.injEq, Prod.mk.injEq] at h
    exact .inl (h.2 ▸ hmem)

/-- Every sealing of a history is of one of its `store` calls. -/
theorem sealing_stored (hrun : Run (vaultStep setting) sealings es sealings')
    (hfresh : FreshKeys setting es) {sealing : Sealing} (hmem : sealing ∈ sealings') :
    sealing ∈ sealings ∨ sealing.dataKey ≠ setting.masterKey ∧
      StoredBy es sealing.credentialId sealing.ownerUserId sealing.secretType sealing.secret := by
  induction hrun with
  | nil => exact .inl hmem
  | @cons s t u label reply fs hstep hrest ih =>
    have hkeys : FreshKeys setting fs := fun e he => hfresh e (List.mem_cons_of_mem _ he)
    rcases ih hkeys hmem with hmid | ⟨hkey, e, he, hstored⟩
    · rcases mem_vaultStep hstep hmid with hold | ⟨hdrawn, hstored⟩
      · exact .inl hold
      · refine .inr ⟨?_, _, List.mem_cons_self, hstored⟩
        rw [hdrawn]
        exact hfresh _ List.mem_cons_self 0
    · exact .inr ⟨hkey, e, List.mem_cons_of_mem _ he, hstored⟩

/-- An opened record has the secret of a sealing under the same associated data. -/
theorem sealing_of_openSecret {record : EncryptedCredentialRecord} {secret : String}
    (hkeys : ∀ sealing ∈ sealings, sealing.dataKey ≠ setting.masterKey)
    (hsecret : Genuine setting sealings record.secret)
    (hwrapped : Genuine setting sealings record.wrappedDataKey)
    (hopens : openSecret setting.cipher setting.masterKey record = some secret) :
    ∃ sealing ∈ sealings, sealing.secret = secret ∧
      sealing.aad = associatedData record.credentialId record.ownerUserId record.secretType := by
  obtain ⟨dataKey, hdataKey, hplaintext⟩ := Option.bind_eq_some_iff.mp hopens
  obtain ⟨wrapped, hmem, hwrap⟩ := List.mem_flatMap.mp (hwrapped _ _ _ hdataKey)
  simp only [Sealing.encryptions, List.mem_cons, Encryption.mk.injEq, List.not_mem_nil,
    or_false] at hwrap
  -- the master key encrypts data keys only, so the wrapped text is of a data key
  have hdrawn : dataKey ≠ setting.masterKey := by
    rcases hwrap with hwrap | hwrap
    · exact absurd hwrap.1.symm (hkeys wrapped hmem)
    · rw [hwrap.2.2.1]
      exact hkeys wrapped hmem
  obtain ⟨sealing, hsealing, hencrypted⟩ := List.mem_flatMap.mp (hsecret _ _ _ hplaintext)
  simp only [Sealing.encryptions, List.mem_cons, Encryption.mk.injEq, List.not_mem_nil,
    or_false] at hencrypted
  rcases hencrypted with hencrypted | hencrypted
  · exact ⟨sealing, hsealing, hencrypted.2.2.1.symm, hencrypted.2.1.symm⟩
  · exact absurd hencrypted.1 hdrawn

/-- Ids without a separator are bound. -/
theorem boundTo_of_separated {credentialId ownerUserId : String}
    (hc : separator ∉ credentialId.toList) (ho : separator ∉ ownerUserId.toList) :
    BoundTo credentialId ownerUserId := by
  intro setting es sealings hrun hideal hfresh pre e post hes input returns hlabel hid howner
    secret hsecret
  subst hes
  obtain ⟨before, hpre, hrest⟩ := hrun.split
  cases hrest with
  | @cons _ _ _ label reply _ hstep hrest =>
    obtain ⟨answers, event⟩ := label
    dsimp only at hlabel
    subst hlabel
    simp only [vaultStep, Option.some.injEq, Prod.mk.injEq] at hstep
    rw [← hstep.1] at hsecret
    obtain ⟨record, hloads, hcredential, hrecordOwner, hopens⟩ := handed_use rfl hsecret
    refine ⟨record, hloads, ?_⟩
    obtain ⟨hgenuine, hwrapped⟩ := hideal _ (List.mem_append_right _ List.mem_cons_self) record
      hloads
    have hprefix : FreshKeys setting pre := fun f hf => hfresh f (List.mem_append_left _ hf)
    have hstored : ∀ sealing ∈ before, sealing.dataKey ≠ setting.masterKey ∧ StoredBy pre
        sealing.credentialId sealing.ownerUserId sealing.secretType sealing.secret := by
      intro sealing hmem
      rcases sealing_stored hpre hprefix hmem with hnone | hstored
      · cases hnone
      · exact hstored
    obtain ⟨sealing, hmem, rfl, haad⟩ := sealing_of_openSecret
      (fun sealing hmem => (hstored sealing hmem).1) hgenuine hwrapped hopens
    rw [hcredential, hrecordOwner, hid, howner] at haad
    obtain ⟨hsameId, hsameOwner, hsameType⟩ := associatedData_injective hc ho haad
    rw [← hsameId, ← hsameOwner, ← hsameType]
    exact (hstored sealing hmem).2

end Histories

/-! ### Ids with a separator -/

/-- A separator inside an id can be moved to the other id. -/
theorem exists_same_associatedData {credentialId ownerUserId : String} (secretType : SecretType)
    (h : separator ∈ credentialId.toList ∨ separator ∈ ownerUserId.toList) :
    ∃ c o, c ≠ credentialId ∧
      associatedData c o secretType = associatedData credentialId ownerUserId secretType := by
  rcases h with h | h
  · obtain ⟨left, right, hsplit⟩ := List.append_of_mem h
    refine ⟨.ofList left, .ofList (right ++ separator :: ownerUserId.toList), ?_, ?_⟩
    · intro hsame
      have hlength := congrArg List.length hsplit
      rw [← hsame, String.toList_ofList, List.length_append, List.length_cons] at hlength
      omega
    · apply String.toList_injective
      rw [toList_associatedData, toList_associatedData, hsplit]
      simp
  · obtain ⟨left, right, hsplit⟩ := List.append_of_mem h
    refine ⟨.ofList (credentialId.toList ++ separator :: left), .ofList right, ?_, ?_⟩
    · intro hsame
      have hlength := congrArg (List.length ∘ String.toList) hsame
      simp only [Function.comp_apply, String.toList_ofList, List.length_append,
        List.length_cons] at hlength
      omega
    · apply String.toList_injective
      rw [toList_associatedData, toList_associatedData, hsplit]
      simp

/-- A tag that tells its key and its associated data. -/
def transparentTag (aad : List Char) : List Char → List Char
  | [] => '0' :: aad
  | c :: key => '1' :: c :: transparentTag aad key

theorem transparentTag_injective {aad aad' key key' : List Char}
    (h : transparentTag aad key = transparentTag aad' key') : key = key' ∧ aad = aad' := by
  induction key generalizing key' with
  | nil =>
    cases key' with
    | nil =>
      rw [transparentTag, transparentTag, List.cons.injEq] at h
      exact ⟨rfl, h.2⟩
    | cons c key' =>
      rw [transparentTag, transparentTag, List.cons.injEq] at h
      exact absurd h.1 (by decide)
  | cons c key ih =>
    cases key' with
    | nil =>
      rw [transparentTag, transparentTag, List.cons.injEq] at h
      exact absurd h.1 (by decide)
    | cons c' key' =>
      rw [transparentTag, transparentTag, List.cons.injEq, List.cons.injEq] at h
      obtain ⟨rfl, rfl⟩ := ih h.2.2
      exact ⟨congrArg (· :: key) h.2.1, rfl⟩

def transparentCipher : Cipher where
  encrypt plaintext key aad iv :=
    ⟨plaintext, iv, .ofList (transparentTag aad.toList key.toList)⟩
  decrypt text key aad :=
    if text.tag = .ofList (transparentTag aad.toList key.toList) then some text.ciphertext
    else none
  decrypt_encrypt plaintext key aad iv := by simp

/-- A text of the transparent cipher decrypts as the one encryption that made it. -/
theorem transparentCipher_ideal {plaintext key aad iv key' aad' plaintext' : String}
    (h : transparentCipher.decrypt (transparentCipher.encrypt plaintext key aad iv) key' aad' =
      some plaintext') : key' = key ∧ aad' = aad ∧ plaintext' = plaintext := by
  simp only [transparentCipher, String.ofList_inj, Option.ite_none_right_eq_some,
    Option.some.injEq] at h
  obtain ⟨hkey, haad⟩ := transparentTag_injective h.1
  exact ⟨(String.toList_injective hkey).symm, (String.toList_injective haad).symm, h.2.symm⟩

def transparentSetting : VaultSetting := ⟨transparentCipher, "master key", none⟩

/-- Everything works, and the storage loads what the adversary likes. -/
def willing (loads : Option EncryptedCredentialRecord) : Answers :=
  ⟨fun _ => true, true, some loads, some true, fun _ => "bytes", 0⟩

def ownerCall (credentialId ownerUserId : String) : CredentialCall :=
  ⟨credentialId, ownerUserId, .other ⟨ownerUserId, .user⟩, "correlation"⟩

def sampleSealing (credentialId ownerUserId : String) : Sealing :=
  ⟨credentialId, ownerUserId, .sourceCredential, "secret", "bytes", "bytes", "bytes"⟩

/-- The fields of a stored record, under other ids. -/
def relabelled (stored : Sealing) (credentialId ownerUserId : String) :
    EncryptedCredentialRecord where
  credentialId
  ownerUserId
  secretType := stored.secretType
  secret := transparentCipher.encrypt stored.secret stored.dataKey stored.aad stored.secretIv
  wrappedDataKey :=
    transparentCipher.encrypt stored.dataKey "master key" stored.aad stored.dataKeyIv

section Relabelled
variable {credentialId ownerUserId c o : String}

theorem run_sampleStore : vaultStep transparentSetting []
      (willing none, .store (ownerCall c o) "secret" .sourceCredential) =
    some (⟨true, []⟩, [sampleSealing c o]) := by
  have hallowed : ¬ ((ownerCall c o).isSystem = true ∨
      (ownerCall c o).caller.actor.userId ≠ (ownerCall c o).ownerUserId) := by
    simp [ownerCall, CredentialCall.isSystem, Caller.actor]
  simp only [vaultStep, store, hallowed, if_false, run_audit_bind]
  rfl

theorem run_sampleUse (hsame : associatedData c o .sourceCredential =
      associatedData credentialId ownerUserId .sourceCredential) :
    vaultStep transparentSetting [sampleSealing c o]
        (willing (some (relabelled (sampleSealing c o) credentialId ownerUserId)),
          .use (ownerCall credentialId ownerUserId) true) =
      some (⟨true, ["secret"]⟩, [sampleSealing c o]) := by
  have hauthorised : (ownerCall credentialId ownerUserId).authorised
      transparentSetting.options .use = true := by
    simp [ownerCall, CredentialCall.authorised, CredentialCall.isSystem, Caller.actor]
  have hadmits : admitsRecord transparentSetting.options (ownerCall credentialId ownerUserId)
      (relabelled (sampleSealing c o) credentialId ownerUserId) = true := by
    simp [admitsRecord, relabelled, ownerCall, CredentialCall.isSystem, Caller.actor]
  have hopens : openSecret transparentSetting.options.cipher transparentSetting.options.masterKey
      (relabelled (sampleSealing c o) credentialId ownerUserId) = some "secret" := by
    simp only [openSecret, relabelled, sampleSealing, Sealing.aad, hsame]
    simp [VaultSetting.options, transparentSetting]
  simp only [vaultStep, use, hauthorised, Bool.not_true, Bool.false_eq_true, if_false,
    run_audit_bind, CallWorld.start, willing, if_true]
  rw [run_bind_ok (run_attempt run_load)]
  simp only [Option.filter_some, hadmits, if_true, hopens]
  rfl

/-- The cipher is ideal on the record that the adversary presents. -/
theorem genuine_relabelled : ∀ text ∈ [(relabelled (sampleSealing c o) credentialId
    ownerUserId).secret, (relabelled (sampleSealing c o) credentialId ownerUserId).wrappedDataKey],
    Genuine transparentSetting [sampleSealing c o] text := by
  intro text htext key aad plaintext hplaintext
  rw [List.mem_cons, List.mem_singleton] at htext
  rcases htext with rfl | rfl
  · obtain ⟨rfl, rfl, rfl⟩ := transparentCipher_ideal hplaintext
    exact List.mem_cons_self
  · obtain ⟨rfl, rfl, rfl⟩ := transparentCipher_ideal hplaintext
    exact List.mem_cons_of_mem _ List.mem_cons_self

/-- A secret of ids with the same associated data is handed out for these ids. -/
theorem not_boundTo_of_same (hne : c ≠ credentialId)
    (hsame : associatedData c o .sourceCredential =
      associatedData credentialId ownerUserId .sourceCredential) :
    ¬ BoundTo credentialId ownerUserId := by
  intro hbound
  obtain ⟨record, -, e, he, -, input, hlabel, hid, -⟩ := hbound transparentSetting _ _
    (.cons run_sampleStore (.cons (run_sampleUse hsame) (.nil _)))
    (by
      intro e he record hloads
      rcases List.mem_cons.mp he with rfl | he
      · cases hloads
      · cases List.mem_singleton.mp he
        cases hloads
        exact ⟨genuine_relabelled _ List.mem_cons_self,
          genuine_relabelled _ (List.mem_cons_of_mem _ List.mem_cons_self)⟩)
    (by
      intro e he _
      rcases List.mem_cons.mp he with rfl | he
      · exact (by decide : "bytes" ≠ "master key")
      · cases List.mem_singleton.mp he
        exact (by decide : "bytes" ≠ "master key"))
    [_] _ [] rfl _ _ rfl rfl rfl _ List.mem_cons_self
  cases List.mem_singleton.mp he
  simp only [VaultEvent.store.injEq] at hlabel
  rw [← hlabel.1] at hid
  exact hne hid

end Relabelled

/-- An id with a separator is not bound. -/
theorem not_boundTo_of_separator {credentialId ownerUserId : String}
    (h : separator ∈ credentialId.toList ∨ separator ∈ ownerUserId.toList) :
    ¬ BoundTo credentialId ownerUserId := by
  obtain ⟨c, o, hne, hsame⟩ := exists_same_associatedData .sourceCredential h
  exact not_boundTo_of_same hne hsame

end ChoiceMind.Security
