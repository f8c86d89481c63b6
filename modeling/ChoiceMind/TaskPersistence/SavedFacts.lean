import Mathlib.Tactic.MkIffOfInductiveProp
import ChoiceMind.TaskPersistence.FactStore
import ChoiceMind.TaskPersistence.RecoveryRows

/-!
# Saved facts are loaded, kept and saved again

`saveRecoveryFacts` compares the receipts that the database lists in its own order with the
given ones in the order of code units, so it depends on the collation of the database.
-/

namespace ChoiceMind.TaskPersistence

set_option autoImplicit false

open Contracts Transition

variable {env : Environment} {db db' : Store} {snapshot : RuntimeSnapshot}
  {receipts : List EffectReceipt} {now : Instant}

/-! ### Two orders of one list -/

section Orders
variable {α : Type} {key : α → String} {le le' : String → String → Bool} {xs : List α}

def sortedBy (le : String → String → Bool) (key : α → String) (xs : List α) : List α :=
  xs.insertionSort fun a b => le (key a) (key b)

theorem sortedBy_perm (le : String → String → Bool) (key : α → String) (xs : List α) :
    (sortedBy le key xs).Perm xs :=
  List.perm_insertionSort _ _

theorem sortedBy_pairwise (hle : Json.KeyOrder le) (key : α → String) (xs : List α) :
    (sortedBy le key xs).Pairwise fun a b => le (key a) (key b) = true := by
  have htotal : Std.Total fun a b : α => le (key a) (key b) = true :=
    ⟨fun a b => hle.total (key a) (key b)⟩
  have htrans : IsTrans α fun a b => le (key a) (key b) = true :=
    ⟨fun a b c => hle.trans (key a) (key b) (key c)⟩
  exact List.pairwise_insertionSort _ xs

/-- Where `b` does not come after `a`, it comes before it exactly when they have one key. -/
theorem eq_of_both (hle : Json.KeyOrder le) (hle' : Json.KeyOrder le') {a b : String}
    (h : le b a = true) (h' : le' b a = true) : le a b = le' a b := by
  rw [Bool.eq_iff_iff]
  constructor
  · intro hab
    rw [hle.antisymm a b hab h]
    exact (hle'.total b b).elim id id
  · intro hab
    rw [hle'.antisymm a b hab h']
    exact (hle.total b b).elim id id

/-- Two total orders sort a list alike exactly when they agree on its keys. -/
theorem sortedBy_eq_iff (hle : Json.KeyOrder le) (hle' : Json.KeyOrder le') :
    sortedBy le key xs = sortedBy le' key xs ↔
      ∀ a ∈ xs, ∀ b ∈ xs, le (key a) (key b) = le' (key a) (key b) := by
  constructor
  · intro heq a ha b hb
    have hsorted := sortedBy_pairwise hle key xs
    have hsorted' := sortedBy_pairwise hle' key xs
    rw [← heq] at hsorted'
    have hpair : ∀ a ∈ sortedBy le key xs, ∀ b ∈ sortedBy le key xs,
        le (key a) (key b) = le' (key a) (key b) := by
      apply List.Pairwise.forall_of_forall_of_flip
      · intro a _
        rw [(hle.total (key a) (key a)).elim id id, (hle'.total (key a) (key a)).elim id id]
      · exact (hsorted.and hsorted').imp fun h => h.1.trans h.2.symm
      · exact (hsorted.and hsorted').imp fun h => eq_of_both hle hle' h.1 h.2
    exact hpair a ((sortedBy_perm le key xs).mem_iff.mpr ha) b
      ((sortedBy_perm le key xs).mem_iff.mpr hb)
  · intro hagree
    have hsort := List.map_insertionSort (fun a b => le (key a) (key b) = true)
      (fun a b => le' (key a) (key b) = true) id xs fun a ha b hb => by
        rw [hagree a ha b hb]
        exact Iff.rfl
    rw [List.map_id, List.map_id] at hsort
    exact hsort

/-- Lists with the same members are sorted alike. -/
theorem sortedBy_eq_of_perm (hle : Json.KeyOrder le) {ys : List α} (hkeys : (ys.map key).Nodup)
    (hperm : xs.Perm ys) : sortedBy le key xs = sortedBy le key ys :=
  Json.insertionSort_eq_of_perm hle hkeys hperm

end Orders

/-! ### Facts that a call may save -/

/-- A valid snapshot with a new id, whose raw object is stored, and valid receipts of it with
distinct new ids, whose committed results are bound. -/
@[mk_iff] structure Savable (db : Store) (snapshot : RuntimeSnapshot) (receipts : List EffectReceipt) :
    Prop where
  valid : validRecoveryFacts snapshot receipts = true
  object : ∃ stored ∈ db.snapshotObjects, stored.digest = snapshot.rawSnapshot.digest ∧
    stored.objectKey = snapshot.rawSnapshot.objectKey
  snapshotNew : ∀ fact ∈ db.recoveryFacts, fact.snapshotId ≠ snapshot.snapshotId
  fresh : ∀ receipt ∈ receipts, ∀ row ∈ db.effectReceipts,
    row.effectReceiptId ≠ receipt.effectReceiptId
  distinct : (receipts.map EffectReceipt.effectReceiptId).Nodup
  bound : ∀ receipt ∈ receipts, db.resultBound receipt = true

instance (db : Store) (snapshot : RuntimeSnapshot) (receipts : List EffectReceipt) :
    Decidable (Savable db snapshot receipts) :=
  decidable_of_iff _ (savable_iff db snapshot receipts).symm

/-- The facts are saved and loaded as they are; the same facts can be saved again and nothing
changes; other content under the same id is refused and nothing changes. -/
structure FactsSaved (env : Environment) (now : Instant) (db : Store) (snapshot : RuntimeSnapshot)
    (receipts : List EffectReceipt) (db' : Store) : Prop where
  saved : step env db (now, .saveRecoveryFacts snapshot receipts) = some (.done, db')
  loaded : ∃ listed, loadRecoveryFacts env snapshot.snapshotId db' = .ok (some (snapshot, listed)) ∧
    listed.Perm receipts
  repeated : ∀ again, again.Perm receipts → ∀ later,
    step env db' (later, .saveRecoveryFacts snapshot again) = some (.done, db')
  immutable : ∀ other others later, other.snapshotId = snapshot.snapshotId →
    (other ≠ snapshot ∨ ∃ receipt ∈ receipts, receipt ∉ others) →
    ∃ error, step env db' (later, .saveRecoveryFacts other others) = some (.failed error, db')

/-- The database sorts the receipt ids as their code units do. -/
def SortsByCodeUnits (env : Environment) (receipts : List EffectReceipt) : Prop :=
  ∀ a ∈ receipts, ∀ b ∈ receipts, env.collate a.effectReceiptId b.effectReceiptId =
    codeUnitsLe a.effectReceiptId b.effectReceiptId

section Step

theorem step_save_ok :
    step env db (now, .saveRecoveryFacts snapshot receipts) = some (.done, db') ↔
      saveRecoveryFacts env snapshot receipts now db = .ok db' := by
  unfold step
  simp only [perform]
  cases hsave : saveRecoveryFacts env snapshot receipts now db with
  | error error => simp [bind, Except.bind]
  | ok saved => simp [bind, Except.bind]

theorem step_save_failed {error : PersistenceError}
    (h : saveRecoveryFacts env snapshot receipts now db = .error error) :
    step env db (now, .saveRecoveryFacts snapshot receipts) = some (.failed error, db) := by
  unfold step
  simp only [perform, h]
  rfl

/-- The parts of a call that saves facts. -/
theorem saveRecoveryFacts_eq_ok :
    saveRecoveryFacts env snapshot receipts now db = .ok db' ↔
      validRecoveryFacts snapshot receipts = true ∧
      ((db.snapshotObjects.find? snapshot.rawSnapshot.digest).any fun stored =>
        stored.objectKey = snapshot.rawSnapshot.objectKey) = true ∧
      ∃ facts, insertRecoveryFact snapshot now db.recoveryFacts = .ok facts ∧
      ∃ db₁, insertReceipts snapshot.snapshotId now receipts { db with recoveryFacts := facts } =
          .ok db₁ ∧
        db₁.receiptsOf env snapshot.snapshotId =
          sortedBy codeUnitsLe EffectReceipt.effectReceiptId receipts ∧
        recordSnapshot snapshot now db₁ = .ok db' := by
  unfold saveRecoveryFacts
  by_cases hvalid : validRecoveryFacts snapshot receipts = true
  · by_cases hobject : ((db.snapshotObjects.find? snapshot.rawSnapshot.digest).any fun stored =>
        stored.objectKey = snapshot.rawSnapshot.objectKey) = true
    · simp only [hvalid, hobject, Bool.not_true, Bool.false_eq_true, if_false, bind_eq_ok,
        true_and]
      refine exists_congr fun facts => and_congr_right fun _ => exists_congr fun db₁ =>
        and_congr_right fun _ => ?_
      split
      · rename_i hlisted
        constructor
        · intro h
          cases h
        · intro h
          exact absurd h.1 hlisted
      · rename_i hlisted
        exact ⟨fun h => ⟨not_not.mp hlisted, h⟩, fun h => h.2⟩
    · simp [hvalid, hobject, unavailable]
  · simp [hvalid, unavailable]

/-- Receipts whose ids are all stored are not inserted again. -/
theorem insertReceipts_stored (snapshotId : String) (now : Instant)
    (hbound : ∀ receipt ∈ receipts, db.resultBound receipt = true)
    (hstored : ∀ receipt ∈ receipts, ∃ row ∈ db.effectReceipts,
      row.effectReceiptId = receipt.effectReceiptId) :
    insertReceipts snapshotId now receipts db = .ok db := by
  induction receipts with
  | nil => rfl
  | cons receipt receipts ih =>
    rw [List.forall_mem_cons] at hbound hstored
    obtain ⟨row, hrow, hid⟩ := hstored.1
    have hfound : db.effectReceipts.find? receipt.effectReceiptId = some row := by
      rw [← hid]
      exact Table.find?_of_mem hrow
    simp only [insertReceipts, hbound.1, hfound, Bool.not_true, Bool.false_eq_true, if_false]
    exact ih hbound.2 hstored.2

/-- What `recordSnapshot` writes it does not write again. -/
theorem recordSnapshot_settles {state : RuntimeControlState}
    (hstate : controlStateOf snapshot.taskState = some state) (hrunning : state ≠ .running)
    (now : Instant) (db : Store) :
    ∃ controlStates, recordSnapshot snapshot now db = .ok { db with controlStates } ∧
      ∀ later, recordSnapshot snapshot later { db with controlStates } =
        .ok { db with controlStates } := by
  cases hrow : db.controlStates.find? snapshot.agentRunId with
  | none =>
    obtain ⟨controlStates, hinsert⟩ : ∃ controlStates, db.controlStates.insert?
        ⟨snapshot.agentRunId, some snapshot.snapshotId, state, none, [], none, none, now⟩ =
          some controlStates :=
      Table.exists_insert? (Table.find?_eq_none.mp hrow)
    have hfound : controlStates.find? snapshot.agentRunId = some
        ⟨snapshot.agentRunId, some snapshot.snapshotId, state, none, [], none, none, now⟩ := by
      rw [Table.find?_insert? hinsert, if_pos rfl]
    refine ⟨controlStates, ?_, fun later => ?_⟩
    · simp only [recordSnapshot, hstate, hrow, hinsert]
      rfl
    · simp only [recordSnapshot, hstate, hfound]
      exact if_neg fun h => hrunning h.1
  | some row =>
    by_cases hopen : row.state = .running ∧ row.snapshotId = none
    · have hfound : (db.controlStates.update snapshot.agentRunId (linkSnapshot snapshot now)
          (linkSnapshot_agentRunId snapshot now)).find? snapshot.agentRunId =
            some (linkSnapshot snapshot now row) := by
        rw [Table.find?_update_self, hrow]
        rfl
      refine ⟨db.controlStates.update snapshot.agentRunId (linkSnapshot snapshot now)
        (linkSnapshot_agentRunId snapshot now), ?_, fun later => ?_⟩
      · simp only [recordSnapshot, hstate, hrow]
        exact if_pos hopen
      · simp only [recordSnapshot, hstate, hfound]
        apply if_neg
        rintro ⟨-, hnone⟩
        cases hnone
    · refine ⟨db.controlStates, ?_, fun later => ?_⟩
      · simp only [recordSnapshot, hstate, hrow]
        exact if_neg hopen
      · simp only [recordSnapshot, hstate, hrow]
        exact if_neg hopen

theorem controlStateOf_ne_running (taskState : TaskState) :
    controlStateOf taskState ≠ some .running := by
  cases taskState <;> intro h <;> cases h

end Step

/-! ### Saving, loading and saving again -/

section Saved

theorem Savable.decoded (h : Savable db snapshot receipts) :
    decodeRuntimeSnapshotV1 snapshot = .ok snapshot ∧
      ∀ receipt ∈ receipts, (decodeEffectReceiptV1 receipt).isOk = true := by
  have hvalid := h.valid
  simp only [validRecoveryFacts, Bool.and_eq_true, List.all_eq_true] at hvalid
  obtain ⟨decoded, hdecoded⟩ := isOk_iff.mp hvalid.1.1
  refine ⟨?_, hvalid.1.2⟩
  rw [hdecoded, decodeRuntimeSnapshotV1_eq hdecoded]

theorem Savable.present (h : Savable db snapshot receipts) :
    ((db.snapshotObjects.find? snapshot.rawSnapshot.digest).any fun stored =>
      stored.objectKey = snapshot.rawSnapshot.objectKey) = true := by
  obtain ⟨stored, hstored, hdigest, hkey⟩ := h.object
  have hfound : db.snapshotObjects.find? snapshot.rawSnapshot.digest = some stored := by
    rw [← hdigest]
    exact Table.find?_of_mem hstored
  rw [hfound, Option.any_some]
  exact decide_eq_true hkey

theorem validRecoveryFacts_perm {again : List EffectReceipt} (hperm : again.Perm receipts) :
    validRecoveryFacts snapshot again = validRecoveryFacts snapshot receipts := by
  unfold validRecoveryFacts
  rw [hperm.all_eq, hperm.all_eq]

/-- The database lists the receipts of a snapshot as the program sorts them. -/
theorem SortsByCodeUnits.sorted (hcollate : Json.KeyOrder env.collate) :
    SortsByCodeUnits env receipts ↔
      sortedBy env.collate EffectReceipt.effectReceiptId receipts =
        sortedBy codeUnitsLe EffectReceipt.effectReceiptId receipts :=
  (sortedBy_eq_iff hcollate keyOrder_codeUnitsLe).symm

/-- What a first save leaves: the fact, one row for each receipt, and a settled control row. -/
structure FirstSaved (env : Environment) (now : Instant) (db : Store) (snapshot : RuntimeSnapshot)
    (receipts : List EffectReceipt) (db' : Store) : Prop where
  saved : saveRecoveryFacts env snapshot receipts now db = .ok db'
  fact : db'.recoveryFacts.find? snapshot.snapshotId = some ⟨snapshot, now⟩
  listed : db'.receiptsOf env snapshot.snapshotId =
    sortedBy codeUnitsLe EffectReceipt.effectReceiptId receipts
  rows : ∀ receipt ∈ receipts, ⟨snapshot.snapshotId, receipt, now⟩ ∈ db'.effectReceipts
  objects : db'.snapshotObjects = db.snapshotObjects
  bindings : db'.effectResultBindings = db.effectResultBindings
  settled : ∀ later, recordSnapshot snapshot later db' = .ok db'

theorem Savable.firstSaved (h : Savable db snapshot receipts) (hfiled : Filed db)
    (hcollate : Json.KeyOrder env.collate) (hsorts : SortsByCodeUnits env receipts)
    {state : RuntimeControlState} (hstate : controlStateOf snapshot.taskState = some state)
    (now : Instant) : ∃ db', FirstSaved env now db snapshot receipts db' := by
  obtain ⟨facts, hfacts⟩ : ∃ facts, db.recoveryFacts.insert? ⟨snapshot, now⟩ = some facts :=
    Table.exists_insert? h.snapshotNew
  have hnew : db.recoveryFacts.find? snapshot.snapshotId = none :=
    Table.find?_eq_none.mpr h.snapshotNew
  have hfresh : ∀ receipt ∈ receipts, db.effectReceipts.find? receipt.effectReceiptId = none :=
    fun receipt hin => Table.find?_eq_none.mpr (h.fresh receipt hin)
  obtain ⟨rows, hrows, happended⟩ := @exists_insertReceipts { db with recoveryFacts := facts }
    snapshot.snapshotId now receipts h.bound hfresh h.distinct
  have howned : ∀ row ∈ db.effectReceipts, row.snapshotId ≠ snapshot.snapshotId := by
    intro row hrow hsame
    obtain ⟨fact, hfact, hid, -⟩ := hfiled.receipts row hrow
    exact h.snapshotNew fact hfact (hid.trans hsame)
  have hlisted : ({ db with recoveryFacts := facts, effectReceipts := rows } : Store).receiptsOf
      env snapshot.snapshotId = sortedBy codeUnitsLe EffectReceipt.effectReceiptId receipts :=
    (receiptsOf_appended howned happended rfl).trans ((SortsByCodeUnits.sorted hcollate).mp hsorts)
  obtain ⟨controlStates, hrecorded, hsettled⟩ := recordSnapshot_settles hstate
    (fun hrunning => controlStateOf_ne_running _ (hrunning ▸ hstate)) now
    { db with recoveryFacts := facts, effectReceipts := rows }
  have hinserted : insertRecoveryFact snapshot now db.recoveryFacts = .ok facts := by
    unfold insertRecoveryFact
    rw [hnew]
    exact orUnavailable_eq_ok.mpr hfacts
  refine ⟨{ db with recoveryFacts := facts, effectReceipts := rows, controlStates }, ?_, ?_,
    hlisted, ?_, rfl, rfl, hsettled⟩
  · rw [saveRecoveryFacts_eq_ok]
    exact ⟨h.valid, h.present, facts, hinserted, _, hrows, hlisted, hrecorded⟩
  · exact (Table.find?_insert? hfacts).trans (if_pos rfl)
  · intro receipt hin
    rw [← Table.mem_rows, happended]
    exact List.mem_append_right _ (List.mem_map_of_mem hin)

namespace FirstSaved

theorem loads (h : FirstSaved env now db snapshot receipts db')
    (hdecoded : decodeRuntimeSnapshotV1 snapshot = .ok snapshot)
    (hreceipts : ∀ receipt ∈ receipts, (decodeEffectReceiptV1 receipt).isOk = true) :
    loadRecoveryFacts env snapshot.snapshotId db' =
      .ok (some (snapshot, sortedBy codeUnitsLe EffectReceipt.effectReceiptId receipts)) := by
  have hall : ((sortedBy codeUnitsLe EffectReceipt.effectReceiptId receipts).all fun receipt =>
      (decodeEffectReceiptV1 receipt).isOk) = true := by
    rw [List.all_eq_true]
    exact fun receipt hin => hreceipts receipt ((sortedBy_perm _ _ _).mem_iff.mp hin)
  simp only [loadRecoveryFacts, h.fact, hdecoded, h.listed, hall, if_true]
  rfl

/-- The same facts find everything stored. -/
theorem again (h : FirstSaved env now db snapshot receipts db')
    (hsavable : Savable db snapshot receipts) {again : List EffectReceipt}
    (hperm : again.Perm receipts) (later : Instant) :
    saveRecoveryFacts env snapshot again later db' = .ok db' := by
  have hbound : ∀ receipt ∈ again, db'.resultBound receipt = true := by
    intro receipt hin
    have hfirst := hsavable.bound receipt (hperm.mem_iff.mp hin)
    unfold Store.resultBound Store.hasBinding at hfirst ⊢
    rwa [h.bindings]
  have hstored : ∀ receipt ∈ again, ∃ row ∈ db'.effectReceipts,
      row.effectReceiptId = receipt.effectReceiptId :=
    fun receipt hin => ⟨_, h.rows receipt (hperm.mem_iff.mp hin), rfl⟩
  have hfact : insertRecoveryFact snapshot later db'.recoveryFacts = .ok db'.recoveryFacts := by
    unfold insertRecoveryFact
    rw [h.fact]
    exact if_pos rfl
  rw [saveRecoveryFacts_eq_ok]
  refine ⟨(validRecoveryFacts_perm hperm).trans hsavable.valid, ?_, db'.recoveryFacts, hfact, db',
    insertReceipts_stored snapshot.snapshotId later hbound hstored, ?_, h.settled later⟩
  · rw [h.objects]
    exact hsavable.present
  · rw [h.listed]
    exact (sortedBy_eq_of_perm keyOrder_codeUnitsLe hsavable.distinct hperm).symm

/-- A save under the stored id has the stored snapshot and all stored receipts. -/
theorem kept (h : FirstSaved env now db snapshot receipts db') {other : RuntimeSnapshot}
    {others : List EffectReceipt} {later : Instant} {db'' : Store}
    (hid : other.snapshotId = snapshot.snapshotId)
    (hsave : saveRecoveryFacts env other others later db' = .ok db'') :
    other = snapshot ∧ ∀ receipt ∈ receipts, receipt ∈ others := by
  rw [saveRecoveryFacts_eq_ok] at hsave
  obtain ⟨-, -, facts, hfacts, db₁, hinserted, hlisted, -⟩ := hsave
  constructor
  · unfold insertRecoveryFact at hfacts
    rw [hid, h.fact] at hfacts
    dsimp only at hfacts
    split at hfacts
    · rename_i hsame
      exact hsame.symm
    · cases hfacts
  · intro receipt hin
    have hrow : (⟨snapshot.snapshotId, receipt, now⟩ : EffectReceiptRow) ∈ db₁.effectReceipts :=
      insertReceipts_kept hinserted _ (h.rows receipt hin)
    have hmem : receipt ∈ db₁.receiptsOf env other.snapshotId := by
      unfold Store.receiptsOf
      rw [(List.perm_insertionSort _ _).mem_iff]
      exact List.mem_map.mpr ⟨_, Table.mem_select.mpr ⟨hrow, decide_eq_true hid.symm⟩, rfl⟩
    rw [hlisted] at hmem
    exact (sortedBy_perm _ _ _).mem_iff.mp hmem

end FirstSaved

end Saved

/-! ### Two receipts in two orders -/

section Sample

def notStartedReceipt (effectReceiptId : String) : EffectReceipt where
  effectReceiptId
  decisionTaskId := "task"
  agentRunId := sampleRun
  checkpointId := "checkpoint"
  effectId := "effect"
  recordedAt := .toISOString 0
  state := .notStarted

def sampleReceipts : List EffectReceipt := [notStartedReceipt "b", notStartedReceipt "a"]

/-- The sample environment with a database that sorts text backwards. -/
def backwardsEnv : Environment := { sampleEnv with collate := fun a b => codeUnitsLe b a }

theorem backwards_keyOrder : Json.KeyOrder backwardsEnv.collate where
  total a b := keyOrder_codeUnitsLe.total b a
  trans a b c hab hbc := keyOrder_codeUnitsLe.trans c b a hbc hab
  antisymm a b hab hba := keyOrder_codeUnitsLe.antisymm a b hba hab

/-- The sample facts can be saved, and the call saves them or not. -/
def savesSample (env : Environment) (saves : Bool)
    (result : List (Entry Store (Instant × Action) Reply) × Store) : Bool :=
  Savable result.2 (sampleSnapshot sampleRun) sampleReceipts &&
    (saveRecoveryFacts env (sampleSnapshot sampleRun) sampleReceipts 1 result.2).isOk == saves

end Sample

end ChoiceMind.TaskPersistence
