import ChoiceMind.Contracts.Values
import ChoiceMind.EvidenceIngestion.Ingestion
import ChoiceMind.Foundation.Slots
import ChoiceMind.Foundation.Transition

/-!
# The store of raw evidence

`createFileRawEvidenceObjectStore` keeps bytes in a file that their digest names. One `put`
creates the file and writes it piece by piece; others see it grow and may be left with a
part of it when the writer fails.
-/

namespace ChoiceMind.EvidenceIngestion.ObjectStore

set_option autoImplicit false

open Contracts Transition

abbrev Bytes := List UInt8

/-- `createHash("sha256").update(bytes).digest("hex")` -/
structure Hash where
  sha256 : Bytes → String
  hexadecimal : ∀ bytes, isSha256Digest (sha256 bytes) = true

def toRawArtifactReference (digest : String) : DataSourceArtifactRef :=
  ⟨digest, "evidence-raw/sha256/" ++ digest⟩

def rawArtifactPath (rootDirectory digest : String) : String :=
  rootDirectory ++ "/evidence-raw/sha256/" ++ digest

/-- The check that `read` begins with. -/
def isValidReference (reference : DataSourceArtifactRef) : Bool :=
  isSha256Digest reference.digest &&
    reference.objectKey = "evidence-raw/sha256/" ++ reference.digest

/-! ### Files and calls -/

structure ArtifactFile where
  content : Bytes
  /-- another program has changed it -/
  foreign : Bool
  deriving DecidableEq

/-- What a reader that has opened the file at a length may get of it. -/
def ArtifactFile.isReadable (file : ArtifactFile) (seen : Nat) (content : Bytes) : Bool :=
  file.foreign || content.isPrefixOf file.content && seen ≤ content.length

inductive PutStage
  | opening
  | writing
  | verifying (seen : Nat)
  | returned
  | refused
  | failed
  deriving DecidableEq, Repr

def PutStage.isOpen : PutStage → Bool
  | opening | writing | verifying _ => true
  | _ => false

/-- A call of `put`, and whether it has created its file. -/
structure Put where
  bytes : Bytes
  stage : PutStage
  created : Bool
  deriving DecidableEq

inductive ReadStage
  | reading (seen : Nat)
  | returned (bytes : Bytes)
  | missing
  | refused
  | failed
  deriving DecidableEq

structure Read where
  reference : DataSourceArtifactRef
  stage : ReadStage
  deriving DecidableEq

structure World where
  files : String → Option ArtifactFile
  puts : List Put
  reads : List Read

def World.empty : World := ⟨fun _ => none, [], []⟩

inductive Label
  | put (bytes : Bytes)
  | openFile (index : Nat)
  | write (index count : Nat)
  | finish (index : Nat)
  | verify (index : Nat) (content : Bytes)
  | failPut (index : Nat)
  | read (reference : DataSourceArtifactRef)
  | deliver (index : Nat) (content : Bytes)
  | failRead (index : Nat)
  | tamper (path : String)
  deriving DecidableEq

/-- The bytes that the step hands over. -/
def Label.bytes : Label → List Bytes
  | put bytes => [bytes]
  | verify _ content => [content]
  | deliver _ content => [content]
  | _ => []

inductive Reply
  | done
  | reference (reference : DataSourceArtifactRef)
  | bytes (bytes : Bytes)
  | error (text : String)
  | thrown
  deriving DecidableEq

section Steps
variable (hash : Hash) (rootDirectory : String)

/-- The file of these bytes. -/
def pathOf (bytes : Bytes) : String := rawArtifactPath rootDirectory (hash.sha256 bytes)

def referenceOf (bytes : Bytes) : DataSourceArtifactRef :=
  toRawArtifactReference (hash.sha256 bytes)

/-- `writeFile` with `wx`: the file is created, or it is there. -/
def openStep (world : World) (index : Nat) : Option (Reply × World) :=
  match world.puts[index]? with
  | some ⟨bytes, .opening, _⟩ =>
    match world.files (pathOf hash rootDirectory bytes) with
    | none => some (.done,
        { world with
          files := Function.update world.files (pathOf hash rootDirectory bytes)
            (some ⟨[], false⟩)
          puts := world.puts.set index ⟨bytes, .writing, true⟩ })
    | some file => some (.done,
        { world with
          puts := world.puts.set index ⟨bytes, .verifying file.content.length, false⟩ })
  | _ => none

def writeStep (world : World) (index count : Nat) : Option (Reply × World) :=
  match world.puts[index]? with
  | some ⟨bytes, .writing, _⟩ =>
    match world.files (pathOf hash rootDirectory bytes) with
    | none => none
    | some file =>
      if file.foreign then some (.done, world)
      else if file.content.length + count ≤ bytes.length then
        some (.done,
          { world with
            files := Function.update world.files (pathOf hash rootDirectory bytes)
              (some ⟨bytes.take (file.content.length + count), false⟩) })
      else none
  | _ => none

def finishStep (world : World) (index : Nat) : Option (Reply × World) :=
  match world.puts[index]? with
  | some ⟨bytes, .writing, created⟩ =>
    match world.files (pathOf hash rootDirectory bytes) with
    | none => none
    | some file =>
      if file.foreign ∨ file.content.length = bytes.length then
        some (.reference (referenceOf hash bytes),
          { world with puts := world.puts.set index ⟨bytes, .returned, created⟩ })
      else none
  | _ => none

/-- `readVerifiedRawArtifact` of a `put` whose file was there. -/
def verifyStep (world : World) (index : Nat) (content : Bytes) : Option (Reply × World) :=
  match world.puts[index]? with
  | some ⟨bytes, .verifying seen, created⟩ =>
    match world.files (pathOf hash rootDirectory bytes) with
    | none => none
    | some file =>
      if !file.isReadable seen content then none
      else if hash.sha256 content ≠ hash.sha256 bytes then
        some (.error "原始 Evidence 对象完整性校验失败",
          { world with puts := world.puts.set index ⟨bytes, .refused, created⟩ })
      else
        some (.reference (referenceOf hash bytes),
          { world with puts := world.puts.set index ⟨bytes, .returned, created⟩ })
  | _ => none

/-- An error of the file system, or the end of the process. -/
def failPutStep (world : World) (index : Nat) : Option (Reply × World) :=
  match world.puts[index]? with
  | some put =>
    if put.stage.isOpen then
      some (.thrown, { world with puts := world.puts.set index { put with stage := .failed } })
    else none
  | none => none

def readStep (world : World) (reference : DataSourceArtifactRef) : Reply × World :=
  if !isValidReference reference then
    (.error "原始 Evidence 对象引用无效",
      { world with reads := world.reads ++ [⟨reference, .refused⟩] })
  else
    match world.files (rawArtifactPath rootDirectory reference.digest) with
    | none => (.thrown, { world with reads := world.reads ++ [⟨reference, .missing⟩] })
    | some file =>
      (.done, { world with reads := world.reads ++ [⟨reference, .reading file.content.length⟩] })

/-- `readVerifiedRawArtifact` of a `read`. -/
def deliverStep (world : World) (index : Nat) (content : Bytes) : Option (Reply × World) :=
  match world.reads[index]? with
  | some ⟨reference, .reading seen⟩ =>
    match world.files (rawArtifactPath rootDirectory reference.digest) with
    | none => none
    | some file =>
      if !file.isReadable seen content then none
      else if hash.sha256 content ≠ reference.digest then
        some (.error "原始 Evidence 对象完整性校验失败",
          { world with reads := world.reads.set index ⟨reference, .refused⟩ })
      else
        some (.bytes content,
          { world with reads := world.reads.set index ⟨reference, .returned content⟩ })
  | _ => none

def failReadStep (world : World) (index : Nat) : Option (Reply × World) :=
  match world.reads[index]? with
  | some ⟨reference, .reading _⟩ =>
    some (.thrown, { world with reads := world.reads.set index ⟨reference, .failed⟩ })
  | _ => none

def step (world : World) : Label → Option (Reply × World)
  | .put bytes =>
    some (.done, { world with puts := world.puts ++ [⟨bytes, .opening, false⟩] })
  | .openFile index => openStep hash rootDirectory world index
  | .write index count => writeStep hash rootDirectory world index count
  | .finish index => finishStep hash rootDirectory world index
  | .verify index content => verifyStep hash rootDirectory world index content
  | .failPut index => failPutStep world index
  | .read reference => some (readStep rootDirectory world reference)
  | .deliver index content => deliverStep hash rootDirectory world index content
  | .failRead index => failReadStep world index
  | .tamper path =>
    some (.done, { world with files := Function.update world.files path (some ⟨[], true⟩) })

end Steps

abbrev StoreEntry := Entry World Label Reply

/-! ### What a step does -/

section Moves
variable (hash : Hash) (rootDirectory : String) (world : World)

inductive Move : Label → Reply → World → Prop
  | put (bytes : Bytes) :
    Move (.put bytes) .done { world with puts := world.puts ++ [⟨bytes, .opening, false⟩] }
  | created {index : Nat} {bytes : Bytes} {created : Bool}
    (hput : world.puts[index]? = some ⟨bytes, .opening, created⟩)
    (hfile : world.files (pathOf hash rootDirectory bytes) = none) :
    Move (.openFile index) .done
      { world with
        files := Function.update world.files (pathOf hash rootDirectory bytes) (some ⟨[], false⟩)
        puts := world.puts.set index ⟨bytes, .writing, true⟩ }
  | found {index : Nat} {bytes : Bytes} {created : Bool} {file : ArtifactFile}
    (hput : world.puts[index]? = some ⟨bytes, .opening, created⟩)
    (hfile : world.files (pathOf hash rootDirectory bytes) = some file) :
    Move (.openFile index) .done
      { world with
        puts := world.puts.set index ⟨bytes, .verifying file.content.length, false⟩ }
  | writtenAway {index count : Nat} : Move (.write index count) .done world
  | written {index count : Nat} {bytes : Bytes} {created : Bool} {file : ArtifactFile}
    (hput : world.puts[index]? = some ⟨bytes, .writing, created⟩)
    (hfile : world.files (pathOf hash rootDirectory bytes) = some file)
    (hown : file.foreign = false) (hroom : file.content.length + count ≤ bytes.length) :
    Move (.write index count) .done
      { world with
        files := Function.update world.files (pathOf hash rootDirectory bytes)
          (some ⟨bytes.take (file.content.length + count), false⟩) }
  | finished {index : Nat} {bytes : Bytes} {created : Bool} {file : ArtifactFile}
    (hput : world.puts[index]? = some ⟨bytes, .writing, created⟩)
    (hfile : world.files (pathOf hash rootDirectory bytes) = some file)
    (hfull : file.foreign = false → file.content.length = bytes.length) :
    Move (.finish index) (.reference (referenceOf hash bytes))
      { world with puts := world.puts.set index ⟨bytes, .returned, created⟩ }
  | verified {index seen : Nat} {bytes content : Bytes} {created : Bool} {file : ArtifactFile}
    (hput : world.puts[index]? = some ⟨bytes, .verifying seen, created⟩)
    (hfile : world.files (pathOf hash rootDirectory bytes) = some file)
    (hread : file.isReadable seen content = true)
    (hdigest : hash.sha256 content = hash.sha256 bytes) :
    Move (.verify index content) (.reference (referenceOf hash bytes))
      { world with puts := world.puts.set index ⟨bytes, .returned, created⟩ }
  | refusedPut {index seen : Nat} {bytes content : Bytes} {created : Bool} {file : ArtifactFile}
    (hput : world.puts[index]? = some ⟨bytes, .verifying seen, created⟩)
    (hfile : world.files (pathOf hash rootDirectory bytes) = some file)
    (hread : file.isReadable seen content = true)
    (hdigest : hash.sha256 content ≠ hash.sha256 bytes) :
    Move (.verify index content) (.error "原始 Evidence 对象完整性校验失败")
      { world with puts := world.puts.set index ⟨bytes, .refused, created⟩ }
  | failedPut {index : Nat} {put : Put} (hput : world.puts[index]? = some put) :
    Move (.failPut index) .thrown
      { world with puts := world.puts.set index { put with stage := .failed } }
  | reading {reference : DataSourceArtifactRef} {file : ArtifactFile}
    (hreference : isValidReference reference = true)
    (hfile : world.files (rawArtifactPath rootDirectory reference.digest) = some file) :
    Move (.read reference) .done
      { world with reads := world.reads ++ [⟨reference, .reading file.content.length⟩] }
  | missing {reference : DataSourceArtifactRef}
    (hreference : isValidReference reference = true)
    (hfile : world.files (rawArtifactPath rootDirectory reference.digest) = none) :
    Move (.read reference) .thrown
      { world with reads := world.reads ++ [⟨reference, .missing⟩] }
  | invalid {reference : DataSourceArtifactRef} (hreference : isValidReference reference = false) :
    Move (.read reference) (.error "原始 Evidence 对象引用无效")
      { world with reads := world.reads ++ [⟨reference, .refused⟩] }
  | delivered {index seen : Nat} {reference : DataSourceArtifactRef} {content : Bytes}
    {file : ArtifactFile} (hcall : world.reads[index]? = some ⟨reference, .reading seen⟩)
    (hfile : world.files (rawArtifactPath rootDirectory reference.digest) = some file)
    (hread : file.isReadable seen content = true)
    (hdigest : hash.sha256 content = reference.digest) :
    Move (.deliver index content) (.bytes content)
      { world with reads := world.reads.set index ⟨reference, .returned content⟩ }
  | refusedRead {index seen : Nat} {reference : DataSourceArtifactRef} {content : Bytes}
    {file : ArtifactFile} (hcall : world.reads[index]? = some ⟨reference, .reading seen⟩)
    (hfile : world.files (rawArtifactPath rootDirectory reference.digest) = some file)
    (hread : file.isReadable seen content = true)
    (hdigest : hash.sha256 content ≠ reference.digest) :
    Move (.deliver index content) (.error "原始 Evidence 对象完整性校验失败")
      { world with reads := world.reads.set index ⟨reference, .refused⟩ }
  | failedRead {index seen : Nat} {reference : DataSourceArtifactRef}
    (hcall : world.reads[index]? = some ⟨reference, .reading seen⟩) :
    Move (.failRead index) .thrown
      { world with reads := world.reads.set index ⟨reference, .failed⟩ }
  | tampered (path : String) :
    Move (.tamper path) .done
      { world with files := Function.update world.files path (some ⟨[], true⟩) }

end Moves

section Stepping
variable {hash : Hash} {rootDirectory : String} {world world' : World} {label : Label}
  {reply : Reply}

theorem move_of_step (h : step hash rootDirectory world label = some (reply, world')) :
    Move hash rootDirectory world label reply world' := by
  cases label with
  | put bytes =>
    cases h
    exact .put bytes
  | openFile index =>
    simp only [step, openStep] at h
    split at h
    · rename_i bytes created hput
      split at h
      · rename_i hfile
        cases h
        exact .created hput hfile
      · rename_i file hfile
        cases h
        exact .found hput hfile
    · cases h
  | write index count =>
    simp only [step, writeStep] at h
    split at h
    · rename_i bytes created hput
      split at h
      · cases h
      · rename_i file hfile
        split at h
        · cases h
          exact .writtenAway
        · rename_i hown
          split at h
          · rename_i hroom
            cases h
            exact .written hput hfile (Bool.not_eq_true _ ▸ hown) hroom
          · cases h
    · cases h
  | finish index =>
    simp only [step, finishStep] at h
    split at h
    · rename_i bytes created hput
      split at h
      · cases h
      · rename_i file hfile
        split at h
        · rename_i hfull
          cases h
          refine .finished hput hfile fun hown => hfull.resolve_left ?_
          rw [hown]
          exact Bool.false_ne_true
        · cases h
    · cases h
  | verify index content =>
    simp only [step, verifyStep] at h
    split at h
    · rename_i bytes seen created hput
      split at h
      · cases h
      · rename_i file hfile
        split at h
        · cases h
        · rename_i hread
          rw [Bool.not_eq_true, Bool.not_eq_false'] at hread
          split at h
          · rename_i hdigest
            cases h
            exact .refusedPut hput hfile hread hdigest
          · rename_i hdigest
            cases h
            exact .verified hput hfile hread (not_not.mp hdigest)
    · cases h
  | failPut index =>
    simp only [step, failPutStep] at h
    split at h
    · rename_i put hput
      split at h
      · cases h
        exact .failedPut hput
      · cases h
    · cases h
  | read reference =>
    simp only [step, readStep] at h
    split at h
    · rename_i hreference
      rw [Bool.not_eq_true'] at hreference
      cases h
      exact .invalid hreference
    · rename_i hreference
      rw [Bool.not_eq_true, Bool.not_eq_false'] at hreference
      split at h
      · rename_i hfile
        cases h
        exact .missing hreference hfile
      · rename_i file hfile
        cases h
        exact .reading hreference hfile
  | deliver index content =>
    simp only [step, deliverStep] at h
    split at h
    · rename_i reference seen hcall
      split at h
      · cases h
      · rename_i file hfile
        split at h
        · cases h
        · rename_i hread
          rw [Bool.not_eq_true, Bool.not_eq_false'] at hread
          split at h
          · rename_i hdigest
            cases h
            exact .refusedRead hcall hfile hread hdigest
          · rename_i hdigest
            cases h
            exact .delivered hcall hfile hread (not_not.mp hdigest)
    · cases h
  | failRead index =>
    simp only [step, failReadStep] at h
    split at h
    · rename_i reference seen hcall
      cases h
      exact .failedRead hcall
    · cases h
  | tamper path =>
    cases h
    exact .tampered path

/-- A call keeps its bytes. -/
theorem Move.put_kept (hmove : Move hash rootDirectory world label reply world') {index : Nat}
    {put : Put} (h : world.puts[index]? = some put) :
    ∃ put', world'.puts[index]? = some put' ∧ put'.bytes = put.bytes := by
  cases hmove with
  | put bytes => exact Slots.get_concat_kept _ h
  | created hput | found hput | finished hput | verified hput | refusedPut hput | failedPut hput =>
    exact Slots.get_set_kept hput (by rfl) h
  | _ => exact ⟨put, h, rfl⟩

theorem Move.read_kept (hmove : Move hash rootDirectory world label reply world') {index : Nat}
    {read : Read} (h : world.reads[index]? = some read) :
    ∃ read', world'.reads[index]? = some read' ∧ read'.reference = read.reference := by
  cases hmove with
  | reading | missing | invalid => exact Slots.get_concat_kept _ h
  | delivered hcall | refusedRead hcall | failedRead hcall =>
    exact Slots.get_set_kept hcall (by rfl) h
  | _ => exact ⟨read, h, rfl⟩

/-- A `read` has the next number. -/
theorem Move.read_new {reference : DataSourceArtifactRef}
    (hmove : Move hash rootDirectory world (.read reference) reply world') :
    ∃ read, world'.reads[world.reads.length]? = some read ∧ read.reference = reference := by
  cases hmove with
  | reading | missing | invalid => exact ⟨_, Slots.get_concat_new _ _, rfl⟩

end Stepping

/-! ### Files -/

theorem rawArtifactPath_injective {rootDirectory digest digest' : String}
    (h : rawArtifactPath rootDirectory digest = rawArtifactPath rootDirectory digest') :
    digest = digest' :=
  (String.append_right_inj _).mp h

theorem isValidReference_referenceOf (hash : Hash) (bytes : Bytes) :
    isValidReference (referenceOf hash bytes) = true := by
  unfold isValidReference referenceOf toRawArtifactReference
  rw [hash.hexadecimal, Bool.true_and]
  exact decide_eq_true rfl

/-- A valid reference with the digest of these bytes is theirs. -/
theorem eq_referenceOf {hash : Hash} {reference : DataSourceArtifactRef} {bytes : Bytes}
    (hvalid : isValidReference reference = true)
    (hdigest : hash.sha256 bytes = reference.digest) : reference = referenceOf hash bytes := by
  unfold isValidReference at hvalid
  rw [Bool.and_eq_true, decide_eq_true_eq] at hvalid
  obtain ⟨digest, objectKey⟩ := reference
  have hkey : objectKey = "evidence-raw/sha256/" ++ digest := hvalid.2
  change hash.sha256 bytes = digest at hdigest
  rw [hkey, ← hdigest]
  rfl

theorem isReadable_iff {file : ArtifactFile} (hown : file.foreign = false) {seen : Nat}
    {content : Bytes} : file.isReadable seen content = true ↔
      content <+: file.content ∧ seen ≤ content.length := by
  unfold ArtifactFile.isReadable
  rw [hown, Bool.false_or, Bool.and_eq_true, List.isPrefixOf_iff_prefix, decide_eq_true_eq]

/-- Another program has changed the file. -/
def IsForeign (path : String) (world : World) : Prop :=
  ∃ file, world.files path = some file ∧ file.foreign = true

/-- The file is there with all of these bytes, unless another program has changed it. -/
def Holds (path : String) (bytes : Bytes) (world : World) : Prop :=
  ∃ file, world.files path = some file ∧ (file.foreign = false → file.content = bytes)

/-- No two of the known byte strings have one digest. -/
def CollisionFree (hash : Hash) (known : Bytes → Prop) : Prop :=
  ∀ a b, known a → known b → hash.sha256 a = hash.sha256 b → a = b

/-- The bytes that the step hands over are known. -/
def Hands (known : Bytes → Prop) (_ : World) (label : Label) : Prop :=
  ∀ bytes ∈ label.bytes, known bytes

/-! ### The invariant -/

/-- A file that nobody else has changed is written by the one `put` that created it. -/
structure Sound (hash : Hash) (rootDirectory : String) (known : Bytes → Prop) (world : World) :
    Prop where
  handed : ∀ put ∈ world.puts, known put.bytes
  written : ∀ path file, world.files path = some file → file.foreign = false →
    ∃ put ∈ world.puts, pathOf hash rootDirectory put.bytes = path ∧ file.content <+: put.bytes
  kept : ∀ put ∈ world.puts, put.created = true →
    (world.files (pathOf hash rootDirectory put.bytes)).isSome = true
  writer : ∀ put ∈ world.puts, put.stage = .writing → put.created = true
  single : ∀ (i j : Nat) (a b : Put), world.puts[i]? = some a → world.puts[j]? = some b →
    a.created = true → b.created = true → a.bytes = b.bytes → i = j
  stored : ∀ put ∈ world.puts, put.stage = .returned →
    Holds (pathOf hash rootDirectory put.bytes) put.bytes world
  valid : ∀ read ∈ world.reads, ∀ seen, read.stage = .reading seen →
    isValidReference read.reference = true
  delivered : ∀ read ∈ world.reads, ∀ bytes, read.stage = .returned bytes →
    known bytes ∧ read.reference = referenceOf hash bytes ∧
      Holds (pathOf hash rootDirectory bytes) bytes world

section Invariant
variable {hash : Hash} {rootDirectory : String} {known : Bytes → Prop} {world world' : World}
  {label : Label} {reply : Reply} {index : Nat} {put : Put}

theorem sound_empty : Sound hash rootDirectory known .empty where
  handed := fun _ hput => absurd hput List.not_mem_nil
  written := fun _ _ hfile => by cases hfile
  kept := fun _ hput => absurd hput List.not_mem_nil
  writer := fun _ hput => absurd hput List.not_mem_nil
  single := fun _ _ _ _ ha => by cases ha
  stored := fun _ hput => absurd hput List.not_mem_nil
  valid := fun _ hread => absurd hread List.not_mem_nil
  delivered := fun _ hread => absurd hread List.not_mem_nil

/-- The bytes of a `put` for this file. -/
theorem Sound.bytes_eq (h : Sound hash rootDirectory known world)
    (hcollision : CollisionFree hash known) (hput : put ∈ world.puts) {bytes : Bytes}
    (hknown : known bytes)
    (hpath : pathOf hash rootDirectory put.bytes = pathOf hash rootDirectory bytes) :
    put.bytes = bytes :=
  hcollision put.bytes bytes (h.handed put hput) hknown (rawArtifactPath_injective hpath)

/-- What is read of an unchanged file and has its digest is all of it. -/
theorem Sound.holds_of_read (h : Sound hash rootDirectory known world)
    (hcollision : CollisionFree hash known) {bytes : Bytes} {file : ArtifactFile} {seen : Nat}
    (hknown : known bytes) (hfile : world.files (pathOf hash rootDirectory bytes) = some file)
    (hread : file.isReadable seen bytes = true) :
    Holds (pathOf hash rootDirectory bytes) bytes world := by
  refine ⟨file, hfile, fun hown => ?_⟩
  obtain ⟨put, hput, hpath, hwritten⟩ := h.written _ file hfile hown
  rw [h.bytes_eq hcollision hput hknown hpath] at hwritten
  exact hwritten.eq_of_length_le ((isReadable_iff hown).mp hread).1.length_le

/-- A full file stays full. -/
theorem Sound.holds_step (h : Sound hash rootDirectory known world)
    (hcollision : CollisionFree hash known) {bytes : Bytes} (hknown : known bytes)
    (hmove : Move hash rootDirectory world label reply world')
    (hholds : Holds (pathOf hash rootDirectory bytes) bytes world) :
    Holds (pathOf hash rootDirectory bytes) bytes world' := by
  obtain ⟨file, hfile, hfull⟩ := hholds
  cases hmove with
  | @created index other created hput hnone =>
    refine ⟨file, ?_, hfull⟩
    dsimp only
    rw [Function.update_of_ne, hfile]
    intro hsame
    rw [← hsame, hfile] at hnone
    cases hnone
  | @written index count other created file' hput hfile' hown hroom =>
    by_cases hpath : pathOf hash rootDirectory bytes = pathOf hash rootDirectory other
    · have hother := h.bytes_eq hcollision (Slots.mem_of_get hput) hknown hpath.symm
      rw [hpath] at hfile
      rw [hfile] at hfile'
      cases hfile'
      change other = bytes at hother
      subst hother
      have hcontent : file.content = other := hfull hown
      refine ⟨⟨other.take (file.content.length + count), false⟩, ?_, fun _ => ?_⟩
      · exact Function.update_self ..
      · -- nothing is left to write
        apply List.take_of_length_le
        rw [hcontent]
        omega
    · refine ⟨file, ?_, hfull⟩
      dsimp only
      rw [Function.update_of_ne hpath, hfile]
  | tampered path =>
    by_cases hpath : pathOf hash rootDirectory bytes = path
    · refine ⟨⟨[], true⟩, ?_, fun hown => by cases hown⟩
      dsimp only
      rw [hpath]
      exact Function.update_self ..
    · refine ⟨file, ?_, hfull⟩
      dsimp only
      rw [Function.update_of_ne hpath, hfile]
  | _ => exact ⟨file, hfile, hfull⟩

theorem Sound.set_put (h : Sound hash rootDirectory known world)
    (hput : world.puts[index]? = some put) {put' : Put} (hbytes : put'.bytes = put.bytes)
    (hcreated : put'.created = true → put.created = true ∨
      (world.files (pathOf hash rootDirectory put.bytes)).isSome = true ∧
        ∀ other ∈ world.puts, other.created = true → other.bytes ≠ put.bytes)
    (hwriter : put'.stage = .writing → put'.created = true)
    (hstored : put'.stage = .returned →
      Holds (pathOf hash rootDirectory put.bytes) put.bytes world) :
    Sound hash rootDirectory known { world with puts := world.puts.set index put' } where
  handed := Slots.forall_set h.handed (by
    rw [hbytes]
    exact h.handed put (Slots.mem_of_get hput))
  written := by
    intro path file hfile hown
    apply Slots.exists_set (h.written path file hfile hown) hput
    rw [hbytes]
    exact id
  kept := Slots.forall_set h.kept (by
    rw [hbytes]
    intro hnew
    rcases hcreated hnew with hold | ⟨hsome, -⟩
    · exact h.kept put (Slots.mem_of_get hput) hold
    · exact hsome)
  writer := Slots.forall_set h.writer hwriter
  single := by
    -- the other creator of a file is the creator from before
    have hother : ∀ (i : Nat) (a : Put), world.puts[i]? = some a → a.created = true →
        put'.created = true → a.bytes = put'.bytes → i = index := by
      intro i a ha haCreated hnew hsame
      rw [hbytes] at hsame
      rcases hcreated hnew with hold | ⟨-, hfirst⟩
      · exact h.single i index a put ha hput haCreated hold hsame
      · exact absurd hsame (hfirst a (Slots.mem_of_get ha) haCreated)
    intro i j a b ha hb haCreated hbCreated hsame
    rcases Slots.get_set ha with ⟨hi, hnew⟩ | ⟨-, haOld⟩
    · rcases Slots.get_set hb with ⟨hj, -⟩ | ⟨-, hbOld⟩
      · rw [hi, hj]
      · subst hnew
        rw [hi, hother j b hbOld hbCreated haCreated hsame.symm]
    · rcases Slots.get_set hb with ⟨hj, hnew⟩ | ⟨-, hbOld⟩
      · subst hnew
        rw [hj, hother i a haOld haCreated hbCreated hsame]
      · exact h.single i j a b haOld hbOld haCreated hbCreated hsame
  stored := Slots.forall_set h.stored (by
    rw [hbytes]
    exact hstored)
  valid := h.valid
  delivered := h.delivered

theorem Sound.set_files (h : Sound hash rootDirectory known world)
    {files : String → Option ArtifactFile}
    (hwritten : ∀ path file, files path = some file → file.foreign = false →
      ∃ put ∈ world.puts, pathOf hash rootDirectory put.bytes = path ∧
        file.content <+: put.bytes)
    (hkept : ∀ path, (world.files path).isSome = true → (files path).isSome = true)
    (hholds : ∀ bytes, known bytes → Holds (pathOf hash rootDirectory bytes) bytes world →
      ∃ file, files (pathOf hash rootDirectory bytes) = some file ∧
        (file.foreign = false → file.content = bytes)) :
    Sound hash rootDirectory known { world with files } where
  handed := h.handed
  written := hwritten
  kept := fun put hput hcreated => hkept _ (h.kept put hput hcreated)
  writer := h.writer
  single := h.single
  stored := fun put hput hreturned =>
    hholds put.bytes (h.handed put hput) (h.stored put hput hreturned)
  valid := h.valid
  delivered := by
    intro read hread bytes hreturned
    obtain ⟨hknown, hreference, hfull⟩ := h.delivered read hread bytes hreturned
    exact ⟨hknown, hreference, hholds bytes hknown hfull⟩

theorem Sound.set_reads (h : Sound hash rootDirectory known world) {reads : List Read}
    (hvalid : ∀ read ∈ reads, ∀ seen, read.stage = .reading seen →
      isValidReference read.reference = true)
    (hdelivered : ∀ read ∈ reads, ∀ bytes, read.stage = .returned bytes →
      known bytes ∧ read.reference = referenceOf hash bytes ∧
        Holds (pathOf hash rootDirectory bytes) bytes world) :
    Sound hash rootDirectory known { world with reads } :=
  ⟨h.handed, h.written, h.kept, h.writer, h.single, h.stored, hvalid, hdelivered⟩

theorem isSome_update {files : String → Option ArtifactFile} {path path' : String}
    (file : ArtifactFile) (h : (files path).isSome = true) :
    (Function.update files path' (some file) path).isSome = true := by
  by_cases hpath : path = path'
  · rw [hpath, Function.update_self]
    rfl
  · rw [Function.update_of_ne hpath, h]

theorem sound_step (hcollision : CollisionFree hash known)
    (h : Sound hash rootDirectory known world) (hhands : Hands known world label)
    (hmove : Move hash rootDirectory world label reply world') :
    Sound hash rootDirectory known world' := by
  have hkeeps : ∀ bytes, known bytes → Holds (pathOf hash rootDirectory bytes) bytes world →
      Holds (pathOf hash rootDirectory bytes) bytes world' :=
    fun bytes hknown hfull => h.holds_step hcollision hknown hmove hfull
  cases hmove with
  | put bytes =>
    refine ⟨Slots.forall_concat h.handed (hhands bytes List.mem_cons_self), ?_,
      Slots.forall_concat h.kept (fun hcreated => by cases hcreated),
      Slots.forall_concat h.writer (fun hwriting => by cases hwriting), ?_,
      Slots.forall_concat h.stored (fun hreturned => by cases hreturned), h.valid, h.delivered⟩
    · intro path file hfile hown
      exact Slots.exists_concat (h.written path file hfile hown) _
    · intro i j a b ha hb haCreated hbCreated hsame
      rcases Slots.get_concat ha with ⟨-, rfl⟩ | ha
      · cases haCreated
      · rcases Slots.get_concat hb with ⟨-, rfl⟩ | hb
        · cases hbCreated
        · exact h.single i j a b ha hb haCreated hbCreated hsame
  | @created index bytes created hput hnone =>
    have hfiles : Sound hash rootDirectory known { world with
        files := Function.update world.files (pathOf hash rootDirectory bytes)
          (some ⟨[], false⟩) } := by
      refine h.set_files ?_ (fun path hsome => isSome_update _ hsome) hkeeps
      intro path file hfile hown
      by_cases hpath : path = pathOf hash rootDirectory bytes
      · rw [hpath, Function.update_self] at hfile
        cases hfile
        exact ⟨_, Slots.mem_of_get hput, hpath.symm, List.nil_prefix⟩
      · rw [Function.update_of_ne hpath] at hfile
        exact h.written path file hfile hown
    refine hfiles.set_put hput rfl (fun _ => .inr ⟨?_, ?_⟩) (fun _ => rfl) fun hreturned => by
      cases hreturned
    · dsimp only
      rw [Function.update_self]
      rfl
    · intro other hother hcreated hsame
      have hsome := h.kept other hother hcreated
      rw [hsame, hnone] at hsome
      cases hsome
  | found hput hfile =>
    exact h.set_put hput rfl (fun hcreated => by cases hcreated) (fun hwriting => by cases hwriting)
      fun hreturned => by cases hreturned
  | writtenAway => exact h
  | @written index count bytes created file hput hfile hown hroom =>
    refine h.set_files ?_ (fun path hsome => isSome_update _ hsome) hkeeps
    intro path file' hfile' hown'
    by_cases hpath : path = pathOf hash rootDirectory bytes
    · rw [hpath, Function.update_self] at hfile'
      cases hfile'
      exact ⟨_, Slots.mem_of_get hput, hpath.symm, List.take_prefix _ _⟩
    · rw [Function.update_of_ne hpath] at hfile'
      exact h.written path file' hfile' hown'
  | @finished index bytes created file hput hfile hfull =>
    refine h.set_put hput rfl .inl (fun hwriting => by cases hwriting) fun _ => ?_
    refine ⟨file, hfile, fun hown => ?_⟩
    obtain ⟨writer, hwriter, hpath, hwritten⟩ := h.written _ file hfile hown
    rw [h.bytes_eq hcollision hwriter (h.handed _ (Slots.mem_of_get hput)) hpath] at hwritten
    exact hwritten.eq_of_length (hfull hown)
  | @verified index seen bytes content created file hput hfile hread hdigest =>
    refine h.set_put hput rfl .inl (fun hwriting => by cases hwriting) fun _ => ?_
    have hknown := h.handed _ (Slots.mem_of_get hput)
    have hcontent := hcollision content bytes (hhands content List.mem_cons_self) hknown hdigest
    rw [hcontent] at hread
    exact h.holds_of_read hcollision hknown hfile hread
  | refusedPut hput hfile hread hdigest =>
    exact h.set_put hput rfl .inl (fun hwriting => by cases hwriting)
      fun hreturned => by cases hreturned
  | failedPut hput =>
    exact h.set_put hput rfl .inl (fun hwriting => by cases hwriting)
      fun hreturned => by cases hreturned
  | reading hreference hfile =>
    exact h.set_reads (Slots.forall_concat h.valid fun _ _ => hreference)
      (Slots.forall_concat h.delivered fun _ hreturned => by cases hreturned)
  | missing hreference hfile =>
    exact h.set_reads (Slots.forall_concat h.valid fun _ hreading => by cases hreading)
      (Slots.forall_concat h.delivered fun _ hreturned => by cases hreturned)
  | invalid hreference =>
    exact h.set_reads (Slots.forall_concat h.valid fun _ hreading => by cases hreading)
      (Slots.forall_concat h.delivered fun _ hreturned => by cases hreturned)
  | @delivered index seen reference content file hcall hfile hread hdigest =>
    refine h.set_reads (Slots.forall_set h.valid fun _ hreading => by cases hreading)
      (Slots.forall_set h.delivered fun bytes hreturned => ?_)
    cases hreturned
    have hknown := hhands content List.mem_cons_self
    have hreference : reference = referenceOf hash content :=
      eq_referenceOf (h.valid ⟨reference, .reading seen⟩ (Slots.mem_of_get hcall) seen rfl) hdigest
    refine ⟨hknown, hreference, h.holds_of_read hcollision hknown ?_ hread⟩
    rw [hreference] at hfile
    exact hfile
  | refusedRead hcall hfile hread hdigest =>
    exact h.set_reads (Slots.forall_set h.valid fun _ hreading => by cases hreading)
      (Slots.forall_set h.delivered fun _ hreturned => by cases hreturned)
  | failedRead hcall =>
    exact h.set_reads (Slots.forall_set h.valid fun _ hreading => by cases hreading)
      (Slots.forall_set h.delivered fun _ hreturned => by cases hreturned)
  | tampered path =>
    refine h.set_files ?_ (fun path hsome => isSome_update _ hsome) hkeeps
    intro path' file hfile hown
    by_cases hpath : path' = path
    · rw [hpath, Function.update_self] at hfile
      cases hfile
      cases hown
    · rw [Function.update_of_ne hpath] at hfile
      exact h.written path' file hfile hown

end Invariant

/-! ### Calls for stored bytes -/

/-- What may become of a `read` of stored bytes: it is under way behind all of them, returns them
or fails with the file system. -/
def ReadStage.Answers (bytes : Bytes) : ReadStage → Prop
  | reading seen => bytes.length ≤ seen
  | returned content => content = bytes
  | missing | refused => False
  | failed => True

/-- What may become of a `put` of stored bytes: it finds the whole file and writes nothing. -/
def PutStage.Answers (bytes : Bytes) : PutStage → Prop
  | verifying seen => bytes.length ≤ seen
  | writing | refused => False
  | opening | returned | failed => True

/-- The reads from this number on give the bytes back. -/
def ReadsBack (hash : Hash) (rootDirectory : String) (bytes : Bytes) (first : Nat)
    (world : World) : Prop :=
  ∀ (index : Nat) (read : Read), first ≤ index → world.reads[index]? = some read →
    read.reference = referenceOf hash bytes →
      IsForeign (pathOf hash rootDirectory bytes) world ∨ read.stage.Answers bytes

/-- The puts of these bytes from this number on find them. -/
def PutsFind (hash : Hash) (rootDirectory : String) (bytes : Bytes) (first : Nat)
    (world : World) : Prop :=
  ∀ (index : Nat) (put : Put), first ≤ index → world.puts[index]? = some put →
    put.bytes = bytes →
      IsForeign (pathOf hash rootDirectory bytes) world ∨
        put.created = false ∧ put.stage.Answers bytes

/-- Nobody is writing the file, and nobody else has changed it. -/
structure Abandoned (hash : Hash) (rootDirectory path : String) (content : Bytes)
    (world : World) : Prop where
  file : world.files path = some ⟨content, false⟩
  unwritten : ∀ put ∈ world.puts, put.stage = .writing →
    pathOf hash rootDirectory put.bytes ≠ path

section Later
variable {hash : Hash} {rootDirectory : String} {known : Bytes → Prop} {world world' : World}
  {label : Label} {reply : Reply} {bytes : Bytes} {first : Nat} {path : String}

theorem IsForeign.step (h : IsForeign path world)
    (hmove : Move hash rootDirectory world label reply world') : IsForeign path world' := by
  obtain ⟨file, hfile, hforeign⟩ := h
  cases hmove with
  | created hput hnone =>
    refine ⟨file, ?_, hforeign⟩
    dsimp only
    rw [Function.update_of_ne, hfile]
    rintro rfl
    rw [hfile] at hnone
    cases hnone
  | written hput hfile' hown hroom =>
    refine ⟨file, ?_, hforeign⟩
    dsimp only
    rw [Function.update_of_ne, hfile]
    rintro rfl
    rw [hfile] at hfile'
    cases hfile'
    rw [hforeign] at hown
    cases hown
  | tampered other =>
    by_cases hpath : path = other
    · refine ⟨⟨[], true⟩, ?_, rfl⟩
      dsimp only
      rw [hpath]
      exact Function.update_self ..
    · refine ⟨file, ?_, hforeign⟩
      dsimp only
      rw [Function.update_of_ne hpath, hfile]
  | _ => exact ⟨file, hfile, hforeign⟩

/-- What is read of a full file, opened when it was full, is all of it. -/
theorem content_of_readable {file : ArtifactFile} {seen : Nat} {content : Bytes}
    (hholds : Holds path bytes world) (hfile : world.files path = some file)
    (hseen : bytes.length ≤ seen) (hread : file.isReadable seen content = true) :
    IsForeign path world ∨ content = bytes := by
  by_cases hforeign : file.foreign = true
  · exact .inl ⟨file, hfile, hforeign⟩
  · rw [Bool.not_eq_true] at hforeign
    obtain ⟨file', hfile', hfull⟩ := hholds
    rw [hfile] at hfile'
    cases hfile'
    obtain ⟨hinitial, hlength⟩ := (isReadable_iff hforeign).mp hread
    rw [hfull hforeign] at hinitial
    exact .inr (hinitial.eq_of_length_le (by omega))

theorem ReadsBack.step (h : ReadsBack hash rootDirectory bytes first world)
    (hholds : Holds (pathOf hash rootDirectory bytes) bytes world)
    (hmove : Move hash rootDirectory world label reply world') :
    ReadsBack hash rootDirectory bytes first world' := by
  intro index read hfirst hread hreference
  have hkept : world.reads[index]? = some read →
      IsForeign (pathOf hash rootDirectory bytes) world' ∨ read.stage.Answers bytes :=
    fun hold => (h index read hfirst hold hreference).imp_left fun hforeign => hforeign.step hmove
  cases hmove with
  | @reading reference file hvalid hfile =>
    rcases Slots.get_concat hread with ⟨-, rfl⟩ | hold
    · -- the file was full when it was opened
      change reference = referenceOf hash bytes at hreference
      rw [hreference] at hfile
      obtain ⟨file', hfile', hfull⟩ := hholds
      have hsame : file' = file := Option.some.inj (hfile'.symm.trans hfile)
      subst hsame
      by_cases hforeign : file'.foreign = true
      · exact .inl ⟨file', hfile', hforeign⟩
      · rw [Bool.not_eq_true] at hforeign
        refine .inr ?_
        change bytes.length ≤ file'.content.length
        rw [hfull hforeign]
    · exact hkept hold
  | @missing reference hvalid hfile =>
    rcases Slots.get_concat hread with ⟨-, rfl⟩ | hold
    · change reference = referenceOf hash bytes at hreference
      obtain ⟨file, hheld, -⟩ := hholds
      rw [hreference] at hfile
      exact absurd (hheld.symm.trans hfile) (Option.some_ne_none file)
    · exact hkept hold
  | @invalid reference hvalid =>
    rcases Slots.get_concat hread with ⟨-, rfl⟩ | hold
    · change reference = referenceOf hash bytes at hreference
      rw [hreference, isValidReference_referenceOf] at hvalid
      cases hvalid
    · exact hkept hold
  | @delivered number seen reference content file hcall hfile hreadable hdigest =>
    rcases Slots.get_set hread with ⟨hindex, rfl⟩ | ⟨-, hold⟩
    · change reference = referenceOf hash bytes at hreference
      subst hindex
      rcases h index _ hfirst hcall hreference with hforeign | hseen
      · exact .inl hforeign
      · rw [hreference] at hfile
        exact content_of_readable hholds hfile hseen hreadable
    · exact hkept hold
  | @refusedRead number seen reference content file hcall hfile hreadable hdigest =>
    rcases Slots.get_set hread with ⟨hindex, rfl⟩ | ⟨-, hold⟩
    · change reference = referenceOf hash bytes at hreference
      subst hindex
      rcases h index _ hfirst hcall hreference with hforeign | hseen
      · exact .inl hforeign
      · rw [hreference] at hfile hdigest
        rcases content_of_readable hholds hfile hseen hreadable with hforeign | hcontent
        · exact .inl hforeign
        · rw [hcontent] at hdigest
          exact absurd rfl hdigest
    · exact hkept hold
  | failedRead hcall =>
    rcases Slots.get_set hread with ⟨-, rfl⟩ | ⟨-, hold⟩
    · exact .inr trivial
    · exact hkept hold
  | _ => exact hkept hread

theorem PutsFind.step (h : PutsFind hash rootDirectory bytes first world)
    (hholds : Holds (pathOf hash rootDirectory bytes) bytes world)
    (hmove : Move hash rootDirectory world label reply world') :
    PutsFind hash rootDirectory bytes first world' := by
  intro index put hfirst hput hbytes
  have hkept : world.puts[index]? = some put →
      IsForeign (pathOf hash rootDirectory bytes) world' ∨
        put.created = false ∧ put.stage.Answers bytes :=
    fun hold => (h index put hfirst hold hbytes).imp_left fun hforeign => hforeign.step hmove
  cases hmove with
  | put other =>
    rcases Slots.get_concat hput with ⟨-, rfl⟩ | hold
    · exact .inr ⟨rfl, trivial⟩
    · exact hkept hold
  | @created number other created hcall hnone =>
    rcases Slots.get_set hput with ⟨-, rfl⟩ | ⟨-, hold⟩
    · change other = bytes at hbytes
      obtain ⟨file, hfile, -⟩ := hholds
      rw [hbytes, hfile] at hnone
      cases hnone
    · exact hkept hold
  | @found number other created file hcall hfile =>
    rcases Slots.get_set hput with ⟨-, rfl⟩ | ⟨-, hold⟩
    · change other = bytes at hbytes
      rw [hbytes] at hfile
      obtain ⟨file', hfile', hfull⟩ := hholds
      have hsame : file' = file := Option.some.inj (hfile'.symm.trans hfile)
      subst hsame
      by_cases hforeign : file'.foreign = true
      · exact .inl ⟨file', hfile', hforeign⟩
      · rw [Bool.not_eq_true] at hforeign
        refine .inr ⟨rfl, ?_⟩
        change bytes.length ≤ file'.content.length
        rw [hfull hforeign]
    · exact hkept hold
  | @finished number other created file hcall hfile hfull =>
    rcases Slots.get_set hput with ⟨hindex, rfl⟩ | ⟨-, hold⟩
    · subst hindex
      rcases h index _ hfirst hcall hbytes with hforeign | ⟨-, hanswers⟩
      · exact .inl hforeign
      · exact hanswers.elim
    · exact hkept hold
  | @verified number seen other content created file hcall hfile hreadable hdigest =>
    rcases Slots.get_set hput with ⟨hindex, rfl⟩ | ⟨-, hold⟩
    · subst hindex
      rcases h index _ hfirst hcall hbytes with hforeign | ⟨hcreated, -⟩
      · exact .inl hforeign
      · exact .inr ⟨hcreated, trivial⟩
    · exact hkept hold
  | @refusedPut number seen other content created file hcall hfile hreadable hdigest =>
    rcases Slots.get_set hput with ⟨hindex, rfl⟩ | ⟨-, hold⟩
    · change other = bytes at hbytes
      subst hindex hbytes
      rcases h index _ hfirst hcall rfl with hforeign | ⟨-, hseen⟩
      · exact .inl hforeign
      · rcases content_of_readable hholds hfile hseen hreadable with hforeign | hcontent
        · exact .inl hforeign
        · rw [hcontent] at hdigest
          exact absurd rfl hdigest
    · exact hkept hold
  | @failedPut number other hcall =>
    rcases Slots.get_set hput with ⟨hindex, rfl⟩ | ⟨-, hold⟩
    · subst hindex
      rcases h index _ hfirst hcall hbytes with hforeign | ⟨hcreated, -⟩
      · exact .inl hforeign
      · exact .inr ⟨hcreated, trivial⟩
    · exact hkept hold
  | _ => exact hkept hput

/-- A file that is left torn stays torn. -/
theorem Abandoned.step {content : Bytes}
    (h : Abandoned hash rootDirectory path content world)
    (hmove : Move hash rootDirectory world label reply world') :
    IsForeign path world' ∨ Abandoned hash rootDirectory path content world' := by
  have hset : ∀ (index : Nat) (put : Put), put.stage ≠ .writing →
      ∀ other ∈ world.puts.set index put, other.stage = .writing →
        pathOf hash rootDirectory other.bytes ≠ path :=
    fun index put hstage => Slots.forall_set h.unwritten fun hwriting => absurd hwriting hstage
  cases hmove with
  | put other =>
    exact .inr ⟨h.file, Slots.forall_concat h.unwritten fun hwriting => by cases hwriting⟩
  | @created number other created hput hnone =>
    have hpath : path ≠ pathOf hash rootDirectory other := by
      rintro rfl
      rw [h.file] at hnone
      cases hnone
    refine .inr ⟨?_, Slots.forall_set h.unwritten fun _ => hpath.symm⟩
    dsimp only
    rw [Function.update_of_ne hpath, h.file]
  | found hput hfile => exact .inr ⟨h.file, hset _ _ fun hwriting => by cases hwriting⟩
  | @written number count other created file hput hfile hown hroom =>
    refine .inr ⟨?_, h.unwritten⟩
    dsimp only
    rw [Function.update_of_ne, h.file]
    exact (h.unwritten _ (Slots.mem_of_get hput) rfl).symm
  | finished hput hfile hfull =>
    exact .inr ⟨h.file, hset _ _ fun hwriting => by cases hwriting⟩
  | verified hput hfile hread hdigest =>
    exact .inr ⟨h.file, hset _ _ fun hwriting => by cases hwriting⟩
  | refusedPut hput hfile hread hdigest =>
    exact .inr ⟨h.file, hset _ _ fun hwriting => by cases hwriting⟩
  | failedPut hput => exact .inr ⟨h.file, hset _ _ fun hwriting => by cases hwriting⟩
  | tampered other =>
    by_cases hpath : path = other
    · refine .inl ⟨⟨[], true⟩, ?_, rfl⟩
      dsimp only
      rw [hpath]
      exact Function.update_self ..
    · refine .inr ⟨?_, h.unwritten⟩
      dsimp only
      rw [Function.update_of_ne hpath, h.file]
  | _ => exact .inr ⟨h.file, h.unwritten⟩

end Later

/-! ### Runs -/

/-- All bytes that a run hands over. -/
def handedOver (es : List StoreEntry) : List Bytes := es.flatMap fun e => e.label.bytes

/-- These bytes are stored, and the calls from now on find them. -/
structure Served (hash : Hash) (rootDirectory : String) (known : Bytes → Prop) (bytes : Bytes)
    (firstRead firstPut : Nat) (world : World) : Prop where
  sound : Sound hash rootDirectory known world
  holds : Holds (pathOf hash rootDirectory bytes) bytes world
  reads : ReadsBack hash rootDirectory bytes firstRead world
  puts : PutsFind hash rootDirectory bytes firstPut world

section Runs
variable {hash : Hash} {rootDirectory : String} {known : Bytes → Prop} {world world' : World}
  {es : List StoreEntry} {bytes : Bytes} {firstRead firstPut : Nat} {path : String}

theorem guarded_of_subset (h : ∀ bytes ∈ handedOver es, known bytes) :
    Guarded (Hands known) es := by
  intro e he bytes hbytes
  exact h bytes (List.mem_flatMap.mpr ⟨e, he, hbytes⟩)

theorem sound_run (hcollision : CollisionFree hash known) (hhands : Guarded (Hands known) es)
    (hrun : Run (step hash rootDirectory) world es world')
    (h : Sound hash rootDirectory known world) : Sound hash rootDirectory known world' :=
  hrun.invariant (fun hsound hguard hstep =>
    sound_step hcollision hsound hguard (move_of_step hstep)) hhands h

theorem served_run (hcollision : CollisionFree hash known) (hknown : known bytes)
    (hhands : Guarded (Hands known) es) (hrun : Run (step hash rootDirectory) world es world')
    (h : Served hash rootDirectory known bytes firstRead firstPut world) :
    Served hash rootDirectory known bytes firstRead firstPut world' := by
  refine hrun.invariant (fun hserved hguard hstep => ?_) hhands h
  have hmove := move_of_step hstep
  exact ⟨sound_step hcollision hserved.sound hguard hmove,
    hserved.sound.holds_step hcollision hknown hmove hserved.holds,
    hserved.reads.step hserved.holds hmove, hserved.puts.step hserved.holds hmove⟩

theorem foreign_run (hrun : Run (step hash rootDirectory) world es world')
    (h : IsForeign path world) : IsForeign path world' := by
  induction hrun with
  | nil => exact h
  | cons hstep _ ih => exact ih (h.step (move_of_step hstep))

theorem abandoned_run {content : Bytes} (hrun : Run (step hash rootDirectory) world es world')
    (h : Abandoned hash rootDirectory path content world) :
    IsForeign path world' ∨ Abandoned hash rootDirectory path content world' := by
  induction hrun with
  | nil => exact .inr h
  | cons hstep hrest ih =>
    rcases h.step (move_of_step hstep) with hforeign | habandoned
    · exact .inl (foreign_run hrest hforeign)
    · exact ih habandoned

/-- A full copy of a torn file is nowhere. -/
theorem not_holds_of_file {file : ArtifactFile} (hfile : world.files path = some file)
    (hown : file.foreign = false) (htorn : file.content ≠ bytes) : ¬Holds path bytes world := by
  rintro ⟨file', hfile', hfull⟩
  rw [hfile] at hfile'
  cases hfile'
  exact htorn (hfull hown)

end Runs

section Main
variable {hash : Hash} {rootDirectory : String} {es later : List StoreEntry}
  {world world' : World}

/-- Whatever calls run side by side, fail or stop halfway, a read returns bytes of its digest,
and a file has one writer. Once a `put` has returned, its file has all of its bytes, every later
`read` gives them back and every later `put` of them finds them. A file that its writer left torn
is never repaired, and no call for its bytes returns. -/
theorem stored_artifacts_read_back (hrun : Run (step hash rootDirectory) .empty es world)
    (hlater : Run (step hash rootDirectory) world later world')
    (hcollision : ∀ a ∈ handedOver (es ++ later), ∀ b ∈ handedOver (es ++ later),
      hash.sha256 a = hash.sha256 b → a = b) :
    (∀ read ∈ world.reads, ∀ bytes, read.stage = .returned bytes →
      read.reference = referenceOf hash bytes) ∧
    (∀ (i j : Nat) (a b : Put), world.puts[i]? = some a → world.puts[j]? = some b →
      a.created = true → b.created = true → a.bytes = b.bytes → i = j) ∧
    (∀ put ∈ world.puts, put.stage = .returned →
      Holds (pathOf hash rootDirectory put.bytes) put.bytes world' ∧
        ReadsBack hash rootDirectory put.bytes world.reads.length world' ∧
        PutsFind hash rootDirectory put.bytes world.puts.length world') ∧
    (∀ put ∈ world.puts, ∀ content, content ≠ put.bytes →
      Abandoned hash rootDirectory (pathOf hash rootDirectory put.bytes) content world →
        IsForeign (pathOf hash rootDirectory put.bytes) world' ∨
          Abandoned hash rootDirectory (pathOf hash rootDirectory put.bytes) content world' ∧
            (∀ other ∈ world'.puts, other.bytes = put.bytes → other.stage ≠ .returned) ∧
            ∀ read ∈ world'.reads, read.reference = referenceOf hash put.bytes →
              ∀ bytes, read.stage ≠ .returned bytes) := by
  have hfree : CollisionFree hash fun bytes => bytes ∈ handedOver (es ++ later) :=
    fun a b ha hb hdigest => hcollision a ha b hb hdigest
  have hhands : Guarded (Hands fun bytes => bytes ∈ handedOver (es ++ later)) (es ++ later) :=
    guarded_of_subset fun _ hbytes => hbytes
  rw [Guarded.append_iff] at hhands
  have hsound := sound_run hfree hhands.1 hrun sound_empty
  have hsound' := sound_run hfree hhands.2 hlater hsound
  refine ⟨?_, hsound.single, ?_, ?_⟩
  · intro read hread bytes hreturned
    exact (hsound.delivered read hread bytes hreturned).2.1
  · intro put hput hreturned
    have hserved : Served hash rootDirectory (fun bytes => bytes ∈ handedOver (es ++ later))
        put.bytes world.reads.length world.puts.length world := by
      refine ⟨hsound, hsound.stored put hput hreturned, ?_, ?_⟩
      · intro index read hindex hread
        exact absurd (List.getElem?_eq_some_iff.mp hread).1 (Nat.not_lt.mpr hindex)
      · intro index other hindex hother
        exact absurd (List.getElem?_eq_some_iff.mp hother).1 (Nat.not_lt.mpr hindex)
    have hserved' := served_run hfree (hsound.handed put hput) hhands.2 hlater hserved
    exact ⟨hserved'.holds, hserved'.reads, hserved'.puts⟩
  · intro put hput content htorn habandoned
    rcases abandoned_run hlater habandoned with hforeign | habandoned'
    · exact .inl hforeign
    · refine .inr ⟨habandoned', ?_, ?_⟩
      · intro other hother hsame hreturned
        have hholds := hsound'.stored other hother hreturned
        rw [hsame] at hholds
        exact not_holds_of_file habandoned'.file rfl htorn hholds
      · intro read hread hreference bytes hreturned
        obtain ⟨hknown, hown, hholds⟩ := hsound'.delivered read hread bytes hreturned
        have hdigest : hash.sha256 bytes = hash.sha256 put.bytes :=
          congrArg DataSourceArtifactRef.digest (hown.symm.trans hreference)
        have hbytes := hfree bytes put.bytes hknown (hsound.handed put hput) hdigest
        rw [hbytes] at hholds
        exact not_holds_of_file habandoned'.file rfl htorn hholds

end Main

/-! ### A run -/

def sampleDigest (bytes : Bytes) : String :=
  .ofList ((if bytes = [1, 2] then 'a' else if bytes = [3] then 'b' else 'c') ::
    List.replicate 63 '0')

def sampleHash : Hash where
  sha256 := sampleDigest
  hexadecimal := by
    intro bytes
    unfold sampleDigest
    split
    · decide +kernel
    · split
      · decide +kernel
      · decide +kernel

/-- Two puts of the same bytes, the second one while the first writes, and a torn file. -/
def sampleCalls : List Label :=
  [.put [1, 2], .openFile 0, .write 0 1, .put [1, 2], .openFile 1, .put [3], .openFile 2,
   .failPut 2, .write 0 1, .verify 1 [1, 2], .finish 0]

def sampleLater : List Label :=
  [.read (referenceOf sampleHash [1, 2]), .put [1, 2], .openFile 3, .deliver 0 [1, 2],
   .verify 3 [1, 2], .put [3], .openFile 4, .verify 4 []]

theorem handedOver_eq (es : List StoreEntry) :
    handedOver es = (es.map Entry.label).flatMap Label.bytes := by
  unfold handedOver
  rw [List.flatMap_map]

theorem stored_artifacts_read_back_sample : ∃ es world later world',
    Run (step sampleHash "root") .empty es world ∧ es.map Entry.label = sampleCalls ∧
      Run (step sampleHash "root") world later world' ∧ later.map Entry.label = sampleLater ∧
      (∃ put ∈ world.puts, put.stage = .returned ∧
        ReadsBack sampleHash "root" put.bytes world.reads.length world') ∧
      ∃ read ∈ world'.reads, read.stage = .returned [1, 2] := by
  have hexec : (exec (step sampleHash "root") .empty sampleCalls).any (fun result =>
      (result.2.puts.any fun put => put.stage = .returned) &&
        (exec (step sampleHash "root") result.2 sampleLater).any fun rest =>
          rest.2.reads.any fun read => read.stage = .returned [1, 2]) = true := by
    decide +kernel
  obtain ⟨es, world, hrun, hlabels, hcheck⟩ := exists_labelled_run_of_exec hexec
  rw [Bool.and_eq_true, List.any_eq_true] at hcheck
  obtain ⟨⟨put, hput, hreturned⟩, hrest⟩ := hcheck
  obtain ⟨later, world', hlater, hlaterLabels, hdone⟩ := exists_labelled_run_of_exec hrest
  rw [List.any_eq_true] at hdone
  obtain ⟨read, hread, hbytes⟩ := hdone
  have hcollision : ∀ a ∈ handedOver (es ++ later), ∀ b ∈ handedOver (es ++ later),
      sampleHash.sha256 a = sampleHash.sha256 b → a = b := by
    rw [handedOver_eq, List.map_append, hlabels, hlaterLabels]
    decide +kernel
  have hstored := (stored_artifacts_read_back hrun hlater hcollision).2.2.1 put hput
    (of_decide_eq_true hreturned)
  exact ⟨es, world, later, world', hrun, hlabels, hlater, hlaterLabels,
    ⟨put, hput, of_decide_eq_true hreturned, hstored.2.1⟩, read, hread,
    of_decide_eq_true hbytes⟩

end ChoiceMind.EvidenceIngestion.ObjectStore
