import ChoiceMind.Contracts.CanonicalJson
import ChoiceMind.Contracts.Invariants

/-!
# The version gate of the decoders

Before a decoder looks at its schema it searches the whole value for a record of another
contract version. The search keeps a stack of values and stops at a depth; it finds what
the recursion over the value finds.
-/

set_option autoImplicit false

universe u

namespace ChoiceMind.Contracts

open CodeUnits

variable {ν : Type u}

/-! ### The search -/

inductive PathKey
  | index (value : Nat)
  | key (value : CodeUnits)
  deriving DecidableEq

def PathKey.text : PathKey → CodeUnits
  | .index value => ofString (toString value)
  | .key value => value

/-- `path.join(".")` -/
def joinPath (path : List PathKey) : CodeUnits := [unit '.'].intercalate (path.map PathKey.text)

/-- An issue whose path is made of the keys of a value. -/
structure InputIssue where
  path : CodeUnits
  message : String
  deriving DecidableEq

def maxContractVersionScanDepth : Nat := 32

def contractTypeKey : CodeUnits := ofString "contractType"

def contractVersionKey : CodeUnits := ofString "contractVersion"

def getMember (entries : List (CodeUnits × JsValue ν)) (key : CodeUnits) : Option (JsValue ν) :=
  (entries.find? fun entry => entry.1 = key).map Prod.snd

def isVersionOne : JsValue ν → Bool
  | .scalar (.string value) => value = ofString "1.0"
  | _ => false

/-- A record that has a contract type and whose contract version is not 1.0. -/
def isUnsupported : JsValue ν → Bool
  | .object entries =>
    (getMember entries contractTypeKey).isSome &&
      !(getMember entries contractVersionKey).any isVersionOne
  | _ => false

def unsupportedIssue (path : List PathKey) : InputIssue :=
  ⟨joinPath (path ++ [.key contractVersionKey]), "仅支持合同版本 1.0"⟩

/-- The items of an array by their index, the members of a record in the order of entries. -/
def entriesOf : JsValue ν → List (PathKey × JsValue ν)
  | .array items => items.zipIdx.map fun item => (.index item.2, item.1)
  | .object entries => entries.map fun entry => (.key entry.1, entry.2)
  | _ => []

structure PendingValue (ν : Type u) where
  value : JsValue ν
  path : List PathKey
  depth : Nat

namespace PendingValue

def child (current : PendingValue ν) (entry : PathKey × JsValue ν) : PendingValue ν :=
  ⟨entry.2, current.path ++ [entry.1], current.depth + 1⟩

/-- The stack after the entries of `current` were pushed, the last one first. -/
def pushEntries (current : PendingValue ν) (pending : List (PendingValue ν)) :
    List (PendingValue ν) :=
  (entriesOf current.value).reverse.foldl (fun stack entry => current.child entry :: stack) pending

theorem pushEntries_eq (current : PendingValue ν) (pending : List (PendingValue ν)) :
    current.pushEntries pending = (entriesOf current.value).map current.child ++ pending := by
  unfold pushEntries
  rw [List.foldl_reverse]
  induction entriesOf current.value with
  | nil => rfl
  | cons entry entries ih => rw [List.foldr_cons, ih, List.map_cons, List.cons_append]

end PendingValue

section Size

mutual

/-- How many values stand in a value, itself included. -/
def JsValue.count : JsValue ν → Nat
  | .undefined => 1
  | .scalar _ => 1
  | .array items => 1 + countItems items
  | .object entries => 1 + countEntries entries

def countItems : List (JsValue ν) → Nat
  | [] => 0
  | item :: items => item.count + countItems items

def countEntries : List (CodeUnits × JsValue ν) → Nat
  | [] => 0
  | (_, item) :: entries => item.count + countEntries entries

end

def countPending (pending : List (PendingValue ν)) : Nat :=
  (pending.map fun current => current.value.count).sum

theorem countItems_eq (items : List (JsValue ν)) :
    countItems items = (items.map JsValue.count).sum := by
  induction items with
  | nil => rfl
  | cons item items ih => rw [countItems, ih, List.map_cons, List.sum_cons]

theorem countEntries_eq (entries : List (CodeUnits × JsValue ν)) :
    countEntries entries = (entries.map fun entry => entry.2.count).sum := by
  induction entries with
  | nil => rfl
  | cons entry entries ih => rw [countEntries, ih, List.map_cons, List.sum_cons]

theorem count_entriesOf (value : JsValue ν) :
    ((entriesOf value).map fun entry => entry.2.count).sum < value.count := by
  cases value with
  | undefined => exact Nat.zero_lt_one
  | scalar value => exact Nat.zero_lt_one
  | array items =>
    rw [entriesOf, JsValue.count, countItems_eq, List.map_map]
    have hvalues : items.zipIdx.map ((fun entry : PathKey × JsValue ν => entry.2.count) ∘
        fun item => (.index item.2, item.1)) = items.map JsValue.count := by
      rw [← List.zipIdx_map_fst 0 items, List.map_map, List.zipIdx_map_fst 0 items]
      rfl
    rw [hvalues]
    omega
  | object entries =>
    rw [entriesOf, JsValue.count, countEntries_eq, List.map_map]
    have hvalues : (fun entry : PathKey × JsValue ν => entry.2.count) ∘
        (fun entry : CodeUnits × JsValue ν => (PathKey.key entry.1, entry.2)) =
        fun entry => entry.2.count := rfl
    rw [hvalues]
    omega

/-- A value is taken from the stack and its entries are less than it. -/
theorem countPending_pushEntries (current : PendingValue ν) (pending : List (PendingValue ν)) :
    countPending (current.pushEntries pending) < countPending (current :: pending) := by
  have hless := count_entriesOf current.value
  have hchildren : (((entriesOf current.value).map current.child).map
      fun child => child.value.count).sum =
        ((entriesOf current.value).map fun entry => entry.2.count).sum := by
    rw [List.map_map]
    rfl
  rw [PendingValue.pushEntries_eq, countPending, countPending, List.map_append, List.sum_append,
    List.map_cons, List.sum_cons, hchildren]
  omega

theorem countPending_rest (current : PendingValue ν) (pending : List (PendingValue ν)) :
    countPending pending < countPending (current :: pending) := by
  have hless := count_entriesOf current.value
  rw [countPending, countPending, List.map_cons, List.sum_cons]
  omega

end Size

/-- The loop of `findUnsupportedVersion`; the head of the list is the top of the stack. -/
def scan : List (PendingValue ν) → Option InputIssue
  | [] => none
  | current :: pending =>
    if isUnsupported current.value then some (unsupportedIssue current.path)
    else if current.depth ≥ maxContractVersionScanDepth then scan pending
    else scan (current.pushEntries pending)
termination_by pending => countPending pending
decreasing_by
  · exact countPending_rest current pending
  · exact countPending_pushEntries current pending

def findUnsupportedVersion (input : JsValue ν) : Option InputIssue := scan [⟨input, [], 0⟩]

/-! ### The recursion -/

/-- The value and what stands below it down to a depth, each with its path, in preorder. -/
def preorder : Nat → List PathKey → JsValue ν → List (List PathKey × JsValue ν)
  | 0, path, value => [(path, value)]
  | depth + 1, path, value =>
    (path, value) :: (entriesOf value).flatMap fun entry =>
      preorder depth (path ++ [entry.1]) entry.2

/-- The path of the first unsupported record, by recursion over the value. -/
def firstUnsupported : Nat → List PathKey → JsValue ν → Option (List PathKey)
  | 0, path, value => if isUnsupported value then some path else none
  | depth + 1, path, value =>
    if isUnsupported value then some path
    else (entriesOf value).findSome? fun entry =>
      firstUnsupported depth (path ++ [entry.1]) entry.2

theorem firstUnsupported_eq (depth : Nat) (path : List PathKey) (value : JsValue ν) :
    firstUnsupported depth path value =
      ((preorder depth path value).find? fun node => isUnsupported node.2).map Prod.fst := by
  induction depth generalizing path value with
  | zero =>
    rw [firstUnsupported, preorder]
    cases hvalue : isUnsupported value <;> simp [hvalue]
  | succ depth ih =>
    rw [firstUnsupported, preorder]
    cases hvalue : isUnsupported value with
    | true => simp [hvalue]
    | false =>
      rw [if_neg Bool.false_ne_true, List.find?_cons_of_neg (by simp [hvalue])]
      induction entriesOf value with
      | nil => rfl
      | cons entry entries ihentries =>
        rw [List.findSome?_cons, List.flatMap_cons, List.find?_append, Option.map_or, ih,
          ← ihentries]
        cases ((preorder depth (path ++ [entry.1]) entry.2).find? fun node =>
          isUnsupported node.2).map Prod.fst <;> rfl

/-- What the loop finds for one value of its stack. -/
def PendingValue.first (current : PendingValue ν) : Option (List PathKey) :=
  firstUnsupported (maxContractVersionScanDepth - current.depth) current.path current.value

/-- The loop finds the first record that the recursion finds below a value of its stack. -/
theorem scan_eq (pending : List (PendingValue ν))
    (hdepth : ∀ current ∈ pending, current.depth ≤ maxContractVersionScanDepth) :
    scan pending = (pending.findSome? PendingValue.first).map unsupportedIssue := by
  induction pending using scan.induct with
  | case1 =>
    rw [scan]
    rfl
  | case2 current pending hunsupported =>
    have hfirst : current.first = some current.path := by
      unfold PendingValue.first
      cases maxContractVersionScanDepth - current.depth with
      | zero => rw [firstUnsupported, if_pos hunsupported]
      | succ depth => rw [firstUnsupported, if_pos hunsupported]
    rw [scan, if_pos hunsupported, List.findSome?_cons, hfirst]
    rfl
  | case3 current pending hsupported hbottom ih =>
    have hfirst : current.first = none := by
      unfold PendingValue.first
      have hzero : maxContractVersionScanDepth - current.depth = 0 := by omega
      rw [hzero, firstUnsupported, if_neg hsupported]
    rw [scan, if_neg hsupported, if_pos hbottom, List.findSome?_cons, hfirst]
    exact ih fun other hother => hdepth other (List.mem_cons_of_mem _ hother)
  | case4 current pending hsupported hinner ih =>
    have hfirst : current.first =
        ((entriesOf current.value).map current.child).findSome? PendingValue.first := by
      have hsucc : maxContractVersionScanDepth - current.depth =
          maxContractVersionScanDepth - (current.depth + 1) + 1 := by omega
      unfold PendingValue.first
      rw [hsucc, firstUnsupported, if_neg hsupported, List.findSome?_map]
      rfl
    rw [scan, if_neg hsupported, if_neg hinner, List.findSome?_cons, hfirst]
    rw [PendingValue.pushEntries_eq] at ih
    rw [PendingValue.pushEntries_eq, ih, List.findSome?_append]
    · cases ((entriesOf current.value).map current.child).findSome? PendingValue.first <;> rfl
    · intro other hother
      rcases List.mem_append.mp hother with hchild | hold
      · obtain ⟨entry, -, rfl⟩ := List.mem_map.mp hchild
        exact Nat.lt_of_not_le hinner
      · exact hdepth other (List.mem_cons_of_mem _ hold)

theorem findUnsupportedVersion_eq (input : JsValue ν) :
    findUnsupportedVersion input =
      (firstUnsupported maxContractVersionScanDepth [] input).map unsupportedIssue := by
  unfold findUnsupportedVersion
  rw [scan_eq _ (by simp), List.findSome?_singleton]
  rfl

/-! ### The decoders -/

section Decoders

structure InputRejection where
  code : RejectionCode
  issues : List InputIssue
  deriving DecidableEq

abbrev InputDecodeResult (α : Type) := Except InputRejection α

/-- An issue of a schema before its path is joined. -/
structure SchemaIssue where
  path : List PathKey

/-- `safeParse` of a schema -/
abbrev SafeParse (ν : Type u) (α : Type) := JsValue ν → Except (List SchemaIssue) α

/-- A decoder: the version first, then the schema, then the rules between fields. -/
def decodeInput {α : Type} (safeParse : SafeParse ν α) (message : CodeUnits → String)
    (invariants : α → List InputIssue) (input : JsValue ν) : InputDecodeResult α :=
  match findUnsupportedVersion input with
  | some unsupportedVersion => .error ⟨.contractVersionUnsupported, [unsupportedVersion]⟩
  | none =>
    match safeParse input with
    | .error issues => .error ⟨.contractInvalid, issues.map fun issue =>
        ⟨joinPath issue.path, message (joinPath issue.path)⟩⟩
    | .ok value =>
      if invariants value ≠ [] then .error ⟨.contractInvalid, invariants value⟩ else .ok value

def schemaMessage (_path : CodeUnits) : String := "字段不符合合同要求"

def isDigitUnit (u : CodeUnit) : Bool := (unit '0').val ≤ u.val && u.val ≤ (unit '9').val

/-- `/^requirementRevision\.mustHaves\.\d+\.key$/` -/
def isMustHaveKeyInput (path : CodeUnits) : Bool :=
  match path.splitOn (unit '.') with
  | [requirement, mustHaves, index, key] =>
    requirement = ofString "requirementRevision" && mustHaves = ofString "mustHaves" &&
      index ≠ [] && index.all isDigitUnit && key = ofString "key"
  | _ => false

def commandMessage (path : CodeUnits) : String :=
  if path = ofString "requirementRevision.budget.maxAmountMinor" then "金额必须是非负整数人民币分"
  else if isMustHaveKeyInput path then "must-have key 在 Requirement Revision 中必须唯一"
  else schemaMessage path

namespace Input

def decodeExecuteDecisionTaskCommandV1 (safeParse : SafeParse ν ExecuteDecisionTaskCommand) :
    JsValue ν → InputDecodeResult ExecuteDecisionTaskCommand :=
  decodeInput safeParse commandMessage fun _ => []

def decodeDecisionTaskSnapshotV1 {α : Type} (safeParse : SafeParse ν α) :
    JsValue ν → InputDecodeResult α :=
  decodeInput safeParse schemaMessage fun _ => []

def decodeDecisionTaskResultV1 (safeParse : SafeParse ν DecisionTaskResult) :
    JsValue ν → InputDecodeResult DecisionTaskResult :=
  decodeInput safeParse schemaMessage fun value =>
    (checkDecisionTaskResultInvariants value).map fun issue =>
      ⟨ofString issue.path, issue.message⟩

def decodePersistedRunEventV1 (safeParse : SafeParse ν RunEvent) :
    JsValue ν → InputDecodeResult RunEvent :=
  decodeInput safeParse schemaMessage fun _ => []

end Input

/-- The decoder rejects the version exactly of the values that have a record of another
version, and names the first one. -/
def GatesVersion {α : Type} (decode : JsValue ν → InputDecodeResult α) (input : JsValue ν) : Prop :=
  (∀ path, firstUnsupported maxContractVersionScanDepth [] input = some path →
    decode input = .error ⟨.contractVersionUnsupported, [unsupportedIssue path]⟩) ∧
  (firstUnsupported maxContractVersionScanDepth [] input = none →
    ∀ rejection, decode input = .error rejection → rejection.code = .contractInvalid)

theorem decodeInput_gates {α : Type} (safeParse : SafeParse ν α) (message : CodeUnits → String)
    (invariants : α → List InputIssue) (input : JsValue ν) :
    GatesVersion (decodeInput safeParse message invariants) input := by
  have hscan := findUnsupportedVersion_eq input
  constructor
  · intro path hpath
    rw [hpath] at hscan
    unfold decodeInput
    rw [hscan]
    rfl
  · intro hnone rejection hrejection
    rw [hnone] at hscan
    unfold decodeInput at hrejection
    rw [hscan] at hrejection
    dsimp only [Option.map_none] at hrejection
    split at hrejection
    · cases hrejection
      rfl
    · split at hrejection
      · cases hrejection
        rfl
      · cases hrejection

/-- The loop finds the first unsupported record in preorder, as the recursion does, and all
decoders reject exactly the values that have one. -/
theorem version_gate (input : JsValue ν) :
    findUnsupportedVersion input =
      (((preorder maxContractVersionScanDepth [] input).find? fun node =>
        isUnsupported node.2).map Prod.fst).map unsupportedIssue ∧
    firstUnsupported maxContractVersionScanDepth [] input =
      ((preorder maxContractVersionScanDepth [] input).find? fun node =>
        isUnsupported node.2).map Prod.fst ∧
    (∀ safeParse, GatesVersion (Input.decodeExecuteDecisionTaskCommandV1 safeParse) input) ∧
    (∀ {α : Type} (safeParse : SafeParse ν α),
      GatesVersion (Input.decodeDecisionTaskSnapshotV1 safeParse) input) ∧
    (∀ safeParse, GatesVersion (Input.decodeDecisionTaskResultV1 safeParse) input) ∧
    ∀ safeParse, GatesVersion (Input.decodePersistedRunEventV1 safeParse) input := by
  refine ⟨?_, firstUnsupported_eq _ _ _, ?_, ?_, ?_, ?_⟩
  · rw [findUnsupportedVersion_eq, firstUnsupported_eq]
  · intro safeParse
    apply decodeInput_gates
  · intro α safeParse
    apply decodeInput_gates
  · intro safeParse
    apply decodeInput_gates
  · intro safeParse
    apply decodeInput_gates

end Decoders

end ChoiceMind.Contracts
