import ChoiceMind.LocalServices.Client

/-!
# Results and their requests

Every result is one that the contract takes, for the request's id and port. Its vectors and
rankings are those of the upstream as they come, whatever their number and their order.
-/

namespace ChoiceMind.LocalServices

set_option autoImplicit false

open CodeUnits Contracts

/-! ### Results that are read -/

section Read
variable {input : Value}

theorem meaningful_parse {units : CodeUnits} (h : meaningfulTextSchema.parse input = some units) :
    input = text units ∧ isMeaningful units = true := Schema.text_parse h

/-- What a successful result is read from. -/
theorem successfulResult_parse {result : SuccessfulLocalServiceResult}
    (h : successfulResultSchema.parse input = some result) :
    memberOf input "requestId" = text result.requestId ∧
      portSchema.parse (memberOf input "port") = some result.port ∧
      (Schema.flag true).parse (memberOf input "ok") = some () ∧
      (outputSchema result.port).parse (memberOf input "output") = some result.output := by
  simp only [successfulResultSchema] at h
  split at h
  · obtain ⟨port, -, h⟩ := Option.bind_eq_some_iff.mp h
    obtain ⟨read, hread, rfl⟩ := Option.map_eq_some_iff.mp h
    obtain ⟨requestId, output, hfields, rfl⟩ := successOf_parse hread
    obtain ⟨_, heq, hmembers⟩ := strictObject_parse hfields
    cases heq
    obtain ⟨-, hmembers⟩ := Members.member_parse.mp hmembers
    obtain ⟨-, hmembers⟩ := Members.member_parse.mp hmembers
    obtain ⟨hrequestId, hmembers⟩ := Members.member_parse.mp hmembers
    obtain ⟨hport, hmembers⟩ := Members.member_parse.mp hmembers
    obtain ⟨hok, hmembers⟩ := Members.member_parse.mp hmembers
    obtain ⟨houtput, -⟩ := Members.member_parse.mp hmembers
    exact ⟨(meaningful_parse hrequestId).1, hport, hok, houtput⟩
  · cases h

theorem failedResult_parse {result : FailedLocalServiceResult}
    (h : failedResultSchema.parse input = some result) :
    memberOf input "requestId" = text result.requestId ∧
      portSchema.parse (memberOf input "port") = some result.port ∧
      (Schema.flag false).parse (memberOf input "ok") = some () := by
  obtain ⟨fields, hfields, rfl⟩ := Option.map_eq_some_iff.mp h
  obtain ⟨_, rfl, hmembers⟩ := strictObject_parse hfields
  obtain ⟨-, hmembers⟩ := Members.member_parse.mp hmembers
  obtain ⟨-, hmembers⟩ := Members.member_parse.mp hmembers
  obtain ⟨hrequestId, hmembers⟩ := Members.member_parse.mp hmembers
  obtain ⟨hport, hmembers⟩ := Members.member_parse.mp hmembers
  obtain ⟨hok, -⟩ := Members.member_parse.mp hmembers
  exact ⟨(meaningful_parse hrequestId).1, hport, hok⟩

/-- The id and the port of a result are those of the value it is read from. -/
theorem localServiceResult_parse {result : LocalServiceResult}
    (h : localServiceResultSchema.parse input = some result) :
    memberOf input "requestId" = text result.requestId ∧
      portSchema.parse (memberOf input "port") = some result.port := by
  rcases Option.or_eq_some_iff.mp h with hsuccess | ⟨-, hfailed⟩
  · obtain ⟨success, hread, rfl⟩ := Option.map_eq_some_iff.mp hsuccess
    obtain ⟨hrequestId, hport, -⟩ := successfulResult_parse hread
    exact ⟨hrequestId, hport⟩
  · obtain ⟨failed, hread, rfl⟩ := Option.map_eq_some_iff.mp hfailed
    obtain ⟨hrequestId, hport, -⟩ := failedResult_parse hread
    exact ⟨hrequestId, hport⟩

end Read

theorem isText_iff {units : CodeUnits} {value : Value} :
    isText value units = true ↔ value = text units := by
  unfold isText
  split
  · rename_i other
    rw [decide_eq_true_eq]
    constructor
    · rintro rfl
      rfl
    · intro h
      cases h
      rfl
  · rename_i hother
    refine iff_of_false Bool.false_ne_true ?_
    rintro rfl
    exact hother units rfl

section Output
variable {request : LocalServiceRequest} {value : Value}

@[simp] theorem memberOf_withOutput_contractType :
    memberOf (withOutput request value) "contractType" = string "local-service-result" := by
  simp [withOutput, header]

@[simp] theorem memberOf_withOutput_contractVersion :
    memberOf (withOutput request value) "contractVersion" = string "1.0" := by
  simp [withOutput, header, memberOf_record_of_ne]

@[simp] theorem memberOf_withOutput_requestId :
    memberOf (withOutput request value) "requestId" = text request.requestId := by
  simp [withOutput, header, memberOf_record_of_ne]

@[simp] theorem memberOf_withOutput_port :
    memberOf (withOutput request value) "port" = string request.port.text := by
  simp [withOutput, header, memberOf_record_of_ne]

@[simp] theorem memberOf_withOutput_ok :
    memberOf (withOutput request value) "ok" = .scalar (.bool true) := by
  simp [withOutput, header, memberOf_record_of_ne]

@[simp] theorem memberOf_withOutput_output :
    memberOf (withOutput request value) "output" = value := by
  simp [withOutput, header, memberOf_record_of_ne]

/-- A mapped response is read exactly when its output is. -/
theorem parse_withOutput {result : LocalServiceResult}
    (hrequestId : isMeaningful request.requestId = true) :
    localServiceResultSchema.parse (withOutput request value) = some result ↔
      ∃ output, (outputSchema request.port).parse value = some output ∧
        result = .succeeded ⟨request.requestId, request.port, output⟩ := by
  constructor
  · intro h
    rcases Option.or_eq_some_iff.mp h with hsuccess | ⟨-, hfailed⟩
    · obtain ⟨success, hread, rfl⟩ := Option.map_eq_some_iff.mp hsuccess
      obtain ⟨hid, hport, -, houtput⟩ := successfulResult_parse hread
      rw [memberOf_withOutput_port] at hport
      rw [memberOf_withOutput_requestId] at hid
      rw [memberOf_withOutput_output] at houtput
      obtain ⟨requestId, port, output⟩ := success
      cases (stable_port_value request.port).symm.trans hport
      cases hid
      exact ⟨output, houtput, rfl⟩
    · obtain ⟨failed, hread, -⟩ := Option.map_eq_some_iff.mp hfailed
      obtain ⟨-, -, hok⟩ := failedResult_parse hread
      rw [memberOf_withOutput_ok] at hok
      cases hok
  · rintro ⟨output, houtput, rfl⟩
    have hread : meaningfulTextSchema.parse (text request.requestId) = some request.requestId :=
      if_pos hrequestId
    have hobject : (strictObject (successMembers request.port)).parse (withOutput request value) =
        some ((), (), request.requestId, request.port, (), output, ()) := by
      rw [withOutput, strictObject_record rfl]
      have hfields : record (header request ++ [("output", value)]) = withOutput request value := rfl
      simp only [successMembers, resultHeader, Members.member_parse, lookup_record, hfields,
        memberOf_withOutput_contractType, memberOf_withOutput_contractVersion,
        memberOf_withOutput_requestId, memberOf_withOutput_port, memberOf_withOutput_ok,
        memberOf_withOutput_output]
      exact ⟨Schema.literal_value _, Schema.literal_value _, hread, stable_port_value _,
        Schema.flag_value _, houtput, rfl⟩
    have hsuccess : successfulResultSchema.parse (withOutput request value) =
        some ⟨request.requestId, request.port, output⟩ := by
      have hport : portSchema.parse (memberOf (withOutput request value) "port") =
          some request.port := by
        rw [memberOf_withOutput_port]
        exact stable_port_value request.port
      apply Option.bind_eq_some_iff.mpr
      exact ⟨request.port, hport,
        Option.map_eq_some_iff.mpr ⟨_, parse_successOf hobject, rfl⟩⟩
    exact Option.or_eq_some_iff.mpr (.inl (Option.map_eq_some_iff.mpr ⟨_, hsuccess, rfl⟩))

end Output

/-! ### Failures -/

section Failure

theorem stable_errorCode_value (code : LocalServiceErrorCode) :
    errorCodeSchema.parse (string code.text) = some code := by
  cases code <;> decide

theorem stable_errorCategory_value (category : LocalServiceErrorCategory) :
    errorCategorySchema.parse (string category.text) = some category := by
  cases category <;> decide

theorem meaningful_value {units : CodeUnits} (h : isMeaningful units = true) :
    meaningfulTextSchema.parse (text units) = some units := if_pos h

theorem localServiceError_value {error : LocalServiceError}
    (hmessage : isMeaningful error.message = true)
    (hkind : (error.category, error.retryable) = error.code.kind) :
    localServiceErrorSchema.parse (localServiceErrorSchema.value error) = some error := by
  have hvalue : localServiceErrorSchema.value error = record
      [("code", string error.code.text), ("category", string error.category.text),
        ("message", text error.message), ("retryable", .scalar (.bool error.retryable))] := rfl
  apply Option.filter_eq_some_iff.mpr
  refine ⟨Option.map_eq_some_iff.mpr ⟨(error.code, error.category, error.message,
    error.retryable, ()), ?_, rfl⟩, decide_eq_true hkind⟩
  rw [hvalue, strictObject_record rfl]
  simp only [Members.member_parse, lookup_record]
  simp only [memberOf_record_self, memberOf_record_of_ne, ne_eq, String.reduceEq,
    not_false_eq_true]
  exact ⟨stable_errorCode_value _, stable_errorCategory_value _, meaningful_value hmessage, rfl, rfl⟩

theorem failedResult_value {result : FailedLocalServiceResult}
    (hrequestId : isMeaningful result.requestId = true)
    (hmessage : isMeaningful result.error.message = true)
    (hkind : (result.error.category, result.error.retryable) = result.error.code.kind) :
    failedResultSchema.parse (failedResultSchema.value result) = some result := by
  have hvalue : failedResultSchema.value result = record
      [("contractType", string "local-service-result"), ("contractVersion", string "1.0"),
        ("requestId", text result.requestId), ("port", string result.port.text),
        ("ok", .scalar (.bool false)),
        ("error", localServiceErrorSchema.value result.error)] := rfl
  refine Option.map_eq_some_iff.mpr ⟨((), (), result.requestId, result.port, (),
    result.error, ()), ?_, rfl⟩
  rw [hvalue, strictObject_record rfl]
  simp only [resultHeader, Members.member_parse, lookup_record]
  simp only [memberOf_record_self, memberOf_record_of_ne, ne_eq, String.reduceEq,
    not_false_eq_true]
  exact ⟨Schema.literal_value _, Schema.literal_value _, meaningful_value hrequestId,
    stable_port_value _, Schema.flag_value _, localServiceError_value hmessage hkind, rfl⟩

/-- The contract takes every failure of the client. -/
theorem decode_failure (issuesOf : Value → List ContractIssue) (target : LocalServiceTarget)
    {requestId : CodeUnits} {code : LocalServiceErrorCode} {message : String}
    (hrequestId : isMeaningful requestId = true)
    (hmessage : isMeaningful (ofString message) = true) :
    decodeLocalServiceResultV1 issuesOf (failure target requestId code message).value =
      .ok (failure target requestId code message) := by
  apply decodeLocalServiceResultV1_eq_ok.mpr
  refine ⟨otherVersion_value _, Option.or_eq_some_iff.mpr (.inr ⟨?_, ?_⟩)⟩
  · exact congrArg (Option.map _) (successfulResult_failed _)
  · refine Option.map_eq_some_iff.mpr ⟨_, failedResult_value hrequestId hmessage ?_, rfl⟩
    cases code <;> rfl

theorem isMeaningful_append {a : CodeUnits} (h : isMeaningful a = true) (b : CodeUnits) :
    isMeaningful (a ++ b) = true := by
  rw [isMeaningful, List.any_append, Bool.or_eq_true]
  exact .inl h

theorem ofString_append (a b : String) : ofString (a ++ b) = ofString a ++ ofString b := by
  rw [ofString, String.toList_append, List.flatMap_append]
  rfl

end Failure

/-! ### Executions -/

/-- The payload that arrives: none if nothing is sent, or no JSON comes back with a success. -/
def received (platform : Platform) (target : LocalServiceTarget) (request : LocalServiceRequest) :
    Option Value :=
  match overLimit platform target request, buildUpstreamRequest target request with
  | none, .ok upstream =>
    match platform.fetch upstream with
    | .answered status payload => if 200 ≤ status ∧ status ≤ 299 then payload else none
    | .rejected _ => none
  | _, _ => none

section Execution
variable {platform : Platform} {target : LocalServiceTarget} {request : LocalServiceRequest}

/-- The result of a payload that arrives. -/
def resultOf (platform : Platform) (target : LocalServiceTarget) (request : LocalServiceRequest)
    (payload : Value) : LocalServiceResult :=
  match decodeLocalServiceResultV1 platform.issuesOf
    (mapSuccessfulResponse target request payload) with
  | .error _ => failure target request.requestId .invalidResponse "上游返回结构不符合合同"
  | .ok result => result

theorem execute_of_received (hport : target.port = request.port) {payload : Value}
    (h : received platform target request = some payload) :
    executeLocalServiceRequest platform target request =
      resultOf platform target request payload := by
  unfold received at h
  split at h
  · rename_i upstream hlimit hbuild
    split at h
    · rename_i status body hfetch
      split at h
      · rename_i hstatus
        cases h
        simp only [executeLocalServiceRequest, hlimit, hbuild, hfetch]
        rw [if_neg (not_not.mpr hport), if_neg (not_not.mpr hstatus)]
        rfl
      · cases h
    · cases h
  · cases h

/-- Without a payload the call fails, with a text that says why. -/
theorem execute_of_not_received (hport : target.port = request.port)
    (h : received platform target request = none) :
    ∃ code message, isMeaningful (ofString message) = true ∧
      executeLocalServiceRequest platform target request =
        failure target request.requestId code message := by
  simp only [executeLocalServiceRequest]
  rw [if_neg (not_not.mpr hport)]
  split
  · rename_i limit hlimit
    refine ⟨_, _, ?_, rfl⟩
    rw [ofString_append, ofString_append, ofString_append]
    refine isMeaningful_append (isMeaningful_append (isMeaningful_append ?_ _) _) _
    decide
  · rename_i hlimit
    split
    · exact ⟨_, _, by decide, rfl⟩
    · rename_i upstream hbuild
      split
      · exact ⟨_, _, by decide, rfl⟩
      · exact ⟨_, _, by decide, rfl⟩
      · rename_i status payload hfetch
        split
        · refine ⟨_, _, ?_, rfl⟩
          rw [ofString_append]
          exact isMeaningful_append (by decide) _
        · rename_i hstatus
          rw [not_not] at hstatus
          simp only [received, hlimit, hbuild, hfetch] at h
          rw [if_pos hstatus] at h
          rw [h]
          exact ⟨_, _, by decide, rfl⟩

theorem mapSuccessfulResponse_header {payload : Value} {result : LocalServiceResult}
    (h : localServiceResultSchema.parse (mapSuccessfulResponse target request payload) =
      some result) : result.requestId = request.requestId ∧ result.port = request.port := by
  obtain ⟨hid, hport⟩ := localServiceResult_parse h
  have hheader : memberOf (mapSuccessfulResponse target request payload) "requestId" =
        text request.requestId ∧
      memberOf (mapSuccessfulResponse target request payload) "port" =
        string request.port.text := by
    unfold mapSuccessfulResponse
    split
    · exact ⟨memberOf_withOutput_requestId, memberOf_withOutput_port⟩
    · split
      · split
        · rename_i hboth
          obtain ⟨hsameId, hsamePort⟩ := Bool.and_eq_true_iff.mp hboth
          exact ⟨isText_iff.mp hsameId, isText_iff.mp hsamePort⟩
        · exact ⟨memberOf_withOutput_requestId, memberOf_withOutput_port⟩
      · split
        · exact ⟨memberOf_withOutput_requestId, memberOf_withOutput_port⟩
        · exact ⟨memberOf_withOutput_requestId, memberOf_withOutput_port⟩
  rw [hheader.1] at hid
  rw [hheader.2] at hport
  constructor
  · injection hid with hscalar
    injection hscalar with hunits
    exact hunits.symm
  · exact (Option.some.inj ((stable_port_value request.port).symm.trans hport)).symm

/-- The contract takes the result again, and it is for the request. -/
theorem execute_accepted (hvalid : request.schemaHolds = true) (hport : target.port = request.port) :
    decodeLocalServiceResultV1 platform.issuesOf
        (executeLocalServiceRequest platform target request).value =
      .ok (executeLocalServiceRequest platform target request) ∧
    (executeLocalServiceRequest platform target request).requestId = request.requestId ∧
    (executeLocalServiceRequest platform target request).port = request.port := by
  have hrequestId : isMeaningful request.requestId = true := (Bool.and_eq_true_iff.mp hvalid).1
  cases hreceived : received platform target request with
  | none =>
    obtain ⟨code, message, hmessage, heq⟩ := execute_of_not_received hport hreceived
    rw [heq]
    exact ⟨decode_failure _ target hrequestId hmessage, rfl, hport⟩
  | some payload =>
    rw [execute_of_received hport hreceived]
    unfold resultOf
    split
    · exact ⟨decode_failure _ target hrequestId (by decide), rfl, hport⟩
    · rename_i result hdecoded
      obtain ⟨-, hparse⟩ := decodeLocalServiceResultV1_eq_ok.mp hdecoded
      exact ⟨decode_value hdecoded, mapSuccessfulResponse_header hparse⟩

end Execution

end ChoiceMind.LocalServices
