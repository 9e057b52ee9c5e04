import AudioStudio.Rpc.Endpoint
import AudioStudio.Rpc.JsonAccepted
import Mathlib.Data.List.ReduceOption

/-!
# The law of the JSON-RPC endpoint

Each item of a request runs its handler at most once, and its answer is a function
of the item and of what its own handler did.  A batch prints the answers in order.
-/

namespace AudioStudio.Rpc

open AudioStudio.LittleEndian JsonRpcEndpoint

variable {σ : Type}

/-! ## Requests -/

/-- Parameters of a request: null, an object or an array. -/
def isParams : JsonValue → Bool
  | .null | .object _ | .array _ => true
  | _ => false

/-- A call: version, method and parameters are right, and the id is absent or valid. -/
structure ValidItem (item : JsonValue) (method : Bytes) : Prop where
  version : item.member (asciiBytes "jsonrpc") = some (.ofText "2.0")
  method : item.member (asciiBytes "method") = some (.string method)
  id : ∀ id ∈ item.member (asciiBytes "id"), validId id = true
  params : ∀ params ∈ item.member (asciiBytes "params"), isParams params = true

/-- A call that expects no response. -/
def IsNotification (item : JsonValue) : Prop :=
  (∃ method, ValidItem item method) ∧ item.member (asciiBytes "id") = none

theorem isVersion_iff (value : JsonValue) : isVersion value = true ↔ value = .ofText "2.0" := by
  unfold isVersion JsonValue.ofText
  split
  · simp
  · next hother => exact ⟨nofun, fun heq => absurd heq (hother _)⟩

theorem requestParams_isSome_iff (item : JsonValue) :
    (requestParams item).isSome = true ↔
      ∀ params ∈ item.member (asciiBytes "params"), isParams params = true := by
  unfold requestParams
  cases item.member (asciiBytes "params") with
  | none => simp
  | some params => cases params <;> simp [isParams]

variable {item : JsonValue}

theorem isObject_of_member {value : JsonValue} {key : Bytes}
    (hmember : item.member key = some value) : item.isObject = true := by
  cases item <;> first | rfl | cases hmember

theorem idValid_iff (item : JsonValue) :
    ((item.member (asciiBytes "id")).map validId).getD true = true ↔
      ∀ id ∈ item.member (asciiBytes "id"), validId id = true := by
  cases item.member (asciiBytes "id") <;> simp

theorem hasVersion_iff (item : JsonValue) :
    (item.member (asciiBytes "jsonrpc")).all (!isVersion ·) = false ↔
      item.member (asciiBytes "jsonrpc") = some (.ofText "2.0") := by
  cases item.member (asciiBytes "jsonrpc") with
  | none => simp
  | some version => simp [isVersion_iff]

theorem checkRequest_of_valid {method : Bytes} (hvalid : ValidItem item method) :
    ∃ params, checkRequest item = .ok (method, params) := by
  obtain ⟨params, hparams⟩ :=
    Option.isSome_iff_exists.mp ((requestParams_isSome_iff item).mpr hvalid.params)
  refine ⟨params, ?_⟩
  unfold checkRequest
  dsimp only
  rw [isObject_of_member hvalid.version, if_neg (by decide), (hasVersion_iff item).mpr hvalid.version,
    if_neg (by decide), hvalid.method]
  dsimp only
  rw [(idValid_iff item).mpr hvalid.id, if_neg (by decide), hparams]

/-- A request passes the checks exactly when it is a call. -/
theorem valid_of_checkRequest {params : JsonValue} {method : Bytes}
    (hcheck : checkRequest item = .ok (method, params)) : ValidItem item method := by
  unfold checkRequest at hcheck
  dsimp only at hcheck
  split at hcheck
  · cases hcheck
  split at hcheck
  · cases hcheck
  next hversion =>
  split at hcheck
  · next hmethod =>
      split at hcheck
      · cases hcheck
      next hid =>
      split at hcheck
      · cases hcheck
      · next hparams =>
          cases hcheck
          exact
            { version := (hasVersion_iff item).mp (Bool.not_eq_true _ ▸ hversion)
              method := hmethod
              id := (idValid_iff item).mp (Bool.not_eq_false _ ▸ hid)
              params := (requestParams_isSome_iff item).mp (by rw [hparams]; rfl) }
  · cases hcheck

/-! ## Answers -/

/-- What the endpoint answers to an item whose handler did `outcome`, if it ran. -/
def answer (item : JsonValue) (outcome : Option Outcome) : Option JsonValue :=
  match checkRequest item, outcome with
  | .error response, _ => some response
  | .ok _, some outcome => settle item outcome
  | .ok _, none => none

/-- The handler of an item, run once when the item is a call. -/
def handlerRun (endpoint : JsonRpcEndpoint σ) (item : JsonValue) : StateM σ (Option Outcome) :=
  match checkRequest item with
  | .error _ => return none
  | .ok (method, params) => do
      let outcome ← endpoint.invoke method params
      return some outcome

theorem handleSingleRequest_eq (endpoint : JsonRpcEndpoint σ) (item : JsonValue) (state : σ) :
    endpoint.handleSingleRequest item state =
      (answer item (handlerRun endpoint item state).1, (handlerRun endpoint item state).2) := by
  unfold handleSingleRequest handlerRun answer
  cases hcheck : checkRequest item with
  | error response => rfl
  | ok call => rfl

/-- What an answer owes its item: silence exactly for a notification, and otherwise
the item's id and one of a result and an error. -/
structure AnswerLaw (item : JsonValue) (answer : Option JsonValue) : Prop where
  silent : answer = none ↔ IsNotification item
  id : ∀ response ∈ answer, ∀ id, item.member (asciiBytes "id") = some id → validId id = true →
    response.member (asciiBytes "id") = some id
  noId : ∀ response ∈ answer,
    (∀ id, item.member (asciiBytes "id") = some id → validId id = false) →
      response.member (asciiBytes "id") = some .null
  one : ∀ response ∈ answer, (response.member (asciiBytes "result")).isSome =
    !(response.member (asciiBytes "error")).isSome

@[simp] theorem errorResponse_id (id : JsonValue) (code : Int) (message : Bytes) :
    (errorResponse id code message).member (asciiBytes "id") = some id := rfl

@[simp] theorem resultResponse_id (id result : JsonValue) :
    (resultResponse id result).member (asciiBytes "id") = some id := rfl

theorem errorResponse_one (id : JsonValue) (code : Int) (message : Bytes) :
    ((errorResponse id code message).member (asciiBytes "result")).isSome =
      !((errorResponse id code message).member (asciiBytes "error")).isSome := rfl

theorem resultResponse_one (id result : JsonValue) :
    ((resultResponse id result).member (asciiBytes "result")).isSome =
      !((resultResponse id result).member (asciiBytes "error")).isSome := rfl

theorem responseId_of_valid {id : JsonValue} (hid : item.member (asciiBytes "id") = some id)
    (hvalid : validId id = true) : responseIdFromRequest item = id := by
  unfold responseIdFromRequest
  rw [hid]
  dsimp only
  rw [if_pos hvalid]

theorem responseId_of_invalid
    (hinvalid : ∀ id, item.member (asciiBytes "id") = some id → validId id = false) :
    responseIdFromRequest item = .null := by
  unfold responseIdFromRequest
  cases hid : item.member (asciiBytes "id") with
  | none => rfl
  | some id =>
      dsimp only
      rw [hinvalid id hid]
      rfl

variable {response : JsonValue}

/-- Every refusal is an error response under the id of the request. -/
theorem refusal_eq (hcheck : checkRequest item = .error response) :
    ∃ code message, response = errorResponse (responseIdFromRequest item) code message := by
  unfold checkRequest at hcheck
  dsimp only at hcheck
  split at hcheck
  · next hobject =>
      cases hcheck
      have hmember : ∀ id, item.member (asciiBytes "id") = some id → validId id = false := by
        intro id hid
        rw [isObject_of_member hid] at hobject
        cases hobject
      rw [responseId_of_invalid hmember]
      exact ⟨_, _, rfl⟩
  split at hcheck
  · cases hcheck
    exact ⟨_, _, rfl⟩
  split at hcheck
  · split at hcheck
    · next hid =>
        cases hcheck
        have hmember : ∀ id, item.member (asciiBytes "id") = some id → validId id = false := by
          intro id hsome
          rw [hsome] at hid
          exact hid
        rw [responseId_of_invalid hmember]
        exact ⟨_, _, rfl⟩
    split at hcheck
    · cases hcheck
      exact ⟨_, _, rfl⟩
    · cases hcheck
  · cases hcheck
    exact ⟨_, _, rfl⟩

theorem AnswerLaw.of_response (hloud : ¬ IsNotification item)
    (hid : response.member (asciiBytes "id") = some (responseIdFromRequest item))
    (hone : (response.member (asciiBytes "result")).isSome =
      !(response.member (asciiBytes "error")).isSome) : AnswerLaw item (some response) where
  silent := ⟨nofun, fun hnotification => absurd hnotification hloud⟩
  id := by
    rintro _ ⟨rfl⟩ id hmember hvalid
    rw [hid, responseId_of_valid hmember hvalid]
  noId := by
    rintro _ ⟨rfl⟩ hinvalid
    rw [hid, responseId_of_invalid hinvalid]
  one := by
    rintro _ ⟨rfl⟩
    exact hone

/-- The handler ran exactly when the item is a call. -/
def Ran (item : JsonValue) (outcome : Option Outcome) : Prop :=
  outcome.isSome = true ↔ ∃ method, ValidItem item method

theorem answer_law {outcome : Option Outcome} (hran : Ran item outcome) :
    AnswerLaw item (answer item outcome) := by
  unfold answer
  cases hcheck : checkRequest item with
  | error response =>
      obtain ⟨code, message, rfl⟩ := refusal_eq hcheck
      refine AnswerLaw.of_response ?_ rfl (errorResponse_one _ _ _)
      rintro ⟨⟨method, hvalid⟩, _⟩
      obtain ⟨params, hok⟩ := checkRequest_of_valid hvalid
      rw [hcheck] at hok
      cases hok
  | ok call =>
      obtain ⟨method, params⟩ := call
      have hvalid := valid_of_checkRequest hcheck
      obtain ⟨did, rfl⟩ := Option.isSome_iff_exists.mp (hran.mpr ⟨method, hvalid⟩)
      dsimp only
      unfold settle
      cases hid : item.member (asciiBytes "id") with
      | none =>
          exact
            { silent := ⟨fun _ => ⟨⟨method, hvalid⟩, hid⟩, fun _ => rfl⟩
              id := nofun
              noId := nofun
              one := nofun }
      | some id =>
          have hloud : ¬ IsNotification item := by
            rintro ⟨_, hnone⟩
            rw [hid] at hnone
            cases hnone
          have hresponseId := responseId_of_valid hid (hvalid.id id hid)
          dsimp only
          split
          · refine AnswerLaw.of_response hloud ?_ (resultResponse_one _ _)
            rw [resultResponse_id, hresponseId]
          · exact AnswerLaw.of_response hloud rfl (errorResponse_one _ _ _)
          · exact AnswerLaw.of_response hloud rfl (errorResponse_one _ _ _)
          · exact AnswerLaw.of_response hloud rfl (errorResponse_one _ _ _)

theorem handlerRun_ran (endpoint : JsonRpcEndpoint σ) (item : JsonValue) (state : σ) :
    Ran item (handlerRun endpoint item state).1 := by
  unfold handlerRun
  cases hcheck : checkRequest item with
  | error response =>
      refine ⟨nofun, ?_⟩
      rintro ⟨method, hvalid⟩
      obtain ⟨params, hok⟩ := checkRequest_of_valid hvalid
      rw [hcheck] at hok
      cases hok
  | ok call => exact ⟨fun _ => ⟨call.1, valid_of_checkRequest hcheck⟩, fun _ => rfl⟩

/-- The text of one answer. -/
def answerText : Option JsonValue → Bytes
  | none => []
  | some response => response.dump

end AudioStudio.Rpc
