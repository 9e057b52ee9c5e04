import AudioStudio.Rpc.JsonValue

/-!
# The JSON-RPC endpoint

`JsonRpcEndpoint` of `json_rpc.cpp`: a table of methods, the checks of a request
and the response to it.  A method is a function over the state of the server, and
it returns or throws.
-/

namespace AudioStudio.Rpc

open AudioStudio.LittleEndian

/-! ## Members of a value -/

/-- `std::map::find` and `std::map::operator[]` as an assignment. -/
def lookup (key : Bytes) : JsonMembers → Option JsonValue
  | [] => none
  | (first, held) :: members => if key = first then some held else lookup key members

def assign (key : Bytes) (value : JsonValue) : JsonMembers → JsonMembers
  | [] => [(key, value)]
  | (first, held) :: members =>
      if key < first then (key, value) :: (first, held) :: members
      else if key = first then (first, value) :: members
      else (first, held) :: assign key value members

namespace JsonValue

/-- `has` and `at` in one: the member of an object. -/
def member (value : JsonValue) (key : Bytes) : Option JsonValue :=
  match value with
  | .object members => lookup key members
  | _ => none

def isObject : JsonValue → Bool
  | .object _ => true
  | _ => false

/-- The value of a call `int`. -/
def ofInt (value : Int) : JsonValue :=
  .number ((if value < 0 then [ascii '-'] else []) ++ decimalText value.natAbs)

def ofText (literal : String) : JsonValue := .string (asciiBytes literal)

end JsonValue

/-! ## Errors and responses -/

inductive JsonRpcErrorCode where
  | kParseError
  | kInvalidRequest
  | kMethodNotFound
  | kInvalidParams
  | kInternalError
  deriving DecidableEq, Repr

def JsonRpcErrorCode.numeric : JsonRpcErrorCode → Int
  | .kParseError => -32700
  | .kInvalidRequest => -32600
  | .kMethodNotFound => -32601
  | .kInvalidParams => -32602
  | .kInternalError => -32603

/-- `what()` of the parse error of a text. -/
def JsonFault.what (text : Bytes) : JsonFault → Bytes
  | .parse message remaining =>
      asciiBytes message ++ asciiBytes " at byte " ++ decimalText (text.length - remaining)
  | .spent => []

def nullId : JsonValue := .null

def validId : JsonValue → Bool
  | .null | .string _ | .number _ => true
  | _ => false

def errorObject (code : Int) (message : Bytes) : JsonValue :=
  .object (assign (asciiBytes "message") (.string message)
    (assign (asciiBytes "code") (.ofInt code) []))

def errorResponse (id : JsonValue) (code : Int) (message : Bytes) : JsonValue :=
  .object (assign (asciiBytes "error") (errorObject code message)
    (assign (asciiBytes "id") id (assign (asciiBytes "jsonrpc") (.ofText "2.0") [])))

def resultResponse (id result : JsonValue) : JsonValue :=
  .object (assign (asciiBytes "result") result
    (assign (asciiBytes "id") id (assign (asciiBytes "jsonrpc") (.ofText "2.0") [])))

def invalidRequest (message : String) : JsonValue :=
  errorResponse nullId JsonRpcErrorCode.kInvalidRequest.numeric (asciiBytes message)

def responseIdFromRequest (request : JsonValue) : JsonValue :=
  match request.member (asciiBytes "id") with
  | none => nullId
  | some id => if validId id then id else nullId

/-! ## Methods -/

/-- What a method throws: a `JsonRpcError`, another `std::exception` or anything else. -/
inductive Thrown where
  | rpc (code : Int) (message : Bytes)
  | standard (what : Bytes)
  | other
  deriving DecidableEq, Repr

abbrev Outcome := Except Thrown JsonValue

abbrev Method (σ : Type) := JsonValue → StateM σ Outcome

structure JsonRpcEndpoint (σ : Type) where
  methods : List (Bytes × Method σ) := []

namespace JsonRpcEndpoint

variable {σ : Type}

def find (endpoint : JsonRpcEndpoint σ) (name : Bytes) : Option (Method σ) :=
  (endpoint.methods.find? (·.1 = name)).map (·.2)

/-- `addMethod`; an empty `std::function` is no method. -/
def addMethod (endpoint : JsonRpcEndpoint σ) (name : Bytes) (method : Option (Method σ)) :
    Bool × JsonRpcEndpoint σ :=
  match method with
  | none => (false, endpoint)
  | some method =>
      if name = [] ∨ (asciiBytes "rpc.").isPrefixOf name ∨ (endpoint.find name).isSome then
        (false, endpoint)
      else (true, { methods := (name, method) :: endpoint.methods })

def invoke (endpoint : JsonRpcEndpoint σ) (method : Bytes) (params : JsonValue) :
    StateM σ Outcome :=
  match endpoint.find method with
  | none =>
      return .error (.rpc JsonRpcErrorCode.kMethodNotFound.numeric
        (asciiBytes "method not found: " ++ method))
  | some handler => handler params

/-- The response of the `try` block and its handlers. -/
def settle (request : JsonValue) (outcome : Outcome) : Option JsonValue :=
  let responseId := responseIdFromRequest request
  match request.member (asciiBytes "id") with
  | none => none
  | some id =>
      match outcome with
      | .ok result => some (resultResponse id result)
      | .error (.rpc code message) => some (errorResponse responseId code message)
      | .error (.standard what) =>
          some (errorResponse responseId JsonRpcErrorCode.kInternalError.numeric
            (asciiBytes "internal error: " ++ what))
      | .error .other =>
          some (errorResponse responseId JsonRpcErrorCode.kInternalError.numeric
            (asciiBytes "internal error"))

/-- The version that a request must name. -/
def isVersion : JsonValue → Bool
  | .string version => version = asciiBytes "2.0"
  | _ => false

/-- The parameters of the call: an absent or null member is an empty object. -/
def requestParams (request : JsonValue) : Option JsonValue :=
  match request.member (asciiBytes "params") with
  | none | some .null => some (.object [])
  | some (.object members) => some (.object members)
  | some (.array items) => some (.array items)
  | some _ => none

/-- The checks of `handleSingleRequest`: the response that refuses the request, or the
method and the parameters of the call. -/
def checkRequest (request : JsonValue) : Except JsonValue (Bytes × JsonValue) :=
  let refuse (id : JsonValue) (message : String) : Except JsonValue (Bytes × JsonValue) :=
    .error (errorResponse id JsonRpcErrorCode.kInvalidRequest.numeric (asciiBytes message))
  let responseId := responseIdFromRequest request
  if request.isObject = false then .error (invalidRequest "invalid request: expected object")
  else if (request.member (asciiBytes "jsonrpc")).all (!isVersion ·) then
    refuse responseId "invalid request: jsonrpc must be \"2.0\""
  else
    match request.member (asciiBytes "method") with
    | some (.string method) =>
        if ((request.member (asciiBytes "id")).map validId).getD true = false then
          refuse nullId "invalid request: id must be string, number, or null"
        else
          match requestParams request with
          | none => refuse responseId "invalid request: params must be object, array, or null"
          | some params => .ok (method, params)
    | _ => refuse responseId "invalid request: method must be a string"

/-- `handleSingleRequest`; `none` is `has_response = false`. -/
def handleSingleRequest (endpoint : JsonRpcEndpoint σ) (request : JsonValue) :
    StateM σ (Option JsonValue) :=
  match checkRequest request with
  | .error response => return some response
  | .ok (method, params) => do
      let outcome ← endpoint.invoke method params
      return settle request outcome

/-- The loop over the items of a batch. -/
def handleItems (endpoint : JsonRpcEndpoint σ) : List JsonValue → StateM σ (List JsonValue)
  | [] => return []
  | item :: items => do
      let response ← endpoint.handleSingleRequest item
      let responses ← endpoint.handleItems items
      return response.toList ++ responses

def handleRequest (endpoint : JsonRpcEndpoint σ) (requestJson : Bytes) : StateM σ Bytes :=
  match parseJson requestJson with
  | .error fault =>
      return (errorResponse nullId JsonRpcErrorCode.kParseError.numeric
        (asciiBytes "parse error: " ++ fault.what requestJson)).dump
  | .ok (.array []) => return (invalidRequest "invalid request: empty batch").dump
  | .ok (.array items) => do
      let batch ← endpoint.handleItems items
      return if batch = [] then [] else (JsonValue.array batch).dump
  | .ok request => do
      let response ← endpoint.handleSingleRequest request
      return match response with
        | none => []
        | some response => response.dump

end JsonRpcEndpoint

end AudioStudio.Rpc
