import DoclingServeRay.Lib.Json
import DoclingServeRay.Orchestration.Models

/-! The callback relay (`relay.go`): one handler that turns a docling callback
into at most one Temporal signal, and the JSON that the signal's argument
crosses to the Python workflow as. The relay keeps no state of its own. -/
namespace DoclingServeRay.Relay
open Strings

def signalName : Text := "task_completed".toList

def tokenHeader : Text := "X-Callback-Token".toList

def kindTaskCompleted : Text := "task_completed".toList

def statusSuccess : Text := "success".toList

def statusFailure : Text := "failure".toList

/-- The signal's argument, as the relay builds it. -/
structure TaskCompleted where
  taskId : Text
  taskStatus : Text
  errorMessage : Option Text
  deriving DecidableEq

structure Failure where
  message : Text
  deriving DecidableEq

structure Progress where
  kind : Text
  taskStatus : Text
  failure : Option Failure
  deriving DecidableEq

/-- docling's callback, reduced to the fields read here. -/
structure ProgressCallback where
  taskId : Text
  progress : Progress
  deriving DecidableEq

/-! ### Decoding the request's body -/

/-- `encoding/json` matches an object's names to field names up to case
folding, in which the long s and the Kelvin sign are an `s` and a `k`. -/
def foldRune (rune : Char) : Char :=
  if rune = Char.ofNat 0x17F then 's'
  else if rune = Char.ofNat 0x212A then 'k'
  else rune.toLower

/-- Whether a member is read into the field of this tag. -/
def isField (tag : String) (name : Text) : Bool := name.map foldRune = tag.toList

/-- A `string` field: a null leaves it as it is. -/
def decodeString (held : Text) : Json → Option Text
  | .null => some held
  | .text value => some value
  | _ => none

/-- A struct field: a null leaves it as it is. -/
def decodeStruct (assign : σ → Text → Json → Option σ) (held : σ) : Json → Option σ
  | .null => some held
  | .object members => Json.assignMembers assign held members
  | _ => none

def assignFailure (held : Failure) (name : Text) (value : Json) : Option Failure :=
  if isField "message" name then
    (decodeString held.message value).map fun message => { held with message := message }
  else some held

/-- A pointer to a struct: a null clears it, an object is read into the struct
it points to. -/
def decodeFailure (held : Option Failure) : Json → Option (Option Failure)
  | .null => some none
  | value => (decodeStruct assignFailure (held.getD ⟨[]⟩) value).map some

def assignProgress (held : Progress) (name : Text) (value : Json) : Option Progress :=
  if isField "kind" name then
    (decodeString held.kind value).map fun kind => { held with kind := kind }
  else if isField "task_status" name then
    (decodeString held.taskStatus value).map fun status => { held with taskStatus := status }
  else if isField "failure" name then
    (decodeFailure held.failure value).map fun failure => { held with failure := failure }
  else some held

def assignCallback (held : ProgressCallback) (name : Text) (value : Json) :
    Option ProgressCallback :=
  if isField "task_id" name then
    (decodeString held.taskId value).map fun taskId => { held with taskId := taskId }
  else if isField "progress" name then
    (decodeStruct assignProgress held.progress value).map fun progress =>
      { held with progress := progress }
  else some held

/-- `Decode(&cb)` on one JSON value; `none` where it does not fit. -/
def decodeCallback (value : Json) : Option ProgressCallback :=
  decodeStruct assignCallback ⟨[], ⟨[], [], none⟩⟩ value

/-- The callback that docling posts, in the fields read here. -/
def payload (callback : ProgressCallback) : Json :=
  .object [
    ("task_id".toList, .text callback.taskId),
    ("progress".toList, .object [
      ("kind".toList, .text callback.progress.kind),
      ("task_status".toList, .text callback.progress.taskStatus),
      ("failure".toList, match callback.progress.failure with
        | some failure => .object [("message".toList, .text failure.message)]
        | none => .null)])]

/-! ### The handler -/

/-- What `json.NewDecoder` makes of a body of bytes, cut off at its first
mebibyte. -/
structure Decoder (β : Type) where
  /-- The first JSON value, where there is one. -/
  value : β → Option Json
  /-- The text of the error, where the body does not decode. -/
  error : β → Text

/-- A POST to `/v1/callbacks/{workflowID}`, with the path segment unescaped and
the headers under their canonical names. -/
structure Request (β : Type) where
  workflowId : Text
  headers : OrderedDict Text Text
  body : β

/-- `r.Header.Get`: the empty string for a header that is not there. -/
def Request.header (request : Request β) (name : Text) : Text := (request.headers.get? name).getD []

/-- One call of `SignalWorkflow`; its `runID` is empty, which names the current
run of the workflow. -/
structure SignalCall where
  workflowId : Text
  signalName : Text
  arg : TaskCompleted
  deriving DecidableEq

/-- How `SignalWorkflow` fails: with `serviceerror.NotFound`, or otherwise. -/
inductive SignalError where
  | notFound
  | other
  deriving DecidableEq

structure Reply where
  status : Nat
  contentType : Text
  body : Text
  deriving DecidableEq

/-- `http.Error`. -/
def httpError (text : Text) (status : Nat) : Reply :=
  ⟨status, "text/plain; charset=utf-8".toList, text ++ "\n".toList⟩

/-- docling's own `ProgressCallbackResponse` shape. -/
def ack : Reply := ⟨200, "application/json".toList, "\x7b\"status\":\"ack\"\x7d".toList⟩

/-- The terminal event of a callback. -/
def terminalEvent (callback : ProgressCallback) : TaskCompleted where
  taskId := callback.taskId
  taskStatus := callback.progress.taskStatus
  errorMessage := callback.progress.failure.map Failure.message

/-- `handler.callback`, with the calls it makes; `signal` is the Temporal
client. -/
def callback (token : Text) (decoder : Decoder β) (signal : SignalCall → Option SignalError)
    (request : Request β) : Reply × List SignalCall :=
  if token = [] ∨ request.header tokenHeader ≠ token then
    (httpError "invalid callback token".toList 401, [])
  else
    match (decoder.value request.body).bind decodeCallback with
    | none => (httpError ("malformed callback: ".toList ++ decoder.error request.body) 400, [])
    | some received =>
      if received.progress.kind ≠ kindTaskCompleted then (ack, [])
      else if received.taskId = [] ∨ (received.progress.taskStatus ≠ statusSuccess ∧
          received.progress.taskStatus ≠ statusFailure) then
        (httpError "task_completed callback without a task id or terminal status".toList 400, [])
      else
        let call : SignalCall := ⟨request.workflowId, signalName, terminalEvent received⟩
        match signal call with
        | none => (ack, [call])
        -- Closed or never started: nothing left to wake.
        | some .notFound => (ack, [call])
        | some .other => (httpError "temporal unavailable".toList 503, [call])

/-! ### The signal's argument on the wire -/

/-- `TaskCompleted` as JSON; an absent message is left out. -/
def encode (event : TaskCompleted) : Json :=
  .object ([("task_id".toList, .text event.taskId), ("task_status".toList, .text event.taskStatus)] ++
    event.errorMessage.toList.map fun message => ("error_message".toList, .text message))

/-- A string member of the signal's argument. -/
def textMember (argument : Json) (name : String) : Option Text :=
  match argument.get? name.toList with
  | some (.text value) => some value
  | _ => none

/-- The Python dataclass built from the argument. One without an id or without
a known status does not decode, and its signal is dropped. -/
def decodeEvent (argument : Json) : Option Orchestration.TaskCompleted := do
  let taskId ← textMember argument "task_id"
  let status ← textMember argument "task_status"
  let taskStatus ← Orchestration.TaskStatus.ofText status
  some {
    taskId := taskId
    taskStatus := taskStatus
    errorMessage := textMember argument "error_message" }

section Wire

variable (event : TaskCompleted)

@[simp] theorem taskId_encode : textMember (encode event) "task_id" = some event.taskId := by
  obtain ⟨taskId, taskStatus, errorMessage⟩ := event
  cases errorMessage <;> rfl

@[simp] theorem taskStatus_encode :
    textMember (encode event) "task_status" = some event.taskStatus := by
  obtain ⟨taskId, taskStatus, errorMessage⟩ := event
  cases errorMessage <;> rfl

@[simp] theorem errorMessage_encode :
    textMember (encode event) "error_message" = event.errorMessage := by
  obtain ⟨taskId, taskStatus, errorMessage⟩ := event
  cases errorMessage <;> rfl

/-- The argument arrives as it was sent: the same id, the same status, and a
message exactly when there was one. -/
theorem decode_encode :
    decodeEvent (encode event) =
      (Orchestration.TaskStatus.ofText event.taskStatus).map fun status =>
        { taskId := event.taskId, taskStatus := status, errorMessage := event.errorMessage } := by
  simp only [decodeEvent, taskId_encode, taskStatus_encode, errorMessage_encode,
    Option.bind_eq_bind, Option.bind_some]
  cases Orchestration.TaskStatus.ofText event.taskStatus <;> rfl

end Wire

end DoclingServeRay.Relay
