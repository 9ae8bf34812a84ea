import DoclingServeRay.Lib.OrderedDict
import DoclingServeRay.Lib.Strings
import Mathlib.Data.PNat.Defs

/-! Workflow and activity inputs and outputs (`models.py`), the worker settings
they are combined with (`config.py`), and the errors that cross the boundary
between an activity and the workflow awaiting it. -/
namespace DoclingServeRay.Orchestration
open Strings

/-- `TASK_QUEUE`: workflows and the parallel-safe activities. -/
def taskQueue : Text := "docling".toList

/-- `SUBMIT_TASK_QUEUE`: submits only. -/
def submitTaskQueue : Text := "docling-submit".toList

/-- `REQUIRED_FORMAT`: always produced, whatever the caller asks for. -/
def requiredFormat : Text := "json".toList

/-- `TASK_COMPLETED_SIGNAL`: the name the signal handler is registered under. -/
def taskCompletedSignal : Text := "task_completed".toList

def defaultToFormats : List Text := ["json".toList, "md".toList]

def defaultSafetyPollIntervalSeconds : Int := 300

def defaultMaxSafetyPolls : Int := 600

/-- `ErrorType`: `ApplicationError.type` of every classified failure. -/
inductive ErrorType where
  | queueFull
  | upstreamError
  | submitRejected
  | taskLost
  | conversionFailed
  | missingOutputs
  | pollBudgetExhausted
  deriving DecidableEq, Repr

/-- docling-serve's terminal task states. -/
inductive TaskStatus where
  | success
  | failure
  deriving DecidableEq, Repr

/-- The wire values of `TaskStatus`; a task in any other state is in progress. -/
def TaskStatus.ofText (status : Text) : Option TaskStatus :=
  if status = "success".toList then some .success
  else if status = "failure".toList then some .failure
  else none

/-- A value of the options dictionary. Only `to_formats` is read here; every
other value is forwarded as the JSON text it came as. -/
inductive JsonValue where
  | texts (items : List Text)
  | raw (json : Text)
  deriving DecidableEq

/-- The whole seconds that a `timedelta` holds, in either direction. -/
def timedeltaSeconds : Nat := 999999999 * 86400

/-- Lengthened by a fifth, an interval is still one that a `timedelta` holds. -/
def FitsTimedelta (seconds : Int) : Prop := 6 * seconds.natAbs ≤ 5 * timedeltaSeconds

instance (seconds : Int) : Decidable (FitsTimedelta seconds) :=
  inferInstanceAs (Decidable (_ ≤ _))

theorem fitsTimedelta_default : FitsTimedelta defaultSafetyPollIntervalSeconds := by
  decide

theorem fitsTimedelta_short (seconds : UInt16) : FitsTimedelta seconds.toNat := by
  have small := seconds.toNat_lt
  simp only [FitsTimedelta, timedeltaSeconds]
  omega

structure ConvertInput where
  bucket : Text
  key : Text
  toFormats : List Text := defaultToFormats
  options : OrderedDict Text JsonValue := .empty
  safetyPollIntervalSeconds : Int := defaultSafetyPollIntervalSeconds
  maxSafetyPolls : Int := defaultMaxSafetyPolls
  -- With an interval of millions of years `_next_sleep` raises `OverflowError`.
  sleepable : FitsTimedelta safetyPollIntervalSeconds := by exact fitsTimedelta_default

structure SubmitConversionInput where
  bucket : Text
  key : Text
  options : OrderedDict Text JsonValue
  deriving DecidableEq

structure CollectOutputsInput where
  bucket : Text
  key : Text
  deriving DecidableEq

/-- Terminal state of a docling task, from a signal or from a safety poll. -/
structure TaskCompleted where
  taskId : Text
  taskStatus : TaskStatus
  errorMessage : Option Text := none
  deriving DecidableEq, Repr

/-- Per-document counts of `/v1/result`; `none` once the record has expired. -/
structure TaskOutcome where
  taskId : Text
  numSucceeded : Option Int
  numPartiallySucceeded : Option Int
  numFailed : Option Int
  deriving DecidableEq, Repr

structure CollectedOutputs where
  bucket : Text
  /-- Format to S3 keys, sorted. -/
  outputs : OrderedDict Text (List Text)
  deriving DecidableEq

structure ConvertResult where
  taskId : Text
  outputs : OrderedDict Text (List Text)
  outputBucket : Text
  submissions : Nat
  safetyPolls : Nat
  deriving DecidableEq

def workflowIdForConvert (bucket key : Text) : Text :=
  "convert:".toList ++ bucket ++ '/' :: key

/-- The settings that the workflow and its activities read. -/
structure Settings where
  callbackBaseUrl : Option Text := none
  callbackToken : Text := []
  s3Endpoint : Text := "minio:9000".toList
  s3VerifySsl : Bool := false
  s3AccessKey : Text := "minioadmin".toList
  s3SecretKey : Text := "minioadmin123".toList
  outputBucket : Text := "docling-output".toList
  outputPrefix : Text := "temporal/".toList
  submitConversionStartToCloseSeconds : ℕ+ := 120
  checkTaskStartToCloseSeconds : ℕ+ := 120
  fetchOutcomeStartToCloseSeconds : ℕ+ := 120
  collectOutputsStartToCloseSeconds : ℕ+ := 300
  deriving DecidableEq

/-! ### Errors -/

/-- The texts of the errors raised here, each with what its f-string inserts. -/
inductive Message where
  /-- `{action}: HTTP {status_code}: {text[:500]}` -/
  | upstream (action : Text) (statusCode : Nat) (text : Text)
  /-- `docling-serve no longer knows task {task_id}` -/
  | noLongerKnown (taskId : Text)
  /-- The text of an exception that the activities raise without classifying it. -/
  | unclassified
  /-- `task {task_id} failed: {error_message}` -/
  | taskFailed (taskId : Text) (errorMessage : Option Text)
  /-- `task {task_id} finished but converted nothing (succeeded={num_succeeded},
  failed={num_failed}) -- is s3://{bucket}/{key} present and convertible?` -/
  | convertedNothing (taskId : Text) (succeeded : Int) (failed : Option Int) (bucket key : Text)
  /-- `task {task_id} produced no {format} output (found: {sorted formats})` -/
  | producedNo (taskId format : Text) (found : List Text)
  /-- `task {task_id} still in progress after {polls} safety polls ({elapsed})
  with no callback`; the elapsed time is cut to whole seconds -/
  | stillInProgress (taskId : Text) (polls : Nat) (elapsedSeconds : Int)
  deriving DecidableEq, Repr

/-- `type` is `none` for an exception that is not one of ours, which Temporal
wraps under its class name. -/
structure ApplicationError where
  type : Option ErrorType
  message : Message
  nonRetryable : Bool := false
  deriving DecidableEq, Repr

/-- `ActivityError.cause`. -/
inductive ActivityCause where
  | application (error : ApplicationError)
  | timedOut
  | cancelled
  deriving DecidableEq, Repr

structure ActivityError where
  cause : ActivityCause
  deriving DecidableEq, Repr

end DoclingServeRay.Orchestration
