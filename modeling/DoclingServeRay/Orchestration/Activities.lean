import DoclingServeRay.Orchestration.Models
import Mathlib.Data.List.Lex
import Mathlib.Data.List.Sort
import Mathlib.Data.Char
import Mathlib.Algebra.Order.Ring.Rat
import Mathlib.Algebra.Order.Ring.Cast

/-! The requests made of docling-serve (`docling_client.py`), the activities
that make them (`activities.py`), and how Temporal turns the attempts at one
activity into the result that the workflow sees. -/
namespace DoclingServeRay.Orchestration
open Strings

/-! ### docling_client.py -/

def callbackTokenHeader : Text := "X-Callback-Token".toList

/-- Where one document's outputs go, whichever run produces them. -/
def convertOutputPrefix (settings : Settings) (bucket key : Text) : Text :=
  settings.outputPrefix ++ bucket ++ '/' :: key ++ "/convert/".toList

structure S3Coords where
  kind : Text := "s3".toList
  endpoint : Text
  verifySsl : Bool
  accessKey : Text
  secretKey : Text
  bucket : Text
  keyPrefix : Text
  deriving DecidableEq

def s3Coords (settings : Settings) (bucket keyPrefix : Text) : S3Coords where
  endpoint := settings.s3Endpoint
  verifySsl := settings.s3VerifySsl
  accessKey := settings.s3AccessKey
  secretKey := settings.s3SecretKey
  bucket := bucket
  keyPrefix := keyPrefix

def hexDigit (value : Nat) : Char :=
  if value < 10 then Char.ofNat (48 + value) else Char.ofNat (55 + value)

/-- The characters `urllib.parse.quote` never escapes. -/
def isUnreserved (char : Char) : Bool :=
  char.isAlphanum || char = '_' || char = '.' || char = '-' || char = '~'

/-- `quote(text, safe='')`: every other character becomes the `%XX` escapes of
its UTF-8 bytes. -/
def quote (text : Text) : Text :=
  text.flatMap fun char =>
    if isUnreserved char then [char]
    else (String.utf8EncodeChar char).flatMap fun byte =>
      ['%', hexDigit (byte.toNat / 16), hexDigit (byte.toNat % 16)]

structure CallbackSpec where
  url : Text
  headers : OrderedDict Text Text
  deriving DecidableEq

/-- `text.rstrip('/')`. -/
def stripSlashes (text : Text) : Text := (text.reverse.dropWhile (· = '/')).reverse

def callbackSpecs (settings : Settings) (workflowId : Option Text) : List CallbackSpec :=
  match settings.callbackBaseUrl, workflowId with
  | some base, some id =>
    if base = [] ∨ id = [] then []
    else [{
      url := stripSlashes base ++ "/v1/callbacks/".toList ++ quote id
      headers := OrderedDict.empty.set callbackTokenHeader settings.callbackToken }]
  | _, _ => []

structure BatchConvertBody where
  sources : List S3Coords
  target : S3Coords
  options : OrderedDict Text JsonValue
  callbacks : List CallbackSpec
  deriving DecidableEq

def buildBatchConvertBody (settings : Settings) (bucket key : Text)
    (options : OrderedDict Text JsonValue) (callbacks : List CallbackSpec) : BatchConvertBody where
  sources := [s3Coords settings bucket key]
  target := s3Coords settings settings.outputBucket (convertOutputPrefix settings bucket key)
  options := options
  callbacks := callbacks

/-! ### activities.py -/

/-- `_SUFFIX_TO_FORMAT`, longest suffix first. -/
def suffixToFormat : List (Text × Text) :=
  [(".doctags.txt".toList, "doctags".toList),
   (".chunks.jsonl".toList, "chunks".toList),
   (".json".toList, "json".toList),
   (".md".toList, "md".toList),
   (".html".toList, "html".toList),
   (".dclg".toList, "doclang".toList),
   (".txt".toList, "text".toList)]

def formatOf (key : Text) : Text :=
  match firstSuffix suffixToFormat key with
  | some (_, format) => format
  | none => if '.' ∈ rsplitTail '/' key then rsplitTail '.' key else "unknown".toList

/-- A response as the activities read it. `body` is the decoded JSON with the
fields they index, `none` when reading those raises. -/
structure HttpResponse (β : Type) where
  statusCode : Nat
  text : Text
  body : Option β
  deriving DecidableEq

namespace HttpResponse

def isError (response : HttpResponse β) : Bool :=
  400 ≤ response.statusCode && response.statusCode ≤ 599

def isServerError (response : HttpResponse β) : Bool :=
  500 ≤ response.statusCode && response.statusCode ≤ 599

end HttpResponse

/-- `HTTPStatus.NOT_FOUND`. -/
def notFound : Nat := 404

/-- `HTTPStatus.TOO_MANY_REQUESTS`. -/
def tooManyRequests : Nat := 429

def raiseForUpstreamStatus (response : HttpResponse β) (action : Text) :
    Except ApplicationError Unit :=
  let detail := Message.upstream action response.statusCode (response.text.take 500)
  if !response.isError then .ok ()
  else if response.statusCode = tooManyRequests then .error { type := some .queueFull, message := detail }
  else if response.isServerError then .error { type := some .upstreamError, message := detail }
  else .error { type := some .submitRejected, message := detail, nonRetryable := true }

/-- `response.json()[...]`, which raises on a body it cannot read. -/
def readBody (response : HttpResponse β) : Except ApplicationError β :=
  match response.body with
  | some body => .ok body
  | none => .error { type := none, message := .unclassified }

/-- `submit_conversion`, from the response to its request on. The body read is
the `task_id` of the accepted task. -/
def submitConversion (response : HttpResponse Text) : Except ApplicationError Text := do
  raiseForUpstreamStatus response "submit".toList
  readBody response

/-- The fields of a status answer that `check_task` reads. -/
structure StatusBody where
  taskStatus : Text
  errorMessage : Option Text
  deriving DecidableEq

def checkTask (taskId : Text) (response : HttpResponse StatusBody) :
    Except ApplicationError (Option TaskCompleted) := do
  if response.statusCode = notFound then
    .error { type := some .taskLost, message := .noLongerKnown taskId, nonRetryable := true }
  else
    raiseForUpstreamStatus response "status poll".toList
    let status ← readBody response
    match TaskStatus.ofText status.taskStatus with
    | none => .ok none
    | some taskStatus =>
      .ok (some { taskId := taskId, taskStatus := taskStatus, errorMessage := status.errorMessage })

/-- The fields of a result that `fetch_outcome` reads; each may be missing. -/
structure ResultBody where
  numSucceeded : Option Int
  numPartiallySucceeded : Option Int
  numFailed : Option Int
  deriving DecidableEq

def fetchOutcome (taskId : Text) (response : HttpResponse ResultBody) :
    Except ApplicationError TaskOutcome := do
  if response.statusCode = notFound then
    .ok ⟨taskId, none, none, none⟩
  else
    raiseForUpstreamStatus response "result fetch".toList
    let result ← readBody response
    .ok ⟨taskId, result.numSucceeded, result.numPartiallySucceeded, result.numFailed⟩

/-- One page of an S3 listing; `Contents` is missing from an empty page. -/
structure ListPage where
  contents : Option (List Text)
  deriving DecidableEq

def listKeys (pages : List ListPage) : List Text := pages.flatMap fun page => page.contents.getD []

/-- Keys under their format, each list in the order of the keys given. -/
def groupByFormat (keys : List Text) : OrderedDict Text (List Text) :=
  OrderedDict.groupBy formatOf keys

/-- `collect_outputs`, from the pages of its listing on. -/
def collectOutputs (settings : Settings) (pages : List ListPage) : CollectedOutputs where
  bucket := settings.outputBucket
  outputs := groupByFormat ((listKeys pages).insertionSort (· ≤ ·))

/-! ### Attempts -/

variable {ρ α : Type}

structure RetryPolicy where
  initialIntervalSeconds : ℚ
  backoffCoefficient : ℚ
  maximumIntervalSeconds : ℚ
  /-- `none` is unlimited. -/
  maximumAttempts : Option Nat
  deriving DecidableEq

/-- What Temporal applies to an activity scheduled without a policy. -/
def defaultRetry : RetryPolicy := ⟨1, 2, 100, none⟩

def RetryPolicy.allows (policy : RetryPolicy) (made : Nat) : Bool :=
  match policy.maximumAttempts with
  | some limit => made < limit
  | none => true

/-- One attempt at an activity: the request was answered, raised in transport,
or ran into the start-to-close timeout. -/
inductive Attempt (ρ : Type) where
  | answered (response : ρ)
  | raised
  | timedOut
  deriving DecidableEq

/-- How one attempt ends. An exception that is not an `ApplicationError` is
wrapped as a retryable one of no known type. -/
def Attempt.outcome (activity : ρ → Except ApplicationError α) : Attempt ρ → Except ActivityCause α
  | .answered response =>
    match activity response with
    | .ok value => .ok value
    | .error error => .error (.application error)
  | .raised => .error (.application { type := none, message := .unclassified })
  | .timedOut => .error .timedOut

def ActivityCause.retryable : ActivityCause → Bool
  | .application error => !error.nonRetryable
  | .timedOut => true
  | .cancelled => false

/-- What the workflow sees after these attempts, all of them made: the first
success, or the failure of the attempt that was not retried. `none` when
Temporal would go on retrying, or would have stopped earlier. -/
def resolveFrom (policy : RetryPolicy) (activity : ρ → Except ApplicationError α) (made : Nat) :
    List (Attempt ρ) → Option (Except ActivityError α)
  | [] => none
  | attempt :: rest =>
    match attempt.outcome activity with
    | .ok value => if rest.isEmpty then some (.ok value) else none
    | .error cause =>
      if cause.retryable && policy.allows (made + 1) then resolveFrom policy activity (made + 1) rest
      else if rest.isEmpty then some (.error ⟨cause⟩) else none

def resolve (policy : RetryPolicy) (activity : ρ → Except ApplicationError α)
    (attempts : List (Attempt ρ)) : Option (Except ActivityError α) :=
  resolveFrom policy activity 0 attempts

variable {policy : RetryPolicy} {activity : ρ → Except ApplicationError α}

/-- An activity resolves to what its last attempt came to. -/
theorem resolve_last (resolved : resolve policy activity attempts = some result) :
    ∃ earlier last, attempts = earlier ++ [last] ∧
      result = (last.outcome activity).mapError ActivityError.mk := by
  have general : ∀ (remaining : List (Attempt ρ)) made,
      resolveFrom policy activity made remaining = some result →
      ∃ earlier last, remaining = earlier ++ [last] ∧
        result = (last.outcome activity).mapError ActivityError.mk := by
    intro remaining
    induction remaining with
    | nil => simp [resolveFrom]
    | cons attempt rest ih =>
      intro made
      simp only [resolveFrom]
      cases ended : attempt.outcome activity with
      | ok value =>
        intro found
        simp only [Option.ite_none_right_eq_some, List.isEmpty_iff, Option.some.injEq] at found
        obtain ⟨rfl, rfl⟩ := found
        exact ⟨[], attempt, rfl, by rw [ended]; rfl⟩
      | error cause =>
        simp only
        split
        · intro found
          obtain ⟨earlier, last, rfl, same⟩ := ih _ found
          exact ⟨attempt :: earlier, last, rfl, same⟩
        · intro found
          simp only [Option.ite_none_right_eq_some, List.isEmpty_iff, Option.some.injEq] at found
          obtain ⟨rfl, rfl⟩ := found
          exact ⟨[], attempt, rfl, by rw [ended]; rfl⟩
  exact general attempts 0 resolved

/-- Attempts never end an activity as cancelled; only a cancellation does. -/
theorem resolve_not_cancelled (resolved : resolve policy activity attempts = some (.error error)) :
    error.cause ≠ .cancelled := by
  obtain ⟨_, last, _, same⟩ := resolve_last resolved
  cases last with
  | answered response =>
    cases ended : activity response <;>
      simp_all [Attempt.outcome, Except.mapError]
  | raised => simp_all [Attempt.outcome, Except.mapError]
  | timedOut => simp_all [Attempt.outcome, Except.mapError]

end DoclingServeRay.Orchestration
