import DoclingServeRay.Lib.EventMachine
import DoclingServeRay.Orchestration.Activities

/-! `ConvertDocumentWorkflow` as a machine. The coroutine runs from one await
to the next; its state is the workflow object, `run()`'s locals and the await it
is suspended at. An event is what Temporal delivers to it: a signal, a fired
timer, the attempts that settle the awaited activity, or a cancellation
request. -/
namespace DoclingServeRay.Orchestration
open Strings EventMachine

/-- `MAX_SUBMISSIONS`: one initial submission and three resubmits. -/
def maxSubmissions : Nat := 4

def submitRetry : RetryPolicy := ⟨5, 2, 300, none⟩

def safetyPollJitter : ℚ := 1 / 5

def checkRetry : RetryPolicy := ⟨5, 2, 30, some 3⟩

def isTaskLost (error : ActivityError) : Bool :=
  match error.cause with
  | .application cause => cause.type = some .taskLost
  | _ => false

/-- `workflow.now()`, in microseconds. -/
abbrev Instant := Nat

/-- What is fixed for one run: the worker's settings, the workflow's input and
the numbers that `workflow.random().uniform` yields, draw by draw. -/
structure Env where
  settings : Settings
  inp : ConvertInput
  uniform : Nat → ℚ
  jittered : ∀ draw, 1 - safetyPollJitter ≤ uniform draw ∧ uniform draw ≤ 1 + safetyPollJitter

/-- The activities the workflow schedules, with their arguments. -/
inductive Activity where
  | submitConversion (inp : SubmitConversionInput)
  | checkTask (taskId : Text)
  | fetchOutcome (taskId : Text)
  | collectOutputs (inp : CollectOutputsInput)
  deriving DecidableEq

inductive Command where
  | scheduleActivity (activity : Activity) (queue : Text) (startToCloseSeconds : ℕ+)
    (retry : RetryPolicy)
  | startTimer (seconds : ℚ)
  deriving DecidableEq

/-- An exception in flight in the coroutine. -/
inductive Raised where
  | application (error : ApplicationError)
  | activity (error : ActivityError)
  /-- `asyncio.CancelledError`. -/
  | cancelled
  deriving DecidableEq

inductive Outcome where
  | returned (result : ConvertResult)
  | failed (error : Raised)
  | cancelled
  deriving DecidableEq

/-- Where the coroutine is suspended, with the locals of `_wait_until_terminal`
that are still in use there, or how it ended. -/
inductive Await where
  | submitConversion
  | waitCondition (taskId : Text) (polls : Nat) (waitingSince : Instant)
  | checkTask (taskId : Text) (polls : Nat) (waitingSince : Instant)
  | fetchOutcome (taskId : Text)
  | collectOutputs (taskId : Text)
  | closed (outcome : Outcome)
  deriving DecidableEq

/-- How the coroutine ended, once it has. -/
def Await.outcome? : Await → Option Outcome
  | .closed outcome => some outcome
  | _ => none

structure WorkflowState where
  /-- `self._completed`. -/
  completed : OrderedDict Text TaskCompleted
  /-- `self._safety_polls`. -/
  safetyPolls : Nat
  /-- How many numbers were drawn from `workflow.random()`. -/
  draws : Nat
  /-- `run()`'s counter. -/
  submissions : Nat
  /-- `run()`'s local `completed`, once its wait returned. -/
  terminal : Option TaskCompleted
  cancelRequested : Bool
  /-- Everything asked of Temporal so far, oldest first. -/
  commands : List Command
  await : Await
  deriving DecidableEq

namespace WorkflowState

def issue (state : WorkflowState) (command : Command) (await : Await) : WorkflowState :=
  { state with commands := state.commands ++ [command], await := await }

end WorkflowState

/-- Temporal's test for an error that ends a cancelled run as cancelled. -/
def Raised.isCancellation : Raised → Bool
  | .application _ => false
  | .activity error => error.cause = .cancelled
  | .cancelled => true

/-- An exception leaves `run()`. -/
def raise (state : WorkflowState) (error : Raised) : WorkflowState :=
  { state with
    await := .closed (if state.cancelRequested && error.isCancellation then .cancelled
      else .failed error) }

def conversionFailed (message : Message) : Raised :=
  .application { type := some .conversionFailed, message := message, nonRetryable := true }

/-- `list(dict.fromkeys([REQUIRED_FORMAT, *inp.to_formats]))`. -/
def requestedFormats (inp : ConvertInput) : List Text :=
  (OrderedDict.fromKeys (requiredFormat :: inp.toFormats)).keys

def submitInput (inp : ConvertInput) : SubmitConversionInput where
  bucket := inp.bucket
  key := inp.key
  options := inp.options.set "to_formats".toList (.texts (requestedFormats inp))

/-- One turn of `run()`'s loop, up to its first await. -/
def submit (env : Env) (state : WorkflowState) : WorkflowState :=
  { state with submissions := state.submissions + 1 }.issue
    (.scheduleActivity (.submitConversion (submitInput env.inp)) submitTaskQueue
      env.settings.submitConversionStartToCloseSeconds submitRetry)
    .submitConversion

/-- `run()` once the wait has returned. -/
def afterWait (env : Env) (state : WorkflowState) (taskId : Text) (completed : TaskCompleted) :
    WorkflowState :=
  let state := { state with terminal := some completed }
  if completed.taskStatus = .failure then
    raise state (conversionFailed (.taskFailed taskId completed.errorMessage))
  else
    state.issue
      (.scheduleActivity (.fetchOutcome taskId) taskQueue
        env.settings.fetchOutcomeStartToCloseSeconds defaultRetry)
      (.fetchOutcome taskId)

/-- `_next_sleep`, in seconds; of an input's interval it is always a `timedelta`. -/
def nextSleep (env : Env) (draw : Nat) : ℚ := env.inp.safetyPollIntervalSeconds * env.uniform draw

/-- `_wait_until_terminal` after a `TimeoutError`, up to the await in `_check`. -/
def poll (env : Env) (state : WorkflowState) (taskId : Text) (polls : Nat)
    (waitingSince : Instant) : WorkflowState :=
  { state with safetyPolls := state.safetyPolls + 1 }.issue
    (.scheduleActivity (.checkTask taskId) taskQueue env.settings.checkTaskStartToCloseSeconds
      checkRetry)
    (.checkTask taskId (polls + 1) waitingSince)

/-- One turn of the loop in `_wait_until_terminal`. The wait is an
`asyncio.wait_for`: a timeout that is not positive expires before the condition
is looked at, and a condition that already holds starts no timer. -/
def waitCondition (env : Env) (state : WorkflowState) (taskId : Text) (polls : Nat)
    (waitingSince : Instant) : WorkflowState :=
  let timeout := nextSleep env state.draws
  let state := { state with draws := state.draws + 1 }
  if timeout ≤ 0 then poll env state taskId polls waitingSince
  else
    match state.completed.get? taskId with
    | some completed => afterWait env state taskId completed
    | none => state.issue (.startTimer timeout) (.waitCondition taskId polls waitingSince)

/-- The except clause of `_check`: only a lost task is raised on. -/
def check (result : Except ActivityError (Option TaskCompleted)) :
    Except ActivityError (Option TaskCompleted) :=
  match result with
  | .ok polled => .ok polled
  | .error error => if isTaskLost error then .error error else .ok none

/-- The except clause of `run()`'s loop. -/
def waitRaised (env : Env) (state : WorkflowState) (error : ActivityError) : WorkflowState :=
  if !isTaskLost error || maxSubmissions ≤ state.submissions then raise state (.activity error)
  else submit env state

def budgetExhausted (taskId : Text) (polls : Nat) (elapsed : Int) : Raised :=
  .application {
    type := some .pollBudgetExhausted
    message := .stillInProgress taskId polls (elapsed / 1000000)
    nonRetryable := true }

/-- `_wait_until_terminal` once `check_task` has resolved. -/
def checkReturned (env : Env) (now : Instant) (state : WorkflowState) (taskId : Text) (polls : Nat)
    (waitingSince : Instant) (result : Except ActivityError (Option TaskCompleted)) :
    WorkflowState :=
  match check result with
  | .ok (some polled) => afterWait env state taskId polled
  | .ok none =>
    if env.inp.maxSafetyPolls ≤ polls then
      raise state (budgetExhausted taskId polls (now - waitingSince))
    else waitCondition env state taskId polls waitingSince
  | .error error => waitRaised env state error

/-- `run()` once `submit_conversion` has resolved. -/
def submitReturned (env : Env) (now : Instant) (state : WorkflowState)
    (result : Except ActivityError Text) : WorkflowState :=
  match result with
  | .ok taskId => waitCondition env state taskId 0 now
  | .error error => raise state (.activity error)

/-- How many documents the counts say came to something; `none` when they
do not say. -/
def TaskOutcome.produced (outcome : TaskOutcome) : Option Int :=
  outcome.numSucceeded.map fun succeeded => succeeded + outcome.numPartiallySucceeded.getD 0

/-- `run()` once `fetch_outcome` has resolved. -/
def outcomeReturned (env : Env) (state : WorkflowState) (taskId : Text)
    (result : Except ActivityError TaskOutcome) : WorkflowState :=
  match result with
  | .error error => raise state (.activity error)
  | .ok outcome =>
    if outcome.produced = some 0 then
      raise state (conversionFailed (.convertedNothing taskId (outcome.numSucceeded.getD 0)
        outcome.numFailed env.inp.bucket env.inp.key))
    else
      state.issue
        (.scheduleActivity (.collectOutputs ⟨env.inp.bucket, env.inp.key⟩) taskQueue
          env.settings.collectOutputsStartToCloseSeconds defaultRetry)
        (.collectOutputs taskId)

/-- `run()` once `collect_outputs` has resolved. -/
def outputsReturned (state : WorkflowState) (taskId : Text)
    (result : Except ActivityError CollectedOutputs) : WorkflowState :=
  match result with
  | .error error => raise state (.activity error)
  | .ok collected =>
    if requiredFormat ∉ collected.outputs.keys then
      raise state (.application {
        type := some .missingOutputs
        message := .producedNo taskId requiredFormat (collected.outputs.keys.insertionSort (· ≤ ·))
        nonRetryable := true })
    else
      { state with await := .closed (.returned {
          taskId := taskId
          outputs := collected.outputs
          outputBucket := collected.bucket
          submissions := state.submissions
          safetyPolls := state.safetyPolls }) }

/-- The signal handler: docling retries delivery, so the first event wins. -/
def taskCompleted (state : WorkflowState) (event : TaskCompleted) : WorkflowState :=
  { state with completed := state.completed.setDefault event.taskId event }

/-- After the handler ran, the waiting coroutine looks at its condition. -/
def wake (env : Env) (state : WorkflowState) : WorkflowState :=
  match state.await with
  | .waitCondition taskId _ _ =>
    match state.completed.get? taskId with
    | some completed => afterWait env state taskId completed
    | none => state
  | _ => state

/-- A cancellation request surfaces at the await the coroutine is suspended
at: as `CancelledError` in `wait_condition`, and as an `ActivityError` caused by
the cancellation in an activity. -/
def cancelled (env : Env) (now : Instant) (state : WorkflowState) : WorkflowState :=
  let state := { state with cancelRequested := true }
  let error : ActivityError := ⟨.cancelled⟩
  match state.await with
  | .submitConversion => submitReturned env now state (.error error)
  | .waitCondition _ _ _ => raise state .cancelled
  | .checkTask taskId polls waitingSince =>
    checkReturned env now state taskId polls waitingSince (.error error)
  | .fetchOutcome taskId => outcomeReturned env state taskId (.error error)
  | .collectOutputs taskId => outputsReturned state taskId (.error error)
  | .closed _ => state

inductive Happening where
  | signal (event : TaskCompleted)
  | timerFired
  | submitResolved (attempts : List (Attempt (HttpResponse Text)))
  | checkResolved (attempts : List (Attempt (HttpResponse StatusBody)))
  | outcomeResolved (attempts : List (Attempt (HttpResponse ResultBody)))
  | outputsResolved (attempts : List (Attempt (List ListPage)))
  | cancelRequested
  deriving DecidableEq

/-- Something that reaches the workflow, and `workflow.now()` when it does. -/
structure Event where
  now : Instant
  happening : Happening
  deriving DecidableEq

/-- An event that cannot reach the workflow in this state has no successor: a
closed workflow receives nothing, and only what is pending can resolve. -/
def step (env : Env) (state : WorkflowState) (event : Event) : Option WorkflowState :=
  match event.happening, state.await with
  | _, .closed _ => none
  | .signal completed, _ => some (wake env (taskCompleted state completed))
  | .timerFired, .waitCondition taskId polls waitingSince =>
    some (poll env state taskId polls waitingSince)
  | .submitResolved attempts, .submitConversion =>
    (resolve submitRetry submitConversion attempts).map (submitReturned env event.now state)
  | .checkResolved attempts, .checkTask taskId polls waitingSince =>
    (resolve checkRetry (checkTask taskId) attempts).map
      (checkReturned env event.now state taskId polls waitingSince)
  | .outcomeResolved attempts, .fetchOutcome taskId =>
    (resolve defaultRetry (fetchOutcome taskId) attempts).map (outcomeReturned env state taskId)
  | .outputsResolved attempts, .collectOutputs taskId =>
    (resolve defaultRetry (fun pages => .ok (collectOutputs env.settings pages)) attempts).map
      (outputsReturned state taskId)
  | .cancelRequested, _ =>
    if state.cancelRequested then none else some (cancelled env event.now state)
  | _, _ => none

/-- `__init__`, and `run()` up to its first await. -/
def start (env : Env) : WorkflowState :=
  submit env {
    completed := .empty
    safetyPolls := 0
    draws := 0
    submissions := 0
    terminal := none
    cancelRequested := false
    commands := []
    await := .submitConversion }

def workflow (env : Env) : Machine WorkflowState Event := ⟨start env, step env⟩

/-! ### Concrete surroundings -/

/-- Default settings, one document and sleeps without jitter. -/
def plainEnv (interval : UInt16) (maxSafetyPolls : Int) : Env where
  settings := {}
  inp := {
    bucket := "docs".toList
    key := "a.pdf".toList
    safetyPollIntervalSeconds := interval.toNat
    maxSafetyPolls := maxSafetyPolls
    sleepable := fitsTimedelta_short interval }
  uniform := fun _ => 1
  jittered := by
    intro _
    constructor <;> decide +kernel

def signalled (taskId : Text) (status : TaskStatus) : Event :=
  ⟨0, .signal { taskId := taskId, taskStatus := status }⟩

def timedOut : Event := ⟨0, .timerFired⟩

/-- docling-serve accepts the document at the first attempt. -/
def accepted (taskId : Text) : Event := ⟨0, .submitResolved [.answered ⟨200, [], some taskId⟩]⟩

/-- docling-serve answers a safety poll at the first attempt. -/
def polledAs (status : Text) : Event :=
  ⟨0, .checkResolved [.answered ⟨200, [], some ⟨status, none⟩⟩]⟩

/-- docling-serve no longer knows the polled task. -/
def polledLost : Event := ⟨0, .checkResolved [.answered ⟨notFound, [], none⟩]⟩

/-- docling-serve has forgotten the task's result. -/
def outcomeExpired : Event := ⟨0, .outcomeResolved [.answered ⟨notFound, [], none⟩]⟩

def outcomeCounted (succeeded failed : Int) : Event :=
  ⟨0, .outcomeResolved [.answered ⟨200, [], some ⟨some succeeded, none, some failed⟩⟩]⟩

def listed (keys : List Text) : Event := ⟨0, .outputsResolved [.answered [⟨some keys⟩]]⟩

end DoclingServeRay.Orchestration
