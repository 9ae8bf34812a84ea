import DoclingServeRay.Lib.Services
import DoclingServeRay.Facade.Tenancy
import DoclingServeRay.Facade.SingleUse
import Mathlib.Tactic.Linarith
import Mathlib.Tactic.FieldSimp

/-! The synchronous endpoint (`convert_file_sync`): it submits like the
asynchronous one, polls docling-serve until the task has ended or the time is up
(`wait_for_completion`), and answers like a fetch of the result. -/
namespace DoclingServeRay.Facade
open Strings Calls

/-! ### Waiting -/

/-- The settings of the poll loop. -/
structure WaitSettings where
  syncPollIntervalSeconds : ℚ := 2
  maxSyncWaitSeconds : ℚ := 120

inductive WaitCall where
  /-- `time.monotonic()`. -/
  | monotonic
  | statusPoll (taskId : Text) (headers : Headers) (wait : ℚ)

@[reducible] def WaitCall.Answer : WaitCall → Type
  | .monotonic => ℚ
  | .statusPoll _ _ _ => HttpResponse

abbrev WaitOperation := Program WaitCall WaitCall.Answer Raised

/-- `response.raise_for_status()`; `statusText` is what httpx says of a response
that is no success. -/
def raiseForStatus (statusText : HttpResponse → Text) (response : HttpResponse) :
    WaitOperation Unit :=
  if 200 ≤ response.statusCode ∧ response.statusCode < 300 then .done ()
  else .raise (.transport (statusText response))

/-- `response.json()['task_status'] in {'success', 'failure'}`; `none` where
reading or hashing raises. -/
def isTerminal? (response : HttpResponse) : Option Bool :=
  (response.json.bind (·.get? "task_status".toList)).bind fun status =>
    match status with
    | .text status => some (status = "success".toList || status = "failure".toList)
    | .array _ => none
    | .object _ => none
    | _ => some false

/-- The loop of `wait_for_completion`, for at most so many rounds; `none` when
they have run out. -/
def waitLoop (statusText : HttpResponse → Text) (waiting : WaitSettings) (taskId : Text)
    (headers : Headers) (deadline : ℚ) : Nat → WaitOperation (Option Bool)
  | 0 => pure none
  | rounds + 1 => do
    let now : ℚ ← Program.perform WaitCall.monotonic
    if now < deadline then
      let response : HttpResponse ← Program.perform
        (WaitCall.statusPoll taskId headers waiting.syncPollIntervalSeconds)
      raiseForStatus statusText response
      match isTerminal? response with
      | some true => pure (some true)
      | some false => waitLoop statusText waiting taskId headers deadline rounds
      | none => .raise .other
    else pure (some false)

def waitForCompletion (statusText : HttpResponse → Text) (settings : Settings)
    (waiting : WaitSettings) (taskId : Text) (tenantId : Option Text) (rounds : Nat) :
    WaitOperation (Option Bool) :=
  Program.mapError translated do
    let now : ℚ ← Program.perform WaitCall.monotonic
    waitLoop statusText waiting taskId (tenantHeaders settings tenantId)
      (now + waiting.maxSyncWaitSeconds) rounds

/-- What becomes of a call: the clock shows a time, or a poll takes a while. -/
inductive WaitOutcome where
  | reads (now : ℚ)
  | polled (seconds : ℚ) (response : HttpResponse)
  | failed (seconds : ℚ) (error : Raised)

/-- The clock does not go back. -/
def serveWait (now : ℚ) : WaitOutcome → (call : WaitCall) → Option (Except Raised call.Answer × ℚ)
  | .reads later, .monotonic => if now ≤ later then some (.ok later, later) else none
  | .polled seconds response, .statusPoll _ _ _ =>
    if 0 ≤ seconds then some (.ok response, now + seconds) else none
  | .failed seconds error, .statusPoll _ _ _ =>
    if 0 ≤ seconds then some (.error error, now + seconds) else none
  | _, _ => none

/-! ### The endpoint -/

/-- The answer of `convert_file_sync` once the time is up. -/
def takingTooLong (codec : Codec) (waiting : WaitSettings) : Raised :=
  .http 504 ("Conversion is taking too long. The maximum wait time is ".toList ++
    "configured as FACADE_MAX_SYNC_WAIT_SECONDS=".toList ++
    formatted codec (.number waiting.maxSyncWaitSeconds) ++ ".".toList)

/-- The facade's own calls, and those of its wait. -/
abbrev SyncOperation := Program (Call ⊕ WaitCall) (Sum.elim Call.Answer WaitCall.Answer) Raised

/-- `convert_file_sync` from the end of the wait on. -/
def finishSync (codec : Codec) (settings : Settings) (waiting : WaitSettings) (taskId : Text)
    (tenantId : Option Text) : Option Bool → SyncOperation (Option Ended)
  | none => pure none
  | some false => .raise (takingTooLong codec waiting)
  | some true => do
    let answered ← (getResult codec settings taskId tenantId).onFirst
    pure (some answered)

/-- The first part is the same as in `convert_file_async`, and the last one is
`get_result`. -/
def convertFileSync (codec : Codec) (settings : Settings) (statusText : HttpResponse → Text)
    (waiting : WaitSettings) (requestId : Text) (form : Form) (tenantId : Option Text)
    (rounds : Nat) : SyncOperation (Option Ended) := do
  let task ← (convertFileAsync codec settings requestId form tenantId).onFirst
  let completed ←
    (waitForCompletion statusText settings waiting task.taskId tenantId rounds).onSecond
  finishSync codec settings waiting task.taskId tenantId completed

/-- The service of the synchronous endpoint. -/
def serveSync := besides serve serveWait

/-! ### A round of the loop -/

section Rounds

variable {statusText : HttpResponse → Text} {waiting : WaitSettings} {taskId : Text}
  {headers : Headers} {deadline now : ℚ} {rounds : Nat}

/-- The clock is read, and there was no time left, or a poll that failed, could
not be read, found the task ended, or found it in progress. -/
inductive Round (statusText : HttpResponse → Text) (waiting : WaitSettings) (taskId : Text)
    (headers : Headers) (deadline now : ℚ) (rounds : Nat) :
    List WaitOutcome → Except Raised (Option Bool) → ℚ → Prop where
  | late (passed : now ≤ later) (spent : deadline ≤ later) :
      Round statusText waiting taskId headers deadline now rounds [.reads later] (.ok (some false))
        later
  | failed (passed : now ≤ later) (left : later < deadline) (took : 0 ≤ seconds) :
      Round statusText waiting taskId headers deadline now rounds
        [.reads later, .failed seconds error] (.error error) (later + seconds)
  | unread (passed : now ≤ later) (left : later < deadline) (took : 0 ≤ seconds) (error : Raised) :
      Round statusText waiting taskId headers deadline now rounds
        [.reads later, .polled seconds response] (.error error) (later + seconds)
  | completed (passed : now ≤ later) (left : later < deadline) (took : 0 ≤ seconds)
      (terminal : isTerminal? response = some true) :
      Round statusText waiting taskId headers deadline now rounds
        [.reads later, .polled seconds response] (.ok (some true)) (later + seconds)
  | again (passed : now ≤ later) (left : later < deadline) (took : 0 ≤ seconds)
      (running : isTerminal? response = some false)
      (onward : Program.run serveWait (later + seconds)
        (waitLoop statusText waiting taskId headers deadline rounds) rest = some (ended, after)) :
      Round statusText waiting taskId headers deadline now rounds
        (.reads later :: .polled seconds response :: rest) ended after

theorem monotonic_served (served : serveWait now outcome .monotonic = some (answer, after)) :
    outcome = .reads after ∧ now ≤ after ∧ answer = .ok after := by
  cases outcome with
  | reads later =>
    simp only [serveWait, Option.ite_none_right_eq_some, Option.some.injEq, Prod.mk.injEq] at served
    obtain ⟨passed, rfl, rfl⟩ := served
    exact ⟨rfl, passed, rfl⟩
  | polled seconds response => cases served
  | failed seconds error => cases served

theorem poll_served
    (served : serveWait now outcome (.statusPoll taskId headers wait) = some (answer, after)) :
    (∃ seconds response, outcome = .polled seconds response ∧ 0 ≤ seconds ∧
      answer = .ok response ∧ after = now + seconds) ∨
    ∃ seconds error, outcome = .failed seconds error ∧ 0 ≤ seconds ∧ answer = .error error ∧
      after = now + seconds := by
  cases outcome with
  | reads later => cases served
  | polled seconds response =>
    simp only [serveWait, Option.ite_none_right_eq_some, Option.some.injEq, Prod.mk.injEq] at served
    obtain ⟨took, rfl, rfl⟩ := served
    exact Or.inl ⟨seconds, response, rfl, took, rfl, rfl⟩
  | failed seconds error =>
    simp only [serveWait, Option.ite_none_right_eq_some, Option.some.injEq, Prod.mk.injEq] at served
    obtain ⟨took, rfl, rfl⟩ := served
    exact Or.inr ⟨seconds, error, rfl, took, rfl, rfl⟩

theorem waitLoop_round (ran : Program.run serveWait now
      (waitLoop statusText waiting taskId headers deadline (rounds + 1)) outcomes =
        some (result, final)) :
    Round statusText waiting taskId headers deadline now rounds outcomes result final := by
  rw [waitLoop] at ran
  obtain ⟨outcome, rest, answer, later, rfl, served, onward⟩ := Program.run_call.mp ran
  obtain ⟨rfl, passed, rfl⟩ := monotonic_served served
  change Program.run serveWait later (if later < deadline then _ else _) rest = _ at onward
  by_cases left : later < deadline
  · rw [if_pos left] at onward
    obtain ⟨outcome, rest, answer, after, rfl, polled, onward⟩ := Program.run_call.mp onward
    rcases poll_served polled with
      ⟨seconds, response, rfl, took, rfl, rfl⟩ | ⟨seconds, error, rfl, took, rfl, rfl⟩
    · change Program.run serveWait _ (raiseForStatus statusText response >>= fun _ => _) rest = _
        at onward
      unfold raiseForStatus at onward
      split at onward
      · rw [Program.done_bind] at onward
        cases read : isTerminal? response with
        | none =>
          rw [read] at onward
          obtain ⟨rfl, rfl, rfl⟩ := Program.run_raise.mp onward
          exact .unread passed left took .other
        | some terminal =>
          rw [read] at onward
          cases terminal with
          | true =>
            obtain ⟨rfl, rfl, rfl⟩ := Program.run_done.mp onward
            exact .completed passed left took read
          | false => exact .again passed left took read onward
      · obtain ⟨rfl, rfl, rfl⟩ := Program.run_raise.mp onward
        exact .unread passed left took _
    · obtain ⟨rfl, rfl, rfl⟩ := Program.run_raise.mp onward
      exact .failed passed left took
  · rw [if_neg left] at onward
    obtain ⟨rfl, rfl, rfl⟩ := Program.run_done.mp onward
    exact .late passed (not_lt.mp left)

end Rounds

/-! ### The whole wait -/

def WaitOutcome.response? : WaitOutcome → Option HttpResponse
  | .polled _ response => some response
  | _ => none

/-- The answers that docling-serve gave to the polls, oldest first. -/
def responses (outcomes : List WaitOutcome) : List HttpResponse :=
  outcomes.filterMap WaitOutcome.response?

theorem responses_round (later seconds : ℚ) (response : HttpResponse) (rest : List WaitOutcome) :
    responses (.reads later :: .polled seconds response :: rest) = response :: responses rest := by
  rfl

/-- Every poll takes at least so long. -/
def Paced (pace : ℚ) (outcomes : List WaitOutcome) : Prop :=
  ∀ seconds response, WaitOutcome.polled seconds response ∈ outcomes → pace ≤ seconds

/-- How a wait can end that started at this time: it has made no more polls than
there was time for, its time is up, or the last poll found the task ended. -/
structure WaitEnds (deadline pace now : ℚ) (rounds : Nat) (polls : List HttpResponse)
    (result : Except Raised (Option Bool)) (final : ℚ) : Prop where
  exhausted : result = .ok none → rounds = 0 ∨ now + (rounds - 1) * pace < deadline
  few : polls = [] ∨ now + (polls.length - 1) * pace < deadline
  timedOut : result = .ok (some false) →
    deadline ≤ final ∧ ∀ response ∈ polls, isTerminal? response = some false
  completed : result = .ok (some true) → ∃ earlier last, polls = earlier ++ [last] ∧
    isTerminal? last = some true ∧ ∀ response ∈ earlier, isTerminal? response = some false

section Ends

variable {statusText : HttpResponse → Text} {waiting : WaitSettings} {taskId : Text}
  {headers : Headers} {deadline pace now : ℚ} {rounds : Nat}

/-- A round with a poll leaves the rest of the wait less time. -/
theorem waitEnds_again (passed : now ≤ later) (left : later < deadline)
    (took : pace ≤ seconds) (running : isTerminal? response = some false)
    (ends : WaitEnds deadline pace (later + seconds) rounds polls result final) :
    WaitEnds deadline pace now (rounds + 1) (response :: polls) result final where
  exhausted := by
    intro none
    refine Or.inr ?_
    rcases ends.exhausted none with rfl | sooner
    · simp only [zero_add, Nat.cast_one, sub_self, zero_mul, add_zero]
      linarith
    · push_cast
      linarith
  few := by
    refine Or.inr ?_
    rcases ends.few with rfl | sooner
    · simp only [List.length_cons, List.length_nil, zero_add, Nat.cast_one, sub_self, zero_mul,
        add_zero]
      linarith
    · rw [List.length_cons]
      push_cast
      linarith
  timedOut := by
    intro spent
    obtain ⟨past, all⟩ := ends.timedOut spent
    refine ⟨past, ?_⟩
    intro other member
    rcases List.mem_cons.mp member with rfl | later
    · exact running
    · exact all other later
  completed := by
    intro done
    obtain ⟨earlier, last, rfl, terminal, all⟩ := ends.completed done
    refine ⟨response :: earlier, last, rfl, terminal, ?_⟩
    intro other member
    rcases List.mem_cons.mp member with rfl | later
    · exact running
    · exact all other later

theorem waitLoop_ends (paced : Paced pace outcomes)
    (ran : Program.run serveWait now (waitLoop statusText waiting taskId headers deadline rounds)
      outcomes = some (result, final)) :
    WaitEnds deadline pace now rounds (responses outcomes) result final := by
  induction rounds generalizing now outcomes with
  | zero =>
    obtain ⟨rfl, rfl, rfl⟩ := Program.run_done.mp ran
    exact ⟨fun _ => Or.inl rfl, Or.inl rfl, nofun, nofun⟩
  | succ rounds ih =>
    cases waitLoop_round ran with
    | late passed spent => exact ⟨nofun, Or.inl rfl, fun _ => ⟨spent, nofun⟩, nofun⟩
    | failed passed left took => exact ⟨nofun, Or.inl rfl, nofun, nofun⟩
    | unread passed left took error =>
      refine ⟨nofun, Or.inr ?_, nofun, nofun⟩
      simp only [responses, List.filterMap_cons, WaitOutcome.response?, List.filterMap_nil,
        List.length_cons, List.length_nil, zero_add, Nat.cast_one, sub_self, zero_mul, add_zero]
      linarith
    | @completed _ seconds response passed left took terminal =>
      refine ⟨nofun, Or.inr ?_, nofun, fun _ => ⟨[], response, rfl, terminal, nofun⟩⟩
      simp only [responses, List.filterMap_cons, WaitOutcome.response?, List.filterMap_nil,
        List.length_cons, List.length_nil, zero_add, Nat.cast_one, sub_self, zero_mul, add_zero]
      linarith
    | @again later seconds response rest _ _ passed left took running onward =>
      have slow : pace ≤ seconds := paced seconds response (by simp)
      have onwards : Paced pace rest :=
        fun seconds response member => paced seconds response (by simp [member])
      rw [responses_round]
      exact waitEnds_again passed left slow running (ih onwards onward)

end Ends

/-- The wait has made no more polls than fit into the longest wait. -/
def FewPolls (waiting : WaitSettings) (pace : ℚ) (polls : List HttpResponse) : Prop :=
  polls = [] ∨ (polls.length : ℚ) < waiting.maxSyncWaitSeconds / pace + 1

/-- Where every poll takes some time, the wait ends by itself: it gives up only
when the longest wait is over and every poll has found the task in progress, and
says that the task has ended when the last poll did so, and no earlier one. -/
inductive Waited (waiting : WaitSettings) (started : ℚ) (polls : List HttpResponse) (final : ℚ) :
    Except Raised (Option Bool) → Prop where
  | failed (error : Raised) : Waited waiting started polls final (.error (translated error))
  | late (past : started + waiting.maxSyncWaitSeconds ≤ final)
      (running : ∀ response ∈ polls, isTerminal? response = some false) :
      Waited waiting started polls final (.ok (some false))
  | completed (last : polls = earlier ++ [response]) (terminal : isTerminal? response = some true)
      (running : ∀ response ∈ earlier, isTerminal? response = some false) :
      Waited waiting started polls final (.ok (some true))

theorem wait_ends {statusText : HttpResponse → Text} {settings : Settings}
    {waiting : WaitSettings} {taskId : Text} {tenantId : Option Text} {rounds : Nat}
    {pace started final : ℚ} (positive : 0 < pace) (paced : Paced pace outcomes)
    (enough : waiting.maxSyncWaitSeconds / pace + 1 ≤ rounds) (more : rounds ≠ 0)
    (ran : Program.run serveWait started
      (waitForCompletion statusText settings waiting taskId tenantId rounds) outcomes =
        some (result, final)) :
    FewPolls waiting pace (responses outcomes) ∧
      Waited waiting started (responses outcomes) final result := by
  obtain ⟨inner, inside, rfl⟩ := Program.run_mapError.mp ran
  obtain ⟨outcome, rest, answer, begun, rfl, served, onward⟩ := Program.run_call.mp inside
  obtain ⟨rfl, passed, rfl⟩ := monotonic_served served
  change Program.run serveWait begun (waitLoop statusText waiting taskId _ _ rounds) rest = _
    at onward
  have onwards : Paced pace rest :=
    fun seconds response member => paced seconds response (by simp [member])
  have ends := waitLoop_ends onwards onward
  have same : responses (.reads begun :: rest) = responses rest := rfl
  -- So many polls fit into the longest wait.
  have fits : ∀ count : ℚ, begun + (count - 1) * pace < begun + waiting.maxSyncWaitSeconds →
      count < waiting.maxSyncWaitSeconds / pace + 1 := by
    intro count sooner
    have less : (count - 1) * pace < waiting.maxSyncWaitSeconds := by linarith
    have quotient := (lt_div_iff₀ positive).mpr less
    linarith
  rw [same]
  constructor
  · rcases ends.few with nothing | sooner
    · exact Or.inl nothing
    · exact Or.inr (fits _ sooner)
  · cases inner with
    | error error => exact .failed error
    | ok completed =>
      cases completed with
      | none =>
        rcases ends.exhausted rfl with zero | sooner
        · exact absurd zero more
        · exact absurd (fits rounds sooner) (not_lt.mpr enough)
      | some completed =>
        cases completed with
        | false =>
          obtain ⟨past, running⟩ := ends.timedOut rfl
          exact .late (by linarith) running
        | true =>
          obtain ⟨earlier, last, polls, terminal, running⟩ := ends.completed rfl
          exact .completed polls terminal running

/-! ### The whole request -/

section Request

variable {codec : Codec} {settings : Settings} {statusText : HttpResponse → Text}
  {waiting : WaitSettings} {requestId : Text} {form : Form} {tenantId : Option Text}
  {rounds : Nat} {pace started : ℚ} {world : World}

/-- How a synchronous request goes: up to its wait as an asynchronous one, and
after it as a fetch of the result in the world that the submission left. -/
inductive AnswersSync (codec : Codec) (settings : Settings) (waiting : WaitSettings)
    (requestId : Text) (form : Form) (tenantId : Option Text) (pace started : ℚ) (world : World) :
    List (Outcome ⊕ WaitOutcome) → Except Raised (Option Ended) → World × ℚ → Prop where
  | rejected (submission : Program.run serve world
        (convertFileAsync codec settings requestId form tenantId) submitting =
          some (.error error, submitted)) :
      AnswersSync codec settings waiting requestId form tenantId pace started world
        (submitting.map .inl) (.error error) (submitted, started)
  | unwaited (submission : Program.run serve world
        (convertFileAsync codec settings requestId form tenantId) submitting =
          some (.ok task, submitted))
      (few : FewPolls waiting pace (responses waited)) (error : Raised) :
      AnswersSync codec settings waiting requestId form tenantId pace started world
        (submitting.map .inl ++ waited.map .inr) (.error (translated error)) (submitted, final)
  | late (submission : Program.run serve world
        (convertFileAsync codec settings requestId form tenantId) submitting =
          some (.ok task, submitted))
      (few : FewPolls waiting pace (responses waited))
      (past : started + waiting.maxSyncWaitSeconds ≤ final)
      (running : ∀ response ∈ responses waited, isTerminal? response = some false) :
      AnswersSync codec settings waiting requestId form tenantId pace started world
        (submitting.map .inl ++ waited.map .inr) (.error (takingTooLong codec waiting))
        (submitted, final)
  | fetched (submission : Program.run serve world
        (convertFileAsync codec settings requestId form tenantId) submitting =
          some (.ok task, submitted))
      (few : FewPolls waiting pace (responses waited))
      (last : responses waited = earlier ++ [response])
      (terminal : isTerminal? response = some true)
      (running : ∀ response ∈ earlier, isTerminal? response = some false)
      (fetch : Program.run serve submitted (getResult codec settings task.taskId tenantId)
        fetching = some (answer, after)) :
      AnswersSync codec settings waiting requestId form tenantId pace started world
        (submitting.map .inl ++ (waited.map .inr ++ fetching.map .inl)) (answer.map some)
        (after, final)

/-- The last part, after a wait that has ended like this. -/
theorem answersSync_waited (submission : Program.run serve world
      (convertFileAsync codec settings requestId form tenantId) submitting =
        some (.ok task, submitted))
    (few : FewPolls waiting pace (responses waited))
    (ended : Waited waiting started (responses waited) final (.ok completed))
    (ran : Program.run serveSync (submitted, final)
      (finishSync codec settings waiting task.taskId tenantId completed) rest =
        some (result, last)) :
    AnswersSync codec settings waiting requestId form tenantId pace started world
      (submitting.map .inl ++ (waited.map .inr ++ rest)) result last := by
  cases ended with
  | late past running =>
    obtain ⟨rfl, rfl, rfl⟩ := Program.run_raise.mp ran
    rw [List.append_nil]
    exact .late submission few past running
  | completed polls terminal running =>
    rcases Program.run_bind.mp ran with
      ⟨error, first, rfl⟩ | ⟨answered, middle, firsts, seconds, rfl, first, done⟩
    · obtain ⟨fetching, rfl, fetch, same⟩ := Program.run_onFirst.mp first
      obtain ⟨after, ended⟩ := last
      cases same
      exact .fetched submission few polls terminal running fetch
    · obtain ⟨fetching, rfl, fetch, same⟩ := Program.run_onFirst.mp first
      obtain ⟨rfl, rfl, rfl⟩ := Program.run_done.mp done
      obtain ⟨after, ended⟩ := last
      cases same
      rw [List.append_nil]
      exact .fetched submission few polls terminal running fetch

/-- Where every poll takes some time, a synchronous request ends by itself, and
its answer is that of the asynchronous submission and a fetch of the result as
soon as docling-serve says that the task has ended. -/
theorem sync_as_async (positive : 0 < pace)
    (enough : waiting.maxSyncWaitSeconds / pace + 1 ≤ rounds) (more : rounds ≠ 0)
    (ran : Program.run serveSync (world, started)
      (convertFileSync codec settings statusText waiting requestId form tenantId rounds)
      outcomes = some (result, final))
    (paced : ∀ seconds response, .inr (.polled seconds response) ∈ outcomes → pace ≤ seconds) :
    AnswersSync codec settings waiting requestId form tenantId pace started world outcomes
      result final := by
  unfold convertFileSync at ran
  rcases Program.run_bind.mp ran with
    ⟨error, first, rfl⟩ | ⟨task, middle, firsts, seconds, rfl, first, onward⟩
  · obtain ⟨submitting, rfl, submission, same⟩ := Program.run_onFirst.mp first
    obtain ⟨submitted, ended⟩ := final
    cases same
    exact .rejected submission
  obtain ⟨submitting, rfl, submission, same⟩ := Program.run_onFirst.mp first
  obtain ⟨submitted, begun⟩ := middle
  cases same
  rcases Program.run_bind.mp onward with
    ⟨error, second, rfl⟩ | ⟨completed, middle, seconds, rest, rfl, second, answering⟩
  · obtain ⟨waited, rfl, wait, same⟩ := Program.run_onSecond.mp second
    obtain ⟨after, ended⟩ := final
    cases same
    have timely : Paced pace waited :=
      fun seconds response member => paced seconds response (by simp [member])
    obtain ⟨few, ends⟩ := wait_ends positive timely enough more wait
    cases ends with
    | failed error => exact .unwaited submission few error
  · obtain ⟨waited, rfl, wait, same⟩ := Program.run_onSecond.mp second
    obtain ⟨after, ended⟩ := middle
    cases same
    have timely : Paced pace waited :=
      fun seconds response member => paced seconds response (by simp [member])
    obtain ⟨few, ends⟩ := wait_ends positive timely enough more wait
    exact answersSync_waited submission few ends answering

end Request

/-- docling-serve says so of the task `t`. -/
def taskReported (status : String) : HttpResponse :=
  ⟨200, [], none, [], some (.object [("task_id".toList, .text "t".toList),
    ("task_type".toList, .text "convert".toList), ("task_status".toList, .text status.toList)])⟩

/-- A file is submitted, found in progress after two seconds and converted after
four, and fetched. -/
theorem sync_as_async_fetched : ∃ result final,
    AnswersSync asciiCodec {} {} "r".toList
      [("files".toList, .file ⟨some "a.pdf".toList, []⟩)] none 2 0 ⟨.empty, .empty⟩
      [.inl .served, .inl (.responded (taskReported "pending")), .inl .served,
        .inr (.reads 0), .inr (.reads 0), .inr (.polled 2 (taskReported "started")),
        .inr (.reads 2), .inr (.polled 2 (taskReported "success")),
        .inl .served, .inl (.responded (taskReported "success"))] result final := by
  have goes : (Program.run serveSync (⟨.empty, .empty⟩, 0) (convertFileSync asciiCodec {}
      (fun _ => []) {} "r".toList [("files".toList, .file ⟨some "a.pdf".toList, []⟩)] none 61)
      [.inl .served, .inl (.responded (taskReported "pending")), .inl .served,
        .inr (.reads 0), .inr (.reads 0), .inr (.polled 2 (taskReported "started")),
        .inr (.reads 2), .inr (.polled 2 (taskReported "success")),
        .inl .served, .inl (.responded (taskReported "success"))]).isSome = true := by
    decide +kernel
  obtain ⟨⟨result, final⟩, ran⟩ := Option.isSome_iff_exists.mp goes
  refine ⟨result, final, sync_as_async (by norm_num) (by norm_num) (by norm_num) ran ?_⟩
  intro seconds response member
  simp only [List.mem_cons, Sum.inr.injEq, WaitOutcome.polled.injEq, reduceCtorEq, false_or,
    List.not_mem_nil, or_false] at member
  rcases member with ⟨rfl, _⟩ | ⟨rfl, _⟩
  · exact le_refl _
  · exact le_refl _

end DoclingServeRay.Facade
