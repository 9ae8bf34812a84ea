import DoclingServeRay.Orchestration.Workflow

/-! What one event can do to a workflow, said once: which fields each piece of
the coroutine leaves alone, the cases of one step, and what an event reports
about submissions, signals and polls. Every result about runs starts here. -/
namespace DoclingServeRay.Orchestration
open Strings EventMachine

variable {env : Env} {state next : WorkflowState} {event : Event}

/-! ### Frames -/

section Frames

variable (env state) (taskId : Text) (polls : Nat) (since now : Instant) (command : Command)
  (await : Await) (report : TaskCompleted) (error : Raised)

@[simp] theorem issue_completed : (state.issue command await).completed = state.completed := rfl
@[simp] theorem issue_safetyPolls : (state.issue command await).safetyPolls = state.safetyPolls := rfl
@[simp] theorem issue_draws : (state.issue command await).draws = state.draws := rfl
@[simp] theorem issue_submissions : (state.issue command await).submissions = state.submissions := rfl
@[simp] theorem issue_terminal : (state.issue command await).terminal = state.terminal := rfl
@[simp] theorem issue_cancelRequested :
    (state.issue command await).cancelRequested = state.cancelRequested := rfl
@[simp] theorem issue_commands :
    (state.issue command await).commands = state.commands ++ [command] := rfl
@[simp] theorem issue_await : (state.issue command await).await = await := rfl

@[simp] theorem raise_completed : (raise state error).completed = state.completed := rfl
@[simp] theorem raise_safetyPolls : (raise state error).safetyPolls = state.safetyPolls := rfl
@[simp] theorem raise_submissions : (raise state error).submissions = state.submissions := rfl
@[simp] theorem raise_terminal : (raise state error).terminal = state.terminal := rfl
@[simp] theorem raise_commands : (raise state error).commands = state.commands := rfl
@[simp] theorem raise_cancelRequested :
    (raise state error).cancelRequested = state.cancelRequested := rfl

theorem raise_await (calm : state.cancelRequested = false) :
    (raise state error).await = .closed (.failed error) := by
  simp [raise, calm]

@[simp] theorem submit_completed : (submit env state).completed = state.completed := rfl
@[simp] theorem submit_commands :
    (submit env state).commands = state.commands ++
      [.scheduleActivity (.submitConversion (submitInput env.inp)) submitTaskQueue
        env.settings.submitConversionStartToCloseSeconds submitRetry] := rfl
@[simp] theorem submit_await : (submit env state).await = .submitConversion := rfl
@[simp] theorem submit_submissions : (submit env state).submissions = state.submissions + 1 := rfl
@[simp] theorem submit_safetyPolls : (submit env state).safetyPolls = state.safetyPolls := rfl
@[simp] theorem submit_terminal : (submit env state).terminal = state.terminal := rfl
@[simp] theorem submit_cancelRequested :
    (submit env state).cancelRequested = state.cancelRequested := rfl

@[simp] theorem poll_completed : (poll env state taskId polls since).completed = state.completed := rfl
@[simp] theorem poll_commands :
    (poll env state taskId polls since).commands = state.commands ++
      [.scheduleActivity (.checkTask taskId) taskQueue env.settings.checkTaskStartToCloseSeconds
        checkRetry] := rfl
@[simp] theorem poll_await :
    (poll env state taskId polls since).await = .checkTask taskId (polls + 1) since := rfl
@[simp] theorem poll_submissions :
    (poll env state taskId polls since).submissions = state.submissions := rfl
@[simp] theorem poll_safetyPolls :
    (poll env state taskId polls since).safetyPolls = state.safetyPolls + 1 := rfl
@[simp] theorem poll_terminal : (poll env state taskId polls since).terminal = state.terminal := rfl
@[simp] theorem poll_cancelRequested :
    (poll env state taskId polls since).cancelRequested = state.cancelRequested := rfl

@[simp] theorem afterWait_completed :
    (afterWait env state taskId report).completed = state.completed := by
  unfold afterWait
  split <;> rfl

@[simp] theorem afterWait_submissions :
    (afterWait env state taskId report).submissions = state.submissions := by
  unfold afterWait
  split <;> rfl

@[simp] theorem afterWait_safetyPolls :
    (afterWait env state taskId report).safetyPolls = state.safetyPolls := by
  unfold afterWait
  split <;> rfl

@[simp] theorem afterWait_terminal : (afterWait env state taskId report).terminal = some report := by
  unfold afterWait
  split <;> rfl

@[simp] theorem afterWait_cancelRequested :
    (afterWait env state taskId report).cancelRequested = state.cancelRequested := by
  unfold afterWait
  split <;> rfl

end Frames

/-! ### How a run fails -/

/-- The run has failed with `PollBudgetExhausted`. -/
def Outcome.isExhaustion : Outcome → Bool
  | .failed (.application error) => error.type = some .pollBudgetExhausted
  | _ => false

/-- The run has failed with `TaskLost`. -/
def Outcome.isLoss : Outcome → Bool
  | .failed (.activity error) => isTaskLost error
  | _ => false

/-! ### The cases of a piece of the coroutine -/

/-- A wait either polls at once, returns at once, or sleeps. -/
inductive WaitTurn (env : Env) (state : WorkflowState) (taskId : Text) (polls : Nat)
    (since : Instant) : WorkflowState → Prop where
  | expired (spent : nextSleep env state.draws ≤ 0) :
      WaitTurn env state taskId polls since
        (poll env { state with draws := state.draws + 1 } taskId polls since)
  | reported (positive : 0 < nextSleep env state.draws)
      (held : state.completed.get? taskId = some report) :
      WaitTurn env state taskId polls since
        (afterWait env { state with draws := state.draws + 1 } taskId report)
  | slept (positive : 0 < nextSleep env state.draws) (absent : state.completed.get? taskId = none) :
      WaitTurn env state taskId polls since
        ({ state with draws := state.draws + 1 }.issue (.startTimer (nextSleep env state.draws))
          (.waitCondition taskId polls since))

theorem waitCondition_turn (env : Env) (state : WorkflowState) (taskId : Text) (polls : Nat)
    (since : Instant) :
    WaitTurn env state taskId polls since (waitCondition env state taskId polls since) := by
  unfold waitCondition
  by_cases spent : nextSleep env state.draws ≤ 0
  · simp only [spent, ↓reduceIte]
    exact .expired spent
  · simp only [spent, ↓reduceIte]
    cases held : state.completed.get? taskId with
    | some report => exact .reported (Rat.not_le.mp spent) held
    | none => exact .slept (Rat.not_le.mp spent) held

/-- Everything one event can do. The workflow is not closed, and what resolves
is what was pending. -/
inductive Turn (env : Env) (state : WorkflowState) : Event → WorkflowState → Prop where
  | signal (running : ∀ outcome, state.await ≠ .closed outcome) :
      Turn env state ⟨now, .signal report⟩ (wake env (taskCompleted state report))
  | timer (waiting : state.await = .waitCondition taskId polls since) :
      Turn env state ⟨now, .timerFired⟩ (poll env state taskId polls since)
  | submitted (pending : state.await = .submitConversion)
      (resolved : resolve submitRetry submitConversion attempts = some result) :
      Turn env state ⟨now, .submitResolved attempts⟩ (submitReturned env now state result)
  | checked (pending : state.await = .checkTask taskId polls since)
      (resolved : resolve checkRetry (checkTask taskId) attempts = some result) :
      Turn env state ⟨now, .checkResolved attempts⟩
        (checkReturned env now state taskId polls since result)
  | fetched (pending : state.await = .fetchOutcome taskId)
      (resolved : resolve defaultRetry (fetchOutcome taskId) attempts = some result) :
      Turn env state ⟨now, .outcomeResolved attempts⟩ (outcomeReturned env state taskId result)
  | collected (pending : state.await = .collectOutputs taskId)
      (resolved : resolve defaultRetry (fun pages => .ok (collectOutputs env.settings pages))
        attempts = some result) :
      Turn env state ⟨now, .outputsResolved attempts⟩ (outputsReturned state taskId result)
  | cancelled (running : ∀ outcome, state.await ≠ .closed outcome)
      (fresh : state.cancelRequested = false) :
      Turn env state ⟨now, .cancelRequested⟩ (cancelled env now state)

theorem outcome_eq_some {await : Await} (ended : await.outcome? = some outcome) :
    await = .closed outcome := by
  cases await with
  | closed other =>
    cases ended
    rfl
  | _ => cases ended

theorem step_closed (ended : state.await = .closed outcome) : step env state event = none := by
  unfold step
  rw [ended]

theorem step_turn (stepped : step env state event = some next) : Turn env state event next := by
  obtain ⟨now, happening⟩ := event
  cases happening with
  | signal report =>
    cases pending : state.await <;>
      simp only [step, pending, Option.some.injEq, reduceCtorEq] at stepped <;> subst stepped <;>
      exact .signal (by simp [pending])
  | timerFired =>
    cases pending : state.await <;>
      simp only [step, pending, Option.some.injEq, reduceCtorEq] at stepped
    subst stepped
    exact .timer pending
  | submitResolved attempts =>
    cases pending : state.await <;>
      simp only [step, pending, Option.map_eq_some_iff, reduceCtorEq] at stepped
    obtain ⟨result, resolved, rfl⟩ := stepped
    exact .submitted pending resolved
  | checkResolved attempts =>
    cases pending : state.await <;>
      simp only [step, pending, Option.map_eq_some_iff, reduceCtorEq] at stepped
    obtain ⟨result, resolved, rfl⟩ := stepped
    exact .checked pending resolved
  | outcomeResolved attempts =>
    cases pending : state.await <;>
      simp only [step, pending, Option.map_eq_some_iff, reduceCtorEq] at stepped
    obtain ⟨result, resolved, rfl⟩ := stepped
    exact .fetched pending resolved
  | outputsResolved attempts =>
    cases pending : state.await <;>
      simp only [step, pending, Option.map_eq_some_iff, reduceCtorEq] at stepped
    obtain ⟨result, resolved, rfl⟩ := stepped
    exact .collected pending resolved
  | cancelRequested =>
    have fresh : state.cancelRequested = false := by
      cases requested : state.cancelRequested with
      | false => rfl
      | true => cases pending : state.await <;> simp [step, pending, requested] at stepped
    cases pending : state.await <;>
      simp only [step, pending, fresh, Bool.false_eq_true, ↓reduceIte, Option.some.injEq,
        reduceCtorEq] at stepped <;> subst stepped <;>
      exact .cancelled (by simp [pending]) fresh

/-- The cases are exactly the steps. -/
theorem turn_step (turn : Turn env state event next) : step env state event = some next := by
  cases turn with
  | signal running =>
    cases pending : state.await with
    | closed outcome => exact absurd pending (running outcome)
    | _ => simp [step, pending]
  | timer waiting => simp [step, waiting]
  | submitted pending resolved => simp [step, pending, resolved]
  | checked pending resolved => simp [step, pending, resolved]
  | fetched pending resolved => simp [step, pending, resolved]
  | collected pending resolved => simp [step, pending, resolved]
  | cancelled running fresh =>
    cases pending : state.await with
    | closed outcome => exact absurd pending (running outcome)
    | _ => simp [step, pending, fresh]

/-- To `_check` a cancellation is a failed poll. -/
theorem cancelled_check (env : Env) (now : Instant)
    (pending : state.await = .checkTask taskId polls since) :
    cancelled env now state = checkReturned env now { state with cancelRequested := true } taskId
      polls since (.error ⟨.cancelled⟩) := by
  simp [cancelled, pending]

theorem cancelled_fetch (env : Env) (now : Instant) (pending : state.await = .fetchOutcome taskId) :
    cancelled env now state =
      raise { state with cancelRequested := true } (.activity ⟨.cancelled⟩) := by
  simp [cancelled, pending, outcomeReturned]

theorem cancelled_collect (env : Env) (now : Instant)
    (pending : state.await = .collectOutputs taskId) :
    cancelled env now state =
      raise { state with cancelRequested := true } (.activity ⟨.cancelled⟩) := by
  simp [cancelled, pending, outputsReturned]

/-- A signal either is only remembered, or ends the sleep of the coroutine
that waits for it. -/
theorem wake_cases (env : Env) (state : WorkflowState) :
    (wake env state = state ∧ ∀ taskId polls since, state.await = .waitCondition taskId polls since →
      state.completed.get? taskId = none) ∨
    ∃ taskId polls since report, state.await = .waitCondition taskId polls since ∧
      state.completed.get? taskId = some report ∧ wake env state = afterWait env state taskId report := by
  cases pending : state.await with
  | waitCondition taskId polls since =>
    cases held : state.completed.get? taskId with
    | some report => exact Or.inr ⟨taskId, polls, since, report, rfl, held, by simp [wake, pending, held]⟩
    | none =>
      refine Or.inl ⟨by simp [wake, pending, held], ?_⟩
      rintro _ _ _ ⟨rfl⟩
      exact held
  | _ => exact Or.inl ⟨by simp [wake, pending], by simp⟩

/-! ### What a poll comes to -/

/-- What one safety poll comes to, whatever its attempts were. -/
inductive PollVerdict where
  | terminal
  | lost
  | inconclusive
  deriving DecidableEq, Repr

/-- Only the last attempt decides, and only an answer decides anything: a 404
says that the task is lost, and a readable terminal status that it has ended. -/
def pollVerdict (attempts : List (Attempt (HttpResponse StatusBody))) : PollVerdict :=
  match attempts.getLast? with
  | some (.answered response) =>
    if response.statusCode = notFound then .lost
    else if response.isError then .inconclusive
    else
      match response.body with
      | some body => if (TaskStatus.ofText body.taskStatus).isSome then .terminal else .inconclusive
      | none => .inconclusive
  | _ => .inconclusive

/-- What `_check` makes of a resolved poll, by its verdict. -/
inductive Polled (taskId : Text) : PollVerdict →
    Except ActivityError (Option TaskCompleted) → Prop where
  | terminal (named : report.taskId = taskId) : Polled taskId .terminal (.ok (some report))
  | lost (gone : isTaskLost error = true) : Polled taskId .lost (.error error)
  | inconclusive : Polled taskId .inconclusive (.ok none)

theorem raiseForUpstreamStatus_ok (response : HttpResponse β) (action : Text)
    (fine : response.isError = false) : raiseForUpstreamStatus response action = .ok () := by
  simp [raiseForUpstreamStatus, fine]

theorem raiseForUpstreamStatus_error (response : HttpResponse β) (action : Text)
    (failed : response.isError = true) :
    ∃ error, raiseForUpstreamStatus response action = .error error ∧
      error.type ≠ some .taskLost := by
  simp only [raiseForUpstreamStatus, failed, Bool.not_true, Bool.false_eq_true, ↓reduceIte]
  split
  · exact ⟨_, rfl, by simp⟩
  · split
    · exact ⟨_, rfl, by simp⟩
    · exact ⟨_, rfl, by simp⟩

private theorem checkTask_failed (taskId : Text) (known : response.statusCode ≠ notFound)
    (failed : response.isError = true) :
    ∃ error, checkTask taskId response = .error error ∧ error.type ≠ some .taskLost := by
  obtain ⟨error, raised, other⟩ := raiseForUpstreamStatus_error response "status poll".toList failed
  refine ⟨error, ?_, other⟩
  rw [checkTask, if_neg known, raised]
  rfl

private theorem checkTask_read (known : response.statusCode ≠ notFound)
    (fine : response.isError = false) :
    checkTask taskId response =
      match response.body with
      | none => .error { type := none, message := .unclassified }
      | some body =>
        match TaskStatus.ofText body.taskStatus with
        | none => .ok none
        | some status => .ok (some ⟨taskId, status, body.errorMessage⟩) := by
  rw [checkTask, if_neg known, raiseForUpstreamStatus_ok _ _ fine]
  cases read : response.body with
  | none => simp only [readBody, read, bind, Except.bind]
  | some body =>
    cases terminal : TaskStatus.ofText body.taskStatus <;>
      simp only [readBody, read, bind, Except.bind, terminal]

/-- Only `check_task` says that a task is lost. -/
theorem resolved_not_lost {activity : ρ → Except ApplicationError α}
    (known : ∀ response error, activity response = .error error → error.type ≠ some .taskLost)
    (resolved : resolve policy activity attempts = some (.error error)) :
    isTaskLost error = false := by
  obtain ⟨earlier, last, rfl, same⟩ := resolve_last resolved
  cases last with
  | raised =>
    cases same
    rfl
  | timedOut =>
    cases same
    rfl
  | answered response =>
    simp only [Attempt.outcome] at same
    cases ended : activity response with
    | ok value =>
      rw [ended] at same
      cases same
    | error cause =>
      rw [ended] at same
      cases same
      simpa [isTaskLost] using known response cause ended

theorem fetchOutcome_not_lost (response : HttpResponse ResultBody) (error : ApplicationError)
    (raised : fetchOutcome taskId response = .error error) : error.type ≠ some .taskLost := by
  by_cases gone : response.statusCode = notFound
  · rw [fetchOutcome, if_pos gone] at raised
    cases raised
  · rw [fetchOutcome, if_neg gone] at raised
    cases failed : response.isError with
    | true =>
      obtain ⟨cause, upstream, other⟩ :=
        raiseForUpstreamStatus_error response "result fetch".toList failed
      rw [upstream] at raised
      cases raised
      exact other
    | false =>
      rw [raiseForUpstreamStatus_ok _ _ failed] at raised
      cases read : response.body with
      | none =>
        simp only [readBody, read, bind, Except.bind] at raised
        cases raised
        simp
      | some body => simp [readBody, read, bind, Except.bind] at raised

/-- A resolved poll is a report about the polled task, a lost task or nothing,
as its verdict says; a task is lost only by a 404. -/
theorem check_polled (resolved : resolve checkRetry (checkTask taskId) attempts = some result) :
    Polled taskId (pollVerdict attempts) (check result) := by
  obtain ⟨earlier, last, rfl, rfl⟩ := resolve_last resolved
  simp only [pollVerdict, List.getLast?_append, List.getLast?_singleton]
  cases last with
  | raised => exact .inconclusive
  | timedOut => exact .inconclusive
  | answered response =>
    simp only [Option.some_or]
    by_cases gone : response.statusCode = notFound
    · simp only [Attempt.outcome, checkTask, gone, ↓reduceIte]
      exact @Polled.lost taskId ⟨.application _⟩ rfl
    · simp only [gone, ↓reduceIte]
      cases failed : response.isError with
      | true =>
        obtain ⟨error, raised, other⟩ := checkTask_failed taskId gone failed
        have notLost : isTaskLost ⟨.application error⟩ = false := by simp [isTaskLost, other]
        simp only [Attempt.outcome, raised, Except.mapError, check, notLost]
        exact .inconclusive
      | false =>
        simp only [Attempt.outcome, checkTask_read gone failed]
        cases response.body with
        | none => exact .inconclusive
        | some body =>
          cases ended : TaskStatus.ofText body.taskStatus with
          | none => simpa [ended] using .inconclusive
          | some status => simpa [ended] using .terminal rfl

end DoclingServeRay.Orchestration
