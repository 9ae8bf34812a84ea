import DoclingServeRay.Orchestration.History

/-! When a delivered completion is heeded. A signal that lands while a safety
poll is in flight is looked at only after the poll's own answer has been acted
on, so a poll that loses the task or spends the budget overrides it. -/
namespace DoclingServeRay.Orchestration
open Strings EventMachine

variable {env : Env} {state next : WorkflowState} {event : Event} {events : List Event}

/-- What the poll in flight comes to. To `_check` a cancellation is one more way
for it to fail. -/
def Event.pollEnd? (event : Event) : Option PollVerdict :=
  match event.happening with
  | .checkResolved attempts => some (pollVerdict attempts)
  | .cancelRequested => some .inconclusive
  | _ => none

/-- The signal for the task that the coroutine is about has been delivered. -/
def Told (state : WorkflowState) (taskId : Text) (report : TaskCompleted) : Prop :=
  state.await.task? = some taskId ∧ state.completed.get? taskId = some report

/-- The step gives up on no task: no resubmission, no `PollBudgetExhausted`, no
`TaskLost`. -/
def Unbroken (next : WorkflowState) : Prop :=
  next.await ≠ .submitConversion ∧
    ∀ outcome, next.await = .closed outcome → outcome.isExhaustion = false ∧ outcome.isLoss = false

/-- A step that does not overlook a delivered report: it gives up on no task,
and a poll that ends without an answer lets the run go on with the report. -/
def Heeded (state : WorkflowState) (event : Event) (next : WorkflowState)
    (report : TaskCompleted) : Prop :=
  Unbroken next ∧
    ∀ taskId polls since verdict, state.await = .checkTask taskId polls since →
      event.pollEnd? = some verdict → verdict ≠ .terminal → next.terminal = some report

/-- A poll that ends without an answer, with the report delivered, is not the
last one, does not lose the task, and is followed by a sleep of some length. -/
def Harmless (env : Env) (state : WorkflowState) (event : Event) : Prop :=
  ∀ taskId polls since report verdict, state.await = .checkTask taskId polls since →
    state.completed.get? taskId = some report → event.pollEnd? = some verdict →
    verdict ≠ .terminal →
    verdict = .inconclusive ∧ polls < env.inp.maxSafetyPolls ∧ 0 < env.inp.safetyPollIntervalSeconds

theorem nextSleep_positive_iff (env : Env) (draw : Nat) :
    0 < nextSleep env draw ↔ 0 < env.inp.safetyPollIntervalSeconds := by
  have factor : 0 < env.uniform draw := by
    have low := (env.jittered draw).1
    have positive : (0 : ℚ) < 1 - safetyPollJitter := by decide +kernel
    exact lt_of_lt_of_le positive low
  rw [nextSleep, mul_pos_iff_of_pos_right factor]
  exact Int.cast_pos

/-! ### One step -/

theorem raise_unbroken (exhausted : (Outcome.failed error).isExhaustion = false)
    (lost : (Outcome.failed error).isLoss = false) : Unbroken (raise state error) := by
  refine ⟨nofun, ?_⟩
  intro outcome ended
  simp only [raise, Await.closed.injEq] at ended
  split at ended
  · cases ended
    exact ⟨rfl, rfl⟩
  · cases ended
    exact ⟨exhausted, lost⟩

theorem afterWait_unbroken (taskId : Text) (report : TaskCompleted) :
    Unbroken (afterWait env state taskId report) := by
  unfold afterWait
  split
  · exact raise_unbroken rfl rfl
  · exact ⟨nofun, nofun⟩

/-- How a poll in flight ends: by its resolution or by a cancellation, and
either way the coroutine goes on from a state that has heard the same. -/
theorem poll_ended (stepped : step env state event = some next)
    (pending : state.await = .checkTask taskId polls since) (ended : event.pollEnd? = some verdict) :
    ∃ base result, Polled taskId verdict (check result) ∧ base.completed = state.completed ∧
      base.terminal = state.terminal ∧
      next = checkReturned env event.now base taskId polls since result := by
  cases step_turn stepped with
  | signal running => cases ended
  | timer waiting => cases ended
  | submitted _ resolved => cases ended
  | fetched _ resolved => cases ended
  | collected _ resolved => cases ended
  | @checked _ _ _ _ result now awaiting resolved =>
    cases ended
    cases awaiting.symm.trans pending
    exact ⟨state, result, check_polled resolved, rfl, rfl, rfl⟩
  | cancelled running fresh =>
    cases ended
    refine ⟨{ state with cancelRequested := true }, .error ⟨.cancelled⟩, .inconclusive, rfl, rfl, ?_⟩
    simp [cancelled, pending]

/-- A poll that ends without an answer goes on with the delivered report exactly
when it is harmless. -/
theorem unanswered_poll_heeded_iff (unended : state.terminal = none)
    (told : state.completed.get? taskId = some report)
    (polled : Polled taskId verdict (check result)) (unanswered : verdict ≠ .terminal)
    (completed : base.completed = state.completed) (terminal : base.terminal = state.terminal) :
    (Unbroken (checkReturned env now base taskId polls since result) ∧
      (checkReturned env now base taskId polls since result).terminal = some report) ↔
      verdict = .inconclusive ∧ polls < env.inp.maxSafetyPolls ∧
        0 < env.inp.safetyPollIntervalSeconds := by
  unfold checkReturned
  generalize check result = checked at polled ⊢
  cases polled with
  | terminal named => exact absurd rfl unanswered
  | lost gone =>
    constructor
    · rintro ⟨-, proceeded⟩
      simp only [waitRaised] at proceeded
      split at proceeded <;> simp [terminal, unended] at proceeded
    · rintro ⟨impossible, _⟩
      cases impossible
  | inconclusive =>
    dsimp only
    by_cases spent : env.inp.maxSafetyPolls ≤ polls
    · rw [if_pos spent]
      constructor
      · rintro ⟨-, proceeded⟩
        simp [terminal, unended] at proceeded
      · rintro ⟨-, left, -⟩
        exact absurd left (not_lt.mpr spent)
    · rw [if_neg spent, ← nextSleep_positive_iff env base.draws]
      have turn := waitCondition_turn env base taskId polls since
      generalize waitCondition env base taskId polls since = next at turn ⊢
      cases turn with
      | expired elapsed =>
        constructor
        · rintro ⟨-, proceeded⟩
          simp [terminal, unended] at proceeded
        · rintro ⟨-, -, positive⟩
          exact absurd elapsed (not_le.mpr positive)
      | reported positive held =>
        rw [completed, told] at held
        cases held
        constructor
        · rintro -
          exact ⟨rfl, not_le.mp spent, positive⟩
        · rintro -
          exact ⟨afterWait_unbroken taskId report, by simp⟩
      | slept positive absent =>
        rw [completed, told] at absent
        cases absent

/-- An answer that says how the task ended breaks nothing. -/
theorem answered_poll_unbroken (polled : Polled taskId .terminal (check result)) :
    Unbroken (checkReturned env now base taskId polls since result) := by
  unfold checkReturned
  generalize check result = checked at polled ⊢
  cases polled with
  | terminal named => exact afterWait_unbroken taskId _

/-- Away from a poll in flight, a task that has been reported is never given up. -/
theorem told_unbroken (stepped : step env state event = some next)
    (asleep : ∀ taskId polls since, state.await = .waitCondition taskId polls since →
      state.completed.get? taskId = none)
    (told : Told state taskId report)
    (unpolled : ∀ taskId polls since, state.await = .checkTask taskId polls since →
      event.pollEnd? = none) : Unbroken next := by
  obtain ⟨named, held⟩ := told
  have running : state.await ≠ .submitConversion := by
    intro pending
    simp [pending, Await.task?] at named
  have sleepless : ∀ taskId polls since, state.await ≠ .waitCondition taskId polls since := by
    intro slept polls since pending
    have unheard := asleep slept polls since pending
    rw [pending] at named
    cases named
    rw [held] at unheard
    cases unheard
  cases step_turn stepped with
  | signal open' =>
    rcases wake_cases env (taskCompleted state _) with ⟨same, _⟩ | ⟨_, _, _, report, _, _, woken⟩
    · rw [same]
      exact ⟨running, fun outcome ended => absurd ended (open' outcome)⟩
    · rw [woken]
      exact afterWait_unbroken _ report
  | timer waiting => exact absurd waiting (sleepless _ _ _)
  | submitted pending resolved => exact absurd pending running
  | checked pending resolved => cases unpolled _ _ _ pending
  | @fetched taskId attempts result now pending resolved =>
    cases result with
    | error error =>
      exact raise_unbroken rfl (resolved_not_lost fetchOutcome_not_lost resolved)
    | ok outcome =>
      simp only [outcomeReturned]
      split
      · exact raise_unbroken rfl rfl
      · refine ⟨?_, ?_⟩
        · intro pending
          cases pending
        · intro outcome ended
          cases ended
  | @collected taskId attempts result now pending resolved =>
    cases result with
    | error error =>
      refine raise_unbroken rfl (resolved_not_lost ?_ resolved)
      intro response cause raised
      cases raised
    | ok collected =>
      simp only [outputsReturned]
      split
      · exact raise_unbroken rfl rfl
      · refine ⟨?_, ?_⟩
        · intro pending
          cases pending
        · rintro _ ⟨rfl⟩
          exact ⟨rfl, rfl⟩
  | cancelled open' fresh =>
    unfold cancelled
    cases pending : state.await with
    | submitConversion => exact absurd pending running
    | waitCondition taskId polls since => exact absurd pending (sleepless _ _ _)
    | checkTask taskId polls since => cases unpolled _ _ _ pending
    | fetchOutcome taskId => exact raise_unbroken rfl rfl
    | collectOutputs taskId => exact raise_unbroken rfl rfl
    | closed outcome => exact absurd pending (open' outcome)

/-! ### Whole runs -/

theorem step_heeded_iff (ran : (workflow env).run events = some state)
    (stepped : step env state event = some next) :
    (∀ taskId report, Told state taskId report → Heeded state event next report) ↔
      Harmless env state event := by
  have unended : ∀ {taskId polls since}, state.await = .checkTask taskId polls since →
      state.terminal = none := by
    intro taskId polls since pending
    exact waiting_unended ran (by rw [pending]; rfl)
  constructor
  · intro heeded taskId polls since report verdict pending held ended unanswered
    obtain ⟨unbroken, proceeds⟩ := heeded taskId report ⟨by rw [pending]; rfl, held⟩
    have proceeded := proceeds taskId polls since verdict pending ended unanswered
    obtain ⟨base, result, polled, completed, terminal, rfl⟩ := poll_ended stepped pending ended
    exact (unanswered_poll_heeded_iff (unended pending) held polled unanswered completed
      terminal).mp ⟨unbroken, proceeded⟩
  · intro harmless taskId report told
    -- Only a poll in flight can override the report, so its end is the case to look at.
    have ends : ∀ about polls since verdict, state.await = .checkTask about polls since →
        event.pollEnd? = some verdict →
        Unbroken next ∧ (verdict ≠ .terminal → next.terminal = some report) := by
      intro about polls since verdict pending ended
      obtain ⟨named, held⟩ := told
      rw [pending] at named
      cases named
      have kind := harmless _ polls since report verdict pending held ended
      obtain ⟨base, result, polled, completed, terminal, rfl⟩ := poll_ended stepped pending ended
      by_cases answered : verdict = .terminal
      · subst answered
        exact ⟨answered_poll_unbroken polled, absurd rfl⟩
      · obtain ⟨unbroken, proceeded⟩ := (unanswered_poll_heeded_iff (unended pending) held polled
          answered completed terminal).mpr (kind answered)
        exact ⟨unbroken, fun _ => proceeded⟩
    refine ⟨?_, fun about polls since verdict pending ended unanswered =>
      (ends about polls since verdict pending ended).2 unanswered⟩
    by_cases polling : ∃ about polls since verdict, state.await = .checkTask about polls since ∧
        event.pollEnd? = some verdict
    · obtain ⟨about, polls, since, verdict, pending, ended⟩ := polling
      exact (ends about polls since verdict pending ended).1
    · refine told_unbroken stepped (fun _ _ _ => asleep_unheard ran) told ?_
      intro about polls since pending
      cases ended : event.pollEnd? with
      | none => rfl
      | some verdict => exact absurd ⟨about, polls, since, verdict, pending, ended⟩ polling

/-- A run overlooks no delivered completion exactly when each of its polls that
ends without an answer although the signal has come is a harmless one. -/
theorem delivered_completion_heeded_iff (env : Env) (events : List Event) :
    (∀ before event after, (workflow env).Occurs events before event after →
      ∀ taskId report, Told before taskId report → Heeded before event after report) ↔
    ∀ before event after, (workflow env).Occurs events before event after →
      Harmless env before event := by
  refine forall_congr' fun before => forall_congr' fun event => forall_congr' fun after =>
    forall_congr' fun occurs => ?_
  obtain ⟨first, reached, -⟩ := Machine.occurs_reached occurs
  obtain ⟨_, _, -, -, stepped⟩ := occurs
  exact step_heeded_iff reached stepped

/-- The signal lands during the last poll of the budget, which finds the task
still in progress; or during a poll that answers 404. The first run fails with
`PollBudgetExhausted` and the second submits the document again. -/
theorem delivered_completion_overlooked :
    (∃ before after, (workflow (plainEnv 300 1)).Occurs
        [accepted "t".toList, timedOut, signalled "t".toList .success, polledAs "started".toList]
        before (polledAs "started".toList) after ∧
      Told before "t".toList ⟨"t".toList, .success, none⟩ ∧
      ¬ Heeded before (polledAs "started".toList) after ⟨"t".toList, .success, none⟩ ∧
      after.await = .closed (.failed (budgetExhausted "t".toList 1 0))) ∧
    ∃ before after, (workflow (plainEnv 300 1)).Occurs
        [accepted "t".toList, timedOut, signalled "t".toList .success, polledLost]
        before polledLost after ∧
      Told before "t".toList ⟨"t".toList, .success, none⟩ ∧
      after.await = .submitConversion := by
  have told : ((workflow (plainEnv 300 1)).run
      [accepted "t".toList, timedOut, signalled "t".toList .success]).map (fun state =>
        (state.await, state.completed.get? "t".toList, (step (plainEnv 300 1) state
          (polledAs "started".toList)).map (·.await), (step (plainEnv 300 1) state
          polledLost).map (·.await))) =
      some (.checkTask "t".toList 1 0, some ⟨"t".toList, .success, none⟩,
        some (.closed (.failed (budgetExhausted "t".toList 1 0))), some .submitConversion) := by
    decide +kernel
  obtain ⟨before, reached, facts⟩ := Option.map_eq_some_iff.mp told
  simp only [Prod.mk.injEq] at facts
  obtain ⟨pending, held, spent, lost⟩ := facts
  obtain ⟨after, exhausted, failed⟩ := Option.map_eq_some_iff.mp spent
  obtain ⟨again, resubmitted, submitting⟩ := Option.map_eq_some_iff.mp lost
  have heard : Told before "t".toList ⟨"t".toList, .success, none⟩ := ⟨by rw [pending]; rfl, held⟩
  refine ⟨⟨before, after, ⟨_, [], rfl, reached, exhausted⟩, heard, ?_, failed⟩,
    before, again, ⟨_, [], rfl, reached, resubmitted⟩, heard, submitting⟩
  rintro ⟨⟨-, unfailed⟩, -⟩
  exact absurd (unfailed _ failed).1 (by decide)

end DoclingServeRay.Orchestration
