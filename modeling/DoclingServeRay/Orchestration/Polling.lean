import DoclingServeRay.Orchestration.Termination
import DoclingServeRay.Orchestration.Heeding

/-! What a safety poll decides. Its last attempt alone says whether the task is
lost or has ended; any other poll costs one unit of the budget and is followed
by a wait that the callback can end, if there is a wait at all. -/
namespace DoclingServeRay.Orchestration
open Strings EventMachine

variable {env : Env} {state next : WorkflowState} {event : Event} {events : List Event}

/-! ### The last attempt -/

/-- The last attempt was answered 404. -/
def AnsweredLost (attempts : List (Attempt (HttpResponse StatusBody))) : Prop :=
  ∃ response, attempts.getLast? = some (.answered response) ∧ response.statusCode = notFound

/-- The last attempt was answered with a terminal status. -/
def AnsweredTerminal (attempts : List (Attempt (HttpResponse StatusBody))) : Prop :=
  ∃ response body status, attempts.getLast? = some (.answered response) ∧
    response.statusCode ≠ notFound ∧ response.isError = false ∧ response.body = some body ∧
    TaskStatus.ofText body.taskStatus = some status

theorem pollVerdict_lost_iff (attempts : List (Attempt (HttpResponse StatusBody))) :
    pollVerdict attempts = .lost ↔ AnsweredLost attempts := by
  unfold pollVerdict AnsweredLost
  constructor
  · intro lost
    split at lost
    · rename_i response last
      by_cases gone : response.statusCode = notFound
      · exact ⟨response, last, gone⟩
      · rw [if_neg gone] at lost
        split at lost
        · cases lost
        · split at lost
          · split at lost <;> cases lost
          · cases lost
    · cases lost
  · rintro ⟨response, last, gone⟩
    rw [last]
    exact if_pos gone

theorem pollVerdict_terminal_iff (attempts : List (Attempt (HttpResponse StatusBody))) :
    pollVerdict attempts = .terminal ↔ AnsweredTerminal attempts := by
  unfold pollVerdict AnsweredTerminal
  constructor
  · intro terminal
    split at terminal
    · rename_i response last
      split at terminal
      · cases terminal
      rename_i known
      split at terminal
      · cases terminal
      rename_i fine
      split at terminal
      · rename_i body read
        split at terminal
        · rename_i ended
          obtain ⟨status, said⟩ := Option.isSome_iff_exists.mp ended
          exact ⟨response, body, status, last, known, by simpa using fine, read, said⟩
        · cases terminal
      · cases terminal
    · cases terminal
  · rintro ⟨response, body, status, last, known, fine, read, said⟩
    rw [last]
    simp [known, fine, read, said]

/-! ### What becomes of the workflow -/

def Resubmitted (state next : WorkflowState) : Prop :=
  state.submissions < maxSubmissions ∧ next.await = .submitConversion ∧
    next.submissions = state.submissions + 1

def FailedLost (state next : WorkflowState) : Prop :=
  state.submissions = maxSubmissions ∧
    ∃ error, next.await = .closed (.failed (.activity error)) ∧ isTaskLost error = true

/-- The poll's own answer ended the wait. -/
def EndedWait (env : Env) (state : WorkflowState) (taskId : Text) (next : WorkflowState) : Prop :=
  ∃ report, next = afterWait env state taskId report

/-- The workflow waits again, and the task's callback ends that wait: at once if
it is there already, and otherwise when it comes. -/
def WaitsAgain (env : Env) (state : WorkflowState) (taskId : Text) (polls : Nat) (since : Instant)
    (next : WorkflowState) : Prop :=
  (∃ report, state.completed.get? taskId = some report ∧
    next = afterWait env { state with draws := state.draws + 1 } taskId report) ∨
  (next.await = .waitCondition taskId polls since ∧
    ∀ now report, report.taskId = taskId →
      step env next ⟨now, .signal report⟩ =
        some (afterWait env (taskCompleted next report) taskId report))

/-- How many polls of the current submission have ended. -/
def pollsMade (events : List Event) : Nat := ((pollGroups events).headD []).length

/-- A poll resubmits or loses the task exactly on a 404 and ends the wait exactly
on a terminal status. Any other one only takes its unit of the budget, after
which the workflow waits again or, with the budget spent, gives up. -/
structure PollDecides (env : Env) (events : List Event) (state : WorkflowState) (now : Instant)
    (attempts : List (Attempt (HttpResponse StatusBody))) (taskId : Text) (polls : Nat)
    (since : Instant) (next : WorkflowState) : Prop where
  lost : Resubmitted state next ∨ FailedLost state next ↔ AnsweredLost attempts
  ended : EndedWait env state taskId next ↔ AnsweredTerminal attempts
  unit : polls = pollsMade events + 1
  spent : ¬ AnsweredLost attempts → ¬ AnsweredTerminal attempts →
    env.inp.maxSafetyPolls ≤ polls →
      next = raise state (budgetExhausted taskId polls (now - since))
  again : ¬ AnsweredLost attempts → ¬ AnsweredTerminal attempts →
    polls < env.inp.maxSafetyPolls → WaitsAgain env state taskId polls since next

/-! ### Where the pieces of the coroutine lead -/

theorem afterWait_draws (taskId : Text) (report : TaskCompleted) :
    (afterWait env state taskId report).draws = state.draws := by
  unfold afterWait
  split <;> rfl

theorem endedWait_terminal (ended : EndedWait env state taskId next) :
    next.terminal.isSome = true := by
  obtain ⟨report, rfl⟩ := ended
  rw [afterWait_terminal]
  rfl

/-- Where the workflow neither submits nor ends with a lost task, it did not
take the task for lost. -/
theorem not_lost_of_await (elsewhere : next.await ≠ .submitConversion)
    (unfailed : ∀ error, next.await ≠ .closed (.failed (.activity error))) :
    ¬ (Resubmitted base next ∨ FailedLost base next) := by
  rintro (⟨_, pending, _⟩ | ⟨_, error, ended, _⟩)
  · exact elsewhere pending
  · exact unfailed error ended

/-- A failure of the workflow's own does not take the task for lost. -/
theorem failed_not_lost (failed : next.await = .closed (.failed error))
    (own : ∀ cause, error ≠ .activity cause) :
    ¬ (Resubmitted base next ∨ FailedLost base next) := by
  apply not_lost_of_await
  · rw [failed]
    rintro ⟨⟩
  · rw [failed]
    rintro cause ⟨⟩
    exact own cause rfl

theorem afterWait_not_lost (calm : state.cancelRequested = false) (taskId : Text)
    (report : TaskCompleted) :
    ¬ (Resubmitted base (afterWait env state taskId report) ∨
      FailedLost base (afterWait env state taskId report)) := by
  unfold afterWait
  split
  · have failed := @raise_await { state with terminal := some report }
      (conversionFailed (.taskFailed taskId report.errorMessage)) calm
    apply failed_not_lost failed
    rintro cause ⟨⟩
  · apply not_lost_of_await
    · rintro ⟨⟩
    · rintro error ⟨⟩

theorem waitsAgain_not_lost (calm : state.cancelRequested = false)
    (again : WaitsAgain env state taskId polls since next) :
    ¬ (Resubmitted base next ∨ FailedLost base next) := by
  rcases again with ⟨report, _, left⟩ | ⟨asleep, _⟩
  · rw [left]
    apply afterWait_not_lost
    exact calm
  · apply not_lost_of_await
    · rw [asleep]
      rintro ⟨⟩
    · rw [asleep]
      rintro error ⟨⟩

/-- A wait that goes on has not been ended by the poll's answer: it has drawn
another sleep. -/
theorem waitsAgain_not_ended (again : WaitsAgain env state taskId polls since next) :
    ¬ EndedWait env state taskId next := by
  rintro ⟨own, same⟩
  rcases again with ⟨report, _, left⟩ | ⟨asleep, _⟩
  · have draws := congrArg WorkflowState.draws (left.symm.trans same)
    rw [afterWait_draws, afterWait_draws] at draws
    exact absurd draws (Nat.succ_ne_self state.draws)
  · have left := @afterWait_unwaiting env state taskId own
    rw [← same, asleep] at left
    cases left

theorem waitRaised_lost (calm : state.cancelRequested = false)
    (bounded : state.submissions ≤ maxSubmissions) (gone : isTaskLost error = true) :
    Resubmitted state (waitRaised env state error) ∨
      FailedLost state (waitRaised env state error) := by
  unfold waitRaised
  by_cases last : maxSubmissions ≤ state.submissions
  · simp only [last, decide_true, Bool.or_true, ↓reduceIte]
    exact Or.inr ⟨le_antisymm bounded last, error, raise_await state (.activity error) calm, gone⟩
  · simp only [gone, last, Bool.not_true, decide_false, Bool.or_self, Bool.false_eq_true,
      ↓reduceIte]
    exact Or.inl ⟨not_le.mp last, rfl, rfl⟩

theorem waitRaised_terminal (error : ActivityError) :
    (waitRaised env state error).terminal = state.terminal := by
  unfold waitRaised
  split <;> rfl

/-- A signal for the task ends the sleep that follows a poll. -/
theorem signal_ends_sleep (asleep : next.await = .waitCondition taskId polls since)
    (absent : next.completed.get? taskId = none) (now : Instant) (report : TaskCompleted)
    (named : report.taskId = taskId) :
    step env next ⟨now, .signal report⟩ =
      some (afterWait env (taskCompleted next report) taskId report) := by
  have heard : (taskCompleted next report).completed.get? taskId = some report := by
    simp [taskCompleted, OrderedDict.get?_setDefault, named, absent]
  have waiting : (taskCompleted next report).await = .waitCondition taskId polls since := asleep
  simp only [step, asleep, wake, waiting, heard]

/-! ### One poll -/

section Polls

variable {attempts : List (Attempt (HttpResponse StatusBody))}

/-- The books give the number of the poll in flight. -/
theorem polling_unit (ledger : Ledger env events state)
    (pending : state.await = .checkTask taskId polls since) :
    polls = pollsMade events + 1 ∧ state.submissions ≤ maxSubmissions := by
  cases ledger with
  | polling awaiting left tally =>
    obtain ⟨rfl, rfl, rfl⟩ := Await.checkTask.inj (awaiting.symm.trans pending)
    rw [pollsMade, tally.groups]
    simp [tally.bounded]
  | submitting awaiting | sleeping awaiting | ended awaiting =>
    rw [awaiting] at pending
    cases pending
  | settling awaiting =>
    rcases awaiting with fetching | collecting
    · rw [fetching] at pending
      cases pending
    · rw [collecting] at pending
      cases pending

/-- A poll that is not the last one, and says nothing, is followed by a wait:
by one of positive length exactly when the interval is positive. -/
theorem waitCondition_waits_iff (unended : state.completed.get? taskId = none ∨
    0 < env.inp.safetyPollIntervalSeconds) :
    WaitsAgain env state taskId polls since (waitCondition env state taskId polls since) ↔
      0 < env.inp.safetyPollIntervalSeconds := by
  rw [← nextSleep_positive_iff env state.draws] at unended ⊢
  have turn := waitCondition_turn env state taskId polls since
  generalize waitCondition env state taskId polls since = next at turn ⊢
  cases turn with
  | expired elapsed =>
    have absent := unended.resolve_right (not_lt.mpr elapsed)
    refine ⟨?_, fun positive => absurd elapsed (not_le.mpr positive)⟩
    rintro (⟨report, held, _⟩ | ⟨asleep, _⟩)
    · rw [absent] at held
      cases held
    · cases asleep
  | reported positive held => exact ⟨fun _ => positive, fun _ => Or.inl ⟨_, held, rfl⟩⟩
  | slept positive absent =>
    refine ⟨fun _ => positive, fun _ => Or.inr ⟨rfl, ?_⟩⟩
    intro now report named
    apply signal_ends_sleep
    · rfl
    · exact absent
    · exact named

/-- What a poll decides, where sleeps have a length or no poll is followed by
one. -/
theorem poll_decides (sleeps : 0 < env.inp.safetyPollIntervalSeconds ∨ env.inp.maxSafetyPolls ≤ 1)
    (quiet : ∀ event ∈ events, event.isCalm) (ran : (workflow env).run events = some state)
    (pending : state.await = .checkTask taskId polls since)
    (stepped : step env state ⟨now, .checkResolved attempts⟩ = some next) :
    PollDecides env events state now attempts taskId polls since next := by
  have calm := calm_run quiet ran
  have unended : state.terminal = none := waiting_unended ran (by rw [pending]; rfl)
  obtain ⟨unit, bounded⟩ := polling_unit (run_ledger quiet ran) pending
  cases step_turn stepped with
  | @checked _ _ _ _ result _ awaiting resolved =>
    obtain ⟨rfl, rfl, rfl⟩ := Await.checkTask.inj (pending.symm.trans awaiting)
    have polled := check_polled resolved
    have lostIff := pollVerdict_lost_iff attempts
    have terminalIff := pollVerdict_terminal_iff attempts
    have unanswered : ∀ after : WorkflowState, after.terminal = state.terminal →
        ¬ EndedWait env state taskId after := by
      intro after same ended
      have reported := endedWait_terminal ended
      rw [same, unended] at reported
      cases reported
    unfold checkReturned
    generalize check result = checked at polled ⊢
    generalize pollVerdict attempts = verdict at polled lostIff terminalIff
    cases polled with
    | terminal named =>
      have answered := terminalIff.mp rfl
      have known : ¬ AnsweredLost attempts := fun gone => nomatch lostIff.mpr gone
      exact {
        lost := iff_of_false (afterWait_not_lost calm _ _) known
        ended := iff_of_true ⟨_, rfl⟩ answered
        unit := unit
        spent := fun _ other => absurd answered other
        again := fun _ other => absurd answered other }
    | lost gone =>
      have answered := lostIff.mp rfl
      have other : ¬ AnsweredTerminal attempts := fun ended => nomatch terminalIff.mpr ended
      exact {
        lost := iff_of_true (waitRaised_lost calm bounded gone) answered
        ended := iff_of_false (unanswered _ (waitRaised_terminal _)) other
        unit := unit
        spent := fun known => absurd answered known
        again := fun known => absurd answered known }
    | inconclusive =>
      have known : ¬ AnsweredLost attempts := fun gone => nomatch lostIff.mpr gone
      have other : ¬ AnsweredTerminal attempts := fun ended => nomatch terminalIff.mpr ended
      dsimp only
      by_cases spent : env.inp.maxSafetyPolls ≤ polls
      · rw [if_pos spent]
        have failed := raise_await state (budgetExhausted taskId polls (now - since)) calm
        have own : ∀ cause, budgetExhausted taskId polls (now - since) ≠ .activity cause := by
          rintro cause ⟨⟩
        exact {
          lost := iff_of_false (failed_not_lost failed own) known
          ended := iff_of_false (unanswered _ rfl) other
          unit := unit
          spent := fun _ _ _ => rfl
          again := fun _ _ left => absurd spent (not_le.mpr left) }
      · rw [if_neg spent]
        have positive : 0 < env.inp.safetyPollIntervalSeconds := by
          apply sleeps.resolve_right
          intro few
          omega
        have again := (@waitCondition_waits_iff env state taskId polls since (Or.inr positive)).mpr
          positive
        exact {
          lost := iff_of_false (waitsAgain_not_lost calm again) known
          ended := iff_of_false (waitsAgain_not_ended again) other
          unit := unit
          spent := fun _ _ all => absurd all spent
          again := fun _ _ _ => again }

end Polls

/-! ### Whole runs -/

/-- Without a length, the sleep after the first poll is none: the second poll
follows at once. -/
theorem second_poll_at_once (sleepless : env.inp.safetyPollIntervalSeconds ≤ 0)
    (several : 1 < env.inp.maxSafetyPolls) :
    ∃ state next, (workflow env).run [accepted "t".toList] = some state ∧
      state.await = .checkTask "t".toList 1 0 ∧
      step env state (polledAs "started".toList) = some next ∧
      ¬ PollDecides env [accepted "t".toList] state 0
        [.answered ⟨200, [], some ⟨"started".toList, none⟩⟩] "t".toList 1 0 next := by
  have instant : ∀ draw, nextSleep env draw ≤ 0 := by
    intro draw
    rw [← not_lt, nextSleep_positive_iff]
    exact not_lt.mpr sleepless
  let first := poll env { start env with draws := 1 } "t".toList 0 0
  have polls : waitCondition env (start env) "t".toList 0 0 = first := if_pos (instant 0)
  have again : checkReturned env 0 first "t".toList 1 0 (.ok none) =
      waitCondition env first "t".toList 1 0 := if_neg (not_le.mpr several)
  refine ⟨first, waitCondition env first "t".toList 1 0, ?_, rfl, ?_, ?_⟩
  · rw [← polls]
    rfl
  · rw [← again]
    rfl
  · intro decides
    have waits : WaitsAgain env first "t".toList 1 0 (waitCondition env first "t".toList 1 0) := by
      apply decides.again
      · rw [← pollVerdict_lost_iff]
        decide
      · rw [← pollVerdict_terminal_iff]
        decide
      · exact several
    rw [waitCondition_waits_iff (Or.inl rfl)] at waits
    exact absurd waits (not_lt.mpr sleepless)

/-- Every poll of every run decides as it should exactly when a sleep that
follows a poll has a length. -/
theorem polls_decide_iff (env : Env) :
    (∀ events state now attempts taskId polls since next, (∀ event ∈ events, event.isCalm) →
      (workflow env).run events = some state → state.await = .checkTask taskId polls since →
      step env state ⟨now, .checkResolved attempts⟩ = some next →
      PollDecides env events state now attempts taskId polls since next) ↔
    0 < env.inp.safetyPollIntervalSeconds ∨ env.inp.maxSafetyPolls ≤ 1 := by
  constructor
  · intro decides
    by_contra without
    simp only [not_or, not_lt, not_le] at without
    obtain ⟨state, next, ran, pending, stepped, undecided⟩ :=
      second_poll_at_once without.1 without.2
    apply undecided
    refine decides _ state 0 _ _ _ _ next ?_ ran pending stepped
    intro event member
    rw [List.mem_singleton.mp member]
    nofun
  · intro sleeps events state now attempts taskId polls since next quiet ran pending stepped
    exact poll_decides sleeps quiet ran pending stepped

/-- With an interval of zero, a poll that finds the task in progress is followed
by the next poll, and by no wait in between. -/
theorem zero_interval_polls_at_once :
    ∃ state next, (workflow (plainEnv 0 2)).run [accepted "t".toList] = some state ∧
      state.await = .checkTask "t".toList 1 0 ∧
      step (plainEnv 0 2) state (polledAs "started".toList) = some next ∧
      ¬ PollDecides (plainEnv 0 2) [accepted "t".toList] state 0
        [.answered ⟨200, [], some ⟨"started".toList, none⟩⟩] "t".toList 1 0 next :=
  second_poll_at_once (by decide) (by decide)

end DoclingServeRay.Orchestration
