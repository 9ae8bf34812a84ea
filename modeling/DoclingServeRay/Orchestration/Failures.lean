import DoclingServeRay.Orchestration.Cancellation
import DoclingServeRay.Orchestration.Pacing
import DoclingServeRay.Orchestration.Polling
import DoclingServeRay.Orchestration.Verdict

/-! Why a run fails. Besides cancellation there are seven reasons, each of them
visible in what has reached the workflow. That docling-serve or S3 could not be
reached, was busy or answered with a server error is none of them, except that a
poll which docling-serve could not answer spends its part of the budget. -/
namespace DoclingServeRay.Orchestration
open Strings EventMachine

variable {env : Env} {state next : WorkflowState} {event : Event} {events : List Event}

/-! ### Activities that fail for good -/

/-- A client error that is not worth another attempt. -/
structure Refuses (response : HttpResponse β) : Prop where
  error : response.isError = true
  other : response.statusCode ≠ tooManyRequests
  client : response.isServerError = false

/-- `SubmitRejected`, whatever the request was. -/
def rejection (action : Text) (response : HttpResponse β) : ApplicationError where
  type := some .submitRejected
  message := .upstream action response.statusCode (response.text.take 500)
  nonRetryable := true

theorem upstream_refused (raised : raiseForUpstreamStatus response action = .error cause)
    (final : cause.nonRetryable = true) : Refuses response ∧ cause = rejection action response := by
  simp only [raiseForUpstreamStatus] at raised
  split at raised
  · cases raised
  rename_i failed
  split at raised
  · cases raised
    cases final
  rename_i other
  split at raised
  · cases raised
    cases final
  rename_i client
  cases raised
  exact ⟨⟨by simpa using failed, other, Bool.eq_false_iff.mpr client⟩, rfl⟩

/-- Where attempts are unlimited, only an answer that is not retried ends them
with an error. -/
theorem resolve_unlimited {activity : ρ → Except ApplicationError α}
    (unlimited : policy.maximumAttempts = none)
    (resolved : resolve policy activity attempts = some (.error error)) :
    ∃ earlier response cause, attempts = earlier ++ [.answered response] ∧
      activity response = .error cause ∧ cause.nonRetryable = true ∧
      error = ⟨.application cause⟩ := by
  have allowed : ∀ made, policy.allows made = true := by
    intro made
    simp [RetryPolicy.allows, unlimited]
  have general : ∀ (remaining : List (Attempt ρ)) made,
      resolveFrom policy activity made remaining = some (.error error) →
      ∃ earlier response cause, remaining = earlier ++ [.answered response] ∧
        activity response = .error cause ∧ cause.nonRetryable = true ∧
        error = ⟨.application cause⟩ := by
    intro remaining
    induction remaining with
    | nil => exact fun _ => nofun
    | cons attempt rest ih =>
      intro made found
      simp only [resolveFrom, allowed, Bool.and_true] at found
      cases ended : attempt.outcome activity with
      | ok value =>
        rw [ended] at found
        obtain ⟨_, same⟩ := Option.ite_none_right_eq_some.mp found
        cases same
      | error cause =>
        rw [ended] at found
        dsimp only at found
        split at found
        · obtain ⟨earlier, response, cause, rfl, rest⟩ := ih _ found
          exact ⟨attempt :: earlier, response, cause, rfl, rest⟩
        · rename_i final
          obtain ⟨last, same⟩ := Option.ite_none_right_eq_some.mp found
          cases same
          obtain rfl := List.isEmpty_iff.mp last
          cases attempt with
          | answered response =>
            simp only [Attempt.outcome] at ended
            cases raised : activity response with
            | ok value =>
              rw [raised] at ended
              cases ended
            | error failure =>
              rw [raised] at ended
              cases ended
              exact ⟨[], response, failure, rfl, raised,
                by simpa [ActivityCause.retryable] using final, rfl⟩
          | raised =>
            cases ended
            exact absurd rfl final
          | timedOut =>
            cases ended
            exact absurd rfl final
  exact general attempts 0 resolved

theorem readBody_retryable (raised : readBody response = .error cause) :
    cause.nonRetryable = false := by
  unfold readBody at raised
  split at raised
  · cases raised
  · cases raised
    rfl

/-- A request fails for good by being refused, when what follows the test of its
status does not. -/
theorem answered_refused {rest : Except ApplicationError α}
    (raised : (raiseForUpstreamStatus response action >>= fun _ => rest) = .error cause)
    (final : cause.nonRetryable = true)
    (retryable : ∀ error, rest = .error error → error.nonRetryable = false) :
    Refuses response ∧ cause = rejection action response := by
  cases upstream : raiseForUpstreamStatus response action with
  | error failure =>
    rw [upstream] at raised
    cases raised
    exact upstream_refused upstream final
  | ok nothing =>
    rw [upstream] at raised
    cases (retryable cause raised).symm.trans final

theorem submitConversion_refused (raised : submitConversion response = .error cause)
    (final : cause.nonRetryable = true) :
    Refuses response ∧ cause = rejection "submit".toList response :=
  answered_refused raised final fun _ => readBody_retryable

theorem fetchOutcome_refused (raised : fetchOutcome taskId response = .error cause)
    (final : cause.nonRetryable = true) : response.statusCode ≠ notFound ∧ Refuses response ∧
      cause = rejection "result fetch".toList response := by
  by_cases gone : response.statusCode = notFound
  · rw [fetchOutcome, if_pos gone] at raised
    cases raised
  rw [fetchOutcome, if_neg gone] at raised
  refine ⟨gone, answered_refused raised final ?_⟩
  intro error failed
  cases read : readBody response with
  | error other =>
    rw [read] at failed
    cases failed
    exact readBody_retryable read
  | ok body =>
    rw [read] at failed
    cases failed

/-- A listing is repeated until it succeeds. -/
theorem collectOutputs_resolves
    (resolved : resolve defaultRetry (fun pages => .ok (collectOutputs settings pages)) attempts =
      some result) : ∃ collected, result = .ok collected := by
  cases result with
  | ok collected => exact ⟨collected, rfl⟩
  | error error =>
    obtain ⟨_, _, _, _, raised, _⟩ := resolve_unlimited rfl resolved
    cases raised

/-! ### Pieces of the coroutine that fail -/

theorem raise_failed (ended : (raise state error).await = .closed (.failed other)) :
    other = error := by
  simp only [raise] at ended
  split at ended
  · cases ended
  · cases ended
    rfl

/-- The failure that docling-serve reported about a task. -/
def Fails (taskId : Text) (report : TaskCompleted) (error : Raised) : Prop :=
  report.taskStatus = .failure ∧ error = conversionFailed (.taskFailed taskId report.errorMessage)

theorem afterWait_failed
    (ended : (afterWait env state taskId report).await = .closed (.failed error)) :
    Fails taskId report error := by
  unfold afterWait at ended
  split at ended
  · rename_i failure
    exact ⟨failure, raise_failed ended⟩
  · cases ended

/-- A wait that has returned has failed the run, by the report it returned. -/
def FailedBy (state : WorkflowState) (taskId : Text) (error : Raised) : Prop :=
  ∃ report, state.terminal = some report ∧ Fails taskId report error

theorem waitCondition_failed
    (ended : (waitCondition env state taskId polls since).await = .closed (.failed error)) :
    FailedBy (waitCondition env state taskId polls since) taskId error := by
  have turn := waitCondition_turn env state taskId polls since
  generalize waitCondition env state taskId polls since = next at turn ended ⊢
  cases turn with
  | expired spent => cases ended
  | reported positive held => exact ⟨_, afterWait_terminal .., afterWait_failed ended⟩
  | slept positive absent => cases ended

/-- After a poll the wait fails with a failure it has been told of, with the
budget, or with the loss of the last task that it may lose. -/
inductive PollFailed (env : Env) (now : Instant) (state : WorkflowState) (taskId : Text)
    (polls : Nat) (since : Instant) (result : Except ActivityError (Option TaskCompleted))
    (next : WorkflowState) : Raised → Prop where
  | told (failed : FailedBy next taskId error) :
      PollFailed env now state taskId polls since result next error
  | exhausted (silent : check result = .ok none) (spent : env.inp.maxSafetyPolls ≤ polls)
      (kept : next.commands = state.commands) :
      PollFailed env now state taskId polls since result next
        (budgetExhausted taskId polls (now - since))
  | lost (gone : isTaskLost error = true) (raised : result = .error error)
      (room : maxSubmissions ≤ state.submissions) :
      PollFailed env now state taskId polls since result next (.activity error)

theorem checkReturned_failed
    (ended : (checkReturned env now state taskId polls since result).await =
      .closed (.failed error)) :
    PollFailed env now state taskId polls since result
      (checkReturned env now state taskId polls since result) error := by
  unfold checkReturned at ended ⊢
  cases checked : check result with
  | ok polled =>
    rw [checked] at ended
    cases polled with
    | some report => exact .told ⟨report, afterWait_terminal .., afterWait_failed ended⟩
    | none =>
      dsimp only at ended ⊢
      split at ended
      · rename_i spent
        rw [if_pos spent]
        obtain rfl := raise_failed ended
        exact .exhausted checked spent rfl
      · rename_i left
        rw [if_neg left]
        exact .told (waitCondition_failed ended)
  | error failure =>
    rw [checked] at ended
    have raised : result = .error failure ∧ isTaskLost failure = true := by
      cases result with
      | ok polled => cases checked
      | error cause =>
        simp only [check] at checked
        split at checked
        · cases checked
          exact ⟨rfl, ‹_›⟩
        · cases checked
    simp only [waitRaised] at ended
    split at ended
    · rename_i spent
      obtain rfl := raise_failed ended
      exact .lost raised.2 raised.1 (by simpa [raised.2] using spent)
    · cases ended

/-! ### Counting -/

theorem lostPolls_unpolled (events : List Event) (unpolled : event.verdict? = none) :
    lostPolls (events ++ [event]) = lostPolls events := by
  rw [lostPolls, List.filterMap_append, List.filterMap_cons_none unpolled, List.filterMap_nil,
    List.append_nil, lostPolls]

theorem waitCondition_submissions (env : Env) (state : WorkflowState) (taskId : Text) (polls : Nat)
    (since : Instant) :
    (waitCondition env state taskId polls since).submissions = state.submissions := by
  have turn := waitCondition_turn env state taskId polls since
  generalize waitCondition env state taskId polls since = next at turn ⊢
  cases turn with
  | expired spent => rfl
  | reported positive held => exact afterWait_submissions _ _ _ _
  | slept positive absent => rfl

/-- A run that goes on after a poll has submitted again if its task was lost,
and not otherwise. -/
theorem checkReturned_submissions (polled : Polled taskId said (check result))
    (active : (checkReturned env now state taskId polls since result).await.outcome? = none) :
    (checkReturned env now state taskId polls since result).submissions =
      state.submissions + if said = .lost then 1 else 0 := by
  unfold checkReturned at active ⊢
  generalize check result = checked at polled active ⊢
  cases polled with
  | terminal named => exact afterWait_submissions _ _ _ _
  | lost gone =>
    simp only [waitRaised] at active ⊢
    split
    · rename_i spent
      rw [if_pos spent] at active
      cases active
    · rfl
  | inconclusive =>
    dsimp only
    split
    · rfl
    · exact waitCondition_submissions env state taskId polls since

theorem cancelled_closes (env : Env) (now : Instant)
    (running : ∀ outcome, state.await ≠ .closed outcome)
    (elsewhere : ∀ taskId polls since, state.await ≠ .checkTask taskId polls since) :
    (cancelled env now state).await = .closed .cancelled := by
  have ended := @cancelled_ends env state now running elsewhere
  exact ended.1

/-- As long as a run goes on, every lost task but the first submission has
cost it one. -/
theorem submissions_lost (ran : (workflow env).run events = some state)
    (active : state.await.outcome? = none) : state.submissions = lostPolls events + 1 := by
  refine Machine.run_induction (P := fun events (state : WorkflowState) =>
    state.await.outcome? = none → state.submissions = lostPolls events + 1) ?_ ?_ ran active
  · exact fun _ => rfl
  · intro events state event next reached counted stepped active
    have before : state.submissions = lostPolls events + 1 := by
      apply counted
      cases ended : state.await.outcome? with
      | none => rfl
      | some outcome =>
        have none' : step env state event = none := step_closed (outcome_eq_some ended)
        rw [show step env state event = some next from stepped] at none'
        cases none'
    cases step_turn stepped with
    | @signal now report running =>
      rw [lostPolls_unpolled events rfl, ← before]
      rcases wake_cases env (taskCompleted state report) with ⟨same, _⟩ | ⟨_, _, _, _, _, _, woken⟩
      · rw [same]
        rfl
      · rw [woken, afterWait_submissions]
        rfl
    | timer waiting => rw [lostPolls_unpolled events rfl, poll_submissions, before]
    | @submitted attempts result now pending resolved =>
      rw [lostPolls_unpolled events rfl, ← before]
      cases result with
      | ok taskId => exact waitCondition_submissions env state taskId 0 now
      | error error => rfl
    | checked pending resolved =>
      rw [lostPolls_snoc events _ rfl, checkReturned_submissions (check_polled resolved) active, before]
      omega
    | @fetched taskId attempts result now pending resolved =>
      rw [lostPolls_unpolled events rfl, ← before]
      cases result with
      | error error => rfl
      | ok outcome =>
        simp only [outcomeReturned]
        split <;> rfl
    | @collected taskId attempts result now pending resolved =>
      rw [lostPolls_unpolled events rfl, ← before]
      cases result with
      | error error => rfl
      | ok collected =>
        simp only [outputsReturned]
        split <;> rfl
    | @cancelled now running fresh =>
      rw [lostPolls_unpolled events rfl, ← before]
      cases pending : state.await with
      | checkTask taskId polls since =>
        rw [cancelled_check env now pending] at active ⊢
        rw [checkReturned_submissions .inconclusive active]
        rfl
      | submitConversion =>
        have ended := cancelled_closes env now running (by simp [pending])
        rw [ended] at active
        cases active
      | waitCondition | fetchOutcome | collectOutputs =>
        have ended := cancelled_closes env now running (by simp [pending])
        rw [ended] at active
        cases active
      | closed outcome => exact absurd pending (running outcome)

/-- How often a task was asked after. -/
def checksOf (taskId : Text) (commands : List Command) : Nat :=
  commands.countP fun command =>
    match command with
    | .scheduleActivity (.checkTask other) _ _ _ => other = taskId
    | _ => false

/-- The polls that a wait has counted were made, and about its task. -/
def Budgeted (state : WorkflowState) : Prop :=
  match state.await with
  | .waitCondition taskId polls _ => polls ≤ checksOf taskId state.commands
  | .checkTask taskId polls _ => polls ≤ checksOf taskId state.commands
  | _ => True

theorem unwaiting_budgeted (out : state.await.isWaiting = false) : Budgeted state := by
  unfold Budgeted
  split
  · rename_i waiting
    simp [waiting, Await.isWaiting] at out
  · rename_i waiting
    simp [waiting, Await.isWaiting] at out
  · trivial

theorem poll_budgeted (made : polls ≤ checksOf taskId state.commands) :
    Budgeted (poll env state taskId polls since) := by
  simp only [Budgeted, poll_await, poll_commands, checksOf, List.countP_append,
    List.countP_singleton, decide_true, ↓reduceIte]
  exact Nat.succ_le_succ made

theorem waitCondition_budgeted (made : polls ≤ checksOf taskId state.commands) :
    Budgeted (waitCondition env state taskId polls since) := by
  have turn := waitCondition_turn env state taskId polls since
  generalize waitCondition env state taskId polls since = next at turn ⊢
  cases turn with
  | expired spent => exact poll_budgeted made
  | reported positive held => exact unwaiting_budgeted (afterWait_unwaiting taskId _)
  | slept positive absent =>
    simp only [Budgeted, issue_await, issue_commands, checksOf, List.countP_append]
    exact Nat.le_add_right_of_le made

theorem checkReturned_budgeted (result : Except ActivityError (Option TaskCompleted))
    (made : polls ≤ checksOf taskId state.commands) :
    Budgeted (checkReturned env now state taskId polls since result) := by
  unfold checkReturned
  cases check result with
  | error error =>
    simp only [waitRaised]
    split
    · exact unwaiting_budgeted rfl
    · trivial
  | ok polled =>
    cases polled with
    | some report => exact unwaiting_budgeted (afterWait_unwaiting taskId report)
    | none =>
      dsimp only
      split
      · exact unwaiting_budgeted rfl
      · exact waitCondition_budgeted made

theorem step_budgeted (kept : Budgeted state) (stepped : step env state event = some next) :
    Budgeted next := by
  cases step_turn stepped with
  | @signal now report running =>
    rcases wake_cases env (taskCompleted state report) with ⟨same, _⟩ | ⟨_, _, _, _, _, _, woken⟩
    · rw [same]
      exact kept
    · rw [woken]
      exact unwaiting_budgeted (afterWait_unwaiting _ _)
  | timer waiting =>
    rw [Budgeted, waiting] at kept
    exact poll_budgeted kept
  | @submitted attempts result now pending resolved =>
    cases result with
    | ok taskId => exact waitCondition_budgeted (Nat.zero_le _)
    | error error => exact unwaiting_budgeted rfl
  | checked pending resolved =>
    rw [Budgeted, pending] at kept
    exact checkReturned_budgeted _ kept
  | fetched pending resolved => exact unwaiting_budgeted (outcomeReturned_unwaiting ..)
  | collected pending resolved => exact unwaiting_budgeted (outputsReturned_unwaiting ..)
  | @cancelled now running fresh =>
    cases pending : state.await with
    | checkTask taskId polls since =>
      rw [Budgeted, pending] at kept
      rw [cancelled_check env now pending]
      exact checkReturned_budgeted _ kept
    | submitConversion | waitCondition | fetchOutcome | collectOutputs =>
      have ended := cancelled_closes env now running (by simp [pending])
      exact unwaiting_budgeted (congrArg Await.isWaiting ended)
    | closed outcome => exact absurd pending (running outcome)

theorem run_budgeted (ran : (workflow env).run events = some state) : Budgeted state := by
  refine Machine.run_induction (P := fun _ (state : WorkflowState) => Budgeted state) ?_ ?_ ran
  · trivial
  · intro events state event next _ kept stepped
    exact step_budgeted kept stepped

/-! ### Why a run ended -/

/-- An event after which a run knows no more about its task. -/
def Event.isSilent (event : Event) : Prop :=
  event.verdict? = some .inconclusive ∨ event.happening = .cancelRequested

/-- What a run has met by its last event when it ends without a result. -/
inductive Explained (env : Env) (before : List Event) (event : Event) (final : WorkflowState) :
    Outcome → Prop where
  | rejected (last : event.happening = .submitResolved (earlier ++ [.answered response]))
      (refuses : Refuses response) :
      Explained env before event final
        (.failed (.activity ⟨.application (rejection "submit".toList response)⟩))
  | lost (last : event.happening = .checkResolved attempts) (gone : AnsweredLost attempts)
      (often : lostPolls (before ++ [event]) = maxSubmissions) (loss : isTaskLost error = true) :
      Explained env before event final (.failed (.activity error))
  | reported (heard : Credited env (before ++ [event]) report)
      (fails : Fails report.taskId report error) : Explained env before event final (.failed error)
  | exhausted {polls : Nat} (silent : event.isSilent)
      (current : (submittedIds before).getLast? = some taskId)
      (spent : env.inp.maxSafetyPolls ≤ polls) (made : polls ≤ checksOf taskId final.commands) :
      Explained env before event final (.failed (budgetExhausted taskId polls elapsed))
  | unfetched (last : event.happening = .outcomeResolved (earlier ++ [.answered response]))
      (known : response.statusCode ≠ notFound) (refuses : Refuses response) :
      Explained env before event final
        (.failed (.activity ⟨.application (rejection "result fetch".toList response)⟩))
  | empty (last : event.happening = .outcomeResolved (earlier ++ [.answered response]))
      (current : (submittedIds before).getLast? = some taskId)
      (counted : fetchOutcome taskId response = .ok outcome) (nothing : outcome.produced = some 0) :
      Explained env before event final (.failed (conversionFailed (.convertedNothing taskId
        (outcome.numSucceeded.getD 0) outcome.numFailed env.inp.bucket env.inp.key)))
  | incomplete (last : event.happening = .outputsResolved (earlier ++ [.answered pages]))
      (missing : ∀ key ∈ listKeys pages, ¬ jsonSuffix <:+ key)
      (kind : error.type = some .missingOutputs) :
      Explained env before event final (.failed (.application error))
  | cancelled (requested : event.happening = .cancelRequested) :
      Explained env before event final .cancelled

section Closing

variable {before : List Event} {final : WorkflowState}

/-- The report that a failed wait returned is one that the run may go by. -/
theorem failedBy_explained (onto : (workflow env).run (before ++ [event]) = some final)
    (current : (submittedIds (before ++ [event])).getLast? = some taskId)
    (failed : FailedBy final taskId error) : Explained env before event final (.failed error) := by
  obtain ⟨report, waited, fails⟩ := failed
  have heard := terminal_credited onto waited
  obtain rfl := Option.some.inj (current.symm.trans heard.1)
  exact .reported heard fails

theorem checked_explained (reached : (workflow env).run before = some state)
    (onto : (workflow env).run (before ++ [event]) = some final)
    (pending : state.await = .checkTask taskId polls since) (given : event.submittedId? = none)
    (silent : check result = .ok none → event.isSilent)
    (lost : ∀ error, isTaskLost error = true → result = .error error →
      ∃ attempts, event.happening = .checkResolved attempts ∧ AnsweredLost attempts)
    (failed : PollFailed env now base taskId polls since result final error)
    (same : base.submissions = state.submissions) (commands : base.commands = state.commands) :
    Explained env before event final (.failed error) := by
  have current := awaits_last reached (congrArg Await.task? pending)
  cases failed with
  | told failed =>
    refine failedBy_explained onto ?_ failed
    rw [submittedIds_snoc, given, Option.toList_none, List.append_nil]
    exact current
  | exhausted nothing spent kept =>
    refine .exhausted (silent nothing) current spent ?_
    have budgeted := run_budgeted reached
    rw [Budgeted, pending] at budgeted
    rw [kept, commands]
    exact budgeted
  | lost gone raised room =>
    obtain ⟨attempts, last, answered⟩ := lost _ gone raised
    refine .lost last answered ?_ gone
    have counted := submissions_lost reached (by rw [pending]; rfl)
    have polled : event.verdict? = some PollVerdict.lost := by
      rw [Event.verdict?, last]
      exact congrArg some ((pollVerdict_lost_iff attempts).mpr answered)
    have bounded : state.submissions ≤ maxSubmissions := by
      cases run_paced reached with
      | polling _ counted room =>
        rw [counted]
        exact room
      | submitting waiting | sleeping waiting =>
        rw [pending] at waiting
        cases waiting
      | settled out =>
        rw [pending] at out
        cases out
    rw [lostPolls_snoc before _ polled, if_pos rfl]
    omega

/-- An activity without a limit of attempts was ended by its last answer. -/
theorem fetched_explained (reached : (workflow env).run before = some state)
    (pending : state.await = .fetchOutcome taskId)
    (last : event.happening = .outcomeResolved attempts)
    (resolved : resolve defaultRetry (fetchOutcome taskId) attempts = some result)
    (ended : (outcomeReturned env state taskId result).await = .closed (.failed error)) :
    Explained env before event final (.failed error) := by
  cases result with
  | error failure =>
    obtain rfl := raise_failed ended
    obtain ⟨earlier, response, cause, rfl, raised, nonRetryable, rfl⟩ := resolve_unlimited rfl resolved
    obtain ⟨known, refuses, rfl⟩ := fetchOutcome_refused raised nonRetryable
    exact .unfetched last known refuses
  | ok outcome =>
    simp only [outcomeReturned] at ended
    split at ended
    · rename_i nothing
      obtain rfl := raise_failed ended
      obtain ⟨earlier, attempt, rfl, same⟩ := resolve_last resolved
      cases attempt with
      | raised | timedOut => cases same
      | answered response =>
        simp only [Attempt.outcome] at same
        cases counted : fetchOutcome taskId response with
        | error cause =>
          rw [counted] at same
          cases same
        | ok counts =>
          rw [counted] at same
          cases same
          exact .empty last (awaits_last reached (congrArg Await.task? pending)) counted nothing
    · cases ended

theorem collected_explained (last : event.happening = .outputsResolved attempts)
    (resolved : resolve defaultRetry (fun pages => .ok (collectOutputs env.settings pages)) attempts =
      some result)
    (ended : (outputsReturned state taskId result).await = .closed (.failed error)) :
    Explained env before event final (.failed error) := by
  obtain ⟨collected, rfl⟩ := collectOutputs_resolves resolved
  simp only [outputsReturned] at ended
  split at ended
  · rename_i absent
    obtain rfl := raise_failed ended
    obtain ⟨earlier, attempt, rfl, same⟩ := resolve_last resolved
    cases attempt with
    | raised | timedOut => cases same
    | answered pages =>
      cases same
      refine .incomplete last ?_ rfl
      intro key listed ends
      exact absent ((required_listed_iff _).mpr ⟨key, listed, ends⟩)
  · cases ended

theorem submitted_explained
    (onto : (workflow env).run (before ++ [event]) = some (submitReturned env now state result))
    (last : event.happening = .submitResolved attempts)
    (resolved : resolve submitRetry submitConversion attempts = some result)
    (ended : (submitReturned env now state result).await = .closed (.failed error)) :
    Explained env before event (submitReturned env now state result) (.failed error) := by
  cases result with
  | ok taskId =>
    have given : event.submittedId? = some taskId := by simp [Event.submittedId?, last, resolved]
    have current : (submittedIds (before ++ [event])).getLast? = some taskId := by
      rw [submittedIds_snoc, given, Option.toList_some, List.getLast?_concat]
    exact failedBy_explained onto current (waitCondition_failed ended)
  | error failure =>
    obtain rfl := raise_failed ended
    obtain ⟨earlier, response, cause, rfl, raised, nonRetryable, rfl⟩ := resolve_unlimited rfl resolved
    obtain ⟨refuses, rfl⟩ := submitConversion_refused raised nonRetryable
    exact .rejected last refuses

/-- The event that fails a run explains its failure. -/
theorem closing_explained (reached : (workflow env).run before = some state)
    (stepped : step env state event = some final)
    (ended : final.await = .closed (.failed error)) :
    Explained env before event final (.failed error) := by
  have onto : (workflow env).run (before ++ [event]) = some final :=
    Machine.run_snoc.mpr ⟨state, reached, stepped⟩
  cases step_turn stepped with
  | @signal now report running =>
    rcases wake_cases env (taskCompleted state report) with
      ⟨same, _⟩ | ⟨taskId, polls, since, held, waiting, _, woken⟩
    · rw [same] at ended
      exact absurd ended (running _)
    · rw [woken] at ended onto ⊢
      refine failedBy_explained onto ?_ ⟨held, afterWait_terminal .., afterWait_failed ended⟩
      have asleep : state.await.task? = some taskId := congrArg Await.task? waiting
      simpa [Event.submittedId?] using awaits_last reached asleep
  | timer waiting => cases ended
  | submitted pending resolved => exact submitted_explained onto rfl resolved ended
  | @checked taskId polls since attempts result now pending resolved =>
    have polled := check_polled resolved
    refine checked_explained reached onto pending rfl ?_ ?_ (checkReturned_failed ended) rfl rfl
    · intro nothing
      rw [nothing] at polled
      refine Or.inl (congrArg some ?_)
      generalize pollVerdict attempts = said at polled
      cases polled
      rfl
    · rintro failure gone rfl
      refine ⟨attempts, rfl, (pollVerdict_lost_iff attempts).mp ?_⟩
      simp only [check, gone, ↓reduceIte] at polled
      generalize pollVerdict attempts = said at polled ⊢
      cases polled
      rfl
  | fetched pending resolved => exact fetched_explained reached pending rfl resolved ended
  | collected pending resolved => exact collected_explained rfl resolved ended
  | @cancelled now running fresh =>
    cases pending : state.await with
    | checkTask taskId polls since =>
      rw [cancelled_check env now pending] at ended onto ⊢
      refine checked_explained reached onto pending rfl (fun _ => Or.inr rfl) ?_
        (checkReturned_failed ended) rfl rfl
      rintro failure gone ⟨⟩
      cases gone
    | submitConversion | waitCondition | fetchOutcome | collectOutputs =>
      have closed := cancelled_closes env now running (by simp [pending])
      cases ended.symm.trans closed
    | closed outcome => exact absurd pending (running outcome)

end Closing

/-- Every run that ends without a result, whatever came in and in whatever
order, ends by an event that explains it: a submission or a result that
docling-serve refuses, the fourth lost task, a reported failure, a spent budget,
no document or no JSON, or a cancellation request. -/
theorem failures_explained (ran : (workflow env).run events = some state)
    (ended : state.await = .closed outcome) (failed : ∀ result, outcome ≠ .returned result) :
    ∃ before event, events = before ++ [event] ∧ Explained env before event state outcome := by
  rcases List.eq_nil_or_concat events with rfl | ⟨before, event, rfl⟩
  · cases ran
    cases ended
  rw [List.concat_eq_append] at ran ⊢
  obtain ⟨earlier, reached, stepped⟩ := Machine.run_snoc.mp ran
  refine ⟨before, event, rfl, ?_⟩
  cases outcome with
  | returned result => exact absurd rfl (failed result)
  | failed error => exact closing_explained reached stepped ended
  | cancelled =>
    by_cases requested : event.happening = .cancelRequested
    · exact .cancelled requested
    · have running : ¬ EndedCancelled earlier := by
        intro closed
        rw [show (workflow env).step earlier event = none from step_closed closed] at stepped
        cases stepped
      exact absurd ended (step_not_cancelled requested stepped running)

theorem failures_explained_polled :
    ∃ state before event, (workflow (plainEnv 300 5)).run
        [accepted "t".toList, timedOut, polledAs "failure".toList] = some state ∧
      [accepted "t".toList, timedOut, polledAs "failure".toList] = before ++ [event] ∧
      Explained (plainEnv 300 5) before event state
        (.failed (conversionFailed (.taskFailed "t".toList none))) := by
  have goes : ((workflow (plainEnv 300 5)).run
      [accepted "t".toList, timedOut, polledAs "failure".toList]).any (fun state =>
        state.await = .closed (.failed (conversionFailed (.taskFailed "t".toList none)))) = true := by
    decide +kernel
  obtain ⟨state, ran, ended⟩ := (Option.any_eq_true _ _).mp goes
  simp only [decide_eq_true_eq] at ended
  obtain ⟨before, event, same, explained⟩ := failures_explained ran ended nofun
  exact ⟨state, before, event, ran, same, explained⟩

end DoclingServeRay.Orchestration
