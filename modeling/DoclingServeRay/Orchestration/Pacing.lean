import DoclingServeRay.Orchestration.Commands
import DoclingServeRay.Orchestration.Termination
import Mathlib.Algebra.Order.BigOperators.Group.List
import Mathlib.Algebra.Order.Ring.Abs
import Mathlib.Tactic.Linarith

/-! How a run sleeps: a jittered interval at a time, and a bounded number of
times. -/
namespace DoclingServeRay.Orchestration
open Strings EventMachine

variable {env : Env} {state next : WorkflowState} {event : Event} {events : List Event}

/-! ### Sleeps -/

def Command.sleep? : Command → Option ℚ
  | .startTimer seconds => some seconds
  | _ => none

/-- How long each timer was set for, oldest first. -/
def sleeps (commands : List Command) : List ℚ := commands.filterMap Command.sleep?

theorem sleeps_append (first rest : List Command) :
    sleeps (first ++ rest) = sleeps first ++ sleeps rest :=
  List.filterMap_append

theorem sleeps_timer (commands : List Command) (seconds : ℚ) :
    sleeps (commands ++ [.startTimer seconds]) = sleeps commands ++ [seconds] :=
  sleeps_append commands _

theorem sleeps_activity (commands : List Command) (activity : Activity) (queue : Text)
    (seconds : ℕ+) (retry : RetryPolicy) :
    sleeps (commands ++ [.scheduleActivity activity queue seconds retry]) = sleeps commands := by
  simp [sleeps, Command.sleep?]

/-- The shortest and the longest sleep that the jitter allows. -/
def Env.shortestSleep (env : Env) : ℚ := env.inp.safetyPollIntervalSeconds * (1 - safetyPollJitter)

def Env.longestSleep (env : Env) : ℚ := env.inp.safetyPollIntervalSeconds * (1 + safetyPollJitter)

/-- Only a positive interval makes for a sleep. -/
theorem interval_positive (positive : 0 < nextSleep env draw) :
    0 < (env.inp.safetyPollIntervalSeconds : ℚ) := by
  obtain ⟨low, _⟩ := env.jittered draw
  have factor : (0 : ℚ) < env.uniform draw := by
    have least : (0 : ℚ) < 1 - safetyPollJitter := by decide +kernel
    exact lt_of_lt_of_le least low
  exact (pos_iff_pos_of_mul_pos positive).mpr factor

theorem nextSleep_within (positive : 0 < nextSleep env draw) :
    env.shortestSleep ≤ nextSleep env draw ∧ nextSleep env draw ≤ env.longestSleep := by
  obtain ⟨low, high⟩ := env.jittered draw
  have interval := (interval_positive positive).le
  exact ⟨mul_le_mul_of_nonneg_left low interval, mul_le_mul_of_nonneg_left high interval⟩

/-- No draw makes `timedelta` overflow. -/
theorem nextSleep_fits (env : Env) (draw : Nat) : |nextSleep env draw| ≤ timedeltaSeconds := by
  obtain ⟨low, high⟩ := env.jittered draw
  have least : (0 : ℚ) ≤ 1 - safetyPollJitter := by decide +kernel
  have most : (1 : ℚ) + safetyPollJitter = 6 / 5 := by decide +kernel
  have bounded : 6 * |(env.inp.safetyPollIntervalSeconds : ℚ)| ≤ 5 * timedeltaSeconds := by
    have fits : 6 * |env.inp.safetyPollIntervalSeconds| ≤ 5 * (timedeltaSeconds : Int) := by
      rw [Int.abs_eq_natAbs]
      exact_mod_cast env.inp.sleepable
    exact_mod_cast fits
  rw [nextSleep, abs_mul, abs_of_nonneg (least.trans low)]
  calc |(env.inp.safetyPollIntervalSeconds : ℚ)| * env.uniform draw
      ≤ |(env.inp.safetyPollIntervalSeconds : ℚ)| * (6 / 5) :=
        mul_le_mul_of_nonneg_left (most ▸ high) (abs_nonneg _)
    _ ≤ timedeltaSeconds := by linarith only [bounded]

/-- Whatever a run has slept, it has slept within the jitter of a positive
interval. -/
theorem sleep_within (ran : (workflow env).run events = some state)
    (slept : seconds ∈ sleeps state.commands) :
    0 < (env.inp.safetyPollIntervalSeconds : ℚ) ∧ env.shortestSleep ≤ seconds ∧
      seconds ≤ env.longestSleep := by
  obtain ⟨command, issued, timed⟩ := List.mem_filterMap.mp slept
  obtain ⟨await, asks⟩ := asked_at_await ran command issued
  cases asks with
  | sleep draw positive =>
    cases timed
    exact ⟨interval_positive positive, nextSleep_within positive⟩
  | _ => cases timed

/-! ### How many sleeps -/

/-- How many timers a run may have set by now. `earlier` counts the submissions
before the current one, and each submission has as many sleeps as it has polls. -/
inductive Paced (env : Env) (state : WorkflowState) : Prop where
  | submitting (pending : state.await = .submitConversion)
      (counted : state.submissions = earlier + 1) (room : earlier < maxSubmissions)
      (slept : (sleeps state.commands).length ≤ env.budget * earlier)
  | sleeping (pending : state.await = .waitCondition taskId polls since)
      (counted : state.submissions = earlier + 1) (room : earlier < maxSubmissions)
      (left : polls < env.budget)
      (slept : (sleeps state.commands).length ≤ env.budget * earlier + polls + 1)
  | polling (pending : state.await = .checkTask taskId (polls + 1) since)
      (counted : state.submissions = earlier + 1) (room : earlier < maxSubmissions)
      (left : polls < env.budget)
      (slept : (sleeps state.commands).length ≤ env.budget * earlier + polls + 1)
  | settled (out : state.await.isWaiting = false)
      (slept : (sleeps state.commands).length ≤ env.budget * maxSubmissions)

section Pieces

variable {earlier polls : Nat} {taskId : Text} {since now : Instant}

/-- What a submission may sleep is within what all of them may. -/
theorem allowance_le (room : earlier < maxSubmissions) (left : polls ≤ env.budget) :
    env.budget * earlier + polls ≤ env.budget * maxSubmissions := by
  have later : env.budget * (earlier + 1) ≤ env.budget * maxSubmissions :=
    Nat.mul_le_mul_left _ room
  rw [Nat.mul_succ] at later
  omega

theorem raise_paced (error : Raised)
    (slept : (sleeps state.commands).length ≤ env.budget * maxSubmissions) :
    Paced env (raise state error) :=
  .settled rfl slept

theorem afterWait_paced (report : TaskCompleted)
    (slept : (sleeps state.commands).length ≤ env.budget * maxSubmissions) :
    Paced env (afterWait env state taskId report) := by
  refine .settled (afterWait_unwaiting taskId report) ?_
  unfold afterWait
  dsimp only
  split
  · exact slept
  · rw [issue_commands, sleeps_activity]
    exact slept

theorem poll_paced (counted : state.submissions = earlier + 1) (room : earlier < maxSubmissions)
    (left : polls < env.budget)
    (slept : (sleeps state.commands).length ≤ env.budget * earlier + polls + 1) :
    Paced env (poll env state taskId polls since) := by
  refine .polling rfl counted room left ?_
  rw [poll_commands, sleeps_activity]
  exact slept

theorem waitCondition_paced (counted : state.submissions = earlier + 1)
    (room : earlier < maxSubmissions) (left : polls < env.budget)
    (slept : (sleeps state.commands).length ≤ env.budget * earlier + polls) :
    Paced env (waitCondition env state taskId polls since) := by
  have turn := waitCondition_turn env state taskId polls since
  generalize waitCondition env state taskId polls since = next at turn ⊢
  cases turn with
  | expired spent => exact poll_paced counted room left (Nat.le_succ_of_le slept)
  | reported positive held =>
    exact afterWait_paced _ (Nat.le_trans slept (allowance_le room (Nat.le_of_lt left)))
  | slept positive absent =>
    refine .sleeping rfl counted room left ?_
    rw [issue_commands, sleeps_timer, List.length_append]
    exact Nat.add_le_add_right slept 1

theorem checkReturned_paced (result : Except ActivityError (Option TaskCompleted))
    (counted : state.submissions = earlier + 1) (room : earlier < maxSubmissions)
    (left : polls < env.budget)
    (slept : (sleeps state.commands).length ≤ env.budget * earlier + polls + 1) :
    Paced env (checkReturned env now state taskId (polls + 1) since result) := by
  have within := Nat.le_trans slept (allowance_le room (Nat.succ_le_of_lt left))
  unfold checkReturned
  cases check result with
  | error error =>
    simp only [waitRaised]
    split
    · exact raise_paced _ within
    · rename_i retrying
      simp only [Bool.or_eq_true, not_or, decide_eq_true_eq] at retrying
      refine .submitting rfl (by rw [submit_submissions, counted]) (by omega) ?_
      rw [submit_commands, sleeps_activity, Nat.mul_succ]
      omega
  | ok polled =>
    cases polled with
    | some report => exact afterWait_paced report within
    | none =>
      simp only [spent_iff]
      split
      · exact raise_paced _ within
      · exact waitCondition_paced counted room (by omega) slept

theorem submitReturned_paced (result : Except ActivityError Text)
    (counted : state.submissions = earlier + 1) (room : earlier < maxSubmissions)
    (slept : (sleeps state.commands).length ≤ env.budget * earlier) :
    Paced env (submitReturned env now state result) := by
  cases result with
  | ok taskId => exact waitCondition_paced counted room (budget_positive env) slept
  | error error =>
    exact raise_paced _ (Nat.le_trans slept (allowance_le room (Nat.zero_le _)))

theorem outcomeReturned_paced (result : Except ActivityError TaskOutcome)
    (slept : (sleeps state.commands).length ≤ env.budget * maxSubmissions) :
    Paced env (outcomeReturned env state taskId result) := by
  refine .settled (outcomeReturned_unwaiting taskId result) ?_
  unfold outcomeReturned
  cases result with
  | error error => exact slept
  | ok outcome =>
    dsimp only
    split
    · exact slept
    · rw [issue_commands, sleeps_activity]
      exact slept

theorem outputsReturned_paced (result : Except ActivityError CollectedOutputs)
    (slept : (sleeps state.commands).length ≤ env.budget * maxSubmissions) :
    Paced env (outputsReturned state taskId result) := by
  refine .settled (outputsReturned_unwaiting taskId result) ?_
  unfold outputsReturned
  cases result with
  | error error => exact slept
  | ok collected =>
    dsimp only
    split
    · exact slept
    · exact slept

end Pieces

theorem paced_slept (paced : Paced env state) :
    (sleeps state.commands).length ≤ env.budget * maxSubmissions := by
  cases paced with
  | submitting pending counted room slept =>
    exact Nat.le_trans slept (allowance_le room (Nat.zero_le _))
  | sleeping pending counted room left slept =>
    exact Nat.le_trans slept (allowance_le room (Nat.succ_le_of_lt left))
  | polling pending counted room left slept =>
    exact Nat.le_trans slept (allowance_le room (Nat.succ_le_of_lt left))
  | settled out slept => exact slept

theorem step_paced (paced : Paced env state) (stepped : step env state event = some next) :
    Paced env next := by
  cases step_turn stepped with
  | @signal now report running =>
    rcases wake_cases env (taskCompleted state report) with
      ⟨same, _⟩ | ⟨taskId, polls, since, held, waiting, _, woken⟩
    · rw [same]
      cases paced with
      | submitting pending counted room slept => exact .submitting pending counted room slept
      | sleeping pending counted room left slept => exact .sleeping pending counted room left slept
      | polling pending counted room left slept => exact .polling pending counted room left slept
      | settled out slept => exact .settled out slept
    · rw [woken]
      exact afterWait_paced held (@paced_slept env state paced)
  | timer waiting =>
    cases paced with
    | sleeping pending counted room left slept =>
      cases waiting.symm.trans pending
      exact poll_paced counted room left slept
    | submitting pending | polling pending => cases waiting.symm.trans pending
    | settled out => simp [waiting, Await.isWaiting] at out
  | submitted waiting resolved =>
    cases paced with
    | submitting pending counted room slept => exact submitReturned_paced _ counted room slept
    | sleeping pending | polling pending => cases waiting.symm.trans pending
    | settled out => simp [waiting, Await.isWaiting] at out
  | checked waiting resolved =>
    cases paced with
    | polling pending counted room left slept =>
      cases waiting.symm.trans pending
      exact checkReturned_paced _ counted room left slept
    | submitting pending | sleeping pending => cases waiting.symm.trans pending
    | settled out => simp [waiting, Await.isWaiting] at out
  | fetched waiting resolved => exact outcomeReturned_paced _ (paced_slept paced)
  | collected waiting resolved => exact outputsReturned_paced _ (paced_slept paced)
  | @cancelled now running fresh =>
    have within := paced_slept paced
    cases pending : state.await with
    | submitConversion | waitCondition =>
      simp only [cancelled, pending]
      exact raise_paced _ within
    | checkTask taskId polls since =>
      rw [cancelled_check env now pending]
      cases paced with
      | polling waiting counted room left slept =>
        cases pending.symm.trans waiting
        exact checkReturned_paced _ counted room left slept
      | submitting waiting | sleeping waiting => cases pending.symm.trans waiting
      | settled out => simp [pending, Await.isWaiting] at out
    | fetchOutcome taskId =>
      rw [cancelled_fetch env now pending]
      exact raise_paced _ within
    | collectOutputs taskId =>
      rw [cancelled_collect env now pending]
      exact raise_paced _ within
    | closed outcome => exact absurd pending (running outcome)

theorem run_paced (ran : (workflow env).run events = some state) : Paced env state := by
  refine Machine.run_induction (P := fun _ (state : WorkflowState) => Paced env state) ?_ ?_ ran
  · exact .submitting rfl rfl (Nat.zero_lt_succ 3) (Nat.zero_le _)
  · intro events state event next _ paced stepped
    exact step_paced paced stepped

/-- No run, whatever happens to it, sleeps more often than its poll budget has
polls for four submissions, or longer at a time than the jitter adds: altogether
it asks for a bounded time. -/
theorem sleeps_bounded (ran : (workflow env).run events = some state) :
    ((sleeps state.commands).length : Int) ≤ 4 * max 1 env.inp.maxSafetyPolls ∧
      (∀ seconds ∈ sleeps state.commands, 0 < (env.inp.safetyPollIntervalSeconds : ℚ) ∧
        env.shortestSleep ≤ seconds ∧ seconds ≤ env.longestSleep) ∧
      (0 ≤ env.inp.safetyPollIntervalSeconds → (sleeps state.commands).sum ≤
        4 * max 1 env.inp.maxSafetyPolls * env.longestSleep) := by
  have few := paced_slept (run_paced ran)
  have within : ∀ seconds ∈ sleeps state.commands, 0 < (env.inp.safetyPollIntervalSeconds : ℚ) ∧
      env.shortestSleep ≤ seconds ∧ seconds ≤ env.longestSleep :=
    fun seconds slept => sleep_within ran slept
  have whole : max 1 env.inp.maxSafetyPolls = (env.budget : Int) := by
    simp only [Env.budget]
    omega
  refine ⟨?_, within, ?_⟩
  · rw [whole]
    simp only [maxSubmissions] at few
    omega
  · intro interval
    have longest : 0 ≤ env.longestSleep := by
      have factor : (0 : ℚ) ≤ 1 + safetyPollJitter := by decide +kernel
      exact mul_nonneg (by exact_mod_cast interval) factor
    have summed := List.sum_le_card_nsmul (sleeps state.commands) env.longestSleep
      fun seconds slept => (within seconds slept).2.2
    have count : ((sleeps state.commands).length : ℚ) ≤ 4 * env.budget := by
      have cast : ((sleeps state.commands).length : ℚ) ≤ (env.budget * maxSubmissions : Nat) := by
        exact_mod_cast few
      rw [Nat.cast_mul] at cast
      simpa [maxSubmissions, mul_comm] using cast
    calc (sleeps state.commands).sum
        ≤ (sleeps state.commands).length * env.longestSleep := by simpa using summed
      _ ≤ 4 * env.budget * env.longestSleep := mul_le_mul_of_nonneg_right count longest
      _ = 4 * max 1 env.inp.maxSafetyPolls * env.longestSleep := by
        have same : ((max 1 env.inp.maxSafetyPolls : Int) : ℚ) = env.budget := by exact_mod_cast whole
        rw [← same]

theorem sleeps_bounded_default :
    ∃ state, (workflow (plainEnv 300 600)).run [accepted "t".toList] = some state ∧
      (sleeps state.commands).sum ≤ 4 * 600 * 360 := by
  obtain ⟨state, ran⟩ : ∃ state,
      (workflow (plainEnv 300 600)).run [accepted "t".toList] = some state := ⟨_, rfl⟩
  refine ⟨state, ran, le_trans ((sleeps_bounded ran).2.2 (by decide)) ?_⟩
  have interval : (300 : UInt16).toNat = 300 := rfl
  simp only [plainEnv, Env.longestSleep, safetyPollJitter, interval]
  norm_num

end DoclingServeRay.Orchestration
