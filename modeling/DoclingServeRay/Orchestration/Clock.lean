import DoclingServeRay.Orchestration.Failures

/-! Runs by the clock: a run does not give up on a task before it has polled it as
often as it may and has waited as long as that many polls stand for. -/
namespace DoclingServeRay.Orchestration
open Strings EventMachine

variable {env : Env} {state next : WorkflowState} {event : Event} {events : List Event}

/-- A run together with the clock: when its last event came, and when the timer
it has set goes off, in microseconds. -/
structure Clocked where
  state : WorkflowState
  now : Instant
  due : ℚ

/-- When a timer set in this step goes off, or the one set before. -/
def dueAfter (clocked : Clocked) (now : Instant) (next : WorkflowState) : ℚ :=
  match (sleeps (issuedBy clocked.state next)).getLast? with
  | some seconds => now + 1000000 * seconds
  | none => clocked.due

/-- Time does not go back, and no timer fires before it is due. -/
def clockedStep (env : Env) (clocked : Clocked) (event : Event) : Option Clocked :=
  if clocked.now ≤ event.now ∧ (event.happening = .timerFired → clocked.due ≤ event.now) then
    (step env clocked.state event).map fun next =>
      ⟨next, event.now, dueAfter clocked event.now next⟩
  else none

def clocked (env : Env) (started : Instant) : Machine Clocked Event :=
  ⟨⟨start env, started, 0⟩, clockedStep env⟩

theorem clockedStep_cases {clocked after : Clocked}
    (stepped : clockedStep env clocked event = some after) :
    ∃ next, clocked.now ≤ event.now ∧ (event.happening = .timerFired → clocked.due ≤ event.now) ∧
      step env clocked.state event = some next ∧
      after = ⟨next, event.now, dueAfter clocked event.now next⟩ := by
  unfold clockedStep at stepped
  split at stepped
  case isFalse => cases stepped
  rename_i timely
  obtain ⟨next, moved, rfl⟩ := Option.map_eq_some_iff.mp stepped
  exact ⟨next, timely.1, timely.2, moved, rfl⟩

/-- A run by the clock is a run. -/
theorem clocked_run (ran : (clocked env started).run events = some after) :
    (workflow env).run events = some after.state := by
  refine Machine.run_induction
    (P := fun events after => (workflow env).run events = some after.state) rfl ?_ ran
  intro events clocked event after _ reached stepped
  obtain ⟨next, _, _, moved, rfl⟩ := clockedStep_cases stepped
  exact Machine.run_snoc.mpr ⟨clocked.state, reached, moved⟩

/-- The shortest sleep, in microseconds. -/
def Env.pace (env : Env) : ℚ := 1000000 * env.shortestSleep

theorem pace_nonpos (spent : nextSleep env draw ≤ 0) : env.pace ≤ 0 := by
  obtain ⟨low, _⟩ := env.jittered draw
  have least : (0 : ℚ) < 1 - safetyPollJitter := by decide +kernel
  have interval : (env.inp.safetyPollIntervalSeconds : ℚ) ≤ 0 := by
    by_contra positive
    have longer : 0 < nextSleep env draw :=
      mul_pos (not_le.mp positive) (lt_of_lt_of_le least low)
    exact absurd spent (not_le.mpr longer)
  have shortest : env.shortestSleep ≤ 0 := mul_nonpos_of_nonpos_of_nonneg interval least.le
  simp only [Env.pace]
  linarith

/-- The run has waited its pace for every poll it has made. -/
def Waited (env : Env) (polls : Nat) (since : Instant) (now : ℚ) : Prop :=
  since + polls * env.pace ≤ now

/-- The report of an exhausted budget is about a wait of that length. -/
def Outcome.Honest (env : Env) : Outcome → Prop
  | .failed (.application error) => error.type = some .pollBudgetExhausted →
    ∃ taskId polls seconds, error.message = .stillInProgress taskId polls seconds ∧
      env.inp.maxSafetyPolls ≤ (polls : Int) ∧ polls * env.shortestSleep < seconds + 1
  | _ => True

/-- What the clock says about the await that a run is suspended at. -/
inductive OnTime (env : Env) (now : Instant) (due : ℚ) : Await → Prop where
  | submitting : OnTime env now due .submitConversion
  | sleeping (waited : Waited env polls since now) (later : Waited env (polls + 1) since due) :
      OnTime env now due (.waitCondition taskId polls since)
  | polling (waited : Waited env polls since now) : OnTime env now due (.checkTask taskId polls since)
  | fetching : OnTime env now due (.fetchOutcome taskId)
  | collecting : OnTime env now due (.collectOutputs taskId)
  | ended (honest : outcome.Honest env) : OnTime env now due (.closed outcome)

section OnTime

variable {taskId : Text} {polls : Nat} {since now : Instant} {due : ℚ}

theorem waited_more {first second : ℚ} (waited : Waited env polls since first)
    (later : first ≤ second) : Waited env polls since second :=
  le_trans waited later

theorem waited_next (waited : Waited env polls since now) (sleep : env.pace ≤ rest) :
    Waited env (polls + 1) since (now + rest) := by
  simp only [Waited] at waited ⊢
  push_cast
  linarith

theorem raise_onTime (error : Raised) (honest : (Outcome.failed error).Honest env) :
    OnTime env now due (raise state error).await := by
  refine .ended ?_
  split
  · trivial
  · exact honest

theorem afterWait_onTime (report : TaskCompleted) :
    OnTime env now due (afterWait env state taskId report).await := by
  unfold afterWait
  dsimp only
  split
  · exact raise_onTime _ nofun
  · exact .fetching

theorem exhausted_honest (spent : env.inp.maxSafetyPolls ≤ (polls : Int))
    (waited : Waited env polls since now) :
    (Outcome.failed (budgetExhausted taskId polls ((now : Int) - since))).Honest env := by
  intro _
  refine ⟨taskId, polls, _, rfl, spent, ?_⟩
  have floor : ((now : Int) - since) < (((now : Int) - since) / 1000000 + 1) * 1000000 := by omega
  have floored : (now : ℚ) - since < ((((now : Int) - since) / 1000000 : Int) + 1) * 1000000 := by
    exact_mod_cast floor
  simp only [Waited, Env.pace] at waited
  linarith

variable {clocked : Clocked}

theorem dueAfter_timer
    (issued : next.commands = clocked.state.commands ++ [.startTimer seconds]) :
    dueAfter clocked now next = now + 1000000 * seconds := by
  simp [dueAfter, issuedBy, issued, sleeps, Command.sleep?]

theorem dueAfter_same (same : next.commands = clocked.state.commands) :
    dueAfter clocked now next = clocked.due := by
  simp [dueAfter, issuedBy, same, sleeps]

theorem waitCondition_onTime (waited : Waited env polls since now)
    (kept : state.commands = clocked.state.commands) :
    OnTime env now (dueAfter clocked now (waitCondition env state taskId polls since))
      (waitCondition env state taskId polls since).await := by
  have turn := waitCondition_turn env state taskId polls since
  generalize waitCondition env state taskId polls since = next at turn ⊢
  cases turn with
  | expired spent =>
    refine .polling ?_
    have next := waited_next waited (le_refl env.pace)
    have backwards := pace_nonpos spent
    exact waited_more next (by linarith)
  | reported positive held => exact afterWait_onTime _
  | slept positive absent =>
    refine .sleeping waited ?_
    rw [dueAfter_timer (by rw [issue_commands, kept])]
    have sleep := (nextSleep_within positive).1
    refine waited_next waited ?_
    simp only [Env.pace]
    linarith

theorem checkReturned_onTime (result : Except ActivityError (Option TaskCompleted))
    (waited : Waited env polls since now) (kept : state.commands = clocked.state.commands) :
    OnTime env now (dueAfter clocked now (checkReturned env now state taskId polls since result))
      (checkReturned env now state taskId polls since result).await := by
  unfold checkReturned
  cases check result with
  | error error =>
    simp only [waitRaised]
    split
    · exact raise_onTime _ trivial
    · exact .submitting
  | ok polled =>
    cases polled with
    | some report => exact afterWait_onTime report
    | none =>
      dsimp only
      split
      · rename_i spent
        exact raise_onTime _ (exhausted_honest spent waited)
      · exact waitCondition_onTime waited kept

theorem submitReturned_onTime (result : Except ActivityError Text)
    (kept : state.commands = clocked.state.commands) :
    OnTime env now (dueAfter clocked now (submitReturned env now state result))
      (submitReturned env now state result).await := by
  cases result with
  | ok taskId => exact waitCondition_onTime (by simp [Waited]) kept
  | error error => exact raise_onTime _ trivial

theorem outcomeReturned_onTime (result : Except ActivityError TaskOutcome) :
    OnTime env now due (outcomeReturned env state taskId result).await := by
  unfold outcomeReturned
  cases result with
  | error error => exact raise_onTime _ trivial
  | ok outcome =>
    dsimp only
    split
    · exact raise_onTime _ nofun
    · exact .collecting

theorem outputsReturned_onTime (result : Except ActivityError CollectedOutputs) :
    OnTime env now due (outputsReturned state taskId result).await := by
  unfold outputsReturned
  cases result with
  | error error => exact raise_onTime _ trivial
  | ok collected =>
    dsimp only
    split
    · exact raise_onTime _ nofun
    · exact .ended trivial

end OnTime

/-- The clock's part of a state. -/
def Clocked.OnTime (env : Env) (clocked : Clocked) : Prop :=
  Orchestration.OnTime env clocked.now clocked.due clocked.state.await

theorem clockedStep_onTime {clocked after : Clocked} (onTime : clocked.OnTime env)
    (stepped : clockedStep env clocked event = some after) : after.OnTime env := by
  obtain ⟨next, onward, fires, moved, rfl⟩ := clockedStep_cases stepped
  have later : (clocked.now : ℚ) ≤ event.now := by exact_mod_cast onward
  obtain ⟨state, now, due⟩ := clocked
  simp only [Clocked.OnTime] at onTime ⊢
  dsimp only at onTime onward fires moved later
  cases step_turn moved with
  | @signal instant report running =>
    rcases wake_cases env (taskCompleted state report) with
      ⟨same, _⟩ | ⟨taskId, polls, since, held, waiting, _, woken⟩
    · have undue : dueAfter ⟨state, now, due⟩ instant (taskCompleted state report) = due :=
        dueAfter_same rfl
      rw [same, undue]
      change Orchestration.OnTime env instant due state.await
      generalize state.await = await at onTime ⊢
      cases onTime with
      | submitting => exact .submitting
      | sleeping waited due => exact .sleeping (waited_more waited later) due
      | polling waited => exact .polling (waited_more waited later)
      | fetching => exact .fetching
      | collecting => exact .collecting
      | ended honest => exact .ended honest
    · rw [woken]
      exact afterWait_onTime held
  | timer waiting =>
    rw [waiting] at onTime
    cases onTime with
    | sleeping waited due => exact .polling (waited_more due (fires rfl))
  | submitted pending resolved => exact submitReturned_onTime _ rfl
  | checked pending resolved =>
    rw [pending] at onTime
    cases onTime with
    | polling waited => exact checkReturned_onTime _ (waited_more waited later) rfl
  | fetched pending resolved => exact outcomeReturned_onTime _
  | collected pending resolved => exact outputsReturned_onTime _
  | @cancelled instant running fresh =>
    cases pending : state.await with
    | submitConversion | waitCondition =>
      simp only [cancelled, pending]
      exact raise_onTime _ trivial
    | checkTask taskId polls since =>
      rw [pending] at onTime
      rw [cancelled_check env instant pending]
      cases onTime with
      | polling waited => exact checkReturned_onTime _ (waited_more waited later) rfl
    | fetchOutcome taskId =>
      rw [cancelled_fetch env instant pending]
      exact raise_onTime _ trivial
    | collectOutputs taskId =>
      rw [cancelled_collect env instant pending]
      exact raise_onTime _ trivial
    | closed outcome => exact absurd pending (running outcome)

/-- The polls that a spent budget names were made. -/
theorem exhausted_polled (ran : (workflow env).run events = some state)
    (ended : state.await = .closed (.failed (.application error)))
    (exhausted : error.type = some .pollBudgetExhausted)
    (told : error.message = .stillInProgress taskId polls seconds) :
    polls ≤ checksOf taskId state.commands := by
  rcases List.eq_nil_or_concat events with rfl | ⟨before, event, rfl⟩
  · cases ran
    cases ended
  rw [List.concat_eq_append] at ran
  obtain ⟨earlier, reached, stepped⟩ := Machine.run_snoc.mp ran
  cases closing_explained reached stepped ended with
  | exhausted silent current spent made =>
    cases told
    exact made
  | reported heard fails =>
    obtain ⟨_, same⟩ := fails
    cases same
    cases exhausted
  | empty => cases exhausted
  | incomplete last missing kind => cases exhausted.symm.trans kind

/-- Where timers do not fire early, a run that gives up on a task has asked after
it as often as it was allowed to, and has waited for it at least the shortest
sleep for each of these polls, which is what its error reports. -/
theorem exhaustion_not_early (ran : (clocked env started).run events = some final)
    (ended : final.state.await = .closed (.failed (.application error)))
    (exhausted : error.type = some .pollBudgetExhausted) :
    ∃ taskId polls seconds, error.message = .stillInProgress taskId polls seconds ∧
      env.inp.maxSafetyPolls ≤ (polls : Int) ∧ polls ≤ checksOf taskId final.state.commands ∧
      polls * env.shortestSleep < seconds + 1 := by
  have begins : (clocked env started).start.OnTime env := Orchestration.OnTime.submitting
  have onTime := Machine.runFrom_invariant (P := Clocked.OnTime env)
    (fun _ _ _ => clockedStep_onTime) begins ran
  unfold Clocked.OnTime at onTime
  rw [ended] at onTime
  cases onTime with
  | ended honest =>
    obtain ⟨taskId, polls, seconds, told, spent, waited⟩ := honest exhausted
    exact ⟨taskId, polls, seconds, told, spent,
      exhausted_polled (clocked_run ran) ended exhausted told, waited⟩

/-- Two polls are allowed, and each comes when its timer goes off. -/
def punctual : List Event :=
  [accepted "t".toList, ⟨300000000, .timerFired⟩,
    ⟨300000000, .checkResolved [.answered ⟨200, [], some ⟨"started".toList, none⟩⟩]⟩,
    ⟨600000000, .timerFired⟩,
    ⟨600000000, .checkResolved [.answered ⟨200, [], some ⟨"started".toList, none⟩⟩]⟩]

theorem exhaustion_not_early_twice :
    ∃ final taskId polls seconds, (clocked (plainEnv 300 2) 0).run punctual = some final ∧
      final.state.await = .closed (.failed (budgetExhausted "t".toList 2 600000000)) ∧
      Message.stillInProgress "t".toList 2 600 = .stillInProgress taskId polls seconds ∧
      polls ≤ checksOf taskId final.state.commands ∧
      polls * (plainEnv 300 2).shortestSleep < seconds + 1 := by
  have goes : ((clocked (plainEnv 300 2) 0).run punctual).any (fun final =>
      final.state.await = .closed (.failed (budgetExhausted "t".toList 2 600000000))) = true := by
    decide +kernel
  obtain ⟨final, ran, ended⟩ := (Option.any_eq_true _ _).mp goes
  simp only [decide_eq_true_eq] at ended
  obtain ⟨taskId, polls, seconds, told, _, made, waited⟩ := exhaustion_not_early ran ended rfl
  exact ⟨final, taskId, polls, seconds, ran, ended, told, made, waited⟩

end DoclingServeRay.Orchestration
