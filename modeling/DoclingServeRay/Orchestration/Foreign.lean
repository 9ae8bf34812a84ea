import DoclingServeRay.Orchestration.History

/-! Foreign callbacks have no influence. A wait ends with a report about the
task it is for; and a run cannot be told from the one that receives only the
first signal for each task that is, or comes to be, the one awaited. -/
namespace DoclingServeRay.Orchestration
open Strings EventMachine

variable {env : Env} {state next : WorkflowState} {event : Event} {events : List Event}

/-! ### What ends a wait -/

theorem answer_taskId (answered : event.answer? taskId = some report) : report.taskId = taskId := by
  obtain ⟨now, happening⟩ := event
  cases happening with
  | checkResolved attempts =>
    simp only [Event.answer?] at answered
    cases resolved : resolve checkRetry (checkTask taskId) attempts with
    | none => simp [resolved] at answered
    | some result =>
      cases result with
      | error error => simp [resolved] at answered
      | ok polled =>
        have polled' := check_polled resolved
        simp only [resolved] at answered
        subst answered
        generalize pollVerdict attempts = verdict at polled'
        cases polled' with
        | terminal named => exact named
  | _ => cases answered

theorem answer_pending (stepped : step env state event = some next)
    (named : state.await.task? = some taskId) (answered : event.answer? taskId = some report) :
    ∃ polls since, state.await = .checkTask taskId polls since := by
  cases step_turn stepped with
  | checked pending resolved =>
    rw [pending] at named
    cases named
    exact ⟨_, _, pending⟩
  | _ => cases answered

/-- A report that the run may go on with: it is about the last task that was
submitted, and either the first signal for it or the answer to a poll for it. -/
def Credited (env : Env) (events : List Event) (report : TaskCompleted) : Prop :=
  (submittedIds events).getLast? = some report.taskId ∧
    (firstSignal events report.taskId = some report ∨
      ∃ before event after polls since, (workflow env).Occurs events before event after ∧
        before.await = .checkTask report.taskId polls since ∧
        event.answer? report.taskId = some report)

theorem terminal_credited (ran : (workflow env).run events = some state)
    (ended : state.terminal = some report) : Credited env events report := by
  refine Machine.run_induction (P := fun events (state : WorkflowState) =>
    ∀ report, state.terminal = some report → Credited env events report) ?_ ?_ ran report ended
  · nofun
  · intro events state event next reached held stepped report ended
    cases waiting : state.await.isWaiting with
    | false =>
      -- The wait is over, and nothing that comes later changes what ended it.
      obtain ⟨-, same, given⟩ := step_unwaiting stepped waiting
      obtain ⟨last, source⟩ := held report (same ▸ ended)
      refine ⟨by simpa [given] using last, source.imp ?_ ?_⟩
      · intro first
        rw [firstSignal_snoc, first]
        rfl
      · rintro ⟨before, earlier, after, polls, since, occurs, pending, answered⟩
        exact ⟨before, earlier, after, polls, since, Machine.occurs_snoc.mpr (Or.inl occurs),
          pending, answered⟩
    | true =>
      have unended : (received state event).terminal = none :=
        received_terminal.trans (waiting_unended reached waiting)
      have onto : (workflow env).run (events ++ [event]) = some next :=
        Machine.run_snoc.mpr ⟨state, reached, stepped⟩
      have left : ∀ taskId, (submittedIds (events ++ [event])).getLast? = some taskId →
          (event.answer? taskId = some report → ∃ polls since,
            state.await = .checkTask taskId polls since) →
          Onward env (received state event) taskId (event.answer? taskId) next →
          Credited env (events ++ [event]) report := by
        intro taskId last pending onward
        have arrived := completed_firstSignal onto taskId
        rw [onward_completed onward] at arrived
        cases onward with
        | left draws other source =>
          rw [afterWait_terminal] at ended
          cases ended
          rcases source with heard | answered
          · rw [heard] at arrived
            obtain rfl := firstSignal_taskId arrived.symm
            exact ⟨last, Or.inl arrived.symm⟩
          · obtain ⟨polls, since, awaiting⟩ := pending answered
            obtain rfl := answer_taskId answered
            exact ⟨last, Or.inr ⟨state, event, _, polls, since,
              Machine.occurs_snoc.mpr (Or.inr ⟨rfl, reached, stepped⟩), awaiting, answered⟩⟩
        | _ => simp [unended] at ended
      cases step_moved stepped with
      | stayed given asleep => simp [unended] at ended
      | refused given error => simp [unended] at ended
      | @moved taskId _ given named onward =>
        refine left taskId ?_ (answer_pending stepped named) onward
        simpa [given] using awaits_last reached named
      | @submitted taskId _ given onward =>
        refine left taskId (by simp [given]) ?_ onward
        intro answered
        obtain ⟨now, happening⟩ := event
        cases happening <;> simp [Event.answer?, Event.submittedId?] at answered given

/-! ### Hearing something else -/

/-- The same state with other signals heard. -/
def hearing (state : WorkflowState) (completed : OrderedDict Text TaskCompleted) : WorkflowState :=
  { state with completed := completed }

section Hearing

variable {completed : OrderedDict Text TaskCompleted}

@[simp] theorem hearing_completed : (hearing state completed).completed = completed := rfl
@[simp] theorem hearing_await : (hearing state completed).await = state.await := rfl
@[simp] theorem hearing_submissions :
    (hearing state completed).submissions = state.submissions := rfl
@[simp] theorem hearing_commands : (hearing state completed).commands = state.commands := rfl

theorem afterWait_hearing (taskId : Text) (report : TaskCompleted) :
    afterWait env (hearing state completed) taskId report =
      hearing (afterWait env state taskId report) completed := by
  unfold afterWait
  split <;> rfl

theorem waitCondition_hearing (polls : Nat) (since : Instant)
    (agree : completed.get? taskId = state.completed.get? taskId) :
    waitCondition env (hearing state completed) taskId polls since =
      hearing (waitCondition env state taskId polls since) completed := by
  simp only [waitCondition, hearing, agree]
  split
  · rfl
  · cases state.completed.get? taskId with
    | some report => exact @afterWait_hearing env { state with draws := state.draws + 1 } ..
    | none => rfl

theorem waitRaised_hearing (error : ActivityError) :
    waitRaised env (hearing state completed) error =
      hearing (waitRaised env state error) completed := by
  rw [waitRaised, waitRaised, apply_ite fun next => hearing next completed]
  rfl

theorem checkReturned_hearing (now : Instant) (polls : Nat) (since : Instant)
    (result : Except ActivityError (Option TaskCompleted))
    (agree : completed.get? taskId = state.completed.get? taskId) :
    checkReturned env now (hearing state completed) taskId polls since result =
      hearing (checkReturned env now state taskId polls since result) completed := by
  unfold checkReturned
  cases check result with
  | error error => exact waitRaised_hearing error
  | ok polled =>
    cases polled with
    | some report => exact afterWait_hearing taskId report
    | none =>
      dsimp only
      split
      · rfl
      · exact waitCondition_hearing polls since agree

theorem submitReturned_hearing (now : Instant) (result : Except ActivityError Text)
    (agree : ∀ taskId, result = .ok taskId → completed.get? taskId = state.completed.get? taskId) :
    submitReturned env now (hearing state completed) result =
      hearing (submitReturned env now state result) completed := by
  unfold submitReturned
  cases result with
  | ok taskId => exact waitCondition_hearing 0 now (agree taskId rfl)
  | error error => rfl

theorem outcomeReturned_hearing (taskId : Text) (result : Except ActivityError TaskOutcome) :
    outcomeReturned env (hearing state completed) taskId result =
      hearing (outcomeReturned env state taskId result) completed := by
  unfold outcomeReturned
  cases result with
  | error error => rfl
  | ok outcome =>
    dsimp only
    split <;> rfl

theorem outputsReturned_hearing (taskId : Text) (result : Except ActivityError CollectedOutputs) :
    outputsReturned (hearing state completed) taskId result =
      hearing (outputsReturned state taskId result) completed := by
  unfold outputsReturned
  cases result with
  | error error => rfl
  | ok collected =>
    dsimp only
    split <;> rfl

theorem wake_hearing
    (agree : ∀ taskId, state.await.task? = some taskId →
      completed.get? taskId = state.completed.get? taskId) :
    wake env (hearing state completed) = hearing (wake env state) completed := by
  unfold wake
  cases pending : state.await with
  | waitCondition taskId polls since =>
    simp only [hearing_await, pending, hearing_completed, agree taskId (by rw [pending]; rfl)]
    cases state.completed.get? taskId with
    | some report => exact afterWait_hearing taskId report
    | none => rfl
  | _ => simp [pending]

theorem cancelled_hearing (now : Instant)
    (agree : ∀ taskId, state.await.task? = some taskId →
      completed.get? taskId = state.completed.get? taskId) :
    cancelled env now (hearing state completed) =
      hearing (cancelled env now state) completed := by
  cases pending : state.await with
  | checkTask taskId polls since =>
    have mirrored : (hearing state completed).await = .checkTask taskId polls since := pending
    rw [cancelled_check env now pending, cancelled_check env now mirrored]
    exact @checkReturned_hearing env { state with cancelRequested := true } completed taskId now
      polls since _ (agree taskId (by rw [pending]; rfl))
  | fetchOutcome taskId =>
    have mirrored : (hearing state completed).await = .fetchOutcome taskId := pending
    rw [cancelled_fetch env now pending, cancelled_fetch env now mirrored]
    rfl
  | collectOutputs taskId =>
    have mirrored : (hearing state completed).await = .collectOutputs taskId := pending
    rw [cancelled_collect env now pending, cancelled_collect env now mirrored]
    rfl
  | submitConversion | waitCondition taskId polls since | closed outcome =>
    simp only [cancelled, hearing_await, pending]
    rfl

/-- What an event adds to the signals heard. -/
def heard (completed : OrderedDict Text TaskCompleted) (event : Event) :
    OrderedDict Text TaskCompleted :=
  match event.signal? with
  | some report => completed.setDefault report.taskId report
  | none => completed

theorem heard_agree (other : OrderedDict Text TaskCompleted) (event : Event)
    (agree : completed.get? taskId = other.get? taskId) :
    (heard completed event).get? taskId = (heard other event).get? taskId := by
  unfold heard
  cases event.signal? with
  | none => exact agree
  | some report =>
    dsimp only
    rw [OrderedDict.get?_setDefault, OrderedDict.get?_setDefault]
    by_cases named : taskId = report.taskId
    · rw [if_pos named, if_pos named, ← named, agree]
    · rw [if_neg named, if_neg named, agree]

/-- A step looks only at the signals for the task that the coroutine is about or
has just been given. -/
theorem step_hearing (stepped : step env state event = some next)
    (agree : ∀ taskId, state.await.task? = some taskId ∨ event.submittedId? = some taskId →
      completed.get? taskId = state.completed.get? taskId) :
    step env (hearing state completed) event =
      some (hearing next (heard completed event)) := by
  have awaited : ∀ taskId, state.await.task? = some taskId →
      completed.get? taskId = state.completed.get? taskId :=
    fun taskId named => agree taskId (Or.inl named)
  cases step_turn stepped with
  | @signal now report running =>
    have woken : wake env (taskCompleted (hearing state completed) report) =
        hearing (wake env (taskCompleted state report))
          (completed.setDefault report.taskId report) := by
      refine @wake_hearing env (taskCompleted state report) _ ?_
      intro taskId named
      exact heard_agree state.completed ⟨now, .signal report⟩ (awaited taskId named)
    have mirrored : step env (hearing state completed) ⟨now, .signal report⟩ =
        some (wake env (taskCompleted (hearing state completed) report)) := turn_step (.signal running)
    rw [mirrored, woken]
    rfl
  | timer waiting => exact turn_step (.timer waiting)
  | @submitted attempts result now pending resolved =>
    have mirrored : step env (hearing state completed) ⟨now, .submitResolved attempts⟩ =
        some (submitReturned env now (hearing state completed) result) :=
      turn_step (.submitted pending resolved)
    rw [mirrored, submitReturned_hearing now result]
    · rfl
    · rintro taskId rfl
      exact agree taskId (Or.inr (by simp [Event.submittedId?, resolved]))
  | @checked taskId polls since attempts result now pending resolved =>
    have mirrored : step env (hearing state completed) ⟨now, .checkResolved attempts⟩ =
        some (checkReturned env now (hearing state completed) taskId polls since result) :=
      turn_step (.checked pending resolved)
    rw [mirrored, checkReturned_hearing now polls since result
      (awaited taskId (by rw [pending]; rfl))]
    rfl
  | @fetched taskId attempts result now pending resolved =>
    have mirrored : step env (hearing state completed) ⟨now, .outcomeResolved attempts⟩ =
        some (outcomeReturned env (hearing state completed) taskId result) :=
      turn_step (.fetched pending resolved)
    rw [mirrored, outcomeReturned_hearing]
    rfl
  | @collected taskId attempts result now pending resolved =>
    have mirrored : step env (hearing state completed) ⟨now, .outputsResolved attempts⟩ =
        some (outputsReturned (hearing state completed) taskId result) :=
      turn_step (.collected pending resolved)
    rw [mirrored, outputsReturned_hearing]
    rfl
  | @cancelled now running fresh =>
    have mirrored : step env (hearing state completed) ⟨now, .cancelRequested⟩ =
        some (cancelled env now (hearing state completed)) := turn_step (.cancelled running fresh)
    rw [mirrored, cancelled_hearing now awaited]
    rfl

end Hearing

/-! ### Signals that make no difference -/

/-- The event is the end of a poll that lost the task. -/
def Event.isLossReport (event : Event) : Bool :=
  match event.happening with
  | .checkResolved attempts => pollVerdict attempts = .lost
  | _ => false

def followSubmission (current : Option Text) (event : Event) : Option Text :=
  if event.isLossReport then none else event.submittedId?.or current

/-- The task of the last submission, unless a poll has lost it. -/
def currentSubmission (events : List Event) : Option Text := events.foldl followSubmission none

/-- A signal that should make no difference: for a task that no submission of
the run returns, for one that was lost and does not come back, or for one that
a signal has been delivered for. -/
def ineffective (past : List Event) (report : TaskCompleted) (rest : List Event) : Bool :=
  report.taskId ∉ submittedIds (past ++ rest) ||
  (currentSubmission past ≠ some report.taskId && report.taskId ∈ submittedIds past &&
    report.taskId ∉ submittedIds rest) ||
  (firstSignal past report.taskId).isSome

/-- Keeps all events but the ineffective signals. -/
def effective (past : List Event) (event : Event) (rest : List Event) : Bool :=
  match event.signal? with
  | some report => !ineffective past report rest
  | none => true

theorem currentSubmission_snoc :
    currentSubmission (events ++ [event]) = followSubmission (currentSubmission events) event := by
  simp [currentSubmission]

theorem lost_poll_task (stepped : step env state event = some next)
    (lost : event.isLossReport = true) : next.await.task? = none := by
  cases step_turn stepped with
  | @checked taskId polls since attempts result now pending resolved =>
    have polled := check_polled resolved
    simp only [Event.isLossReport, decide_eq_true_eq] at lost
    rw [lost] at polled
    unfold checkReturned
    generalize check result = checked at polled ⊢
    cases polled with
    | lost gone =>
      simp only [waitRaised]
      split
      · exact raise_task _
      · rfl
  | _ => cases lost

/-- The task that the coroutine is about has not been lost. -/
theorem awaits_current (ran : (workflow env).run events = some state)
    (named : state.await.task? = some taskId) : currentSubmission events = some taskId := by
  refine Machine.run_induction (P := fun events (state : WorkflowState) =>
    ∀ taskId, state.await.task? = some taskId → currentSubmission events = some taskId)
    ?_ ?_ ran taskId named
  · nofun
  · intro events state event next _ held stepped taskId named
    have kept : event.isLossReport = false := by
      cases lost : event.isLossReport with
      | false => rfl
      | true =>
        rw [lost_poll_task stepped lost] at named
        cases named
    rw [currentSubmission_snoc, followSubmission, kept]
    rcases step_task stepped named with ⟨given, before⟩ | given
    · simpa [given] using held taskId before
    · simp [given]

/-- The two runs differ only in signals for tasks that are not awaited and will
not be. -/
def Indistinct (rest : List Event) (left right : WorkflowState) : Prop :=
  right = hearing left right.completed ∧
    ∀ taskId, left.await.task? = some taskId ∨ taskId ∈ submittedIds rest →
      right.completed.get? taskId = left.completed.get? taskId

theorem submittedIds_cons :
    submittedIds (event :: events) = event.submittedId?.toList ++ submittedIds events := by
  simp only [submittedIds, List.filterMap_cons]
  cases event.submittedId? <;> rfl

theorem submittedIds_append (first rest : List Event) :
    submittedIds (first ++ rest) = submittedIds first ++ submittedIds rest := by
  simp [submittedIds]

theorem indistinct_kept (alike : Indistinct (event :: rest) left right)
    (stepped : step env left event = some next) :
    ∃ other, step env right event = some other ∧ Indistinct rest next other := by
  obtain ⟨same, agree⟩ := alike
  have needed : ∀ taskId, left.await.task? = some taskId ∨ event.submittedId? = some taskId →
      right.completed.get? taskId = left.completed.get? taskId := by
    intro taskId relevant
    refine agree taskId (relevant.imp id fun given => ?_)
    rw [submittedIds_cons, given]
    simp
  refine ⟨hearing next (heard right.completed event), ?_, rfl, ?_⟩
  · rw [same]
    exact step_hearing stepped needed
  · intro taskId relevant
    rw [hearing_completed, step_completed stepped, received_completed]
    refine heard_agree left.completed event ?_
    rcases relevant with named | later
    · exact needed taskId ((step_task stepped named).imp_left And.right)
    · refine agree taskId (Or.inr ?_)
      rw [submittedIds_cons]
      exact List.mem_append_right _ later

/-- An ineffective signal that says something new is for a task that is neither
awaited nor submitted later. -/
theorem ineffective_unneeded (ran : (workflow env).run past = some state)
    (dropped : ineffective past report rest = true)
    (unheard : state.completed.get? report.taskId = none) :
    state.await.task? ≠ some report.taskId ∧ report.taskId ∉ submittedIds rest := by
  simp only [ineffective, submittedIds_append, List.mem_append, not_or, Bool.or_eq_true,
    Bool.and_eq_true, decide_eq_true_eq] at dropped
  rcases dropped with (⟨before, after⟩ | ⟨⟨lost, _⟩, after⟩) | repeated
  · refine ⟨fun named => before ?_, after⟩
    exact List.mem_of_getLast? (awaits_last ran named)
  · exact ⟨fun named => lost (awaits_current ran named), after⟩
  · rw [← completed_firstSignal ran, unheard] at repeated
    cases repeated

theorem indistinct_dropped (ran : (workflow env).run past = some left)
    (dropped : effective past event rest = false) (alike : Indistinct (event :: rest) left right)
    (stepped : step env left event = some next) : Indistinct rest next right := by
  obtain ⟨same, agree⟩ := alike
  cases step_turn stepped with
  | @signal now report running =>
    have ignored : ineffective past report rest = true := by simpa [effective, Event.signal?] using dropped
    have agree : ∀ taskId, left.await.task? = some taskId ∨ taskId ∈ submittedIds rest →
        right.completed.get? taskId = left.completed.get? taskId := agree
    cases known : left.completed.get? report.taskId with
    | some first =>
      -- A repeat: the handler keeps the first signal, and the sleeper has not heard it.
      have kept : taskCompleted left report = left := by
        rw [taskCompleted, OrderedDict.setDefault_of_present known]
      rw [kept]
      rcases wake_cases env left with ⟨woken, _⟩ | ⟨taskId, polls, since, other, waiting, held, _⟩
      · rw [woken]
        exact ⟨same, agree⟩
      · rw [asleep_unheard ran waiting] at held
        cases held
    | none =>
      obtain ⟨unawaited, unsubmitted⟩ := ineffective_unneeded ran ignored known
      have elsewhere : ∀ taskId, left.await.task? = some taskId ∨ taskId ∈ submittedIds rest →
          (taskCompleted left report).completed.get? taskId = left.completed.get? taskId := by
        intro taskId relevant
        have other : taskId ≠ report.taskId := by
          rintro rfl
          exact relevant.elim unawaited unsubmitted
        rw [taskCompleted, OrderedDict.get?_setDefault, if_neg other]
      rcases wake_cases env (taskCompleted left report) with
        ⟨woken, _⟩ | ⟨taskId, polls, since, other, waiting, held, _⟩
      · rw [woken]
        refine ⟨same, fun taskId relevant => ?_⟩
        rw [elsewhere taskId relevant]
        exact agree taskId relevant
      · have asleep : left.await = .waitCondition taskId polls since := waiting
        rw [elsewhere taskId (Or.inl (by rw [asleep]; rfl)), asleep_unheard ran asleep] at held
        cases held
  | _ => cases dropped

/-- Foreign callbacks have no influence. The report that ends a wait is about
the task that the last submission returned, and is the first signal for it or
the answer to a poll for it. Without the signals for tasks that the run never
submits, for lost submissions and for tasks signalled before, the run does the
same: it issues the same activities and sleeps and awaits or returns the same. -/
theorem foreign_callbacks_ineffective (ran : (workflow env).run events = some state) :
    (∀ report, state.terminal = some report → Credited env events report) ∧
    ∃ other, (workflow env).run (Machine.erase effective events) = some other ∧
      other.commands = state.commands ∧ other.draws = state.draws ∧ other.await = state.await := by
  refine ⟨fun report ended => terminal_credited ran ended, ?_⟩
  have nothing : (workflow env).run [] = some (start env) := rfl
  have same : Indistinct events (start env) (start env) := ⟨rfl, fun _ _ => rfl⟩
  obtain ⟨other, ran', alike, -⟩ := Machine.eraseAfter_simulates (R := fun _ => Indistinct)
    (fun past event rest left right next _ _ alike stepped => indistinct_kept alike stepped)
    (fun past event rest left right next dropped reached alike stepped =>
      indistinct_dropped reached dropped alike stepped)
    nothing same ran
  refine ⟨other, ran', ?_⟩
  rw [alike]
  exact ⟨rfl, rfl, rfl⟩

/-- A run that hears of a stranger's task, of a task that was lost, and twice of
its own. -/
def noisyEvents : List Event :=
  [signalled "other".toList .failure, accepted "a".toList, timedOut, polledLost,
    signalled "a".toList .failure, accepted "b".toList, signalled "b".toList .success,
    signalled "b".toList .failure]

theorem foreign_callbacks_ineffective_noisy :
    ∃ state other, (workflow (plainEnv 300 1)).run noisyEvents = some state ∧
      Credited (plainEnv 300 1) noisyEvents ⟨"b".toList, .success, none⟩ ∧
      (workflow (plainEnv 300 1)).run [accepted "a".toList, timedOut, polledLost,
        accepted "b".toList, signalled "b".toList .success] = some other ∧
      other.commands = state.commands ∧ other.draws = state.draws ∧ other.await = state.await := by
  have ends : ((workflow (plainEnv 300 1)).run noisyEvents).map (·.terminal) =
      some (some ⟨"b".toList, .success, none⟩) := by
    decide +kernel
  have silenced : Machine.erase effective noisyEvents = [accepted "a".toList, timedOut, polledLost,
      accepted "b".toList, signalled "b".toList .success] := by
    decide +kernel
  obtain ⟨state, ran, ended⟩ := Option.map_eq_some_iff.mp ends
  obtain ⟨credited, other, ran', same⟩ := foreign_callbacks_ineffective ran
  exact ⟨state, other, ran, credited _ ended, silenced ▸ ran', same⟩

end DoclingServeRay.Orchestration
