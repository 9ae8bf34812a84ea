import DoclingServeRay.Orchestration.Transitions

/-! What a run remembers of its events: which signals and which task ids have
come in, and that the workflow awaits the last task it was given and holds the
first signal for each. -/
namespace DoclingServeRay.Orchestration
open Strings EventMachine

variable {env : Env} {state next : WorkflowState} {event : Event} {events : List Event}

/-! ### Reading events -/

/-- The task id that an event brings back from `submit_conversion`. -/
def Event.submittedId? (event : Event) : Option Text :=
  match event.happening with
  | .submitResolved attempts =>
    match resolve submitRetry submitConversion attempts with
    | some (.ok taskId) => some taskId
    | _ => none
  | _ => none

def Event.signal? (event : Event) : Option TaskCompleted :=
  match event.happening with
  | .signal report => some report
  | _ => none

/-- The task ids that the run's submissions returned, oldest first. -/
def submittedIds (events : List Event) : List Text := events.filterMap Event.submittedId?

/-- The delivered signals, oldest first. -/
def signals (events : List Event) : List TaskCompleted := events.filterMap Event.signal?

/-- The first signal delivered for a task. -/
def firstSignal (events : List Event) (taskId : Text) : Option TaskCompleted :=
  (signals events).find? fun report => report.taskId = taskId

@[simp] theorem submittedIds_snoc :
    submittedIds (events ++ [event]) = submittedIds events ++ event.submittedId?.toList := by
  simp only [submittedIds, List.filterMap_append, List.filterMap_cons, List.filterMap_nil]
  cases event.submittedId? <;> rfl

@[simp] theorem signals_snoc :
    signals (events ++ [event]) = signals events ++ event.signal?.toList := by
  simp only [signals, List.filterMap_append, List.filterMap_cons, List.filterMap_nil]
  cases event.signal? <;> rfl

theorem firstSignal_snoc (taskId : Text) :
    firstSignal (events ++ [event]) taskId =
      (firstSignal events taskId).or (event.signal?.filter fun report => report.taskId = taskId) := by
  simp only [firstSignal, signals, List.filterMap_append, List.filterMap_cons, List.filterMap_nil,
    List.find?_append]
  cases heard : event.signal? with
  | none => simp
  | some report => simp [Option.filter, List.find?]; grind

theorem firstSignal_taskId (found : firstSignal events taskId = some report) :
    report.taskId = taskId := by
  simpa using List.find?_some found

/-! ### Where the coroutine goes -/

/-- Where a piece of the coroutine that is about one task can leave it, when
`polled` is what `check_task` answered, if it did. -/
inductive Onward (env : Env) (state : WorkflowState) (taskId : Text)
    (polled : Option TaskCompleted) : WorkflowState → Prop where
  | raised (error : Raised) : Onward env state taskId polled (raise state error)
  | resubmitted : Onward env state taskId polled (submit env state)
  | polling (draws polls : Nat) (since : Instant) :
      Onward env state taskId polled (poll env { state with draws := draws } taskId polls since)
  | slept (draws polls : Nat) (since : Instant) (seconds : ℚ)
      (absent : state.completed.get? taskId = none) :
      Onward env state taskId polled
        ({ state with draws := draws }.issue (.startTimer seconds) (.waitCondition taskId polls since))
  | left (draws : Nat) (report : TaskCompleted)
      (source : state.completed.get? taskId = some report ∨ polled = some report) :
      Onward env state taskId polled (afterWait env { state with draws := draws } taskId report)
  | collecting (pending : state.await = .fetchOutcome taskId) (command : Command) :
      Onward env state taskId polled (state.issue command (.collectOutputs taskId))
  | returned (pending : state.await = .collectOutputs taskId) (result : ConvertResult)
      (named : result.taskId = taskId) :
      Onward env state taskId polled { state with await := .closed (.returned result) }

theorem waitCondition_onward (polls : Nat) (since : Instant) :
    Onward env state taskId polled (waitCondition env state taskId polls since) := by
  have turn := waitCondition_turn env state taskId polls since
  generalize waitCondition env state taskId polls since = next at turn ⊢
  cases turn with
  | expired spent => exact .polling _ polls since
  | reported positive held => exact .left _ _ (Or.inl held)
  | slept positive absent => exact .slept _ polls since _ absent

theorem checkReturned_onward (now : Instant) (polls : Nat) (since : Instant)
    (result : Except ActivityError (Option TaskCompleted)) :
    Onward env state taskId result.toOption.join
      (checkReturned env now state taskId polls since result) := by
  unfold checkReturned
  cases result with
  | error error =>
    by_cases lost : isTaskLost error = true
    · simp only [check, lost, ↓reduceIte, waitRaised]
      split
      · exact .raised _
      · exact .resubmitted
    · simp only [check, lost, Bool.false_eq_true, ↓reduceIte]
      split
      · exact .raised _
      · exact waitCondition_onward polls since
  | ok polled =>
    cases polled with
    | some report => exact .left state.draws report (Or.inr rfl)
    | none =>
      simp only [check]
      split
      · exact .raised _
      · exact waitCondition_onward polls since

theorem outcomeReturned_onward (pending : state.await = .fetchOutcome taskId)
    (result : Except ActivityError TaskOutcome) :
    Onward env state taskId polled (outcomeReturned env state taskId result) := by
  unfold outcomeReturned
  cases result with
  | error error => exact .raised _
  | ok outcome =>
    dsimp only
    split
    · exact .raised _
    · exact .collecting pending _

theorem outputsReturned_onward (pending : state.await = .collectOutputs taskId)
    (result : Except ActivityError CollectedOutputs) :
    Onward env state taskId polled (outputsReturned state taskId result) := by
  unfold outputsReturned
  cases result with
  | error error => exact .raised _
  | ok collected =>
    dsimp only
    split
    · exact .raised _
    · exact .returned pending _ rfl

/-! ### The awaited task -/

/-- The task whose end the coroutine awaits or has returned. -/
def Await.task? : Await → Option Text
  | .submitConversion => none
  | .waitCondition taskId _ _ => some taskId
  | .checkTask taskId _ _ => some taskId
  | .fetchOutcome taskId => some taskId
  | .collectOutputs taskId => some taskId
  | .closed (.returned result) => some result.taskId
  | .closed (.failed _) => none
  | .closed .cancelled => none

theorem raise_task (error : Raised) : (raise state error).await.task? = none := by
  simp only [raise]
  split <;> rfl

theorem afterWait_task (taskId : Text) (report : TaskCompleted)
    (named : (afterWait env state taskId report).await.task? = some other) : other = taskId := by
  unfold afterWait at named
  split at named
  · rw [raise_task] at named
    cases named
  · cases named
    rfl

/-- Until a new submission the coroutine is about the same task. -/
theorem onward_task (onward : Onward env state taskId polled next)
    (named : next.await.task? = some other) : other = taskId := by
  cases onward with
  | raised error =>
    rw [raise_task] at named
    cases named
  | resubmitted => cases named
  | polling draws polls since => exact (Option.some.inj named).symm
  | slept draws polls since seconds absent => exact (Option.some.inj named).symm
  | left draws report source => exact afterWait_task taskId report named
  | collecting pending command => exact (Option.some.inj named).symm
  | returned pending result same => exact (Option.some.inj named).symm.trans same

/-- Nothing but the signal handler writes to `_completed`. -/
theorem onward_completed (onward : Onward env state taskId polled next) :
    next.completed = state.completed := by
  cases onward <;> simp

theorem onward_cancelRequested (onward : Onward env state taskId polled next) :
    next.cancelRequested = state.cancelRequested := by
  cases onward <;> simp

/-! ### Steps and runs -/

/-- The state once an event has arrived and before the coroutine goes on. -/
def received (state : WorkflowState) (event : Event) : WorkflowState :=
  match event.happening with
  | .signal report => taskCompleted state report
  | .cancelRequested => { state with cancelRequested := true }
  | _ => state

theorem received_await : (received state event).await = state.await := by
  obtain ⟨now, happening⟩ := event
  cases happening <;> rfl

theorem received_terminal : (received state event).terminal = state.terminal := by
  obtain ⟨now, happening⟩ := event
  cases happening <;> rfl

theorem received_submissions : (received state event).submissions = state.submissions := by
  obtain ⟨now, happening⟩ := event
  cases happening <;> rfl

theorem received_commands : (received state event).commands = state.commands := by
  obtain ⟨now, happening⟩ := event
  cases happening <;> rfl

/-- What a resolved poll answered about a task. -/
def Event.answer? (event : Event) (taskId : Text) : Option TaskCompleted :=
  match event.happening with
  | .checkResolved attempts =>
    match resolve checkRetry (checkTask taskId) attempts with
    | some (.ok polled) => polled
    | _ => none
  | _ => none

/-- One step, seen as a move of the coroutine: it stays where it is, moves on
about the task it awaits or was just given, or fails to submit. -/
inductive Moved (env : Env) (state : WorkflowState) (event : Event) : WorkflowState → Prop where
  | stayed (given : event.submittedId? = none)
      (asleep : ∀ taskId polls since, state.await = .waitCondition taskId polls since →
        (received state event).completed.get? taskId = none) :
      Moved env state event (received state event)
  | moved (given : event.submittedId? = none) (named : state.await.task? = some taskId)
      (onward : Onward env (received state event) taskId (event.answer? taskId) after) :
      Moved env state event after
  | submitted (given : event.submittedId? = some taskId)
      (onward : Onward env (received state event) taskId (event.answer? taskId) after) :
      Moved env state event after
  | refused (given : event.submittedId? = none) (error : Raised) :
      Moved env state event (raise (received state event) error)

theorem step_moved (stepped : step env state event = some next) : Moved env state event next := by
  cases step_turn stepped with
  | signal running =>
    rcases wake_cases env (taskCompleted state _) with
      ⟨same, asleep⟩ | ⟨taskId, polls, since, report, waiting, held, woken⟩
    · rw [same]
      exact .stayed rfl asleep
    · rw [woken]
      have named : state.await.task? = some taskId := congrArg Await.task? waiting
      exact .moved rfl named (.left _ report (Or.inl held))
  | timer waiting => exact .moved rfl (congrArg Await.task? waiting) (.polling _ _ _)
  | @submitted attempts result now pending resolved =>
    cases result with
    | ok taskId =>
      have given : Event.submittedId? ⟨now, .submitResolved attempts⟩ = some taskId := by
        simp [Event.submittedId?, resolved]
      exact .submitted given (waitCondition_onward 0 now)
    | error error => exact .refused (by simp [Event.submittedId?, resolved]) _
  | @checked taskId polls since attempts result now pending resolved =>
    have answered : Event.answer? ⟨now, .checkResolved attempts⟩ taskId = result.toOption.join := by
      simp only [Event.answer?, resolved]
      cases result <;> rfl
    refine .moved rfl (congrArg Await.task? pending) ?_
    rw [answered]
    exact checkReturned_onward now polls since result
  | fetched pending resolved =>
    exact .moved rfl (congrArg Await.task? pending) (outcomeReturned_onward pending _)
  | collected pending resolved =>
    exact .moved rfl (congrArg Await.task? pending) (outputsReturned_onward pending _)
  | @cancelled now running fresh =>
    have moved : ∀ taskId, state.await.task? = some taskId →
        Onward env { state with cancelRequested := true } taskId none (cancelled env now state) →
        Moved env state ⟨now, .cancelRequested⟩ (cancelled env now state) :=
      fun taskId named onward => .moved rfl named onward
    cases pending : state.await with
    | submitConversion =>
      have failed : cancelled env now state =
          raise { state with cancelRequested := true } (.activity ⟨.cancelled⟩) := by
        simp [cancelled, pending, submitReturned]
      rw [failed]
      exact .refused rfl _
    | waitCondition taskId polls since =>
      refine moved taskId (congrArg Await.task? pending) ?_
      simp only [cancelled, pending]
      exact .raised _
    | checkTask taskId polls since =>
      refine moved taskId (congrArg Await.task? pending) ?_
      rw [cancelled_check env now pending]
      exact checkReturned_onward now polls since (.error _)
    | fetchOutcome taskId =>
      refine moved taskId (congrArg Await.task? pending) ?_
      rw [cancelled_fetch env now pending]
      exact .raised _
    | collectOutputs taskId =>
      refine moved taskId (congrArg Await.task? pending) ?_
      rw [cancelled_collect env now pending]
      exact .raised _
    | closed outcome => exact absurd pending (running outcome)

theorem received_completed :
    (received state event).completed =
      match event.signal? with
      | some report => state.completed.setDefault report.taskId report
      | none => state.completed := by
  obtain ⟨now, happening⟩ := event
  cases happening <;> rfl

/-- An event changes `_completed` only by the signal it delivers. -/
theorem step_completed (stepped : step env state event = some next) :
    next.completed = (received state event).completed := by
  cases step_moved stepped with
  | stayed given asleep => rfl
  | moved given named onward => exact onward_completed onward
  | submitted given onward => exact onward_completed onward
  | refused given error => rfl

/-- Only the request itself marks the run as cancelled. -/
theorem step_cancelRequested (stepped : step env state event = some next) :
    next.cancelRequested = (received state event).cancelRequested := by
  cases step_moved stepped with
  | stayed given asleep => rfl
  | moved given named onward => exact onward_cancelRequested onward
  | submitted given onward => exact onward_cancelRequested onward
  | refused given error => rfl

/-- `_completed` holds the first signal delivered for each task, also when the
task was not yet known. -/
theorem completed_firstSignal (ran : (workflow env).run events = some state) (taskId : Text) :
    state.completed.get? taskId = firstSignal events taskId := by
  refine Machine.run_induction (P := fun events (state : WorkflowState) =>
    state.completed.get? taskId = firstSignal events taskId) ?_ ?_ ran
  · exact OrderedDict.get?_empty taskId
  · intro events state event next _ held stepped
    rw [step_completed stepped, received_completed, firstSignal_snoc, ← held]
    cases heard : event.signal? with
    | none => simp
    | some report =>
      dsimp only
      rw [OrderedDict.get?_setDefault]
      by_cases named : report.taskId = taskId
      · subst named
        cases state.completed.get? report.taskId <;> simp [Option.filter]
      · simp [Option.filter, named, Ne.symm named]

/-- The task that the coroutine is about is the one it was about, or the one it
has just been given. -/
theorem step_task (stepped : step env state event = some next)
    (named : next.await.task? = some taskId) :
    (event.submittedId? = none ∧ state.await.task? = some taskId) ∨
      event.submittedId? = some taskId := by
  cases step_moved stepped with
  | stayed given asleep =>
    rw [received_await] at named
    exact Or.inl ⟨given, named⟩
  | moved given before onward =>
    obtain rfl := onward_task onward named
    exact Or.inl ⟨given, before⟩
  | submitted given onward =>
    obtain rfl := onward_task onward named
    exact Or.inr given
  | refused given error =>
    rw [raise_task] at named
    cases named

/-- The task that the coroutine is about is the last one it was given. -/
theorem awaits_last (ran : (workflow env).run events = some state)
    (named : state.await.task? = some taskId) : (submittedIds events).getLast? = some taskId := by
  refine Machine.run_induction (P := fun events (state : WorkflowState) =>
    ∀ taskId, state.await.task? = some taskId → (submittedIds events).getLast? = some taskId)
    ?_ ?_ ran taskId named
  · intro taskId named
    cases named
  · intro events state event next _ held stepped taskId named
    rw [submittedIds_snoc]
    rcases step_task stepped named with ⟨given, before⟩ | given
    · simpa [given] using held taskId before
    · simp [given]

/-- A coroutine that sleeps has heard nothing about the task it waits for. -/
theorem asleep_unheard (ran : (workflow env).run events = some state)
    (asleep : state.await = .waitCondition taskId polls since) :
    state.completed.get? taskId = none := by
  refine Machine.run_induction (P := fun _ (state : WorkflowState) =>
    ∀ taskId polls since, state.await = .waitCondition taskId polls since →
      state.completed.get? taskId = none) ?_ ?_ ran taskId polls since asleep
  · intro taskId polls since asleep
    cases asleep
  · intro events state event next _ held stepped taskId polls since asleep
    have kept : ∀ about polled base, Onward env base about polled next →
        next.completed.get? taskId = none := by
      intro about polled base onward
      rw [onward_completed onward]
      cases onward with
      | raised error => simp [raise] at asleep
      | resubmitted => cases asleep
      | polling draws polls since => cases asleep
      | slept draws polls since seconds absent =>
        cases asleep
        exact absent
      | left draws report source =>
        simp only [afterWait] at asleep
        split at asleep
        · simp [raise] at asleep
        · cases asleep
      | collecting pending command => cases asleep
      | returned pending result same => cases asleep
    cases step_moved stepped with
    | stayed given still =>
      rw [received_await] at asleep
      exact still taskId polls since asleep
    | moved given before onward => exact kept _ _ _ onward
    | submitted given onward => exact kept _ _ _ onward
    | refused given error => simp [raise] at asleep

/-! ### Runs without a cancellation -/

/-- No cancellation is requested. -/
def Event.isCalm (event : Event) : Prop := event.happening ≠ .cancelRequested

theorem calm_step (calm : state.cancelRequested = false) (quiet : event.isCalm)
    (stepped : step env state event = some next) : next.cancelRequested = false := by
  rw [step_cancelRequested stepped]
  obtain ⟨now, happening⟩ := event
  cases happening with
  | cancelRequested => exact absurd rfl quiet
  | _ => exact calm

theorem calm_run (quiet : ∀ event ∈ events, event.isCalm)
    (ran : (workflow env).run events = some state) : state.cancelRequested = false := by
  have general : (∀ event ∈ events, event.isCalm) → state.cancelRequested = false := by
    refine Machine.run_induction (P := fun events (state : WorkflowState) =>
      (∀ event ∈ events, event.isCalm) → state.cancelRequested = false) ?_ ?_ ran
    · intro _
      rfl
    · intro events state event next _ held stepped quiet
      have calm := held fun event member => quiet event (by simp [member])
      exact calm_step calm (quiet event (by simp)) stepped
  exact general quiet

/-! ### The end of the wait -/

/-- The coroutine has not left `run()`'s loop. -/
def Await.isWaiting : Await → Bool
  | .submitConversion => true
  | .waitCondition _ _ _ => true
  | .checkTask _ _ _ => true
  | _ => false

theorem afterWait_unwaiting (taskId : Text) (report : TaskCompleted) :
    (afterWait env state taskId report).await.isWaiting = false := by
  unfold afterWait
  split <;> rfl

theorem outcomeReturned_unwaiting (taskId : Text) (result : Except ActivityError TaskOutcome) :
    (outcomeReturned env state taskId result).await.isWaiting = false := by
  unfold outcomeReturned
  cases result with
  | error error => rfl
  | ok outcome =>
    dsimp only
    split <;> rfl

theorem outputsReturned_unwaiting (taskId : Text)
    (result : Except ActivityError CollectedOutputs) :
    (outputsReturned state taskId result).await.isWaiting = false := by
  unfold outputsReturned
  cases result with
  | error error => rfl
  | ok collected =>
    dsimp only
    split <;> rfl

theorem outcomeReturned_terminal (taskId : Text) (result : Except ActivityError TaskOutcome) :
    (outcomeReturned env state taskId result).terminal = state.terminal := by
  unfold outcomeReturned
  cases result with
  | error error => rfl
  | ok outcome =>
    dsimp only
    split <;> rfl

theorem outputsReturned_terminal (taskId : Text)
    (result : Except ActivityError CollectedOutputs) :
    (outputsReturned state taskId result).terminal = state.terminal := by
  unfold outputsReturned
  cases result with
  | error error => rfl
  | ok collected =>
    dsimp only
    split <;> rfl

/-- The loop is left once, and what left it stays. -/
theorem step_unwaiting (stepped : step env state event = some next)
    (out : state.await.isWaiting = false) :
    next.await.isWaiting = false ∧ next.terminal = state.terminal ∧ event.submittedId? = none := by
  cases step_turn stepped with
  | signal running =>
    rcases wake_cases env (taskCompleted state _) with ⟨same, _⟩ | ⟨_, _, _, _, waiting, _, _⟩
    · rw [same]
      exact ⟨out, rfl, rfl⟩
    · have asleep : state.await = _ := waiting
      simp [asleep, Await.isWaiting] at out
  | timer waiting => simp [waiting, Await.isWaiting] at out
  | submitted pending resolved => simp [pending, Await.isWaiting] at out
  | checked pending resolved => simp [pending, Await.isWaiting] at out
  | fetched pending resolved =>
    exact ⟨outcomeReturned_unwaiting .., outcomeReturned_terminal .., rfl⟩
  | collected pending resolved =>
    exact ⟨outputsReturned_unwaiting .., outputsReturned_terminal .., rfl⟩
  | cancelled running fresh =>
    unfold cancelled
    cases pending : state.await with
    | submitConversion | waitCondition | checkTask => simp [pending, Await.isWaiting] at out
    | fetchOutcome taskId =>
      exact ⟨outcomeReturned_unwaiting .., outcomeReturned_terminal .., rfl⟩
    | collectOutputs taskId =>
      exact ⟨outputsReturned_unwaiting .., outputsReturned_terminal .., rfl⟩
    | closed outcome => exact absurd pending (running outcome)

/-- Who waits has waited before. -/
theorem step_waiting (stepped : step env state event = some next)
    (waiting : next.await.isWaiting = true) : state.await.isWaiting = true := by
  cases out : state.await.isWaiting with
  | true => rfl
  | false =>
    rw [(step_unwaiting stepped out).1] at waiting
    cases waiting

theorem onward_terminal (onward : Onward env state taskId polled next)
    (waiting : next.await.isWaiting = true) : next.terminal = state.terminal := by
  cases onward with
  | left draws report source =>
    rw [afterWait_unwaiting] at waiting
    cases waiting
  | _ => rfl

/-- `run()`'s local `completed` is unset until its loop is left. -/
theorem waiting_unended (ran : (workflow env).run events = some state)
    (waiting : state.await.isWaiting = true) : state.terminal = none := by
  refine Machine.run_induction (P := fun _ (state : WorkflowState) =>
    state.await.isWaiting = true → state.terminal = none) ?_ ?_ ran waiting
  · intro _
    rfl
  · intro events state event next _ held stepped waiting
    have before := step_waiting stepped waiting
    have arrived : (received state event).terminal = none := received_terminal.trans (held before)
    cases step_moved stepped with
    | stayed given asleep => exact arrived
    | moved given named onward => rw [onward_terminal onward waiting, arrived]
    | submitted given onward => rw [onward_terminal onward waiting, arrived]
    | refused given error => exact arrived

theorem submittedId_pending (stepped : step env state event = some next)
    (given : event.submittedId? = some taskId) : state.await = .submitConversion := by
  cases step_turn stepped with
  | submitted pending resolved => exact pending
  | _ => cases given

theorem onward_submissions (onward : Onward env state taskId polled next) :
    (next.await = .submitConversion ∧ next.submissions = state.submissions + 1) ∨
      (next.await ≠ .submitConversion ∧ next.submissions = state.submissions) := by
  cases onward with
  | resubmitted => exact Or.inl ⟨rfl, rfl⟩
  | left draws report source =>
    refine Or.inr ⟨fun pending => ?_, afterWait_submissions ..⟩
    have unwaiting : (afterWait env { state with draws := draws } taskId report).await.isWaiting =
        false := afterWait_unwaiting ..
    rw [pending] at unwaiting
    cases unwaiting
  | raised error => exact Or.inr ⟨nofun, rfl⟩
  | polling draws polls since => exact Or.inr ⟨nofun, rfl⟩
  | slept draws polls since seconds absent => exact Or.inr ⟨nofun, rfl⟩
  | collecting pending command => exact Or.inr ⟨nofun, rfl⟩
  | returned pending result named => exact Or.inr ⟨nofun, rfl⟩

/-- `run()`'s counter is one ahead of the task ids while a submission is under
way, and level with them from then on. -/
theorem submissions_counted (ran : (workflow env).run events = some state) :
    (state.await = .submitConversion → state.submissions = (submittedIds events).length + 1) ∧
      (state.await.task?.isSome = true ∨ state.terminal.isSome = true →
        state.submissions = (submittedIds events).length) := by
  refine Machine.run_induction (P := fun events (state : WorkflowState) =>
    (state.await = .submitConversion → state.submissions = (submittedIds events).length + 1) ∧
      (state.await.task?.isSome = true ∨ state.terminal.isSome = true →
        state.submissions = (submittedIds events).length)) ?_ ?_ ran
  · refine ⟨fun _ => rfl, ?_⟩
    rintro (named | ended)
    · cases named
    · cases ended
  · rintro events state event next reached ⟨ahead, level⟩ stepped
    have onto : (workflow env).run (events ++ [event]) = some next :=
      Machine.run_snoc.mpr ⟨state, reached, stepped⟩
    have counted : ∀ {base taskId polled}, Onward env base taskId polled next →
        (next.await = .submitConversion → next.submissions = base.submissions + 1) ∧
          (next.await.task?.isSome = true ∨ next.terminal.isSome = true →
            next.submissions = base.submissions) := by
      intro base taskId polled onward
      rcases onward_submissions onward with ⟨pending, more⟩ | ⟨elsewhere, equal⟩
      · refine ⟨fun _ => more, ?_⟩
        have unended := waiting_unended onto (by rw [pending]; rfl)
        rw [pending, unended]
        rintro (named | settled)
        · cases named
        · cases settled
      · exact ⟨fun pending => absurd pending elsewhere, fun _ => equal⟩
    rw [submittedIds_snoc, List.length_append]
    cases step_moved stepped with
    | stayed given asleep =>
      simp only [given, Option.toList_none, List.length_nil, Nat.add_zero, received_submissions,
        received_await, received_terminal]
      exact ⟨ahead, level⟩
    | refused given error =>
      simp only [given, Option.toList_none, List.length_nil, Nat.add_zero, raise_submissions,
        raise_terminal, received_submissions, received_terminal, raise_task]
      refine ⟨nofun, ?_⟩
      rintro (named | settled)
      · cases named
      · exact level (Or.inr settled)
    | moved given named onward =>
      have before := level (Or.inl (Option.isSome_of_eq_some named))
      rw [given, Option.toList_none, List.length_nil, Nat.add_zero, ← before,
        ← @received_submissions state event]
      exact counted onward
    | submitted given onward =>
      have before := ahead (submittedId_pending stepped given)
      rw [given, Option.toList_some, List.length_singleton, ← before,
        ← @received_submissions state event]
      exact counted onward

end DoclingServeRay.Orchestration
