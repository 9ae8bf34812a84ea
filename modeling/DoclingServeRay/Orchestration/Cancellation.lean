import DoclingServeRay.Orchestration.History

/-! Where a cancellation request ends the run. Every await lets it through but
the one in `_check`, whose except clause takes it for a failed safety poll. -/
namespace DoclingServeRay.Orchestration
open Strings EventMachine

variable {env : Env} {state next final : WorkflowState} {event : Event}

/-- The workflow has ended as cancelled. -/
def EndedCancelled (state : WorkflowState) : Prop := state.await = .closed .cancelled

theorem raise_not_cancelled (other : error.isCancellation = false) :
    ¬ EndedCancelled (raise state error) := by
  simp [EndedCancelled, raise, other]

theorem raise_cancelled (requested : state.cancelRequested = true)
    (cancellation : error.isCancellation = true) : EndedCancelled (raise state error) := by
  simp [EndedCancelled, raise, requested, cancellation]

theorem afterWait_not_cancelled (taskId : Text) (report : TaskCompleted) :
    ¬ EndedCancelled (afterWait env state taskId report) := by
  unfold afterWait
  split
  · exact raise_not_cancelled rfl
  · intro ended
    cases ended

theorem waitCondition_not_cancelled (taskId : Text) (polls : Nat) (since : Instant) :
    ¬ EndedCancelled (waitCondition env state taskId polls since) := by
  have turn := waitCondition_turn env state taskId polls since
  generalize waitCondition env state taskId polls since = next at turn ⊢
  cases turn with
  | expired spent =>
    intro ended
    cases ended
  | reported positive held => exact afterWait_not_cancelled taskId _
  | slept positive absent =>
    intro ended
    cases ended

/-- A lost task is all that a poll raises, and that is no cancellation. -/
theorem checkReturned_not_cancelled (now : Instant) (taskId : Text) (polls : Nat) (since : Instant)
    (result : Except ActivityError (Option TaskCompleted)) :
    ¬ EndedCancelled (checkReturned env now state taskId polls since result) := by
  unfold checkReturned
  cases result with
  | ok polled =>
    cases polled with
    | some report => exact afterWait_not_cancelled taskId report
    | none =>
      simp only [check]
      split
      · exact raise_not_cancelled rfl
      · exact waitCondition_not_cancelled taskId polls since
  | error error =>
    cases lost : isTaskLost error with
    | true =>
      have other : (Raised.activity error).isCancellation = false := by
        obtain ⟨cause⟩ := error
        cases cause with
        | application error => rfl
        | timedOut => cases lost
        | cancelled => cases lost
      simp only [check, lost, ↓reduceIte, waitRaised]
      split
      · exact raise_not_cancelled other
      · intro ended
        cases ended
    | false =>
      simp only [check, lost, Bool.false_eq_true, ↓reduceIte]
      split
      · exact raise_not_cancelled rfl
      · exact waitCondition_not_cancelled taskId polls since

private theorem resolved_not_cancellation
    {activity : ρ → Except ApplicationError α}
    (resolved : resolve policy activity attempts = some (.error error)) :
    (Raised.activity error).isCancellation = false := by
  simpa [Raised.isCancellation] using resolve_not_cancelled resolved

/-- An event other than the request itself never ends the run as cancelled. -/
theorem step_not_cancelled (other : event.happening ≠ .cancelRequested)
    (stepped : step env state event = some next) (running : ¬ EndedCancelled state) :
    ¬ EndedCancelled next := by
  cases step_turn stepped with
  | signal open' =>
    rcases wake_cases env (taskCompleted state _) with ⟨same, _⟩ | ⟨_, _, _, report, _, _, woken⟩
    · rw [same]
      exact running
    · rw [woken]
      exact afterWait_not_cancelled _ report
  | timer waiting =>
    intro ended
    cases ended
  | @submitted _ result now pending resolved =>
    cases result with
    | ok taskId => exact waitCondition_not_cancelled taskId 0 now
    | error error => exact raise_not_cancelled (resolved_not_cancellation resolved)
  | checked pending resolved => exact checkReturned_not_cancelled _ _ _ _ _
  | @fetched taskId _ result _ pending resolved =>
    cases result with
    | error error => exact raise_not_cancelled (resolved_not_cancellation resolved)
    | ok outcome =>
      simp only [outcomeReturned]
      split
      · exact raise_not_cancelled rfl
      · intro ended
        cases ended
  | @collected taskId _ result _ pending resolved =>
    cases result with
    | error error => exact raise_not_cancelled (resolved_not_cancellation resolved)
    | ok collected =>
      simp only [outputsReturned]
      split
      · exact raise_not_cancelled rfl
      · intro ended
        cases ended
  | cancelled open' fresh => exact absurd rfl other

/-- What the request does where it is delivered: it ends the run at once,
scheduling nothing, unless a safety poll was in flight. -/
theorem cancelled_ends (running : ∀ outcome, state.await ≠ .closed outcome)
    (elsewhere : ∀ taskId polls since, state.await ≠ .checkTask taskId polls since) :
    EndedCancelled (cancelled env now state) ∧
      (cancelled env now state).commands = state.commands := by
  unfold cancelled
  cases pending : state.await with
  | submitConversion => exact ⟨raise_cancelled rfl rfl, rfl⟩
  | waitCondition taskId polls since => exact ⟨raise_cancelled rfl rfl, rfl⟩
  | checkTask taskId polls since => exact absurd pending (elsewhere taskId polls since)
  | fetchOutcome taskId => exact ⟨raise_cancelled rfl rfl, rfl⟩
  | collectOutputs taskId => exact ⟨raise_cancelled rfl rfl, rfl⟩
  | closed outcome => exact absurd pending (running outcome)

theorem step_requested (stepped : step env state event = some next)
    (requested : event.happening = .cancelRequested) :
    (∀ outcome, state.await ≠ .closed outcome) ∧ state.cancelRequested = false ∧
      next = cancelled env event.now state := by
  cases step_turn stepped with
  | cancelled running fresh => exact ⟨running, fresh, rfl⟩
  | _ => cases requested

/-- After a request that a poll swallowed, the run does not end as cancelled,
whatever comes next. -/
theorem swallowed_for_good (pending : state.await = .checkTask taskId polls since)
    (ran : (workflow env).runFrom state (⟨now, .cancelRequested⟩ :: rest) = some final) :
    ¬ EndedCancelled final := by
  obtain ⟨next, stepped, finished⟩ := Machine.runFrom_cons.mp ran
  have swallowed : next.cancelRequested = true ∧ ¬ EndedCancelled next := by
    refine ⟨step_cancelRequested stepped, ?_⟩
    rw [(step_requested stepped rfl).2.2, cancelled]
    simp only [pending]
    exact checkReturned_not_cancelled _ _ _ _ _
  have preserved : ∀ state event next,
      state.cancelRequested = true ∧ ¬ EndedCancelled state →
      (workflow env).step state event = some next →
      next.cancelRequested = true ∧ ¬ EndedCancelled next := by
    rintro state event next ⟨requested, running⟩ stepped
    have other : event.happening ≠ .cancelRequested := by
      intro again
      have fresh := (step_requested stepped again).2.1
      rw [requested] at fresh
      cases fresh
    refine ⟨?_, step_not_cancelled other stepped running⟩
    rw [step_cancelRequested stepped]
    obtain ⟨now, happening⟩ := event
    cases happening <;> first | exact requested | rfl
  exact (Machine.runFrom_invariant (P := fun state =>
    state.cancelRequested = true ∧ ¬ EndedCancelled state) preserved swallowed finished).2

/-- A cancellation request ends the run as cancelled, with nothing more
scheduled, exactly when it is not delivered during a safety poll. -/
theorem cancellation_ends_run_iff (env : Env) (before rest : List Event) (now : Instant)
    (state final : WorkflowState) (reached : (workflow env).run before = some state)
    (ran : (workflow env).run (before ++ ⟨now, .cancelRequested⟩ :: rest) = some final) :
    (EndedCancelled final ∧ final.commands = state.commands) ↔
      ∀ taskId polls since, state.await ≠ .checkTask taskId polls since := by
  obtain ⟨same, reached', onward⟩ := Machine.run_append.mp ran
  cases reached.symm.trans reached'
  constructor
  · rintro ⟨ended, -⟩ taskId polls since pending
    exact swallowed_for_good pending onward ended
  · intro elsewhere
    obtain ⟨next, stepped, finished⟩ := Machine.runFrom_cons.mp onward
    obtain ⟨running, -, rfl⟩ := step_requested stepped rfl
    obtain ⟨ended, quiet⟩ := cancelled_ends running elsewhere
    cases rest with
    | nil =>
      cases finished
      exact ⟨ended, quiet⟩
    | cons event rest =>
      -- The run is closed, so nothing can follow the request.
      obtain ⟨_, taken, _⟩ := Machine.runFrom_cons.mp finished
      rw [show (workflow env).step _ event = none from step_closed ended] at taken
      cases taken

/-- Cancelled while it sleeps, the workflow ends there. -/
theorem cancellation_ends_sleep :
    ∃ state final, (workflow (plainEnv 300 2)).run [accepted "t".toList] = some state ∧
      (workflow (plainEnv 300 2)).run ([accepted "t".toList] ++ [⟨0, .cancelRequested⟩]) =
        some final ∧
      EndedCancelled final ∧ final.commands = state.commands := by
  have sleeps : ((workflow (plainEnv 300 2)).run [accepted "t".toList]).map (·.await) =
      some (.waitCondition "t".toList 0 0) := by
    decide +kernel
  have ends : ((workflow (plainEnv 300 2)).run
      ([accepted "t".toList] ++ [⟨0, .cancelRequested⟩])).isSome := by
    decide +kernel
  obtain ⟨state, reached, asleep⟩ := Option.map_eq_some_iff.mp sleeps
  obtain ⟨final, ran⟩ := Option.isSome_iff_exists.mp ends
  refine ⟨state, final, reached, ran, ?_⟩
  refine (cancellation_ends_run_iff _ _ [] 0 state final reached ran).mpr ?_
  rw [asleep]
  nofun

/-- Cancelled during its first safety poll, the workflow sleeps again and goes
on to convert the document. -/
theorem cancellation_swallowed_by_poll :
    ∃ state final,
      (workflow (plainEnv 300 2)).run [accepted "t".toList, timedOut] = some state ∧
      (workflow (plainEnv 300 2)).run ([accepted "t".toList, timedOut] ++
        ⟨0, .cancelRequested⟩ :: [signalled "t".toList .success, outcomeCounted 1 0,
          listed ["a.json".toList]]) = some final ∧
      ¬ (EndedCancelled final ∧ final.commands = state.commands) := by
  have polls : ((workflow (plainEnv 300 2)).run [accepted "t".toList, timedOut]).map
      (·.commands.length) = some 3 := by
    decide +kernel
  have converts : ((workflow (plainEnv 300 2)).run ([accepted "t".toList, timedOut] ++
      ⟨0, .cancelRequested⟩ :: [signalled "t".toList .success, outcomeCounted 1 0,
        listed ["a.json".toList]])).map (·.commands.length) = some 6 := by
    decide +kernel
  obtain ⟨state, reached, few⟩ := Option.map_eq_some_iff.mp polls
  obtain ⟨final, ran, more⟩ := Option.map_eq_some_iff.mp converts
  refine ⟨state, final, reached, ran, ?_⟩
  rintro ⟨-, unchanged⟩
  rw [unchanged, few] at more
  cases more

end DoclingServeRay.Orchestration
