import DoclingServeRay.Orchestration.History

/-! What a run asks of Temporal. A step asks for nothing or for one thing, and
that is what it then awaits; whatever is asked for is about the run's document. -/
namespace DoclingServeRay.Orchestration
open Strings EventMachine

variable {env : Env} {state next : WorkflowState} {event : Event} {events : List Event}

/-- The commands that a step issued. -/
def issuedBy (state next : WorkflowState) : List Command :=
  next.commands.drop state.commands.length

/-- What the coroutine asks for when it comes to an await. -/
inductive AsksFor (env : Env) : Await → Command → Prop where
  | submission : AsksFor env .submitConversion
      (.scheduleActivity (.submitConversion (submitInput env.inp)) submitTaskQueue
        env.settings.submitConversionStartToCloseSeconds submitRetry)
  | sleep (draw : Nat) (positive : 0 < nextSleep env draw) :
      AsksFor env (.waitCondition taskId polls since) (.startTimer (nextSleep env draw))
  | check : AsksFor env (.checkTask taskId polls since)
      (.scheduleActivity (.checkTask taskId) taskQueue env.settings.checkTaskStartToCloseSeconds
        checkRetry)
  | fetch : AsksFor env (.fetchOutcome taskId)
      (.scheduleActivity (.fetchOutcome taskId) taskQueue
        env.settings.fetchOutcomeStartToCloseSeconds defaultRetry)
  | collect : AsksFor env (.collectOutputs taskId)
      (.scheduleActivity (.collectOutputs ⟨env.inp.bucket, env.inp.key⟩) taskQueue
        env.settings.collectOutputsStartToCloseSeconds defaultRetry)

/-- From these commands on, the coroutine has come to an await and asked for what
it awaits, or it has ended. -/
inductive Asked (env : Env) (commands : List Command) (next : WorkflowState) : Prop where
  | ended (closed : next.await = .closed outcome) (same : next.commands = commands)
  | asked (command : Command) (asks : AsksFor env next.await command)
      (issued : next.commands = commands ++ [command])

section Pieces

variable {commands : List Command} {taskId : Text} {polls : Nat} {since now : Instant}

theorem raise_asked (error : Raised) (kept : state.commands = commands) :
    Asked env commands (raise state error) :=
  .ended rfl kept

theorem issue_asked (kept : state.commands = commands) (asks : AsksFor env await command) :
    Asked env commands (state.issue command await) :=
  .asked command asks (by rw [issue_commands, kept])

theorem submit_asked (kept : state.commands = commands) : Asked env commands (submit env state) :=
  issue_asked kept .submission

theorem poll_asked (kept : state.commands = commands) :
    Asked env commands (poll env state taskId polls since) :=
  issue_asked kept .check

theorem afterWait_asked (report : TaskCompleted) (kept : state.commands = commands) :
    Asked env commands (afterWait env state taskId report) := by
  unfold afterWait
  dsimp only
  split
  · exact raise_asked _ kept
  · exact issue_asked kept .fetch

theorem waitCondition_asked (kept : state.commands = commands) :
    Asked env commands (waitCondition env state taskId polls since) := by
  have turn := waitCondition_turn env state taskId polls since
  generalize waitCondition env state taskId polls since = next at turn ⊢
  cases turn with
  | expired spent => exact poll_asked kept
  | reported positive held => exact afterWait_asked _ kept
  | slept positive absent => exact issue_asked kept (.sleep _ positive)

theorem checkReturned_asked (result : Except ActivityError (Option TaskCompleted))
    (kept : state.commands = commands) :
    Asked env commands (checkReturned env now state taskId polls since result) := by
  unfold checkReturned
  cases check result with
  | error error =>
    simp only [waitRaised]
    split
    · exact raise_asked _ kept
    · exact submit_asked kept
  | ok polled =>
    cases polled with
    | some report => exact afterWait_asked report kept
    | none =>
      dsimp only
      split
      · exact raise_asked _ kept
      · exact waitCondition_asked kept

theorem submitReturned_asked (result : Except ActivityError Text) (kept : state.commands = commands) :
    Asked env commands (submitReturned env now state result) := by
  cases result with
  | ok taskId => exact waitCondition_asked kept
  | error error => exact raise_asked _ kept

theorem outcomeReturned_asked (result : Except ActivityError TaskOutcome)
    (kept : state.commands = commands) :
    Asked env commands (outcomeReturned env state taskId result) := by
  unfold outcomeReturned
  cases result with
  | error error => exact raise_asked _ kept
  | ok outcome =>
    dsimp only
    split
    · exact raise_asked _ kept
    · exact issue_asked kept .collect

theorem outputsReturned_asked (result : Except ActivityError CollectedOutputs)
    (kept : state.commands = commands) :
    Asked env commands (outputsReturned state taskId result) := by
  unfold outputsReturned
  cases result with
  | error error => exact raise_asked _ kept
  | ok collected =>
    dsimp only
    split
    · exact raise_asked _ kept
    · exact .ended rfl kept

theorem cancelled_asked (running : ∀ outcome, state.await ≠ .closed outcome) :
    Asked env state.commands (cancelled env now state) := by
  unfold cancelled
  dsimp only
  cases pending : state.await with
  | submitConversion => exact submitReturned_asked _ rfl
  | waitCondition taskId polls since => exact raise_asked _ rfl
  | checkTask taskId polls since => exact checkReturned_asked _ rfl
  | fetchOutcome taskId => exact outcomeReturned_asked _ rfl
  | collectOutputs taskId => exact outputsReturned_asked _ rfl
  | closed outcome => exact absurd pending (running outcome)

end Pieces

/-- A step leaves the coroutine at its await, or takes it to its next one. -/
theorem step_asked (stepped : step env state event = some next) :
    (next.await = state.await ∧ next.commands = state.commands) ∨ Asked env state.commands next := by
  cases step_turn stepped with
  | signal running =>
    rcases wake_cases env (taskCompleted state _) with
      ⟨same, _⟩ | ⟨taskId, polls, since, report, waiting, held, woken⟩
    · rw [same]
      exact Or.inl ⟨rfl, rfl⟩
    · rw [woken]
      exact Or.inr (afterWait_asked report rfl)
  | timer waiting => exact Or.inr (poll_asked rfl)
  | submitted pending resolved => exact Or.inr (submitReturned_asked _ rfl)
  | checked pending resolved => exact Or.inr (checkReturned_asked _ rfl)
  | fetched pending resolved => exact Or.inr (outcomeReturned_asked _ rfl)
  | collected pending resolved => exact Or.inr (outputsReturned_asked _ rfl)
  | cancelled running fresh => exact Or.inr (cancelled_asked running)

/-- Commands are never taken back. -/
theorem step_commands (stepped : step env state event = some next) :
    ∃ issued, next.commands = state.commands ++ issued := by
  rcases step_asked stepped with ⟨_, same⟩ | asked
  · exact ⟨[], by rw [same, List.append_nil]⟩
  · cases asked with
    | ended closed same => exact ⟨[], by rw [same, List.append_nil]⟩
    | asked command asks issued => exact ⟨[command], issued⟩

/-! ### Along a run -/

/-- Everything a run has asked for, it has asked for at an await. -/
theorem asked_at_await (ran : (workflow env).run events = some state) :
    ∀ command ∈ state.commands, ∃ await, AsksFor env await command := by
  refine Machine.run_induction (P := fun _ (state : WorkflowState) =>
    ∀ command ∈ state.commands, ∃ await, AsksFor env await command) ?_ ?_ ran
  · intro command member
    obtain rfl := List.mem_singleton.mp member
    exact ⟨_, .submission⟩
  · intro events state event next _ held stepped command member
    rcases step_asked stepped with ⟨_, same⟩ | asked
    · exact held command (same ▸ member)
    · cases asked with
      | ended closed same => exact held command (same ▸ member)
      | asked issued asks shape =>
        rw [shape] at member
        rcases List.mem_append.mp member with earlier | last
        · exact held command earlier
        · obtain rfl := List.mem_singleton.mp last
          exact ⟨_, asks⟩

/-- The task that an activity asks docling-serve about. -/
def Command.task? : Command → Option Text
  | .scheduleActivity (.checkTask taskId) _ _ _ => some taskId
  | .scheduleActivity (.fetchOutcome taskId) _ _ _ => some taskId
  | _ => none

theorem asksFor_task (asks : AsksFor env await command) (named : command.task? = some taskId) :
    await.task? = some taskId := by
  cases asks with
  | check => exact named
  | fetch => exact named
  | _ => cases named

theorem asksFor_submission (asks : AsksFor env .submitConversion command) : command.task? = none := by
  cases asks
  rfl

/-- What a run asked for last. -/
structure LastAsked (env : Env) (events : List Event) (state : WorkflowState) : Prop where
  pending : (∀ outcome, state.await ≠ .closed outcome) →
    ∃ command, state.commands.getLast? = some command ∧ AsksFor env state.await command
  current : ∀ command taskId, state.commands.getLast? = some command →
    command.task? = some taskId → (submittedIds events).getLast? = some taskId

theorem last_asked (ran : (workflow env).run events = some state) : LastAsked env events state := by
  refine Machine.run_induction (P := LastAsked env) ?_ ?_ ran
  · refine ⟨fun _ => ⟨_, rfl, .submission⟩, ?_⟩
    rintro command taskId ⟨⟩ ⟨⟩
  · intro events state event next reached held stepped
    have onto : (workflow env).run (events ++ [event]) = some next :=
      Machine.run_snoc.mpr ⟨state, reached, stepped⟩
    -- A new task id comes in only while nothing has been asked about a task.
    have kept : next.commands = state.commands → ∀ command taskId,
        next.commands.getLast? = some command → command.task? = some taskId →
        (submittedIds (events ++ [event])).getLast? = some taskId := by
      intro same command taskId last named
      rw [same] at last
      cases given : event.submittedId? with
      | none => simpa [given] using held.current command taskId last named
      | some fresh =>
        have pending := submittedId_pending stepped given
        obtain ⟨submission, issued, asks⟩ := held.pending (by simp [pending])
        rw [pending] at asks
        cases issued.symm.trans last
        cases (asksFor_submission asks).symm.trans named
    rcases step_asked stepped with ⟨stays, same⟩ | asked
    · refine ⟨?_, kept same⟩
      rw [stays, same]
      exact held.pending
    · cases asked with
      | ended closed same => exact ⟨fun running => absurd closed (running _), kept same⟩
      | asked command asks issued =>
        refine ⟨fun _ => ⟨command, by rw [issued, List.getLast?_concat], asks⟩, ?_⟩
        intro other taskId last named
        rw [issued, List.getLast?_concat] at last
        cases last
        exact awaits_last onto (asksFor_task asks named)

/-- Every command of a run was the last one at some point of it. -/
theorem issued_when (ran : (workflow env).run events = some state)
    (shape : state.commands = earlier ++ command :: later) :
    ∃ first rest before, events = first ++ rest ∧ (workflow env).run first = some before ∧
      before.commands = earlier ++ [command] := by
  refine Machine.run_induction (P := fun events (state : WorkflowState) =>
    ∀ earlier command later, state.commands = earlier ++ command :: later →
      ∃ first rest before, events = first ++ rest ∧ (workflow env).run first = some before ∧
        before.commands = earlier ++ [command]) ?_ ?_ ran earlier command later shape
  · intro earlier command later shape
    obtain ⟨rfl, same⟩ := List.append_eq_singleton_iff.mp shape.symm |>.resolve_right nofun
    obtain ⟨rfl, rfl⟩ := List.cons.inj same
    exact ⟨[], [], _, rfl, rfl, rfl⟩
  · intro events state event next reached held stepped earlier command later shape
    have onto : (workflow env).run (events ++ [event]) = some next :=
      Machine.run_snoc.mpr ⟨state, reached, stepped⟩
    have kept : ∀ tail, state.commands = earlier ++ command :: tail →
        ∃ first rest before, events ++ [event] = first ++ rest ∧
          (workflow env).run first = some before ∧ before.commands = earlier ++ [command] := by
      intro tail earlierShape
      obtain ⟨first, rest, before, rfl, ran, same⟩ := held earlier command tail earlierShape
      exact ⟨first, rest ++ [event], before, List.append_assoc _ _ _, ran, same⟩
    have unissued : next.commands = state.commands →
        ∃ first rest before, events ++ [event] = first ++ rest ∧
          (workflow env).run first = some before ∧ before.commands = earlier ++ [command] :=
      fun same => kept later (same.symm.trans shape)
    rcases step_asked stepped with ⟨_, same⟩ | asked
    · exact unissued same
    · cases asked with
      | ended closed same => exact unissued same
      | asked new asks issued =>
        rw [issued] at shape
        rcases List.eq_nil_or_concat later with rfl | ⟨tail, last, rfl⟩
        · refine ⟨events ++ [event], [], next, (List.append_nil _).symm, onto, ?_⟩
          rw [issued, shape]
        · rw [List.concat_eq_append, ← List.cons_append, ← List.append_assoc] at shape
          exact kept tail (List.append_inj' shape rfl).1

/-- The workflow never asks docling-serve about a task but the one that it was
given last. -/
theorem asks_about_last_task (ran : (workflow env).run events = some state)
    (asked : state.commands = earlier ++ command :: later) (about : command.task? = some taskId) :
    ∃ first rest before, events = first ++ rest ∧ (workflow env).run first = some before ∧
      before.commands = earlier ++ [command] ∧ (submittedIds first).getLast? = some taskId := by
  obtain ⟨first, rest, before, shape, reached, issued⟩ := issued_when ran asked
  refine ⟨first, rest, before, shape, reached, issued, ?_⟩
  exact (last_asked reached).current command taskId (by rw [issued, List.getLast?_concat]) about

/-- A task is lost at its first poll, and its replacement is being polled. -/
def repolled : List Event :=
  [accepted "t".toList, timedOut, polledLost, accepted "u".toList, timedOut]

/-- The one check of the first task was asked for before the second one was
submitted. -/
theorem asks_about_last_task_resubmitted :
    ∃ state earlier later first rest before, (workflow (plainEnv 300 5)).run repolled = some state ∧
      state.commands = earlier ++
        .scheduleActivity (.checkTask "t".toList) taskQueue 120 checkRetry :: later ∧
      later ≠ [] ∧ repolled = first ++ rest ∧
      (workflow (plainEnv 300 5)).run first = some before ∧
      (submittedIds first).getLast? = some "t".toList := by
  have goes : ((workflow (plainEnv 300 5)).run repolled).any (fun state =>
      state.commands = state.commands.take 2 ++
        .scheduleActivity (.checkTask "t".toList) taskQueue 120 checkRetry :: state.commands.drop 3 ∧
      state.commands.drop 3 ≠ []) = true := by
    decide +kernel
  obtain ⟨state, ran, shape⟩ := (Option.any_eq_true _ _).mp goes
  obtain ⟨shape, more⟩ := of_decide_eq_true shape
  obtain ⟨first, rest, before, split, reached, _, given⟩ := asks_about_last_task ran shape rfl
  exact ⟨state, _, _, first, rest, before, ran, shape, more, split, reached, given⟩

/-- The options of a submission: the formats asked for, with the required one
first and none twice, and the caller's other options. -/
structure ForwardsOptions (inp : ConvertInput) (options : OrderedDict Text JsonValue) : Prop where
  formats : ∃ formats, options.get? "to_formats".toList = some (.texts formats) ∧
    formats.head? = some requiredFormat ∧ formats.Nodup ∧
    ∀ format, format ∈ formats ↔ format = requiredFormat ∨ format ∈ inp.toFormats
  others : ∀ name ≠ "to_formats".toList, options.get? name = inp.options.get? name

theorem submitInput_forwards (inp : ConvertInput) :
    ForwardsOptions inp (submitInput inp).options where
  formats := by
    refine ⟨requestedFormats inp, ?_, OrderedDict.head?_keys_fromKeys _ _,
      (OrderedDict.fromKeys _).distinct, fun format => ?_⟩
    · rw [submitInput, OrderedDict.get?_set, if_pos rfl]
    · rw [requestedFormats, OrderedDict.mem_keys_fromKeys, List.mem_cons]
  others := by
    intro name other
    rw [submitInput, OrderedDict.get?_set, if_neg other]

/-- Every submission of a run, resubmissions included, is of its document with
the options asked for; submissions and nothing else go to the serial queue; and
outputs are collected for the run's document. -/
theorem activities_own (ran : (workflow env).run events = some state)
    (scheduled : .scheduleActivity activity queue seconds retry ∈ state.commands) :
    (queue = submitTaskQueue ↔ ∃ inp, activity = .submitConversion inp) ∧
      (∀ inp, activity = .submitConversion inp → inp.bucket = env.inp.bucket ∧
        inp.key = env.inp.key ∧ ForwardsOptions env.inp inp.options) ∧
      ∀ inp, activity = .collectOutputs inp →
        inp.bucket = env.inp.bucket ∧ inp.key = env.inp.key := by
  obtain ⟨await, asks⟩ := asked_at_await ran _ scheduled
  have apart : taskQueue ≠ submitTaskQueue := by decide
  cases asks with
  | submission =>
    refine ⟨⟨fun _ => ⟨_, rfl⟩, fun _ => rfl⟩, ?_, nofun⟩
    rintro inp ⟨⟩
    exact ⟨rfl, rfl, submitInput_forwards env.inp⟩
  | check => exact ⟨⟨fun same => absurd same apart, nofun⟩, nofun, nofun⟩
  | fetch => exact ⟨⟨fun same => absurd same apart, nofun⟩, nofun, nofun⟩
  | collect =>
    refine ⟨⟨fun same => absurd same apart, nofun⟩, nofun, ?_⟩
    rintro inp ⟨⟩
    exact ⟨rfl, rfl⟩

/-- A caller with formats and an option of its own. -/
def ownEnv : Env :=
  { plainEnv 300 5 with inp := {
      bucket := "docs".toList
      key := "a.pdf".toList
      toFormats := ["md".toList, "json".toList, "md".toList]
      options := OrderedDict.empty.set "do_ocr".toList (.raw "true".toList) } }

/-- The resubmission of a lost task. -/
theorem activities_own_resubmitted :
    ∃ state retry, (workflow ownEnv).run [accepted "t".toList, timedOut, polledLost] = some state ∧
      state.commands.getLast? = some (.scheduleActivity (.submitConversion (submitInput ownEnv.inp))
        submitTaskQueue 120 retry) ∧
      (submitInput ownEnv.inp).options.get? "to_formats".toList =
        some (.texts ["json".toList, "md".toList]) ∧
      ForwardsOptions ownEnv.inp (submitInput ownEnv.inp).options := by
  have goes : ((workflow ownEnv).run [accepted "t".toList, timedOut, polledLost]).any
      (fun state => state.commands.getLast? =
        some (.scheduleActivity (.submitConversion (submitInput ownEnv.inp)) submitTaskQueue 120
          submitRetry)) = true := by
    decide +kernel
  obtain ⟨state, ran, last⟩ := (Option.any_eq_true _ _).mp goes
  have resubmitted := of_decide_eq_true last
  have scheduled := List.mem_of_getLast? resubmitted
  exact ⟨state, _, ran, resubmitted, by decide +kernel,
    ((activities_own ran scheduled).2.1 _ rfl).2.2⟩

end DoclingServeRay.Orchestration
