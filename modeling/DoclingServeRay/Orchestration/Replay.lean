import DoclingServeRay.Orchestration.Commands

/-! Worker restarts. The coroutine lives in a worker's memory; Temporal keeps
the history of its events and of the commands that each of them led to. A worker
that starts again, perhaps with other timeouts (`config.py`), runs the workflow
over that history, and Temporal refuses one that issues other commands. -/
namespace DoclingServeRay.Orchestration
open Strings EventMachine

/-! ### Timeouts -/

/-- The `*_start_to_close_seconds` of a worker's configuration. -/
structure Timeouts where
  submitConversion : ℕ+
  checkTask : ℕ+
  fetchOutcome : ℕ+
  collectOutputs : ℕ+

def Settings.withTimeouts (settings : Settings) (timeouts : Timeouts) : Settings :=
  { settings with
    submitConversionStartToCloseSeconds := timeouts.submitConversion
    checkTaskStartToCloseSeconds := timeouts.checkTask
    fetchOutcomeStartToCloseSeconds := timeouts.fetchOutcome
    collectOutputsStartToCloseSeconds := timeouts.collectOutputs }

def Env.withTimeouts (env : Env) (timeouts : Timeouts) : Env :=
  { env with settings := env.settings.withTimeouts timeouts }

/-- The timeouts that a worker's settings have. -/
def Settings.timeouts (settings : Settings) : Timeouts where
  submitConversion := settings.submitConversionStartToCloseSeconds
  checkTask := settings.checkTaskStartToCloseSeconds
  fetchOutcome := settings.fetchOutcomeStartToCloseSeconds
  collectOutputs := settings.collectOutputsStartToCloseSeconds

def Timeouts.startToClose (timeouts : Timeouts) : Activity → ℕ+
  | .submitConversion _ => timeouts.submitConversion
  | .checkTask _ => timeouts.checkTask
  | .fetchOutcome _ => timeouts.fetchOutcome
  | .collectOutputs _ => timeouts.collectOutputs

/-- The command as a worker with these timeouts issues it. -/
def Command.retimed (timeouts : Timeouts) : Command → Command
  | .scheduleActivity activity queue _ retry =>
    .scheduleActivity activity queue (timeouts.startToClose activity) retry
  | .startTimer seconds => .startTimer seconds

def WorkflowState.retimed (timeouts : Timeouts) (state : WorkflowState) : WorkflowState :=
  { state with commands := state.commands.map (·.retimed timeouts) }

/-! ### What a worker does -/

/-- What Temporal compares of two commands: their kind, and the activity's type. -/
def Command.agrees : Command → Command → Bool
  | .scheduleActivity (.submitConversion _) _ _ _, .scheduleActivity (.submitConversion _) _ _ _ => true
  | .scheduleActivity (.checkTask _) _ _ _, .scheduleActivity (.checkTask _) _ _ _ => true
  | .scheduleActivity (.fetchOutcome _) _ _ _, .scheduleActivity (.fetchOutcome _) _ _ _ => true
  | .scheduleActivity (.collectOutputs _) _ _ _, .scheduleActivity (.collectOutputs _) _ _ _ => true
  | .startTimer _, .startTimer _ => true
  | _, _ => false

def agree (issued recorded : List Command) : Bool :=
  issued.length = recorded.length && (issued.zip recorded).all fun pair => pair.1.agrees pair.2

/-- An event as recorded, with the commands it led to. -/
structure Recorded where
  event : Event
  commands : List Command

/-- A run as Temporal keeps it. -/
structure Record where
  /-- The commands of the first workflow task. -/
  started : List Command
  events : List Recorded

def replayFrom (env : Env) (state : WorkflowState) : List Recorded → Option WorkflowState
  | [] => some state
  | recorded :: rest =>
    (step env state recorded.event).bind fun next =>
      if agree (issuedBy state next) recorded.commands then replayFrom env next rest
      -- A nondeterminism error: the run is stuck.
      else none

def replay (env : Env) (record : Record) : Option WorkflowState :=
  if agree (start env).commands record.started then replayFrom env (start env) record.events
  else none

/-- A run, as Temporal has recorded it and as it is in the memory of a worker. -/
structure Deployed where
  timeouts : Timeouts
  record : Record
  state : WorkflowState

inductive WorkerEvent where
  | arrives (event : Event)
  | restarts (timeouts : Timeouts)

def occur (env : Env) (deployed : Deployed) : WorkerEvent → Option Deployed
  | .arrives event =>
    (step (env.withTimeouts deployed.timeouts) deployed.state event).map fun next =>
      { deployed with
        record := { deployed.record with
          events := deployed.record.events ++ [⟨event, issuedBy deployed.state next⟩] }
        state := next }
  | .restarts timeouts =>
    (replay (env.withTimeouts timeouts) deployed.record).map fun state =>
      { deployed with timeouts := timeouts, state := state }

/-- The event that reaches the run, where it is no restart. -/
def WorkerEvent.event? : WorkerEvent → Option Event
  | .arrives event => some event
  | .restarts _ => none

/-- The commands of a recorded run, in order. -/
def Record.commands (record : Record) : List Command :=
  record.started ++ record.events.flatMap Recorded.commands

/-- A run of the workflow among restarts of its worker. -/
def deployment (env : Env) : Machine Deployed WorkerEvent where
  start := ⟨env.settings.timeouts, ⟨(start env).commands, []⟩, start env⟩
  step := occur env

/-! ### Each piece of the coroutine -/

section Pieces

variable (env : Env) (timeouts : Timeouts) (state : WorkflowState) (taskId : Text) (polls : Nat)
  (since now : Instant)

theorem retimed_issue (command : Command) (await : Await) :
    (state.issue command await).retimed timeouts =
      (state.retimed timeouts).issue (command.retimed timeouts) await := by
  simp [WorkflowState.retimed, WorkflowState.issue]

theorem retimed_raise (error : Raised) :
    (raise state error).retimed timeouts = raise (state.retimed timeouts) error := rfl

theorem retimed_submit :
    (submit env state).retimed timeouts =
      submit (env.withTimeouts timeouts) (state.retimed timeouts) :=
  retimed_issue timeouts _ _ _

theorem retimed_afterWait (report : TaskCompleted) :
    (afterWait env state taskId report).retimed timeouts =
      afterWait (env.withTimeouts timeouts) (state.retimed timeouts) taskId report := by
  unfold afterWait
  split
  · exact retimed_raise timeouts _ _
  · exact retimed_issue timeouts _ _ _

theorem retimed_poll :
    (poll env state taskId polls since).retimed timeouts =
      poll (env.withTimeouts timeouts) (state.retimed timeouts) taskId polls since :=
  retimed_issue timeouts _ _ _

theorem retimed_waitCondition :
    (waitCondition env state taskId polls since).retimed timeouts =
      waitCondition (env.withTimeouts timeouts) (state.retimed timeouts) taskId polls since := by
  unfold waitCondition
  have same : nextSleep (env.withTimeouts timeouts) (state.retimed timeouts).draws =
      nextSleep env state.draws := rfl
  rw [same]
  by_cases spent : nextSleep env state.draws ≤ 0
  · simp only [spent, ↓reduceIte]
    exact retimed_poll env timeouts _ taskId polls since
  · have held : (state.retimed timeouts).completed.get? taskId = state.completed.get? taskId := rfl
    simp only [spent, ↓reduceIte, held]
    cases state.completed.get? taskId with
    | some report => exact retimed_afterWait env timeouts _ taskId report
    | none => exact retimed_issue timeouts _ _ _

theorem retimed_checkReturned (result : Except ActivityError (Option TaskCompleted)) :
    (checkReturned env now state taskId polls since result).retimed timeouts =
      checkReturned (env.withTimeouts timeouts) now (state.retimed timeouts) taskId polls since
        result := by
  unfold checkReturned
  cases check result with
  | error error =>
    simp only [waitRaised]
    have counted : (state.retimed timeouts).submissions = state.submissions := rfl
    rw [counted]
    split
    · exact retimed_raise timeouts _ _
    · exact retimed_submit env timeouts _
  | ok polled =>
    cases polled with
    | some report => exact retimed_afterWait env timeouts _ taskId report
    | none =>
      have budget : (env.withTimeouts timeouts).inp.maxSafetyPolls = env.inp.maxSafetyPolls := rfl
      simp only [budget]
      split
      · exact retimed_raise timeouts _ _
      · exact retimed_waitCondition env timeouts _ taskId polls since

theorem retimed_submitReturned (result : Except ActivityError Text) :
    (submitReturned env now state result).retimed timeouts =
      submitReturned (env.withTimeouts timeouts) now (state.retimed timeouts) result := by
  cases result with
  | ok taskId => exact retimed_waitCondition env timeouts _ taskId 0 now
  | error error => exact retimed_raise timeouts _ _

theorem retimed_outcomeReturned (result : Except ActivityError TaskOutcome) :
    (outcomeReturned env state taskId result).retimed timeouts =
      outcomeReturned (env.withTimeouts timeouts) (state.retimed timeouts) taskId result := by
  unfold outcomeReturned
  cases result with
  | error error => exact retimed_raise timeouts _ _
  | ok outcome =>
    dsimp only
    split
    · exact retimed_raise timeouts _ _
    · exact retimed_issue timeouts _ _ _

theorem retimed_outputsReturned (result : Except ActivityError CollectedOutputs) :
    (outputsReturned state taskId result).retimed timeouts =
      outputsReturned (state.retimed timeouts) taskId result := by
  unfold outputsReturned
  cases result with
  | error error => exact retimed_raise timeouts _ _
  | ok collected =>
    dsimp only
    split
    · exact retimed_raise timeouts _ _
    · rfl

end Pieces

section Steps

variable (env : Env) (timeouts : Timeouts) (state : WorkflowState)

theorem retimed_start : (start env).retimed timeouts = start (env.withTimeouts timeouts) :=
  retimed_submit env timeouts _

theorem retimed_wake :
    (wake env state).retimed timeouts = wake (env.withTimeouts timeouts) (state.retimed timeouts) := by
  unfold wake
  have waiting : (state.retimed timeouts).await = state.await := rfl
  have held : (state.retimed timeouts).completed = state.completed := rfl
  rw [waiting, held]
  cases state.await with
  | waitCondition taskId polls since =>
    dsimp only
    cases state.completed.get? taskId with
    | some report => exact retimed_afterWait env timeouts _ taskId report
    | none => rfl
  | _ => rfl

theorem retimed_cancelled (now : Instant) :
    (cancelled env now state).retimed timeouts =
      cancelled (env.withTimeouts timeouts) now (state.retimed timeouts) := by
  unfold cancelled
  have waiting : (state.retimed timeouts).await = state.await := rfl
  simp only [waiting]
  cases state.await with
  | submitConversion => exact retimed_submitReturned env timeouts _ now _
  | waitCondition taskId polls since => exact retimed_raise timeouts _ _
  | checkTask taskId polls since => exact retimed_checkReturned env timeouts _ taskId polls since now _
  | fetchOutcome taskId => exact retimed_outcomeReturned env timeouts _ taskId _
  | collectOutputs taskId => exact retimed_outputsReturned timeouts _ taskId _
  | closed outcome => rfl

/-- Timeouts decide nothing: what a step does to the commands is all they change. -/
theorem retimed_step (event : Event) :
    step (env.withTimeouts timeouts) (state.retimed timeouts) event =
      (step env state event).map (·.retimed timeouts) := by
  have awaits : (state.retimed timeouts).await = state.await := rfl
  cases stepped : step env state event with
  | some next =>
    rw [Option.map_some]
    cases step_turn stepped with
    | signal running =>
      rw [retimed_wake]
      exact turn_step (.signal running)
    | timer waiting =>
      rw [retimed_poll]
      exact turn_step (.timer waiting)
    | submitted pending resolved =>
      rw [retimed_submitReturned]
      exact turn_step (.submitted pending resolved)
    | checked pending resolved =>
      rw [retimed_checkReturned]
      exact turn_step (.checked pending resolved)
    | fetched pending resolved =>
      rw [retimed_outcomeReturned]
      exact turn_step (.fetched pending resolved)
    | collected pending resolved =>
      rw [retimed_outputsReturned]
      exact turn_step (.collected pending resolved)
    | cancelled running fresh =>
      rw [retimed_cancelled]
      exact turn_step (.cancelled running fresh)
  | none =>
    cases refused : step (env.withTimeouts timeouts) (state.retimed timeouts) event with
    | none => rfl
    | some next =>
      have back : ∃ other, step env state event = some other := by
        cases step_turn refused with
        | signal running => exact ⟨_, turn_step (.signal running)⟩
        | timer waiting => exact ⟨_, turn_step (.timer waiting)⟩
        | submitted pending resolved => exact ⟨_, turn_step (.submitted pending resolved)⟩
        | checked pending resolved => exact ⟨_, turn_step (.checked pending resolved)⟩
        | fetched pending resolved => exact ⟨_, turn_step (.fetched pending resolved)⟩
        | collected pending resolved => exact ⟨_, turn_step (.collected pending resolved)⟩
        | cancelled running fresh => exact ⟨_, turn_step (.cancelled running fresh)⟩
      obtain ⟨other, taken⟩ := back
      rw [stepped] at taken
      cases taken

end Steps

/-! ### Replaying -/

theorem agrees_retimed (timeouts other : Timeouts) (command : Command) :
    (command.retimed timeouts).agrees (command.retimed other) = true := by
  cases command with
  | startTimer seconds => rfl
  | scheduleActivity activity queue seconds retry => cases activity <;> rfl

/-- Workers that differ in their timeouts issue commands that agree. -/
theorem agree_retimed (timeouts other : Timeouts) (commands : List Command) :
    agree (commands.map (·.retimed timeouts)) (commands.map (·.retimed other)) = true := by
  simp only [agree, List.length_map, decide_true, Bool.true_and, List.all_eq_true]
  intro pair member
  rw [List.zip_map'] at member
  obtain ⟨command, _, rfl⟩ := List.mem_map.mp member
  exact agrees_retimed timeouts other command

theorem retimed_retimed (timeouts other : Timeouts) (command : Command) :
    (command.retimed other).retimed timeouts = command.retimed timeouts := by
  cases command <;> rfl

theorem issuedBy_retimed (timeouts : Timeouts) (state next : WorkflowState) :
    issuedBy (state.retimed timeouts) (next.retimed timeouts) =
      (issuedBy state next).map (·.retimed timeouts) := by
  simp [issuedBy, WorkflowState.retimed]

theorem replayFrom_append (env : Env) (state : WorkflowState) (first rest : List Recorded) :
    replayFrom env state (first ++ rest) =
      (replayFrom env state first).bind fun middle => replayFrom env middle rest := by
  induction first generalizing state with
  | nil => rfl
  | cons recorded first ih =>
    simp only [List.cons_append, replayFrom]
    cases step env state recorded.event with
    | none => rfl
    | some next =>
      dsimp only [Option.bind_some]
      split
      · exact ih next
      · rfl

theorem replay_snoc (replayed : replay env record = some state)
    (stepped : step env state event = some next)
    (agreed : agree (issuedBy state next) commands = true) :
    replay env { record with events := record.events ++ [⟨event, commands⟩] } = some next := by
  simp only [replay] at replayed ⊢
  split at replayed
  case isFalse => cases replayed
  rename_i started
  rw [if_pos started, replayFrom_append, replayed]
  simp [replayFrom, stepped, agreed]

/-- A deployed run is level with an uninterrupted one: it is in the same state,
any worker can take it up there, and its history lists the same commands, all
of this but for timeouts. -/
structure Level (env : Env) (deployed : Deployed) (state : WorkflowState) : Prop where
  same : deployed.state = state.retimed deployed.timeouts
  replays : ∀ timeouts, replay (env.withTimeouts timeouts) deployed.record =
    some (state.retimed timeouts)
  recorded : ∀ timeouts : Timeouts, deployed.record.commands.map (·.retimed timeouts) =
    state.commands.map (·.retimed timeouts)

theorem level_start (env : Env) : Level env (deployment env).start (start env) where
  same := (retimed_start env env.settings.timeouts).symm
  replays := by
    intro timeouts
    rw [replay, ← retimed_start, if_pos]
    · rfl
    · have own : (start env).commands =
          (start env).commands.map (·.retimed env.settings.timeouts) :=
        congrArg WorkflowState.commands (retimed_start env env.settings.timeouts).symm
      have agreed := agree_retimed timeouts env.settings.timeouts (start env).commands
      rw [← own] at agreed
      exact agreed
  recorded := by
    intro timeouts
    simp [deployment, Record.commands]

/-- One step of the uninterrupted run keeps the deployed one level with it. -/
theorem level_step (level : Level env deployed state) (stepped : step env state event = some next) :
    Level env
      { deployed with
        record := { deployed.record with
          events := deployed.record.events ++
            [⟨event, issuedBy deployed.state (next.retimed deployed.timeouts)⟩] }
        state := next.retimed deployed.timeouts } next where
  same := rfl
  replays := by
    intro timeouts
    refine replay_snoc (level.replays timeouts) (by rw [retimed_step, stepped]; rfl) ?_
    rw [level.same, issuedBy_retimed, issuedBy_retimed]
    exact agree_retimed timeouts deployed.timeouts _
  recorded := by
    intro timeouts
    obtain ⟨issued, grown⟩ := step_commands stepped
    have fresh : issuedBy state next = issued := by simp [issuedBy, grown]
    have before := level.recorded timeouts
    simp only [Record.commands] at before ⊢
    rw [level.same, issuedBy_retimed, fresh, grown, List.flatMap_append, ← List.append_assoc,
      List.map_append, before, List.map_append]
    simp [retimed_retimed]

theorem deployment_level (env : Env) (occurrences : List WorkerEvent) :
    Option.Rel (Level env) ((deployment env).run occurrences)
      ((workflow env).run (occurrences.filterMap WorkerEvent.event?)) := by
  refine Machine.run_related (level_start env) ?_ ?_ occurrences
  · intro deployed state occurrence level own
    cases occurrence with
    | arrives event => cases own
    | restarts timeouts =>
      refine ⟨{ deployed with timeouts := timeouts, state := state.retimed timeouts }, ?_, ?_⟩
      · simp [deployment, occur, level.replays timeouts]
      · exact ⟨rfl, level.replays, level.recorded⟩
  · intro deployed state occurrence event level seen
    cases occurrence with
    | restarts timeouts => cases seen
    | arrives other =>
      cases seen
      have taken : (deployment env).step deployed (.arrives event) =
          (step env state event).map fun next =>
            { deployed with
              record := { deployed.record with
                events := deployed.record.events ++
                  [⟨event, issuedBy deployed.state (next.retimed deployed.timeouts)⟩] }
              state := next.retimed deployed.timeouts } := by
        simp only [deployment, occur]
        conv_lhs => arg 2; rw [level.same, retimed_step]
        rw [Option.map_map]
        rfl
      rw [taken]
      change Option.Rel _ _ (step env state event)
      cases stepped : step env state event with
      | none => exact .none
      | some next => exact .some (level_step level stepped)

/-- A run goes on through any restarts of its worker, with any timeouts: no
replay is refused, and but for timeouts the run comes to the state and has issued
the commands of one without a restart. -/
theorem restarts_unnoticed (env : Env) (occurrences : List WorkerEvent) (timeouts : Timeouts) :
    ((deployment env).run occurrences).map (·.state.retimed timeouts) =
        ((workflow env).run (occurrences.filterMap WorkerEvent.event?)).map (·.retimed timeouts) ∧
      ((deployment env).run occurrences).map (·.record.commands.map (·.retimed timeouts)) =
        ((workflow env).run (occurrences.filterMap WorkerEvent.event?)).map
          (·.commands.map (·.retimed timeouts)) := by
  have level := deployment_level env occurrences
  generalize (deployment env).run occurrences = deployed,
    (workflow env).run (occurrences.filterMap WorkerEvent.event?) = state at level ⊢
  cases level with
  | none => exact ⟨rfl, rfl⟩
  | @some deployed state level =>
    constructor
    · simp [level.same, WorkflowState.retimed, retimed_retimed]
    · exact congrArg some (level.recorded timeouts)

/-- A restart with other timeouts while the workflow sleeps. -/
example : ((deployment (plainEnv 300 5)).run [.arrives (accepted "t".toList), .restarts ⟨1, 2, 3, 4⟩,
    .arrives timedOut]).map (·.state.commands.getLast?) =
      some (some (.scheduleActivity (.checkTask "t".toList) taskQueue 2 checkRetry)) := by
  decide +kernel

end DoclingServeRay.Orchestration
