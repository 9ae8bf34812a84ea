import DoclingServeRay.Orchestration.Commands

/-! The worker process (`worker.py`) under any number of conversions. Its two
workers take the attempts at activities from their task queues, one for each
free slot; processes come up, are stopped and die, and Temporal times out an
attempt that it hears nothing of. -/
namespace DoclingServeRay.Orchestration
open Strings EventMachine

/-! ### The workers -/

inductive ActivityType where
  | submitConversion
  | checkTask
  | fetchOutcome
  | collectOutputs
  deriving DecidableEq

structure ActivityWorker where
  taskQueue : Text
  activities : List ActivityType
  maxConcurrentActivities : Nat

/-- The main worker and the submit worker. -/
def buildWorkers (maxConcurrentActivities : Nat) : List ActivityWorker :=
  [⟨taskQueue, [.checkTask, .fetchOutcome, .collectOutputs], maxConcurrentActivities⟩,
    ⟨submitTaskQueue, [.submitConversion], 1⟩]

/-- What an attempt is answered with. -/
abbrev ActivityType.Response : ActivityType → Type
  | .submitConversion => HttpResponse Text
  | .checkTask => HttpResponse StatusBody
  | .fetchOutcome => HttpResponse ResultBody
  | .collectOutputs => List ListPage

/-- What the workflow hears of these attempts, once they are all. -/
def resolution : (type : ActivityType) → List (Attempt type.Response) → Happening
  | .submitConversion, attempts => .submitResolved attempts
  | .checkTask, attempts => .checkResolved attempts
  | .fetchOutcome, attempts => .outcomeResolved attempts
  | .collectOutputs, attempts => .outputsResolved attempts

/-- It is for Temporal to say when an activity has resolved. -/
def Happening.isResolution : Happening → Bool
  | .signal _ => false
  | .timerFired => false
  | .cancelRequested => false
  | _ => true

def Await.activityType? : Await → Option ActivityType
  | .submitConversion => some .submitConversion
  | .checkTask _ _ _ => some .checkTask
  | .fetchOutcome _ => some .fetchOutcome
  | .collectOutputs _ => some .collectOutputs
  | .waitCondition _ _ _ => none
  | .closed _ => none

/-! ### Conversions -/

/-- An activity that is not resolved, with the attempts that have ended. -/
structure Pending where
  type : ActivityType
  made : List (Attempt type.Response)
  /-- Another attempt has been given to a worker. -/
  inFlight : Bool

structure Conversion where
  env : Env
  state : WorkflowState
  pending : Option Pending

/-- How an attempt ended, by the activity it was at. -/
abbrev Ended := (type : ActivityType) × Attempt type.Response

def Pending.add (pending : Pending) (ended : Ended) : Option Pending :=
  if same : ended.1 = pending.type then
    some ⟨pending.type, pending.made ++ [same ▸ ended.2], false⟩
  else none

/-- The workflow has come to an await. -/
def entered (env : Env) (state : WorkflowState) : Conversion :=
  ⟨env, state, state.await.activityType?.map fun type => ⟨type, [], false⟩⟩

namespace Conversion

/-- The workflow has heard something else than a resolution. -/
def moved (conversion : Conversion) (next : WorkflowState) : Conversion :=
  if next.await = conversion.state.await ∧ next.commands = conversion.state.commands then
    { conversion with state := next }
  else entered conversion.env next

/-- An attempt has ended: the activity has resolved, or it is retried. -/
def attempted (conversion : Conversion) (now : Instant) (pending : Pending) : Conversion :=
  match step conversion.env conversion.state ⟨now, resolution pending.type pending.made⟩ with
  | some next => entered conversion.env next
  | none => { conversion with pending := some pending }

/-- The task queue of what was asked for last. -/
def queue? (conversion : Conversion) : Option Text :=
  match conversion.state.commands.getLast? with
  | some (.scheduleActivity _ queue _ _) => some queue
  | _ => none

end Conversion

/-! ### Processes -/

/-- An attempt that a worker is at: of which conversion, its how many-eth
command, and its how many-eth attempt. -/
structure Execution where
  run : Nat
  scheduled : Nat
  attempt : Nat
  type : ActivityType
  queue : Text
  deriving DecidableEq

/-- Temporal still waits for this attempt. -/
def Execution.isCurrent (execution : Execution) (conversion : Conversion) : Bool :=
  conversion.pending.any fun pending =>
    pending.inFlight && pending.type = execution.type &&
      pending.made.length = execution.attempt &&
      conversion.state.commands.length = execution.scheduled

/-- What a worker reports of an attempt is ignored if Temporal does not wait for
it any more. -/
def Conversion.finished (conversion : Conversion) (execution : Execution) (ended : Ended)
    (now : Instant) : Conversion :=
  if execution.isCurrent conversion then
    match conversion.pending.bind fun pending => pending.add ended with
    | some pending => conversion.attempted now pending
    | none => conversion
  else conversion

inductive Status where
  | up
  /-- `shutdown` is set, and the submit worker, entered last, is left first. -/
  | stopping
  /-- The main worker is left as well. -/
  | finishing
  | gone
  deriving DecidableEq

/-- The workers that still take something on. -/
def Status.polling (slots : Nat) : Status → List ActivityWorker
  | .up => buildWorkers slots
  | .stopping => (buildWorkers slots).take 1
  | .finishing => []
  | .gone => []

structure Process where
  status : Status
  executing : List Execution

/-- The slots of one worker that are taken. -/
def Process.taken (process : Process) (queue : Text) : Nat :=
  process.executing.countP fun execution => execution.queue = queue

/-- The next stage of stopping. A worker is not left before what it is at has
ended. -/
def Process.stopped? (process : Process) : Option Process :=
  match process.status with
  | .up => some { process with status := .stopping }
  | .stopping =>
    if process.taken submitTaskQueue = 0 then some { process with status := .finishing } else none
  | .finishing => if process.executing.isEmpty then some { process with status := .gone } else none
  | .gone => none

structure Cluster where
  conversions : List Conversion
  processes : List Process

inductive ClusterEvent where
  | begins (env : Env)
  /-- A signal, a timer or a cancellation request. -/
  | told (run : Nat) (event : Event)
  | boots
  | stops (process : Nat)
  /-- A process is killed, whatever it is at. -/
  | dies (process : Nat)
  | takes (process run : Nat)
  | ends (process place : Nat) (ended : Ended) (now : Instant)
  /-- The start-to-close timeout of the attempt in flight. -/
  | timesOut (run : Nat) (now : Instant)

/-- All processes together. -/
def Cluster.total (count : Process → Nat) (cluster : Cluster) : Nat :=
  (cluster.processes.map count).sum

def Process.alive (process : Process) : Nat := if process.status = .gone then 0 else 1

def Cluster.alive (cluster : Cluster) : Nat := cluster.total Process.alive

/-- The execution that a worker takes on. -/
def Conversion.execution? (conversion : Conversion) (run : Nat) : Option Execution :=
  conversion.pending.bind fun pending => conversion.queue?.bind fun queue =>
    if pending.inFlight then none
    else some ⟨run, conversion.state.commands.length, pending.made.length, pending.type, queue⟩

def Conversion.given (conversion : Conversion) : Conversion :=
  { conversion with pending := conversion.pending.map fun pending =>
      { pending with inFlight := true } }

/-- The process has a worker that takes from this queue, and that has a slot. -/
def Process.hasRoom (slots : Nat) (process : Process) (queue : Text) : Bool :=
  (process.status.polling slots).any fun worker =>
    worker.taskQueue = queue && process.taken queue < worker.maxConcurrentActivities

def Cluster.setConversion (cluster : Cluster) (run : Nat) (conversion : Conversion) : Cluster :=
  { cluster with conversions := cluster.conversions.set run conversion }

def Cluster.setProcess (cluster : Cluster) (index : Nat) (process : Process) : Cluster :=
  { cluster with processes := cluster.processes.set index process }

def clusterStep (slots replicas : Nat) (cluster : Cluster) : ClusterEvent → Option Cluster
  | .begins env =>
    some { cluster with conversions := cluster.conversions ++ [entered env (start env)] }
  | .told run event =>
    if event.happening.isResolution then none
    else cluster.conversions[run]?.bind fun conversion =>
      (step conversion.env conversion.state event).map fun next =>
        cluster.setConversion run (conversion.moved next)
  | .boots =>
    if cluster.alive < replicas then
      some { cluster with processes := cluster.processes ++ [⟨.up, []⟩] }
    else none
  | .stops index =>
    cluster.processes[index]?.bind fun process =>
      process.stopped?.map fun stopped => cluster.setProcess index stopped
  | .dies index =>
    cluster.processes[index]?.bind fun process =>
      if process.status = .gone then none else some (cluster.setProcess index ⟨.gone, []⟩)
  | .takes index run =>
    cluster.processes[index]?.bind fun process =>
      cluster.conversions[run]?.bind fun conversion =>
        (conversion.execution? run).bind fun execution =>
          if process.hasRoom slots execution.queue then
            some ((cluster.setConversion run conversion.given).setProcess index
              { process with executing := process.executing ++ [execution] })
          else none
  | .ends index place ended now =>
    cluster.processes[index]?.bind fun process =>
      process.executing[place]?.bind fun execution =>
        cluster.conversions[execution.run]?.bind fun conversion =>
          if ended.1 = execution.type then
            some ((cluster.setConversion execution.run
              (conversion.finished execution ended now)).setProcess index
                { process with executing := process.executing.eraseIdx place })
          else none
  | .timesOut run now =>
    cluster.conversions[run]?.bind fun conversion =>
      conversion.pending.bind fun pending =>
        if pending.inFlight then
          some (cluster.setConversion run
            (conversion.attempted now ⟨pending.type, pending.made ++ [.timedOut], false⟩))
        else none

/-- Conversions from the first on, and worker processes of which there are never
more than `replicas`. -/
def workers (slots replicas : Nat) : Machine Cluster ClusterEvent :=
  ⟨⟨[], []⟩, clusterStep slots replicas⟩

/-- Everything one event can do. -/
inductive ClusterTurn (slots replicas : Nat) (cluster : Cluster) : ClusterEvent → Cluster → Prop where
  | begun (env : Env) : ClusterTurn slots replicas cluster (.begins env)
      { cluster with conversions := cluster.conversions ++ [entered env (start env)] }
  | told (found : cluster.conversions[run]? = some conversion)
      (outside : event.happening.isResolution = false)
      (stepped : step conversion.env conversion.state event = some next) :
      ClusterTurn slots replicas cluster (.told run event)
        (cluster.setConversion run (conversion.moved next))
  | booted (room : cluster.alive < replicas) : ClusterTurn slots replicas cluster .boots
      { cluster with processes := cluster.processes ++ [⟨.up, []⟩] }
  | stopped (found : cluster.processes[index]? = some process)
      (stops : process.stopped? = some after) :
      ClusterTurn slots replicas cluster (.stops index) (cluster.setProcess index after)
  | died (found : cluster.processes[index]? = some process) (there : process.status ≠ .gone) :
      ClusterTurn slots replicas cluster (.dies index) (cluster.setProcess index ⟨.gone, []⟩)
  | took (found : cluster.processes[index]? = some process)
      (held : cluster.conversions[run]? = some conversion)
      (offered : conversion.execution? run = some execution)
      (room : process.hasRoom slots execution.queue = true) :
      ClusterTurn slots replicas cluster (.takes index run)
        ((cluster.setConversion run conversion.given).setProcess index
          { process with executing := process.executing ++ [execution] })
  | ended (now : Instant) (found : cluster.processes[index]? = some process)
      (there : process.executing[place]? = some execution)
      (held : cluster.conversions[execution.run]? = some conversion)
      (same : ended.1 = execution.type) :
      ClusterTurn slots replicas cluster (.ends index place ended now)
        ((cluster.setConversion execution.run
          (conversion.finished execution ended now)).setProcess index
            { process with executing := process.executing.eraseIdx place })
  | timedOut (now : Instant) (found : cluster.conversions[run]? = some conversion)
      (waits : conversion.pending = some pending) (flying : pending.inFlight = true) :
      ClusterTurn slots replicas cluster (.timesOut run now)
        (cluster.setConversion run
          (conversion.attempted now ⟨pending.type, pending.made ++ [.timedOut], false⟩))

theorem cluster_turn (stepped : clusterStep slots replicas cluster event = some next) :
    ClusterTurn slots replicas cluster event next := by
  cases event with
  | begins env =>
    cases stepped
    exact .begun env
  | told run event =>
    simp only [clusterStep, Option.ite_none_left_eq_some, Bool.not_eq_true,
      Option.bind_eq_some_iff, Option.map_eq_some_iff] at stepped
    obtain ⟨outside, conversion, found, after, stepped, rfl⟩ := stepped
    exact .told found outside stepped
  | boots =>
    simp only [clusterStep, Option.ite_none_right_eq_some, Option.some.injEq] at stepped
    obtain ⟨room, rfl⟩ := stepped
    exact .booted room
  | stops index =>
    simp only [clusterStep, Option.bind_eq_some_iff, Option.map_eq_some_iff] at stepped
    obtain ⟨process, found, after, stops, rfl⟩ := stepped
    exact .stopped found stops
  | dies index =>
    simp only [clusterStep, Option.bind_eq_some_iff, Option.ite_none_left_eq_some,
      Option.some.injEq] at stepped
    obtain ⟨process, found, there, rfl⟩ := stepped
    exact .died found there
  | takes index run =>
    simp only [clusterStep, Option.bind_eq_some_iff, Option.ite_none_right_eq_some,
      Option.some.injEq] at stepped
    obtain ⟨process, found, conversion, held, execution, offered, room, rfl⟩ := stepped
    exact .took found held offered room
  | ends index place ended now =>
    simp only [clusterStep, Option.bind_eq_some_iff, Option.ite_none_right_eq_some,
      Option.some.injEq] at stepped
    obtain ⟨process, found, execution, there, conversion, held, same, rfl⟩ := stepped
    exact .ended now found there held same
  | timesOut run now =>
    simp only [clusterStep, Option.bind_eq_some_iff, Option.ite_none_right_eq_some,
      Option.some.injEq] at stepped
    obtain ⟨conversion, found, pending, waits, flying, rfl⟩ := stepped
    exact .timedOut now found waits flying

/-! ### Processes one by one -/

theorem total_set {cluster : Cluster} {process : Process} {index : Nat} (count : Process → Nat)
    (found : cluster.processes[index]? = some process) (after : Process) :
    (cluster.setProcess index after).total count + count process =
      cluster.total count + count after := by
  obtain ⟨conversions, processes⟩ := cluster
  simp only [Cluster.setProcess, Cluster.total] at found ⊢
  induction processes generalizing index with
  | nil => cases found
  | cons first rest ih =>
    cases index with
    | zero =>
      cases found
      simp only [List.set_cons_zero, List.map_cons, List.sum_cons]
      omega
    | succ index =>
      have onward := ih found
      simp only [List.set_cons_succ, List.map_cons, List.sum_cons]
      omega

theorem total_boots {count : Process → Nat} (cluster : Cluster) (process : Process) :
    Cluster.total count { cluster with processes := cluster.processes ++ [process] } =
      cluster.total count + count process := by
  simp [Cluster.total]

/-- Every stage of stopping leaves what the process is at. -/
theorem stopped_executing {process after : Process} (stops : process.stopped? = some after) :
    process.status ≠ .gone ∧ after.executing = process.executing ∧
      (after.status = .gone → process.executing = []) := by
  unfold Process.stopped? at stops
  split at stops
  · rename_i up
    cases stops
    exact ⟨by rw [up]; decide, rfl, nofun⟩
  · rename_i stopping
    simp only [Option.ite_none_right_eq_some, Option.some.injEq] at stops
    obtain ⟨_, rfl⟩ := stops
    exact ⟨by rw [stopping]; decide, rfl, nofun⟩
  · rename_i finishing
    simp only [Option.ite_none_right_eq_some, Option.some.injEq, List.isEmpty_iff] at stops
    obtain ⟨nothing, rfl⟩ := stops
    exact ⟨by rw [finishing]; decide, rfl, fun _ => nothing⟩
  · cases stops

/-! ### Conversions one by one -/

/-- Everything that can become of one conversion at a time. -/
inductive Became (conversion : Conversion) : Conversion → Prop where
  | heard (outside : event.happening.isResolution = false)
      (stepped : step conversion.env conversion.state event = some next) :
      Became conversion (conversion.moved next)
  | given (offered : conversion.execution? run = some execution) : Became conversion conversion.given
  | attempted (now : Instant) (waits : conversion.pending = some pending)
      (flying : pending.inFlight = true) (attempt : Attempt pending.type.Response) :
      Became conversion (conversion.attempted now ⟨pending.type, pending.made ++ [attempt], false⟩)
  | same : Became conversion conversion

theorem finished_became (conversion : Conversion) (execution : Execution) (ended : Ended)
    (now : Instant) : Became conversion (conversion.finished execution ended now) := by
  unfold Conversion.finished
  split
  · rename_i current
    obtain ⟨pending, waits, flying⟩ := (Option.any_eq_true _ _).mp current
    rw [waits, Option.bind_some]
    by_cases same : ended.1 = pending.type
    · obtain ⟨type, attempt⟩ := ended
      cases same
      rw [Pending.add, dif_pos rfl]
      refine .attempted now waits ?_ attempt
      simp only [Bool.and_eq_true] at flying
      exact flying.1.1.1
    · rw [Pending.add, dif_neg same]
      exact .same
  · exact .same

end DoclingServeRay.Orchestration
