import Mathlib.Algebra.Order.BigOperators.Group.List
import Mathlib.Order.Bounds.Defs
import DoclingServeRay.Orchestration.Workers

/-! What the two workers are for. Attempt by attempt, and with other conversions
going on all around it, a conversion does nothing that its own workflow does not;
every activity finds the worker that knows it; and no more submissions are in
progress than there are processes. -/
namespace DoclingServeRay.Orchestration
open Strings EventMachine

variable {slots replicas run : Nat} {cluster next : Cluster} {event : ClusterEvent}
  {events : List ClusterEvent} {conversion : Conversion}

/-! ### Conversions along a run -/

theorem of_set {α : Type} {list : List α} {after found : α} {place index : Nat}
    (kept : (list.set place after)[index]? = some found) :
    found = after ∨ list[index]? = some found := by
  rw [List.getElem?_set] at kept
  split at kept
  · split at kept
    · exact Or.inl (Option.some.inj kept).symm
    · cases kept
  · exact Or.inr kept

theorem of_concat {α : Type} {list : List α} {last found : α} {index : Nat}
    (kept : (list ++ [last])[index]? = some found) : found = last ∨ list[index]? = some found := by
  rcases List.mem_append.mp (List.mem_of_getElem? kept) with earlier | new
  · by_cases inside : index < list.length
    · rw [List.getElem?_append_left inside] at kept
      exact Or.inr kept
    · rw [List.getElem?_append_right (Nat.le_of_not_lt inside)] at kept
      exact Or.inl (List.mem_singleton.mp (List.mem_of_getElem? kept))
  · exact Or.inl (List.mem_singleton.mp new)

theorem turn_conversions (turn : ClusterTurn slots replicas cluster event next)
    (found : next.conversions[run]? = some conversion) :
    (∃ env, conversion = entered env (start env)) ∨
      ∃ before, cluster.conversions[run]? = some before ∧ Became before conversion := by
  have replaced : ∀ {place : Nat} {held after : Conversion}, cluster.conversions[place]? = some held →
      Became held after → (cluster.conversions.set place after)[run]? = some conversion →
      ∃ before, cluster.conversions[run]? = some before ∧ Became before conversion := by
    intro place held after there became kept
    rw [List.getElem?_set] at kept
    split at kept
    · rename_i same
      subst same
      split at kept
      · cases kept
        exact ⟨held, there, became⟩
      · cases kept
    · exact ⟨conversion, kept, .same⟩
  cases turn with
  | begun env =>
    rcases of_concat found with rfl | earlier
    · exact Or.inl ⟨env, rfl⟩
    · exact Or.inr ⟨conversion, earlier, .same⟩
  | told held outside stepped => exact Or.inr (replaced held (.heard outside stepped) found)
  | took there held offered room => exact Or.inr (replaced held (.given offered) found)
  | ended now there executing held same =>
    exact Or.inr (replaced held (finished_became _ _ _ _) found)
  | timedOut now held waits flying => exact Or.inr (replaced held (.attempted now waits flying _) found)
  | booted | stopped | died => exact Or.inr ⟨conversion, found, .same⟩

/-- What every new conversion has, and keeps whatever becomes of it, all have. -/
theorem conversions_run {P : Conversion → Prop} (begins : ∀ env, P (entered env (start env)))
    (kept : ∀ before after, P before → Became before after → P after)
    (ran : (workers slots replicas).run events = some cluster)
    (found : cluster.conversions[run]? = some conversion) : P conversion := by
  refine Machine.run_induction (P := fun _ (cluster : Cluster) =>
    ∀ (run : Nat) conversion, cluster.conversions[run]? = some conversion → P conversion) ?_ ?_ ran run
    conversion found
  · rintro run conversion ⟨⟩
  · intro _ before event after _ held stepped run conversion there
    rcases turn_conversions (cluster_turn stepped) there with ⟨env, rfl⟩ | ⟨earlier, known, became⟩
    · exact begins env
    · exact kept earlier conversion (held run earlier known) became

/-- A conversion is where its workflow gets, and what is pending is what that
awaits. -/
structure Conversion.Sound (conversion : Conversion) : Prop where
  reached : ∃ heard, (workflow conversion.env).run heard = some conversion.state
  awaits : conversion.pending.map Pending.type = conversion.state.await.activityType?

theorem entered_sound {env : Env} {state : WorkflowState} {heard : List Event}
    (ran : (workflow env).run heard = some state) : (entered env state).Sound := by
  refine ⟨⟨heard, ran⟩, ?_⟩
  simp only [entered, Option.map_map]
  exact Option.map_id'

theorem became_sound (sound : conversion.Sound) (became : Became conversion after) : after.Sound := by
  obtain ⟨⟨heard, ran⟩, awaits⟩ := sound
  cases became with
  | @heard event next outside stepped =>
    have onto := Machine.run_snoc.mpr ⟨conversion.state, ran, stepped⟩
    unfold Conversion.moved
    split
    · rename_i stays
      refine ⟨⟨heard ++ [event], onto⟩, ?_⟩
      rw [awaits, ← stays.1]
    · exact entered_sound onto
  | given offered =>
    refine ⟨⟨heard, ran⟩, ?_⟩
    rw [Conversion.given, ← awaits, Option.map_map]
    rfl
  | attempted now waits flying attempt =>
    unfold Conversion.attempted
    split
    · rename_i next stepped
      exact entered_sound (Machine.run_snoc.mpr ⟨conversion.state, ran, stepped⟩)
    · refine ⟨⟨heard, ran⟩, ?_⟩
      rw [← awaits, waits]
      rfl
  | same => exact ⟨⟨heard, ran⟩, awaits⟩

theorem conversions_sound (ran : (workers slots replicas).run events = some cluster)
    (found : cluster.conversions[run]? = some conversion) : conversion.Sound :=
  conversions_run (fun _ => entered_sound Machine.run_nil) (fun _ _ => became_sound) ran found

/-! ### The way to a worker -/

/-- The task queue that the workflow schedules such activities on. -/
def ActivityType.queue : ActivityType → Text
  | .submitConversion => submitTaskQueue
  | _ => taskQueue

theorem queues_differ : submitTaskQueue ≠ taskQueue := by decide

theorem sound_queue (sound : conversion.Sound) (waits : conversion.pending = some pending) :
    conversion.queue? = some pending.type.queue := by
  obtain ⟨⟨heard, ran⟩, awaits⟩ := sound
  rw [waits] at awaits
  have running : ∀ outcome, conversion.state.await ≠ .closed outcome := by
    intro outcome closed
    rw [closed] at awaits
    cases awaits
  obtain ⟨command, last, asks⟩ := (last_asked ran).pending running
  generalize conversion.state.await = await at asks awaits
  rw [Conversion.queue?, last]
  cases asks with
  | sleep => cases awaits
  | submission | check | fetch | collect =>
    have type := Option.some.inj awaits
    rw [type]
    rfl

/-- The execution that a conversion offers is of what it awaits. -/
theorem offered_queue (sound : conversion.Sound)
    (offered : conversion.execution? run = some execution) :
    execution.queue = execution.type.queue := by
  obtain ⟨pending, waits, offered⟩ := Option.bind_eq_some_iff.mp offered
  rw [sound_queue sound waits, Option.bind_some, Option.ite_none_left_eq_some] at offered
  obtain ⟨_, same⟩ := offered
  cases same
  rfl

/-- How many such activities one process executes at a time. -/
def ActivityType.capacity (slots : Nat) : ActivityType → Nat
  | .submitConversion => 1
  | _ => slots

theorem room_iff (process : Process) (type : ActivityType) (up : process.status = .up) :
    process.hasRoom slots type.queue = true ↔ process.taken type.queue < type.capacity slots := by
  cases type with
  | submitConversion =>
    simp [Process.hasRoom, up, Status.polling, buildWorkers, ActivityType.queue,
      ActivityType.capacity, queues_differ.symm]
  | checkTask | fetchOutcome | collectOutputs =>
    simp only [Process.hasRoom, up, Status.polling, buildWorkers, ActivityType.queue,
      ActivityType.capacity, queues_differ, List.any_cons, List.any_nil, decide_true, decide_false,
      Bool.true_and, Bool.false_and, Bool.or_false]
    exact decide_eq_true_iff

/-- A process that stops has room for nothing that it had no room for before. -/
theorem room_within (process : Process) {type : ActivityType}
    (room : process.hasRoom slots type.queue = true) :
    process.status ≠ .gone ∧ process.taken type.queue < type.capacity slots := by
  obtain ⟨worker, polls, served⟩ := List.any_eq_true.mp room
  refine ⟨?_, (room_iff { process with status := .up } type rfl).mp
    (List.any_eq_true.mpr ⟨worker, ?_, served⟩)⟩
  · intro gone
    rw [gone] at polls
    cases polls
  · cases stage : process.status with
    | up => exact stage ▸ polls
    | stopping =>
      rw [stage] at polls
      exact List.mem_of_mem_take polls
    | finishing | gone =>
      rw [stage] at polls
      cases polls

/-! ### Processes along a run -/

/-- A process is at activities that its workers know, in the slots that they
have. -/
structure Process.Sound (slots : Nat) (process : Process) : Prop where
  routed : ∀ execution ∈ process.executing, execution.queue = execution.type.queue
  within : ∀ type : ActivityType, process.taken type.queue ≤ type.capacity slots
  empty : process.status = .gone → process.executing = []

section Processes

variable {process : Process} {execution : Execution}

theorem fresh_process : Process.Sound slots ⟨.up, []⟩ where
  routed := by
    rintro execution ⟨⟩
  within := fun _ => Nat.zero_le _
  empty := fun _ => rfl

theorem stopped_process {after : Process} (sound : process.Sound slots)
    (stops : process.stopped? = some after) : after.Sound slots := by
  obtain ⟨_, same, ended⟩ := stopped_executing stops
  refine ⟨?_, ?_, fun gone => same.trans (ended gone)⟩
  · rw [same]
    exact sound.routed
  · simp only [Process.taken, same]
    exact sound.within

theorem gone_process : Process.Sound slots ⟨.gone, []⟩ where
  routed := by
    rintro execution ⟨⟩
  within := fun _ => Nat.zero_le _
  empty := fun _ => rfl

theorem taken_append (process : Process) (execution : Execution) (queue : Text) :
    Process.taken { process with executing := process.executing ++ [execution] } queue =
      process.taken queue + if execution.queue = queue then 1 else 0 := by
  simp [Process.taken, List.countP_append, List.countP_singleton]

theorem took_process (sound : process.Sound slots)
    (routed : execution.queue = execution.type.queue)
    (room : process.hasRoom slots execution.queue = true) :
    Process.Sound slots { process with executing := process.executing ++ [execution] } where
  routed := by
    intro other member
    rcases List.mem_append.mp member with earlier | last
    · exact sound.routed other earlier
    · obtain rfl := List.mem_singleton.mp last
      exact routed
  within := by
    intro type
    rw [taken_append]
    split
    · rename_i same
      exact (room_within process (same ▸ room)).2
    · exact sound.within type
  empty := by
    intro gone
    exact absurd gone (room_within process (routed ▸ room)).1

theorem erased_process (sound : process.Sound slots) (place : Nat) :
    Process.Sound slots { process with executing := process.executing.eraseIdx place } where
  routed := fun other member => sound.routed other (List.mem_of_mem_eraseIdx member)
  within := fun type =>
    le_trans (List.Sublist.countP_le (List.eraseIdx_sublist _ _)) (sound.within type)
  empty := by
    intro gone
    have nothing := sound.empty gone
    simp [nothing]

end Processes

theorem turn_processes {index : Nat} {process : Process}
    (turn : ClusterTurn slots replicas cluster event next)
    (conversions : ∀ (run : Nat) conversion, cluster.conversions[run]? = some conversion → conversion.Sound)
    (held : ∀ (index : Nat) process, cluster.processes[index]? = some process → process.Sound slots)
    (found : next.processes[index]? = some process) : process.Sound slots := by
  cases turn with
  | begun | told | timedOut => exact held index process found
  | booted room =>
    rcases of_concat found with rfl | earlier
    · exact fresh_process
    · exact held index process earlier
  | stopped there stops =>
    rcases of_set found with rfl | other
    · exact stopped_process (held _ _ there) stops
    · exact held index process other
  | died there alive =>
    rcases of_set found with rfl | other
    · exact gone_process
    · exact held index process other
  | took there known offered room =>
    rcases of_set found with rfl | other
    · exact took_process (held _ _ there) (offered_queue (conversions _ _ known) offered) room
    · exact held index process other
  | ended now there executing known same =>
    rcases of_set found with rfl | other
    · exact erased_process (held _ _ there) _
    · exact held index process other

theorem processes_sound {index : Nat} {process : Process}
    (ran : (workers slots replicas).run events = some cluster)
    (found : cluster.processes[index]? = some process) : process.Sound slots := by
  refine Machine.run_induction (P := fun _ (cluster : Cluster) =>
    ∀ (index : Nat) process, cluster.processes[index]? = some process → process.Sound slots) ?_ ?_ ran index
    process found
  · rintro index process ⟨⟩
  · intro _ before event after reached held stepped index process there
    exact turn_processes (cluster_turn stepped) (fun _ _ => conversions_sound reached) held there

/-! ### Every activity finds its worker -/

theorem registered (slots : Nat) (type : ActivityType) :
    ∃ worker ∈ buildWorkers slots, type ∈ worker.activities ∧ worker.taskQueue = type.queue ∧
      worker.maxConcurrentActivities = type.capacity slots := by
  cases type with
  | submitConversion => exact ⟨_, List.mem_cons_of_mem _ List.mem_cons_self, by simp, rfl, rfl⟩
  | checkTask | fetchOutcome | collectOutputs => exact ⟨_, List.mem_cons_self, by simp, rfl, rfl⟩

/-- A conversion is where its workflow gets; what that awaits is on the queue of
a worker that knows it, and can be taken by any process that is up and has a slot
of that worker free. -/
structure Cluster.Serves (slots replicas : Nat) (cluster : Cluster) (run : Nat)
    (conversion : Conversion) : Prop where
  reached : ∃ heard, (workflow conversion.env).run heard = some conversion.state
  awaits : conversion.pending.map Pending.type = conversion.state.await.activityType?
  served : ∀ pending, conversion.pending = some pending → ∃ worker ∈ buildWorkers slots,
    pending.type ∈ worker.activities ∧ conversion.queue? = some worker.taskQueue ∧
      (pending.inFlight = false → ∀ (index : Nat) process,
        cluster.processes[index]? = some process → process.status = .up →
          process.taken worker.taskQueue < worker.maxConcurrentActivities →
            (clusterStep slots replicas cluster (.takes index run)).isSome = true)

/-- What a process is at is on the queue of a worker that knows it and is not at
more than it may. -/
def Process.Serves (slots : Nat) (process : Process) : Prop :=
  ∀ execution ∈ process.executing, ∃ worker ∈ buildWorkers slots,
    execution.type ∈ worker.activities ∧ execution.queue = worker.taskQueue ∧
      process.taken worker.taskQueue ≤ worker.maxConcurrentActivities

theorem free_takes {pending : Pending} {process : Process} {index : Nat}
    (found : cluster.conversions[run]? = some conversion) (sound : conversion.Sound)
    (waits : conversion.pending = some pending) (idle : pending.inFlight = false)
    (there : cluster.processes[index]? = some process) (up : process.status = .up)
    (free : process.taken pending.type.queue < pending.type.capacity slots) :
    (clusterStep slots replicas cluster (.takes index run)).isSome = true := by
  have offered : conversion.execution? run = some ⟨run, conversion.state.commands.length,
      pending.made.length, pending.type, pending.type.queue⟩ := by
    simp [Conversion.execution?, waits, sound_queue sound waits, idle]
  have room := (room_iff process pending.type up).mpr free
  simp [clusterStep, there, found, offered, room]

/-- However conversions begin and are told things, and processes come up, stop,
are killed and report attempts, late ones too, every conversion stays what its
workflow makes of it, and no activity is stranded. -/
theorem activities_served (ran : (workers slots replicas).run events = some cluster) :
    (∀ (run : Nat) conversion, cluster.conversions[run]? = some conversion →
      cluster.Serves slots replicas run conversion) ∧
    ∀ process ∈ cluster.processes, process.Serves slots := by
  constructor
  · intro run conversion found
    have sound := conversions_sound ran found
    refine ⟨sound.reached, sound.awaits, fun pending waits => ?_⟩
    obtain ⟨worker, built, knows, queue, most⟩ := registered slots pending.type
    refine ⟨worker, built, knows, queue ▸ sound_queue sound waits, ?_⟩
    intro idle index process there up free
    rw [queue, most] at free
    exact free_takes found sound waits idle there up free
  · intro process member execution executing
    obtain ⟨index, found⟩ := List.getElem?_of_mem member
    have sound := processes_sound ran found
    obtain ⟨worker, built, knows, queue, most⟩ := registered slots execution.type
    refine ⟨worker, built, knows, (sound.routed execution executing).trans queue.symm, ?_⟩
    rw [queue, most]
    exact sound.within execution.type

/-- A submission is answered and its safety poll comes due; a process that stops
takes the check from one that is killed at it. -/
def shift : List ClusterEvent :=
  [.boots, .begins (plainEnv 300 2), .takes 0 0,
    .ends 0 0 ⟨.submitConversion, .answered ⟨200, [], some "t".toList⟩⟩ 0, .told 0 timedOut,
    .takes 0 0, .dies 0, .boots, .stops 1, .timesOut 0 0, .takes 1 0]

theorem activities_served_shift :
    ∃ cluster conversion process, (workers 1 1).run shift = some cluster ∧
      cluster.conversions[0]? = some conversion ∧ cluster.processes[1]? = some process ∧
      process.status = .stopping ∧ process.executing ≠ [] ∧
      cluster.Serves 1 1 0 conversion ∧ process.Serves 1 := by
  have goes : ((workers 1 1).run shift).any (fun cluster =>
      cluster.conversions[0]?.isSome && cluster.processes[1]?.any fun process =>
        process.status = .stopping && !process.executing.isEmpty) = true := by
    decide +kernel
  obtain ⟨cluster, ran, there⟩ := (Option.any_eq_true _ _).mp goes
  rw [Bool.and_eq_true, Option.isSome_iff_exists, Option.any_eq_true] at there
  obtain ⟨⟨conversion, found⟩, process, known, stops⟩ := there
  simp only [Bool.and_eq_true, decide_eq_true_iff, Bool.not_eq_true', List.isEmpty_eq_false_iff]
    at stops
  exact ⟨cluster, conversion, process, ran, found, known, stops.1, stops.2,
    (activities_served ran).1 0 conversion found,
    (activities_served ran).2 process (List.mem_of_getElem? known)⟩

/-! ### Submissions at a time -/

def Process.submitting (process : Process) : Nat :=
  process.executing.countP fun execution => execution.type = .submitConversion

/-- The submissions that workers are at, given up by Temporal or not. -/
def Cluster.submitting (cluster : Cluster) : Nat := cluster.total Process.submitting

/-- A process is at one submission at most. -/
theorem submitting_le {process : Process} (sound : process.Sound slots) :
    process.submitting ≤ process.alive := by
  unfold Process.alive
  split
  · rename_i gone
    simp [Process.submitting, sound.empty gone]
  · calc process.submitting
        ≤ process.taken submitTaskQueue := by
          refine List.countP_mono_left fun execution member submits => ?_
          rw [decide_eq_true_iff] at submits ⊢
          rw [sound.routed execution member, submits]
          rfl
      _ ≤ 1 := sound.within .submitConversion

theorem submitting_le_alive (ran : (workers slots replicas).run events = some cluster) :
    cluster.submitting ≤ cluster.alive := by
  refine List.sum_le_sum fun process member => ?_
  obtain ⟨index, found⟩ := List.getElem?_of_mem member
  exact submitting_le (processes_sound ran found)

theorem alive_set {process after : Process} {index : Nat}
    (found : cluster.processes[index]? = some process) (less : after.alive ≤ process.alive) :
    (cluster.setProcess index after).alive ≤ cluster.alive := by
  have moved := total_set Process.alive found after
  unfold Cluster.alive
  omega

theorem stopped_alive {process after : Process} (stops : process.stopped? = some after) :
    after.alive ≤ process.alive := by
  rw [Process.alive, Process.alive, if_neg (stopped_executing stops).1]
  split <;> decide

theorem turn_alive (turn : ClusterTurn slots replicas cluster event next)
    (held : cluster.alive ≤ replicas) : next.alive ≤ replicas := by
  cases turn with
  | begun | told | timedOut => exact held
  | booted room =>
    rw [Cluster.alive, total_boots]
    exact room
  | stopped there stops => exact le_trans (alive_set there (stopped_alive stops)) held
  | died there alive => exact le_trans (alive_set there (Nat.zero_le _)) held
  | @took index process _ _ _ there known offered room =>
    refine le_trans (alive_set ?_ (le_refl process.alive)) held
    exact there
  | @ended index process _ _ _ _ _ there executing known same =>
    refine le_trans (alive_set ?_ (le_refl process.alive)) held
    exact there

theorem alive_le (ran : (workers slots replicas).run events = some cluster) :
    cluster.alive ≤ replicas := by
  refine Machine.run_induction (P := fun _ (cluster : Cluster) => cluster.alive ≤ replicas)
    (Nat.zero_le _) ?_ ran
  intro _ before event after _ held stepped
  exact turn_alive (cluster_turn stepped) held

/-! ### As many submissions as there are processes -/

/-- Processes that come up with one conversion each and take its submission. -/
def burst (env : Env) : Nat → List ClusterEvent
  | 0 => []
  | count + 1 => burst env count ++ [.boots, .begins env, .takes count count]

def submission (run : Nat) : Execution := ⟨run, 1, 0, .submitConversion, submitTaskQueue⟩

def crowded (env : Env) (count : Nat) : Cluster :=
  ⟨List.replicate count (entered env (start env)).given,
    (List.range count).map fun run => ⟨.up, [submission run]⟩⟩

theorem crowded_total (env : Env) (count : Process → Nat) (number : Nat) (each : Nat)
    (same : ∀ run, count ⟨.up, [submission run]⟩ = each) :
    (crowded env number).total count = number * each := by
  simp [Cluster.total, crowded, Function.comp_def, same]

theorem burst_crowded (env : Env) {count : Nat} (fits : count ≤ replicas) :
    (workers slots replicas).run (burst env count) = some (crowded env count) := by
  induction count with
  | zero => rfl
  | succ count ih =>
    have earlier := ih (Nat.le_of_succ_le fits)
    have room : (crowded env count).alive < replicas := by
      rw [Cluster.alive, crowded_total env Process.alive count 1 (fun _ => rfl)]
      omega
    have grown : crowded env (count + 1) =
        ⟨(crowded env count).conversions ++ [(entered env (start env)).given],
          (crowded env count).processes ++ [⟨.up, [submission count]⟩]⟩ := by
      simp [crowded, List.replicate_succ', List.range_succ]
    have conversions : (crowded env count).conversions.length = count := by simp [crowded]
    have processes : (crowded env count).processes.length = count := by simp [crowded]
    generalize crowded env count = cluster at *
    have there : (cluster.processes ++ [⟨.up, []⟩])[count]? = some ⟨.up, []⟩ := by
      rw [← processes]
      exact List.getElem?_concat_length
    have known : (cluster.conversions ++ [entered env (start env)])[count]? =
        some (entered env (start env)) := by
      rw [← conversions]
      exact List.getElem?_concat_length
    have offered : (entered env (start env)).execution? count = some (submission count) := rfl
    have free : Process.hasRoom slots ⟨.up, []⟩ (submission count).queue = true :=
      (room_iff ⟨.up, []⟩ .submitConversion rfl).mpr Nat.zero_lt_one
    refine Machine.run_append.mpr ⟨cluster, earlier, Machine.runFrom_cons.mpr ⟨_, if_pos room,
      Machine.runFrom_cons.mpr ⟨_, rfl, Machine.runFrom_cons.mpr ⟨_, ?_, rfl⟩⟩⟩⟩
    simp only [workers, clusterStep, there, known, Option.bind_some, offered, free, if_true, grown]
    simp [Cluster.setConversion, Cluster.setProcess, ← conversions, processes]

/-- Whatever happens, as many submissions as there may be processes are in
progress at most, and it does come to that. -/
theorem submissions_most (slots replicas : Nat) :
    IsGreatest {count | ∃ events cluster, (workers slots replicas).run events = some cluster ∧
      cluster.submitting = count} replicas := by
  constructor
  · have env := plainEnv 300 2
    refine ⟨burst env replicas, crowded env replicas, burst_crowded env le_rfl, ?_⟩
    rw [Cluster.submitting, crowded_total env Process.submitting replicas 1 (fun _ => rfl), Nat.mul_one]
  · rintro count ⟨events, cluster, ran, rfl⟩
    exact le_trans (submitting_le_alive ran) (alive_le ran)

end DoclingServeRay.Orchestration
