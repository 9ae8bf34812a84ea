import DoclingServeRay.Orchestration.Serial

/-! A conversion that sleeps holds no worker slot. Each holds one slot at most
for the attempt that it waits for, and beyond that only the slots of attempts
that were given up on while a worker was at them. -/
namespace DoclingServeRay.Orchestration
open Strings EventMachine

variable {slots replicas run : Nat} {cluster next : Cluster} {event : ClusterEvent}
  {events : List ClusterEvent} {conversion : Conversion}

/-- The attempts that Temporal waits for: one or none. -/
def Conversion.inFlight (conversion : Conversion) : Nat :=
  if conversion.pending.any Pending.inFlight then 1 else 0

def Cluster.inFlight (cluster : Cluster) (run : Nat) : Nat :=
  (cluster.conversions[run]?.map Conversion.inFlight).getD 0

/-- The slots that are taken by attempts at the activities of one conversion. -/
def Process.slotsOf (run : Nat) (process : Process) : Nat :=
  process.executing.countP fun execution => execution.run = run

def Cluster.slotsOf (cluster : Cluster) (run : Nat) : Nat := cluster.total (Process.slotsOf run)

/-- Temporal gives up on the attempt in flight, and may leave a worker at it. -/
def ClusterEvent.abandons (run : Nat) : ClusterEvent → Bool
  | .timesOut other _ => other = run
  | .told other event => other = run && event.happening = .cancelRequested
  | _ => false

/-! ### What conversions wait for -/

theorem inFlight_le (conversion : Conversion) : conversion.inFlight ≤ 1 := by
  unfold Conversion.inFlight
  split <;> decide

theorem execution_run (offered : conversion.execution? run = some execution) :
    execution.run = run ∧ conversion.inFlight = 0 ∧ conversion.given.inFlight = 1 := by
  obtain ⟨pending, waits, offered⟩ := Option.bind_eq_some_iff.mp offered
  obtain ⟨queue, _, offered⟩ := Option.bind_eq_some_iff.mp offered
  simp only [Option.ite_none_left_eq_some, Bool.not_eq_true, Option.some.injEq] at offered
  obtain ⟨idle, rfl⟩ := offered
  exact ⟨rfl, by simp [Conversion.inFlight, waits, idle], by
    simp [Conversion.inFlight, Conversion.given, waits]⟩

/-- The attempt goes on whatever the workflow hears, unless it is cancelled. -/
theorem heard_inFlight {event : Event} {next : WorkflowState} (sound : conversion.Sound)
    (outside : event.happening.isResolution = false) (calm : event.happening ≠ .cancelRequested)
    (stepped : step conversion.env conversion.state event = some next) :
    conversion.inFlight ≤ (conversion.moved next).inFlight := by
  have awaits := sound.awaits
  cases waits : conversion.pending with
  | none => simp [Conversion.inFlight, waits]
  | some pending =>
    rw [waits] at awaits
    cases step_turn stepped with
    | signal running =>
      rcases wake_cases conversion.env (taskCompleted conversion.state _) with
        ⟨same, asleep⟩ | ⟨taskId, polls, since, report, waiting, held, woken⟩
      · rw [same, Conversion.moved, if_pos ⟨rfl, rfl⟩]
        exact le_rfl
      · rw [show conversion.state.await = _ from waiting] at awaits
        cases awaits
    | timer waiting =>
      rw [waiting] at awaits
      cases awaits
    | submitted | checked | fetched | collected => cases outside
    | cancelled => exact absurd rfl calm

/-! ### What processes are at -/

section Changes

variable {process after : Process} {index : Nat}

theorem inFlight_set {place : Nat} {found after : Conversion}
    (known : cluster.conversions[place]? = some found) (run : Nat) :
    (cluster.setConversion place after).inFlight run =
      if place = run then after.inFlight else cluster.inFlight run := by
  obtain ⟨inside, _⟩ := List.getElem?_eq_some_iff.mp known
  simp only [Cluster.inFlight, Cluster.setConversion, List.getElem?_set, inside, if_true]
  split <;> rfl

theorem inFlight_of (known : cluster.conversions[run]? = some conversion) :
    cluster.inFlight run = conversion.inFlight := by
  simp [Cluster.inFlight, known]

theorem slotsOf_append (process : Process) (execution : Execution) (run : Nat) :
    Process.slotsOf run { process with executing := process.executing ++ [execution] } =
      process.slotsOf run + if execution.run = run then 1 else 0 := by
  simp [Process.slotsOf, List.countP_append, List.countP_singleton]

theorem slotsOf_eraseIdx {place : Nat} {execution : Execution}
    (there : process.executing[place]? = some execution) (run : Nat) :
    Process.slotsOf run { process with executing := process.executing.eraseIdx place } +
      (if execution.run = run then 1 else 0) = process.slotsOf run := by
  obtain ⟨inside, rfl⟩ := List.getElem?_eq_some_iff.mp there
  have counted := (List.getElem_cons_eraseIdx_perm inside).countP_eq fun execution => execution.run = run
  rw [List.countP_cons] at counted
  simpa [Process.slotsOf] using counted

theorem slots_set (found : cluster.processes[index]? = some process) (after : Process) (run : Nat) :
    (cluster.setProcess index after).slotsOf run + process.slotsOf run =
      cluster.slotsOf run + after.slotsOf run :=
  total_set _ found after

end Changes

/-- What an event does to one conversion that it replaces, and to no other. -/
theorem replaced_inFlight {place extra : Nat} {found after : Conversion}
    (known : cluster.conversions[place]? = some found)
    (less : place = run → found.inFlight ≤ after.inFlight + extra) :
    cluster.inFlight run ≤ (cluster.setConversion place after).inFlight run + extra := by
  rw [inFlight_set known]
  split
  · rename_i same
    subst same
    rw [inFlight_of known]
    exact less rfl
  · exact Nat.le_add_right _ _

/-- An event takes a slot only for an attempt that Temporal then waits for, and
frees it before Temporal waits for another one, or gives the attempt up. -/
theorem turn_slots (turn : ClusterTurn slots replicas cluster event next)
    (sound : ∀ (run : Nat) conversion, cluster.conversions[run]? = some conversion → conversion.Sound)
    (run : Nat) :
    next.slotsOf run + cluster.inFlight run ≤
      cluster.slotsOf run + (next.inFlight run + if event.abandons run then 1 else 0) := by
  cases turn with
  | begun env =>
    refine Nat.add_le_add_left (le_trans ?_ (Nat.le_add_right _ _)) _
    cases known : cluster.conversions[run]? with
    | none => simp [Cluster.inFlight, known]
    | some conversion =>
      obtain ⟨inside, _⟩ := List.getElem?_eq_some_iff.mp known
      simp [Cluster.inFlight, List.getElem?_append_left inside]
  | @told place conversion heard after found outside stepped =>
    refine Nat.add_le_add_left (replaced_inFlight found ?_) _
    rintro rfl
    by_cases cancels : heard.happening = .cancelRequested
    · rw [if_pos (by simp [ClusterEvent.abandons, cancels])]
      exact le_trans (inFlight_le conversion) (Nat.le_add_left _ _)
    · exact le_trans (heard_inFlight (sound _ _ found) outside cancels stepped) (Nat.le_add_right _ _)
  | booted room =>
    refine Nat.add_le_add ?_ (Nat.le_add_right _ _)
    rw [Cluster.slotsOf, total_boots]
    exact le_rfl
  | @stopped index process after there stops =>
    refine Nat.add_le_add ?_ (Nat.le_add_right _ _)
    have moved := slots_set there after run
    have same : after.slotsOf run = process.slotsOf run := by
      rw [Process.slotsOf, (stopped_executing stops).2.1, Process.slotsOf]
    omega
  | @died index process there alive =>
    refine Nat.add_le_add ?_ (Nat.le_add_right _ _)
    have moved := slots_set there ⟨.gone, []⟩ run
    have nothing : Process.slotsOf run ⟨.gone, []⟩ = 0 := rfl
    omega
  | @took index process place conversion execution there known offered room =>
    obtain ⟨rfl, idle, flies⟩ := execution_run offered
    refine le_trans ?_ (Nat.add_le_add_left (Nat.le_add_right _ _) _)
    let between := cluster.setConversion execution.run conversion.given
    have there : between.processes[index]? = some process := there
    have moved := slots_set there { process with executing := process.executing ++ [execution] } run
    have more := slotsOf_append process execution run
    have waits : between.inFlight run = _ := inFlight_set known run
    change (between.setProcess index _).slotsOf run + cluster.inFlight run ≤
      between.slotsOf run + between.inFlight run
    rw [waits]
    by_cases same : execution.run = run
    · rw [if_pos same] at more ⊢
      have before := inFlight_of (same ▸ known)
      omega
    · rw [if_neg same] at more ⊢
      omega
  | @ended index process place execution conversion report now there executing known same =>
    refine le_trans ?_ (Nat.add_le_add_left (Nat.le_add_right _ _) _)
    let between := cluster.setConversion execution.run (conversion.finished execution report now)
    have there : between.processes[index]? = some process := there
    have moved := slots_set there { process with executing := process.executing.eraseIdx place } run
    have less := slotsOf_eraseIdx executing run
    have waits : between.inFlight run = _ := inFlight_set known run
    change (between.setProcess index _).slotsOf run + cluster.inFlight run ≤
      between.slotsOf run + between.inFlight run
    rw [waits]
    by_cases same : execution.run = run
    · rw [if_pos same] at less ⊢
      have before := inFlight_of (same ▸ known)
      have most := inFlight_le conversion
      omega
    · rw [if_neg same] at less ⊢
      omega
  | @timedOut place conversion pending now found waits flying =>
    refine Nat.add_le_add_left (replaced_inFlight found ?_) _
    rintro rfl
    rw [if_pos (by simp [ClusterEvent.abandons])]
    exact le_trans (inFlight_le conversion) (Nat.le_add_left _ _)

theorem slots_inFlight (ran : (workers slots replicas).run events = some cluster) (run : Nat) :
    cluster.slotsOf run ≤ cluster.inFlight run + events.countP (ClusterEvent.abandons run) := by
  refine Machine.run_induction (P := fun events (cluster : Cluster) =>
    cluster.slotsOf run ≤ cluster.inFlight run + events.countP (ClusterEvent.abandons run))
    (Nat.zero_le _) ?_ ran
  intro events before event after reached held stepped
  have turned := turn_slots (cluster_turn stepped) (fun _ _ => conversions_sound reached) run
  rw [List.countP_append, List.countP_singleton]
  omega

/-- A conversion holds one slot at most while it awaits an activity, and none
while it sleeps or once it has closed, apart from those of the attempts that were
given up on. -/
theorem slots_held (ran : (workers slots replicas).run events = some cluster)
    (found : cluster.conversions[run]? = some conversion) :
    cluster.slotsOf run ≤ (if conversion.state.await.activityType?.isSome then 1 else 0) +
      events.countP (ClusterEvent.abandons run) := by
  refine le_trans (slots_inFlight ran run) (Nat.add_le_add_right ?_ _)
  rw [inFlight_of found]
  cases waits : conversion.pending with
  | none => simp [Conversion.inFlight, waits]
  | some pending =>
    have awaits := (conversions_sound ran found).awaits
    rw [waits] at awaits
    rw [← awaits]
    exact inFlight_le conversion

/-- One conversion sleeps while the worker is at another one's submission. -/
def nap : List ClusterEvent :=
  [.boots, .begins (plainEnv 300 2), .begins (plainEnv 300 2), .takes 0 0,
    .ends 0 0 ⟨.submitConversion, .answered ⟨200, [], some "t".toList⟩⟩ 0, .takes 0 1]

theorem slots_held_nap :
    ∃ cluster conversion, (workers 1 1).run nap = some cluster ∧
      cluster.conversions[0]? = some conversion ∧ conversion.state.await.activityType? = none ∧
      cluster.submitting = 1 ∧ cluster.slotsOf 0 = 0 := by
  have goes : ((workers 1 1).run nap).any (fun cluster => cluster.submitting = 1 &&
      cluster.conversions[0]?.any fun conversion =>
        conversion.state.await.activityType?.isNone) = true := by
    decide +kernel
  obtain ⟨cluster, ran, there⟩ := (Option.any_eq_true _ _).mp goes
  rw [Bool.and_eq_true, decide_eq_true_iff, Option.any_eq_true] at there
  obtain ⟨busy, conversion, found, sleeps⟩ := there
  have asleep := Option.isNone_iff_eq_none.mp sleeps
  refine ⟨cluster, conversion, ran, found, asleep, busy, ?_⟩
  simpa [asleep, nap, ClusterEvent.abandons] using slots_held ran found

end DoclingServeRay.Orchestration
