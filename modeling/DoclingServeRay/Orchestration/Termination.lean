import DoclingServeRay.Orchestration.History

/-! Every run without a cancellation is bounded and its counters are exact. The
polls of a run fall into groups, one for each submission; the await the run is
suspended at says what each group looks like, and how much work is left. -/
namespace DoclingServeRay.Orchestration
open Strings EventMachine

variable {env : Env} {state next : WorkflowState} {event : Event} {events : List Event}

/-! ### Counting -/

def Command.isSubmit : Command → Bool
  | .scheduleActivity (.submitConversion _) _ _ _ => true
  | _ => false

def Command.isCheck : Command → Bool
  | .scheduleActivity (.checkTask _) _ _ _ => true
  | _ => false

/-- How many `submit_conversion` activities were scheduled. -/
def submitsScheduled (commands : List Command) : Nat := commands.countP Command.isSubmit

/-- How many `check_task` activities were scheduled. -/
def checksScheduled (commands : List Command) : Nat := commands.countP Command.isCheck

def countCommand (counts : List Nat) (command : Command) : List Nat :=
  if command.isSubmit then 0 :: counts
  else if command.isCheck then counts.modifyHead (· + 1)
  else counts

/-- How many `check_task` activities each submission led to, latest first. -/
def checksPerSubmission (commands : List Command) : List Nat := commands.foldl countCommand []

/-- What the poll that an event resolves came to. -/
def Event.verdict? (event : Event) : Option PollVerdict :=
  match event.happening with
  | .checkResolved attempts => some (pollVerdict attempts)
  | _ => none

/-- How many polls ended in `TaskLost`. -/
def lostPolls (events : List Event) : Nat := (events.filterMap Event.verdict?).count .lost

def recordPoll (groups : List (List PollVerdict)) (event : Event) : List (List PollVerdict) :=
  match event.submittedId?, event.verdict? with
  | some _, _ => [] :: groups
  | none, some verdict => groups.modifyHead (verdict :: ·)
  | none, none => groups

/-- What the polls of each submission came to, latest submission and latest
poll first. -/
def pollGroups (events : List Event) : List (List PollVerdict) := events.foldl recordPoll []

/-- `max(1, max_safety_polls)`. -/
def Env.budget (env : Env) : Nat := max 1 env.inp.maxSafetyPolls.toNat

theorem budget_positive (env : Env) : 0 < env.budget := Nat.le_max_left ..

/-- The test after a poll, in terms of the budget. -/
theorem spent_iff (env : Env) (polls : Nat) :
    env.inp.maxSafetyPolls ≤ (polls + 1 : Nat) ↔ env.budget ≤ polls + 1 := by
  simp only [Env.budget]
  omega

theorem pollGroups_snoc : pollGroups (events ++ [event]) = recordPoll (pollGroups events) event := by
  simp [pollGroups]

theorem checksPerSubmission_snoc (commands : List Command) (command : Command) :
    checksPerSubmission (commands ++ [command]) =
      countCommand (checksPerSubmission commands) command := by
  simp [checksPerSubmission]

/-! ### The ledger -/

/-- All polls of a submission that was given up on as lost. -/
def LostGroup (budget : Nat) (group : List PollVerdict) : Prop :=
  ∃ polls < budget, group = .lost :: List.replicate polls .inconclusive

/-- All polls of a submission whose wait has returned. -/
def SettledGroup (budget : Nat) (group : List PollVerdict) : Prop :=
  ∃ polls < budget, group = List.replicate polls .inconclusive ∨
    group = .terminal :: List.replicate polls .inconclusive

/-- The books of a run that has not ended: its groups are those of the current
submission, if that was given a task, and of the ones before it, all lost. -/
structure Tally (env : Env) (events : List Event) (state : WorkflowState)
    (current earlier : List (List PollVerdict)) (checks : Nat) : Prop where
  groups : pollGroups events = current ++ earlier
  lostBefore : ∀ group ∈ earlier, LostGroup env.budget group
  counts : checksPerSubmission state.commands = checks :: earlier.map List.length
  submitted : state.submissions = submitsScheduled state.commands
  polled : state.safetyPolls = checksScheduled state.commands
  bounded : state.submissions ≤ maxSubmissions
  lost : state.submissions = lostPolls events + 1

/-- The books of a run that has ended. -/
structure Closing (env : Env) (events : List Event) (state : WorkflowState) (outcome : Outcome) :
    Prop where
  submitted : submitsScheduled state.commands ≤ maxSubmissions
  within : ∀ checks ∈ checksPerSubmission state.commands, checks ≤ env.budget
  exhausted : outcome.isExhaustion = true ↔
    List.replicate env.budget .inconclusive ∈ pollGroups events
  counted : ∀ result, outcome = .returned result →
    result.submissions = submitsScheduled state.commands ∧
    result.submissions = lostPolls events + 1 ∧
    result.safetyPolls = checksScheduled state.commands

/-- What the await says about the groups of polls so far. -/
inductive Ledger (env : Env) (events : List Event) (state : WorkflowState) : Prop where
  | submitting (pending : state.await = .submitConversion)
      (tally : Tally env events state [] earlier 0)
  | sleeping (pending : state.await = .waitCondition taskId polls since)
      (left : polls < env.budget)
      (tally : Tally env events state [List.replicate polls .inconclusive] earlier polls)
  | polling (pending : state.await = .checkTask taskId (polls + 1) since)
      (left : polls < env.budget)
      (tally : Tally env events state [List.replicate polls .inconclusive] earlier (polls + 1))
  | settling (pending : state.await = .fetchOutcome taskId ∨ state.await = .collectOutputs taskId)
      (settled : SettledGroup env.budget group) (fits : checks ≤ env.budget)
      (tally : Tally env events state [group] earlier checks)
  | ended (pending : state.await = .closed outcome) (closing : Closing env events state outcome)

section Books

variable {current earlier : List (List PollVerdict)} {group : List PollVerdict} {checks : Nat}

theorem lostGroup_length (lost : LostGroup budget group) : group.length ≤ budget := by
  obtain ⟨polls, left, rfl⟩ := lost
  rw [List.length_cons, List.length_replicate]
  exact left

theorem lostGroup_unexhausted (lost : LostGroup budget group) :
    group ≠ List.replicate budget .inconclusive := by
  obtain ⟨polls, left, rfl⟩ := lost
  intro same
  have member : PollVerdict.lost ∈ List.replicate budget PollVerdict.inconclusive := by
    simp [← same]
  cases List.eq_of_mem_replicate member

theorem settledGroup_unexhausted (settled : SettledGroup budget group) :
    group ≠ List.replicate budget .inconclusive := by
  obtain ⟨polls, left, rfl | rfl⟩ := settled
  · intro same
    have lengths := congrArg List.length same
    simp only [List.length_replicate] at lengths
    omega
  · intro same
    have member : PollVerdict.terminal ∈ List.replicate budget PollVerdict.inconclusive := by
      simp [← same]
    cases List.eq_of_mem_replicate member

theorem Tally.within (tally : Tally env events state current earlier checks)
    (fits : checks ≤ env.budget) :
    ∀ checks ∈ checksPerSubmission state.commands, checks ≤ env.budget := by
  rw [tally.counts]
  simp only [List.mem_cons, List.mem_map, forall_eq_or_imp, fits, true_and]
  rintro _ ⟨group, member, rfl⟩
  exact lostGroup_length (tally.lostBefore group member)

theorem exhausted_iff (lostBefore : ∀ group ∈ earlier, LostGroup budget group) :
    List.replicate budget .inconclusive ∈ current ++ earlier ↔
      List.replicate budget .inconclusive ∈ current := by
  rw [List.mem_append, or_iff_left]
  intro member
  exact lostGroup_unexhausted (lostBefore _ member) rfl

/-- An event that neither gives a task nor resolves a poll leaves the books. -/
theorem Tally.unaffected (tally : Tally env events state current earlier checks)
    (given : event.submittedId? = none) (unpolled : event.verdict? = none) :
    Tally env (events ++ [event]) state current earlier checks where
  groups := by rw [pollGroups_snoc, recordPoll, given, unpolled, tally.groups]
  lostBefore := tally.lostBefore
  counts := tally.counts
  submitted := tally.submitted
  polled := tally.polled
  bounded := tally.bounded
  lost := by rw [tally.lost]; simp [lostPolls, unpolled]

theorem lostPolls_snoc (events : List Event) (verdict : PollVerdict) (polled : event.verdict? = some verdict) :
    lostPolls (events ++ [event]) = lostPolls events + if verdict = .lost then 1 else 0 := by
  simp [lostPolls, polled, List.count_singleton]

/-! ### Each piece of the coroutine keeps the books -/

/-- An exception ends the run with the groups it then has. -/
theorem raise_ledger (calm : state.cancelRequested = false)
    (tally : Tally env before state former earlier checks) (fits : checks ≤ env.budget)
    (groups : pollGroups events = current ++ earlier)
    (exhausted : (Outcome.failed error).isExhaustion = true ↔
      List.replicate env.budget .inconclusive ∈ current) :
    Ledger env events (raise state error) := by
  refine .ended (raise_await state error calm) ?_
  exact {
    submitted := by
      rw [raise_commands, ← tally.submitted]
      exact tally.bounded
    within := tally.within fits
    exhausted := by rw [groups, exhausted_iff tally.lostBefore, exhausted]
    counted := by nofun }

/-- Neither does a command that schedules no submit and no check. -/
theorem Tally.carried (tally : Tally env events state current earlier checks)
    (submissions : next.submissions = state.submissions)
    (safetyPolls : next.safetyPolls = state.safetyPolls)
    (commands : next.commands = state.commands ∨ ∃ command : Command, command.isSubmit = false ∧
      command.isCheck = false ∧ next.commands = state.commands ++ [command]) :
    Tally env events next current earlier checks := by
  have unchanged : checksPerSubmission next.commands = checksPerSubmission state.commands ∧
      submitsScheduled next.commands = submitsScheduled state.commands ∧
      checksScheduled next.commands = checksScheduled state.commands := by
    rcases commands with same | ⟨command, unsubmitting, unchecking, appended⟩
    · simp [same]
    · rw [appended, checksPerSubmission_snoc]
      simp [countCommand, submitsScheduled, checksScheduled, unsubmitting, unchecking]
  obtain ⟨counts, submits, polls⟩ := unchanged
  exact {
    groups := tally.groups
    lostBefore := tally.lostBefore
    counts := counts.trans tally.counts
    submitted := by rw [submissions, submits, tally.submitted]
    polled := by rw [safetyPolls, polls, tally.polled]
    bounded := submissions ▸ tally.bounded
    lost := submissions.trans tally.lost }

theorem poll_ledger (left : polls < env.budget)
    (tally : Tally env events state [List.replicate polls .inconclusive] earlier polls) :
    Ledger env events (poll env state taskId polls since) := by
  have checking : Tally env events (poll env state taskId polls since)
      [List.replicate polls .inconclusive] earlier (polls + 1) := {
    groups := tally.groups
    lostBefore := tally.lostBefore
    counts := by
      rw [poll_commands, checksPerSubmission_snoc, tally.counts]
      rfl
    submitted := by
      rw [poll_commands, poll_submissions, tally.submitted]
      simp [submitsScheduled, Command.isSubmit]
    polled := by
      rw [poll_commands, poll_safetyPolls, tally.polled]
      simp [checksScheduled, Command.isCheck]
    bounded := tally.bounded
    lost := tally.lost }
  exact .polling (poll_await ..) left checking

theorem afterWait_ledger (calm : state.cancelRequested = false)
    (settled : SettledGroup env.budget group) (fits : checks ≤ env.budget)
    (tally : Tally env events state [group] earlier checks) :
    Ledger env events (afterWait env state taskId report) := by
  unfold afterWait
  split
  · have carried : Tally env events { state with terminal := some report } [group] earlier
        checks := tally.carried rfl rfl (Or.inl rfl)
    refine raise_ledger calm carried fits tally.groups ?_
    simp [Outcome.isExhaustion, conversionFailed, (settledGroup_unexhausted settled).symm]
  · exact .settling (Or.inl rfl) settled fits
      (tally.carried rfl rfl (Or.inr ⟨_, rfl, rfl, rfl⟩))

theorem waitCondition_ledger (calm : state.cancelRequested = false) (left : polls < env.budget)
    (tally : Tally env events state [List.replicate polls .inconclusive] earlier polls) :
    Ledger env events (waitCondition env state taskId polls since) := by
  have drawn : Tally env events { state with draws := state.draws + 1 }
      [List.replicate polls .inconclusive] earlier polls := tally.carried rfl rfl (Or.inl rfl)
  have turn := waitCondition_turn env state taskId polls since
  generalize waitCondition env state taskId polls since = next at turn ⊢
  cases turn with
  | expired spent => exact poll_ledger left drawn
  | reported positive held =>
    have settled : SettledGroup env.budget (List.replicate polls .inconclusive) :=
      ⟨polls, left, Or.inl rfl⟩
    exact afterWait_ledger calm settled (Nat.le_of_lt left) drawn
  | slept positive absent =>
    exact .sleeping rfl left (drawn.carried rfl rfl (Or.inr ⟨_, rfl, rfl, rfl⟩))

/-- A new submission after a poll that lost the task. -/
theorem submit_ledger (groups : pollGroups events = earlier)
    (lostBefore : ∀ group ∈ earlier, LostGroup env.budget group)
    (counts : checksPerSubmission state.commands = earlier.map List.length)
    (submitted : state.submissions = submitsScheduled state.commands)
    (polled : state.safetyPolls = checksScheduled state.commands)
    (room : state.submissions < maxSubmissions) (lost : state.submissions = lostPolls events) :
    Ledger env events (submit env state) := by
  have resubmitting : Tally env events (submit env state) [] earlier 0 := {
    groups := groups
    lostBefore := lostBefore
    counts := by
      rw [submit_commands, checksPerSubmission_snoc, counts]
      rfl
    submitted := by
      rw [submit_commands, submit_submissions, submitted]
      simp [submitsScheduled, Command.isSubmit]
    polled := by
      rw [submit_commands, submit_safetyPolls, polled]
      simp [checksScheduled, Command.isCheck]
    bounded := room
    lost := by rw [submit_submissions, lost] }
  exact .submitting rfl resubmitting

theorem start_ledger : Ledger env [] (start env) :=
  submit_ledger rfl (by nofun) rfl rfl rfl (by decide) rfl

/-- A poll adds its verdict to the group of the current submission. -/
theorem polled_groups (polled : event.verdict? = some verdict)
    (given : event.submittedId? = none)
    (groups : pollGroups events = [group] ++ earlier) :
    pollGroups (events ++ [event]) = [verdict :: group] ++ earlier := by
  rw [pollGroups_snoc, recordPoll, given, polled, groups]
  rfl

theorem checkReturned_ledger (calm : state.cancelRequested = false) (left : polls < env.budget)
    (polled : event.verdict? = some verdict) (given : event.submittedId? = none)
    (verdicts : Polled taskId verdict (check result))
    (tally : Tally env events state [List.replicate polls .inconclusive] earlier (polls + 1)) :
    Ledger env (events ++ [event])
      (checkReturned env now state taskId (polls + 1) since result) := by
  have groups := polled_groups polled given tally.groups
  have losses := lostPolls_snoc events verdict polled
  unfold checkReturned
  generalize check result = checked at verdicts ⊢
  cases verdicts with
  | terminal named =>
    have settled : SettledGroup env.budget (.terminal :: List.replicate polls .inconclusive) :=
      ⟨polls, left, Or.inr rfl⟩
    have reported : Tally env (events ++ [event]) state
        [.terminal :: List.replicate polls .inconclusive] earlier (polls + 1) := {
      tally with
      groups := groups
      lost := by simpa [losses] using tally.lost }
    exact afterWait_ledger calm settled left reported
  | lost gone =>
    have lostGroup : LostGroup env.budget (.lost :: List.replicate polls .inconclusive) :=
      ⟨polls, left, rfl⟩
    simp only [waitRaised, gone, Bool.not_true, Bool.false_or, decide_eq_true_eq]
    split
    · refine raise_ledger calm tally left groups ?_
      simp [Outcome.isExhaustion, (lostGroup_unexhausted lostGroup).symm]
    · refine submit_ledger groups ?_ ?_ tally.submitted tally.polled ?_ ?_
      · simpa using ⟨lostGroup, tally.lostBefore⟩
      · simpa using tally.counts
      · omega
      · simpa [losses] using tally.lost
  | inconclusive =>
    have onward : Tally env (events ++ [event]) state
        [List.replicate (polls + 1) .inconclusive] earlier (polls + 1) := {
      tally with
      groups := groups
      lost := by simpa [losses] using tally.lost }
    simp only [spent_iff]
    split
    · rename_i spent
      have whole : env.budget = polls + 1 := by omega
      refine raise_ledger calm onward left onward.groups ?_
      simp [Outcome.isExhaustion, budgetExhausted, whole]
    · exact waitCondition_ledger calm (by omega) onward

theorem submitReturned_ledger (calm : state.cancelRequested = false)
    (unpolled : event.verdict? = none)
    (given : event.submittedId? = result.toOption)
    (tally : Tally env events state [] earlier 0) :
    Ledger env (events ++ [event]) (submitReturned env now state result) := by
  unfold submitReturned
  cases result with
  | error error =>
    have books := tally.unaffected given unpolled
    exact raise_ledger calm books (Nat.zero_le _) books.groups (by simp [Outcome.isExhaustion])
  | ok taskId =>
    have opened : Tally env (events ++ [event]) state [List.replicate 0 .inconclusive] earlier 0 := {
      tally with
      groups := by
        rw [pollGroups_snoc, recordPoll, given, tally.groups]
        rfl
      lost := by simpa [lostPolls, unpolled] using tally.lost }
    exact waitCondition_ledger calm (budget_positive env) opened

theorem outcomeReturned_ledger (calm : state.cancelRequested = false)
    (settled : SettledGroup env.budget group) (fits : checks ≤ env.budget)
    (tally : Tally env events state [group] earlier checks) :
    Ledger env events (outcomeReturned env state taskId result) := by
  have unexhausted := (settledGroup_unexhausted settled).symm
  unfold outcomeReturned
  cases result with
  | error error =>
    exact raise_ledger calm tally fits tally.groups (by simp [Outcome.isExhaustion, unexhausted])
  | ok outcome =>
    dsimp only
    split
    · refine raise_ledger calm tally fits tally.groups ?_
      simp [Outcome.isExhaustion, conversionFailed, unexhausted]
    · exact .settling (Or.inr rfl) settled fits (tally.carried rfl rfl (Or.inr ⟨_, rfl, rfl, rfl⟩))

theorem outputsReturned_ledger (calm : state.cancelRequested = false)
    (settled : SettledGroup env.budget group) (fits : checks ≤ env.budget)
    (tally : Tally env events state [group] earlier checks) :
    Ledger env events (outputsReturned state taskId result) := by
  have unexhausted := (settledGroup_unexhausted settled).symm
  unfold outputsReturned
  cases result with
  | error error =>
    exact raise_ledger calm tally fits tally.groups (by simp [Outcome.isExhaustion, unexhausted])
  | ok collected =>
    dsimp only
    split
    · refine raise_ledger calm tally fits tally.groups ?_
      simp [Outcome.isExhaustion, unexhausted]
    · refine .ended rfl ?_
      exact {
        submitted := tally.submitted ▸ tally.bounded
        within := tally.within fits
        exhausted := by
          rw [tally.groups, exhausted_iff tally.lostBefore]
          simp [Outcome.isExhaustion, unexhausted]
        counted := by
          rintro _ ⟨rfl⟩
          exact ⟨tally.submitted, tally.lost, tally.polled⟩ }

end Books

/-! ### Steps and runs keep the books -/

private theorem submitting_books (ledger : Ledger env events state)
    (pending : state.await = .submitConversion) :
    ∃ earlier, Tally env events state [] earlier 0 := by
  cases ledger with
  | submitting _ tally => exact ⟨_, tally⟩
  | sleeping awaiting | polling awaiting | ended awaiting => simp [pending] at awaiting
  | settling awaiting => simp [pending] at awaiting

private theorem sleeping_books (ledger : Ledger env events state)
    (pending : state.await = .waitCondition taskId polls since) :
    polls < env.budget ∧
      ∃ earlier, Tally env events state [List.replicate polls .inconclusive] earlier polls := by
  cases ledger with
  | sleeping awaiting left tally =>
    obtain ⟨rfl, rfl, rfl⟩ := Await.waitCondition.inj (awaiting.symm.trans pending)
    exact ⟨left, _, tally⟩
  | submitting awaiting | polling awaiting | ended awaiting => simp [pending] at awaiting
  | settling awaiting => simp [pending] at awaiting

private theorem polling_books (ledger : Ledger env events state)
    (pending : state.await = .checkTask taskId polls since) :
    ∃ before earlier, polls = before + 1 ∧ before < env.budget ∧
      Tally env events state [List.replicate before .inconclusive] earlier polls := by
  cases ledger with
  | polling awaiting left tally =>
    obtain ⟨rfl, rfl, rfl⟩ := Await.checkTask.inj (awaiting.symm.trans pending)
    exact ⟨_, _, rfl, left, tally⟩
  | submitting awaiting | sleeping awaiting | ended awaiting => simp [pending] at awaiting
  | settling awaiting => simp [pending] at awaiting

private theorem settling_books (ledger : Ledger env events state)
    (pending : state.await = .fetchOutcome taskId ∨ state.await = .collectOutputs taskId) :
    ∃ group earlier checks, SettledGroup env.budget group ∧ checks ≤ env.budget ∧
      Tally env events state [group] earlier checks := by
  cases ledger with
  | settling _ settled fits tally => exact ⟨_, _, _, settled, fits, tally⟩
  | submitting awaiting | sleeping awaiting | polling awaiting | ended awaiting =>
    rcases pending with pending | pending <;> simp [pending] at awaiting

theorem ledger_step (calm : state.cancelRequested = false) (quiet : event.isCalm)
    (ledger : Ledger env events state) (stepped : step env state event = some next) :
    Ledger env (events ++ [event]) next := by
  cases step_turn stepped with
  | @signal now report running =>
    have heard : ∀ {current earlier checks}, Tally env events state current earlier checks →
        Tally env (events ++ [⟨now, .signal report⟩]) (taskCompleted state report) current earlier
          checks :=
      fun tally => (tally.unaffected rfl rfl).carried rfl rfl (Or.inl rfl)
    rcases wake_cases env (taskCompleted state report) with
      ⟨same, _⟩ | ⟨taskId, polls, since, report', waiting, held, woken⟩
    · rw [same]
      cases ledger with
      | submitting pending tally => exact .submitting pending (heard tally)
      | sleeping pending left tally => exact .sleeping pending left (heard tally)
      | polling pending left tally => exact .polling pending left (heard tally)
      | settling pending settled fits tally => exact .settling pending settled fits (heard tally)
      | ended pending closing => exact absurd pending (running _)
    · rw [woken]
      obtain ⟨left, earlier, tally⟩ := sleeping_books ledger waiting
      exact afterWait_ledger calm ⟨polls, left, Or.inl rfl⟩ (Nat.le_of_lt left) (heard tally)
  | timer waiting =>
    obtain ⟨left, earlier, tally⟩ := sleeping_books ledger waiting
    exact poll_ledger left (tally.unaffected rfl rfl)
  | @submitted _ result now pending resolved =>
    obtain ⟨earlier, tally⟩ := submitting_books ledger pending
    refine submitReturned_ledger calm rfl ?_ tally
    simp only [Event.submittedId?, resolved]
    cases result <;> rfl
  | checked pending resolved =>
    obtain ⟨before, earlier, rfl, left, tally⟩ := polling_books ledger pending
    exact checkReturned_ledger calm left rfl rfl (check_polled resolved) tally
  | fetched pending resolved =>
    obtain ⟨group, earlier, checks, settled, fits, tally⟩ := settling_books ledger (Or.inl pending)
    exact outcomeReturned_ledger calm settled fits (tally.unaffected rfl rfl)
  | collected pending resolved =>
    obtain ⟨group, earlier, checks, settled, fits, tally⟩ := settling_books ledger (Or.inr pending)
    exact outputsReturned_ledger calm settled fits (tally.unaffected rfl rfl)
  | cancelled running fresh => exact absurd rfl quiet

/-- In every run without a cancellation the books are right. -/
theorem run_ledger (quiet : ∀ event ∈ events, event.isCalm)
    (ran : (workflow env).run events = some state) : Ledger env events state := by
  have general : (∀ event ∈ events, event.isCalm) → Ledger env events state := by
    refine Machine.run_induction (P := fun events state => (∀ event ∈ events, event.isCalm) →
      Ledger env events state) ?_ ?_ ran
    · intro _
      exact start_ledger
    · intro events state event next reached held stepped quiet
      have last : event.isCalm := quiet event (by simp)
      have earlier : ∀ event ∈ events, event.isCalm := fun event member =>
        quiet event (by simp [member])
      exact ledger_step (calm_run earlier reached) last (held earlier) stepped
  exact general quiet

/-! ### The work left -/

/-- What later submissions may still cost. -/
def laterWork (env : Env) (submissions : Nat) : Nat :=
  (maxSubmissions - submissions) * (2 * env.budget + 1)

/-- A bound on the activities and sleeps still to come. -/
def remainingWork (env : Env) (state : WorkflowState) : Nat :=
  match state.await with
  | .submitConversion => laterWork env state.submissions + 2 * env.budget + 3
  | .waitCondition _ polls _ => laterWork env state.submissions + 2 * (env.budget - polls) + 2
  | .checkTask _ polls _ => laterWork env state.submissions + 2 * (env.budget - polls) + 3
  | .fetchOutcome _ => 2
  | .collectOutputs _ => 1
  | .closed _ => 0

section Work

variable {taskId : Text} {polls : Nat} {since now : Instant}

@[simp] theorem raise_work (error : Raised) : remainingWork env (raise state error) = 0 := rfl

theorem afterWait_work (report : TaskCompleted) :
    remainingWork env (afterWait env state taskId report) ≤ 2 := by
  unfold afterWait
  split
  · exact Nat.zero_le _
  · exact Nat.le_refl _

theorem poll_work (left : polls < env.budget) :
    remainingWork env (poll env state taskId polls since) <
      laterWork env state.submissions + 2 * (env.budget - polls) + 2 := by
  simp only [remainingWork, poll_await, poll_submissions]
  omega

theorem waitCondition_work (left : polls < env.budget) :
    remainingWork env (waitCondition env state taskId polls since) ≤
      laterWork env state.submissions + 2 * (env.budget - polls) + 2 := by
  have turn := waitCondition_turn env state taskId polls since
  generalize waitCondition env state taskId polls since = next at turn ⊢
  cases turn with
  | expired spent => exact Nat.le_of_lt (poll_work left)
  | reported positive held =>
    refine Nat.le_trans (afterWait_work _) ?_
    omega
  | slept positive absent => exact Nat.le_refl _

theorem submit_work (room : state.submissions < maxSubmissions) :
    remainingWork env (submit env state) = laterWork env state.submissions + 2 := by
  have split : maxSubmissions - state.submissions = maxSubmissions - (state.submissions + 1) + 1 := by
    omega
  simp only [remainingWork, submit_await, submit_submissions, laterWork, split, Nat.add_one_mul]
  omega

theorem checkReturned_work (result : Except ActivityError (Option TaskCompleted)) :
    remainingWork env (checkReturned env now state taskId (polls + 1) since result) <
      laterWork env state.submissions + 2 * (env.budget - (polls + 1)) + 3 := by
  unfold checkReturned
  cases check result with
  | error error =>
    simp only [waitRaised]
    split
    · exact Nat.zero_lt_succ _
    · rename_i retrying
      simp only [Bool.or_eq_true, not_or, decide_eq_true_eq] at retrying
      rw [submit_work (by omega)]
      omega
  | ok polled =>
    cases polled with
    | some report =>
      refine Nat.lt_of_le_of_lt (afterWait_work report) ?_
      omega
    | none =>
      simp only [spent_iff]
      split
      · exact Nat.zero_lt_succ _
      · refine Nat.lt_of_le_of_lt (waitCondition_work ?_) ?_ <;> omega

theorem submitReturned_work (result : Except ActivityError Text) :
    remainingWork env (submitReturned env now state result) <
      laterWork env state.submissions + 2 * env.budget + 3 := by
  unfold submitReturned
  cases result with
  | error error => exact Nat.zero_lt_succ _
  | ok taskId =>
    refine Nat.lt_of_le_of_lt (waitCondition_work (budget_positive env)) ?_
    omega

theorem outcomeReturned_work (result : Except ActivityError TaskOutcome) :
    remainingWork env (outcomeReturned env state taskId result) < 2 := by
  unfold outcomeReturned
  cases result with
  | error error => exact Nat.zero_lt_two
  | ok outcome =>
    dsimp only
    split
    · exact Nat.zero_lt_two
    · exact Nat.one_lt_two

theorem outputsReturned_work (result : Except ActivityError CollectedOutputs) :
    remainingWork env (outputsReturned state taskId result) = 0 := by
  unfold outputsReturned
  cases result with
  | error error => rfl
  | ok collected =>
    dsimp only
    split <;> rfl

end Work

/-- A signal that does not end a sleep costs nothing; whatever else happens
leaves less to do. -/
theorem step_work (quiet : event.isCalm) (ledger : Ledger env events state)
    (stepped : step env state event = some next) :
    remainingWork env next < remainingWork env state ∨
      (event.signal?.isSome = true ∧ remainingWork env next = remainingWork env state ∧
        next.await = state.await) := by
  cases step_turn stepped with
  | @signal now report running =>
    rcases wake_cases env (taskCompleted state report) with
      ⟨same, _⟩ | ⟨taskId, polls, since, report', waiting, held, woken⟩
    · rw [same]
      exact Or.inr ⟨rfl, rfl, rfl⟩
    · left
      have asleep : state.await = .waitCondition taskId polls since := waiting
      obtain ⟨left, _⟩ := sleeping_books ledger asleep
      rw [woken, remainingWork.eq_def env state, asleep]
      refine Nat.lt_of_le_of_lt (afterWait_work report') ?_
      dsimp only
      omega
  | timer waiting =>
    left
    obtain ⟨left, _⟩ := sleeping_books ledger waiting
    rw [remainingWork.eq_def env state, waiting]
    exact poll_work left
  | submitted pending resolved =>
    left
    rw [remainingWork.eq_def env state, pending]
    exact submitReturned_work _
  | checked pending resolved =>
    left
    obtain ⟨before, earlier, rfl, left, tally⟩ := polling_books ledger pending
    rw [remainingWork.eq_def env state, pending]
    exact checkReturned_work _
  | fetched pending resolved =>
    left
    rw [remainingWork.eq_def env state, pending]
    exact outcomeReturned_work _
  | collected pending resolved =>
    left
    rw [remainingWork.eq_def env state, pending, outputsReturned_work]
    exact Nat.zero_lt_one
  | cancelled running fresh => exact absurd rfl quiet

/-! ### Every run is bounded and counted -/

/-- The events of the sequence can reach the workflow as long as it is open. -/
def Follows (env : Env) (trace : Nat → Event) : Prop :=
  ∀ n state, (workflow env).run (Machine.firstEvents trace n) = some state →
    (¬ ∃ outcome, state.await = .closed outcome) → (step env state (trace n)).isSome

/-- Each scheduled activity eventually resolves, and each timer eventually fires
or is no longer waited for. -/
def Fair (env : Env) (trace : Nat → Event) : Prop :=
  ∀ n state, (workflow env).run (Machine.firstEvents trace n) = some state →
    (¬ ∃ outcome, state.await = .closed outcome) →
    ∃ m ≥ n, ∀ later, (workflow env).run (Machine.firstEvents trace m) = some later →
      later.await = state.await → (trace m).signal? = none

theorem eventually_closed (trace : Nat → Event) (quiet : ∀ n, (trace n).isCalm)
    (follows : Follows env trace) (fair : Fair env trace) :
    ∃ n state, (workflow env).run (Machine.firstEvents trace n) = some state ∧
      ∃ outcome, state.await = .closed outcome := by
  have booked : ∀ n state, (workflow env).run (Machine.firstEvents trace n) = some state →
      Ledger env (Machine.firstEvents trace n) state := by
    intro n state reached
    have calm : ∀ event ∈ Machine.firstEvents trace n, event.isCalm := by
      intro event member
      obtain ⟨index, _, rfl⟩ := List.mem_map.mp member
      exact quiet index
    exact run_ledger calm reached
  refine Machine.eventually_finished (remainingWork env) WorkflowState.await
    (fun event => event.signal?.isSome) trace ?_ follows ?_
  · intro n state next reached stepped
    exact step_work (quiet n) (booked n state reached) stepped
  · intro n state reached running
    obtain ⟨m, later, served⟩ := fair n state reached running
    refine ⟨m, later, fun arrived reached' same => ?_⟩
    rw [served arrived reached' same]
    rfl

theorem not_exhausted_yet (left : polls < budget) :
    List.replicate budget PollVerdict.inconclusive ≠ List.replicate polls .inconclusive := by
  intro same
  have lengths := congrArg List.length same
  simp only [List.length_replicate] at lengths
  omega

/-- A submission's polls exhaust the budget exactly when the run has ended with
`PollBudgetExhausted`. -/
theorem exhausted_exactly (ledger : Ledger env events state) :
    (∃ outcome, state.await = .closed outcome ∧ outcome.isExhaustion = true) ↔
      List.replicate env.budget .inconclusive ∈ pollGroups events := by
  have running : ∀ {current earlier checks}, Tally env events state current earlier checks →
      (∀ outcome, state.await ≠ .closed outcome) →
      List.replicate env.budget .inconclusive ∉ current →
      ((∃ outcome, state.await = .closed outcome ∧ outcome.isExhaustion = true) ↔
        List.replicate env.budget .inconclusive ∈ pollGroups events) := by
    intro current earlier checks tally unclosed unexhausted
    rw [tally.groups, exhausted_iff tally.lostBefore]
    constructor
    · rintro ⟨outcome, ended, _⟩
      exact absurd ended (unclosed outcome)
    · intro member
      exact absurd member unexhausted
  cases ledger with
  | submitting pending tally => exact running tally (by simp [pending]) (by simp)
  | sleeping pending left tally =>
    exact running tally (by simp [pending]) (by simpa using not_exhausted_yet left)
  | polling pending left tally =>
    exact running tally (by simp [pending]) (by simpa using not_exhausted_yet left)
  | settling pending settled fits tally =>
    refine running tally ?_ (by simpa using (settledGroup_unexhausted settled).symm)
    rcases pending with pending | pending <;> simp [pending]
  | ended pending closing =>
    rw [← closing.exhausted]
    constructor
    · rintro ⟨outcome, ended, exhaustion⟩
      cases pending.symm.trans ended
      exact exhaustion
    · intro exhaustion
      exact ⟨_, pending, exhaustion⟩

theorem ledger_bounds (ledger : Ledger env events state) :
    submitsScheduled state.commands ≤ maxSubmissions ∧
      ∀ checks ∈ checksPerSubmission state.commands, checks ≤ env.budget := by
  cases ledger with
  | submitting pending tally => exact ⟨tally.submitted ▸ tally.bounded, tally.within (Nat.zero_le _)⟩
  | sleeping pending left tally =>
    exact ⟨tally.submitted ▸ tally.bounded, tally.within (Nat.le_of_lt left)⟩
  | polling pending left tally => exact ⟨tally.submitted ▸ tally.bounded, tally.within left⟩
  | settling pending settled fits tally =>
    exact ⟨tally.submitted ▸ tally.bounded, tally.within fits⟩
  | ended pending closing => exact ⟨closing.submitted, closing.within⟩

/-- Every run without a cancellation is bounded and its counters are exact: it
ends if what it waits for eventually happens; it submits at most four times and
polls at most `max(1, max_safety_polls)` times for each submission; a result
carries the exact counts and the last task id; and the poll budget is reported
as exhausted exactly when all of one submission's polls were inconclusive. -/
theorem runs_bounded_and_counted (env : Env) :
    (∀ trace : Nat → Event, (∀ n, (trace n).isCalm) → Follows env trace → Fair env trace →
      ∃ n state, (workflow env).run (Machine.firstEvents trace n) = some state ∧
        ∃ outcome, state.await = .closed outcome) ∧
    ∀ events state, (∀ event ∈ events, event.isCalm) →
      (workflow env).run events = some state →
      submitsScheduled state.commands ≤ 4 ∧
      (∀ checks ∈ checksPerSubmission state.commands,
        (checks : Int) ≤ max 1 env.inp.maxSafetyPolls) ∧
      (∀ result, state.await = .closed (.returned result) →
        result.submissions = submitsScheduled state.commands ∧
        result.submissions = lostPolls events + 1 ∧
        result.safetyPolls = checksScheduled state.commands ∧
        (submittedIds events).getLast? = some result.taskId) ∧
      ((∃ outcome, state.await = .closed outcome ∧ outcome.isExhaustion = true) ↔
        ∃ group ∈ pollGroups events, (group.length : Int) = max 1 env.inp.maxSafetyPolls ∧
          ∀ verdict ∈ group, verdict = .inconclusive) := by
  refine ⟨eventually_closed, fun events state quiet ran => ?_⟩
  have ledger := run_ledger quiet ran
  obtain ⟨submits, checks⟩ := ledger_bounds ledger
  have whole : max 1 env.inp.maxSafetyPolls = (env.budget : Int) := by
    simp only [Env.budget]
    omega
  refine ⟨submits, ?_, ?_, ?_⟩
  · intro count member
    rw [whole]
    exact_mod_cast checks count member
  · intro result returned
    have last := awaits_last ran (congrArg Await.task? returned)
    cases ledger with
    | ended pending closing =>
      cases pending.symm.trans returned
      obtain ⟨submitted, lost, polled⟩ := closing.counted result rfl
      exact ⟨submitted, lost, polled, last⟩
    | submitting pending | sleeping pending | polling pending => simp [returned] at pending
    | settling pending => simp [returned] at pending
  · rw [exhausted_exactly ledger, whole]
    constructor
    · intro member
      exact ⟨_, member, by simp, fun verdict => List.eq_of_mem_replicate⟩
    · rintro ⟨group, member, length, inconclusive⟩
      have shape := List.eq_replicate_of_mem inconclusive
      have size : group.length = env.budget := by exact_mod_cast length
      rw [size] at shape
      exact shape ▸ member

/-- A run that has ended can be followed by anything. -/
theorem follows_closed_run {trace : Nat → Event}
    (ran : (workflow env).run (Machine.firstEvents trace n) = some final)
    (ended : final.await = .closed outcome) : Follows env trace := by
  intro m state reached running
  rcases Nat.lt_trichotomy m n with before | rfl | after
  · obtain ⟨more, rfl⟩ := Nat.exists_eq_add_of_lt before
    rw [Nat.add_right_comm, Machine.firstEvents_add, Machine.run_append] at ran
    obtain ⟨middle, first, _⟩ := ran
    rw [Machine.firstEvents_succ, Machine.run_snoc] at first
    obtain ⟨same, reached', stepped⟩ := first
    cases reached.symm.trans reached'
    exact Option.isSome_of_eq_some stepped
  · cases ran.symm.trans reached
    exact absurd ⟨_, ended⟩ running
  · obtain ⟨more, rfl⟩ := Nat.exists_eq_add_of_lt after
    rw [Nat.add_assoc, Machine.firstEvents_add, Machine.run_append] at reached
    obtain ⟨middle, first, beyond⟩ := reached
    cases ran.symm.trans first
    rw [Nat.add_comm, Machine.firstEvents_add, Machine.runFrom_append] at beyond
    obtain ⟨past, stepped, _⟩ := beyond
    obtain ⟨next, taken, _⟩ := Machine.runFrom_cons.mp stepped
    rw [show (workflow env).step final _ = none from step_closed ended] at taken
    cases taken

/-- One poll allowed, and it finds the task in progress. -/
def exhaustingTrace : Nat → Event
  | 0 => accepted "t".toList
  | 1 => timedOut
  | _ => polledAs "started".toList

theorem runs_bounded_and_counted_exhausted :
    (∃ n state, (workflow (plainEnv 300 1)).run (Machine.firstEvents exhaustingTrace n) = some state ∧
      ∃ outcome, state.await = .closed outcome) ∧
    ∃ state, (workflow (plainEnv 300 1)).run (Machine.firstEvents exhaustingTrace 3) = some state ∧
      submitsScheduled state.commands ≤ 4 ∧
      ∃ outcome, state.await = .closed outcome ∧ outcome.isExhaustion = true := by
  have quiet : ∀ n, (exhaustingTrace n).isCalm := by
    intro n
    match n with
    | 0 | 1 | n + 2 => nofun
  have unsignalled : ∀ n, (exhaustingTrace n).signal? = none := by
    intro n
    match n with
    | 0 | 1 | n + 2 => rfl
  have finishes : ((workflow (plainEnv 300 1)).run (Machine.firstEvents exhaustingTrace 3)).any
      (·.await.outcome?.isSome) = true := by decide +kernel
  obtain ⟨final, ran, closed⟩ := (Option.any_eq_true _ _).mp finishes
  obtain ⟨outcome, ended⟩ := Option.isSome_iff_exists.mp closed
  have ended := outcome_eq_some ended
  obtain ⟨terminates, counted⟩ := runs_bounded_and_counted (plainEnv 300 1)
  have fair : Fair (plainEnv 300 1) exhaustingTrace :=
    fun n _ _ _ => ⟨n, Nat.le_refl n, fun _ _ _ => unsignalled n⟩
  have calm : ∀ event ∈ Machine.firstEvents exhaustingTrace 3, event.isCalm := by
    intro event member
    obtain ⟨index, _, rfl⟩ := List.mem_map.mp member
    exact quiet index
  obtain ⟨submits, _, _, exhausted⟩ := counted _ final calm ran
  refine ⟨terminates _ quiet (follows_closed_run ran ended) fair, final, ran, submits,
    exhausted.mpr ⟨[.inconclusive], ?_, ?_⟩⟩
  · decide +kernel
  · decide +kernel

end DoclingServeRay.Orchestration
