import DoclingServeRay.Orchestration.Foreign

/-! The verdict on a document. Once its wait has returned, a run's outcome is a
function of docling's report, the outcome counts and the output listing: the
way the report arrived does not matter. -/
namespace DoclingServeRay.Orchestration
open Strings EventMachine

variable {env : Env} {state next : WorkflowState} {event : Event} {events : List Event}

/-! ### Listings -/

/-- The suffix that `formatOf` reads as the required format. -/
def jsonSuffix : Text := ".json".toList

/-- A suffix that is its format after a dot stands apart: no other one ends it or
ends in it. -/
private theorem suffixToFormat_apart : ∀ plain ∈ suffixToFormat, plain.1 = '.' :: plain.2 →
    plain.2 ≠ "unknown".toList ∧ ∀ row ∈ suffixToFormat, row = plain ∨
      (row.2 ≠ plain.2 ∧ ¬ row.1 <:+ plain.1 ∧ ¬ plain.1 <:+ row.1) := by
  decide

/-- A key has such a format exactly when it ends in its suffix: the fallback
gives it to no other key. -/
theorem formatOf_plain_iff {format : Text} (listed : ('.' :: format, format) ∈ suffixToFormat)
    (key : Text) : formatOf key = format ↔ '.' :: format <:+ key := by
  obtain ⟨named, apart⟩ := suffixToFormat_apart _ listed rfl
  unfold formatOf
  cases found : firstSuffix suffixToFormat key with
  | none =>
    have absent : ¬ '.' :: format <:+ key := (firstSuffix_eq_none_iff _ _).mp found _ listed
    refine iff_of_false ?_ absent
    dsimp only
    split
    · rename_i dotted
      intro last
      have held : '.' ∈ key := (rsplitTail_suffix '/' key).subset dotted
      have ends := separator_rsplitTail_suffix held
      rw [last] at ends
      exact absent ends
    · exact named.symm
  | some row =>
    obtain ⟨member, ends⟩ := firstSuffix_mem found
    rcases apart row member with rfl | ⟨other, _, _⟩
    · exact iff_of_true rfl ends
    · refine iff_of_false other fun plain => ?_
      rcases List.suffix_or_suffix_of_suffix ends plain with inner | outer <;> contradiction

/-- A key has the required format exactly when it ends in `.json`. -/
theorem formatOf_required_iff (key : Text) : formatOf key = requiredFormat ↔ jsonSuffix <:+ key :=
  formatOf_plain_iff (by decide) key

/-- The keys in the order `collect_outputs` returns them. -/
def sortedKeys (listing : List Text) : List Text := listing.insertionSort (· ≤ ·)

/-- Two listings of the same keys sort alike. -/
theorem sortedKeys_perm (same : first.Perm second) : sortedKeys first = sortedKeys second := by
  have perm : (sortedKeys first).Perm (sortedKeys second) :=
    (List.perm_insertionSort _ first).trans (same.trans (List.perm_insertionSort _ second).symm)
  exact perm.eq_of_pairwise' (List.pairwise_insertionSort _ first)
    (List.pairwise_insertionSort _ second)

theorem required_listed_iff (listing : List Text) :
    requiredFormat ∈ (groupByFormat (sortedKeys listing)).keys ↔ ∃ key ∈ listing, jsonSuffix <:+ key := by
  simp only [groupByFormat, OrderedDict.mem_keys_groupBy, formatOf_required_iff, sortedKeys,
    List.mem_insertionSort]

/-! ### The verdict -/

/-- What a task that ended with this report comes to, given the counts of its
result and the keys under the document's output prefix. -/
def verdict (settings : Settings) (inp : ConvertInput) (report : TaskCompleted)
    (counts : TaskOutcome) (listing : List Text) (submissions safetyPolls : Nat) : Outcome :=
  let outputs := groupByFormat (sortedKeys listing)
  if report.taskStatus = .failure then
    .failed (conversionFailed (.taskFailed report.taskId report.errorMessage))
  else if counts.produced = some 0 then
    .failed (conversionFailed (.convertedNothing report.taskId (counts.numSucceeded.getD 0)
      counts.numFailed inp.bucket inp.key))
  else if ∀ key ∈ listing, ¬ jsonSuffix <:+ key then
    .failed (.application {
      type := some .missingOutputs
      message := .producedNo report.taskId requiredFormat (sortedKeys outputs.keys)
      nonRetryable := true })
  else
    .returned {
      taskId := report.taskId
      outputs := outputs
      outputBucket := settings.outputBucket
      submissions := submissions
      safetyPolls := safetyPolls }

def Command.isFetch : Command → Bool
  | .scheduleActivity (.fetchOutcome _) _ _ _ => true
  | _ => false

def Command.isCollect : Command → Bool
  | .scheduleActivity (.collectOutputs _) _ _ _ => true
  | _ => false

/-- No `fetch_outcome` was scheduled. -/
def FetchesNothing (commands : List Command) : Prop := ∀ command ∈ commands, command.isFetch = false

/-- No `collect_outputs` was scheduled. -/
def CollectsNothing (commands : List Command) : Prop :=
  ∀ command ∈ commands, command.isCollect = false

/-- What happened during a run, as far as the verdict reads it: every report on
the task is the same one, and `fetch_outcome` and `collect_outputs` return these
counts and this listing when they are scheduled. -/
structure Attests (env : Env) (report : TaskCompleted) (counts : TaskOutcome)
    (listing : List Text) (event : Event) : Prop where
  calm : event.isCalm
  signalled : ∀ other, event.signal? = some other → other.taskId = report.taskId → other = report
  answered : ∀ other, event.answer? report.taskId = some other → other = report
  fetched : ∀ attempts, event.happening = .outcomeResolved attempts →
    resolve defaultRetry (fetchOutcome report.taskId) attempts = some (.ok counts)
  collected : ∀ attempts, event.happening = .outputsResolved attempts →
    ∃ pages, (listKeys pages).Perm listing ∧
      resolve defaultRetry (fun pages => .ok (collectOutputs env.settings pages)) attempts =
        some (.ok (collectOutputs env.settings pages))

/-- The rest of the run once its wait has returned. -/
inductive Settling (env : Env) (report : TaskCompleted) (counts : TaskOutcome)
    (listing : List Text) (state : WorkflowState) : Prop where
  | fetching (pending : state.await = .fetchOutcome report.taskId)
      (succeeded : report.taskStatus ≠ .failure) (uncollected : CollectsNothing state.commands)
  | collecting (pending : state.await = .collectOutputs report.taskId)
      (succeeded : report.taskStatus ≠ .failure) (produced : counts.produced ≠ some 0)
  | closed (ended : state.await = .closed (verdict env.settings env.inp report counts listing
        state.submissions state.safetyPolls))
      (unfetched : report.taskStatus = .failure → FetchesNothing state.commands)
      (uncollected : report.taskStatus = .failure ∨ counts.produced = some 0 →
        CollectsNothing state.commands)

/-- Commands of a wait: submits, polls and sleeps. -/
theorem onward_uncommitted (onward : Onward env state taskId polled next)
    (waiting : next.await.isWaiting = true)
    (before : FetchesNothing state.commands ∧ CollectsNothing state.commands) :
    FetchesNothing next.commands ∧ CollectsNothing next.commands := by
  have appended : ∀ command : Command, command.isFetch = false → command.isCollect = false →
      FetchesNothing (state.commands ++ [command]) ∧ CollectsNothing (state.commands ++ [command]) := by
    intro command unfetching uncollecting
    obtain ⟨unfetched, uncollected⟩ := before
    refine ⟨?_, ?_⟩ <;>
    · intro issued member
      rcases List.mem_append.mp member with earlier | last
      · first | exact unfetched issued earlier | exact uncollected issued earlier
      · cases List.mem_singleton.mp last
        first | exact unfetching | exact uncollecting
  cases onward with
  | raised error => cases waiting
  | resubmitted => exact appended _ rfl rfl
  | polling draws polls since => exact appended _ rfl rfl
  | slept draws polls since seconds absent => exact appended _ rfl rfl
  | left draws report source =>
    rw [afterWait_unwaiting] at waiting
    cases waiting
  | collecting pending command => cases waiting
  | returned pending result named => cases waiting

/-- While the wait goes on, nothing is fetched or collected. -/
theorem waiting_uncommitted (ran : (workflow env).run events = some state)
    (waiting : state.await.isWaiting = true) :
    FetchesNothing state.commands ∧ CollectsNothing state.commands := by
  refine Machine.run_induction (P := fun _ (state : WorkflowState) =>
    state.await.isWaiting = true → FetchesNothing state.commands ∧ CollectsNothing state.commands)
    ?_ ?_ ran waiting
  · intro _
    constructor <;> intro command member <;> cases List.mem_singleton.mp member <;> rfl
  · intro events state event next _ held stepped waiting
    have before := step_waiting stepped waiting
    have arrived := held before
    rw [← @received_commands state event] at arrived
    cases step_moved stepped with
    | stayed given asleep => exact arrived
    | moved given named onward => exact onward_uncommitted onward waiting arrived
    | submitted given onward => exact onward_uncommitted onward waiting arrived
    | refused given error => exact arrived

/-- A failure ends the run with the verdict when the verdict is that failure. -/
theorem raise_settling (calm : state.cancelRequested = false)
    (fails : ∀ submissions safetyPolls, verdict env.settings env.inp report counts listing
      submissions safetyPolls = .failed error)
    (unfetched : report.taskStatus = .failure → FetchesNothing state.commands)
    (uncollected : report.taskStatus = .failure ∨ counts.produced = some 0 →
      CollectsNothing state.commands) :
    Settling env report counts listing (raise state error) := by
  refine .closed ?_ unfetched uncollected
  rw [raise_await state error calm, fails]

theorem afterWait_settling (calm : state.cancelRequested = false)
    (unfetched : FetchesNothing state.commands) (uncollected : CollectsNothing state.commands) :
    Settling env report counts listing (afterWait env state report.taskId report) := by
  unfold afterWait
  split
  · rename_i failed
    refine raise_settling calm ?_ (fun _ => unfetched) (fun _ => uncollected)
    intro submissions safetyPolls
    rw [verdict, if_pos failed]
  · rename_i succeeded
    refine .fetching rfl succeeded ?_
    intro command member
    rcases List.mem_append.mp member with earlier | last
    · exact uncollected command earlier
    · cases List.mem_singleton.mp last
      rfl

theorem outcomeReturned_settling (calm : state.cancelRequested = false)
    (succeeded : report.taskStatus ≠ .failure) (uncollected : CollectsNothing state.commands) :
    Settling env report counts listing (outcomeReturned env state report.taskId (.ok counts)) := by
  simp only [outcomeReturned]
  split
  · rename_i nothing
    refine raise_settling calm ?_ (absurd · succeeded) (fun _ => uncollected)
    intro submissions safetyPolls
    rw [verdict, if_neg succeeded, if_pos nothing]
  · rename_i something
    exact .collecting rfl succeeded something

theorem outputsReturned_settling (calm : state.cancelRequested = false)
    (succeeded : report.taskStatus ≠ .failure) (produced : counts.produced ≠ some 0)
    (same : (listKeys pages).Perm listing) :
    Settling env report counts listing
      (outputsReturned state report.taskId (.ok (collectOutputs env.settings pages))) := by
  have impossible : ¬ (report.taskStatus = .failure ∨ counts.produced = some 0) := by
    simp [succeeded, produced]
  have sorted : (listKeys pages).insertionSort (· ≤ ·) = sortedKeys listing := sortedKeys_perm same
  simp only [outputsReturned, collectOutputs, sorted]
  split
  · rename_i missing
    refine raise_settling calm ?_ (absurd · succeeded) (absurd · impossible)
    intro submissions safetyPolls
    rw [required_listed_iff] at missing
    simp only [not_exists, not_and] at missing
    rw [verdict, if_neg succeeded, if_neg produced, if_pos missing]
    rfl
  · rename_i present
    refine .closed ?_ (absurd · succeeded) (absurd · impossible)
    rw [Decidable.not_not, required_listed_iff] at present
    obtain ⟨key, member, json⟩ := present
    rw [verdict, if_neg succeeded, if_neg produced, if_neg fun none => none key member json]

theorem settling_step (calm : state.cancelRequested = false)
    (attests : Attests env report counts listing event)
    (settling : Settling env report counts listing state)
    (stepped : step env state event = some next) : Settling env report counts listing next := by
  have undisturbed : ∀ other, (∀ taskId polls since, state.await ≠ .waitCondition taskId polls since) →
      wake env (taskCompleted state other) = taskCompleted state other := by
    intro other awake
    rcases wake_cases env (taskCompleted state other) with ⟨same, _⟩ | ⟨_, _, _, _, waiting, _⟩
    · exact same
    · exact absurd waiting (awake _ _ _)
  cases settling with
  | fetching pending succeeded uncollected =>
    cases step_turn stepped with
    | signal running =>
      rw [undisturbed _ (by simp [pending])]
      exact .fetching pending succeeded uncollected
    | @fetched taskId attempts result now awaiting resolved =>
      cases awaiting.symm.trans pending
      cases resolved.symm.trans (attests.fetched attempts rfl)
      exact outcomeReturned_settling calm succeeded uncollected
    | timer waiting => cases waiting.symm.trans pending
    | submitted awaiting resolved => cases awaiting.symm.trans pending
    | checked awaiting resolved => cases awaiting.symm.trans pending
    | collected awaiting resolved => cases awaiting.symm.trans pending
    | cancelled running fresh => exact absurd rfl attests.calm
  | collecting pending succeeded produced =>
    cases step_turn stepped with
    | signal running =>
      rw [undisturbed _ (by simp [pending])]
      exact .collecting pending succeeded produced
    | @collected taskId attempts result now awaiting resolved =>
      cases awaiting.symm.trans pending
      obtain ⟨pages, same, returned⟩ := attests.collected attempts rfl
      cases resolved.symm.trans returned
      exact outputsReturned_settling calm succeeded produced same
    | timer waiting => cases waiting.symm.trans pending
    | submitted awaiting resolved => cases awaiting.symm.trans pending
    | checked awaiting resolved => cases awaiting.symm.trans pending
    | fetched awaiting resolved => cases awaiting.symm.trans pending
    | cancelled running fresh => exact absurd rfl attests.calm
  | closed ended unfetched uncollected =>
    rw [step_closed ended] at stepped
    cases stepped

/-- The report that the run goes on with is the attested one. -/
theorem attested_report (attested : ∀ event ∈ events, Attests env report counts listing event)
    (last : (submittedIds events).getLast? = some report.taskId)
    (ran : (workflow env).run events = some state) (ended : state.terminal = some other) :
    other = report := by
  obtain ⟨named, source⟩ := terminal_credited ran ended
  have same : other.taskId = report.taskId := Option.some.inj (named.symm.trans last)
  rcases source with first | ⟨before, event, after, polls, since, occurs, pending, answered⟩
  · have delivered : other ∈ signals events := List.mem_of_find?_eq_some first
    obtain ⟨event, member, signalled⟩ := List.mem_filterMap.mp delivered
    exact (attested event member).signalled other signalled same
  · obtain ⟨first, rest, rfl, _, _⟩ := occurs
    exact (attested event (by simp)).answered other (same ▸ answered)

/-- The step that ends the wait goes on with the report. -/
theorem onward_settling (onward : Onward env state report.taskId polled next)
    (arrived : state.terminal = none ∧ state.cancelRequested = false)
    (ended : next.terminal = some report)
    (uncommitted : FetchesNothing state.commands ∧ CollectsNothing state.commands) :
    Settling env report counts listing next := by
  cases onward with
  | left draws other source =>
    rw [afterWait_terminal] at ended
    cases ended
    exact afterWait_settling arrived.2 uncommitted.1 uncommitted.2
  | _ => simp [arrived.1] at ended

/-- After its wait, an attested run is on the way to the verdict, or has ended
with it. -/
theorem attested_settling (attested : ∀ event ∈ events, Attests env report counts listing event)
    (last : (submittedIds events).getLast? = some report.taskId)
    (ran : (workflow env).run events = some state) (waited : state.terminal.isSome = true) :
    Settling env report counts listing state := by
  have general : (∀ event ∈ events, Attests env report counts listing event) →
      (submittedIds events).getLast? = some report.taskId → state.terminal.isSome = true →
      Settling env report counts listing state := by
    refine Machine.run_induction (P := fun events state =>
      (∀ event ∈ events, Attests env report counts listing event) →
      (submittedIds events).getLast? = some report.taskId → state.terminal.isSome = true →
      Settling env report counts listing state) ?_ ?_ ran
    · intro _ _ waited
      cases waited
    · intro events state event next reached held stepped attested last waited
      have attests := attested event (by simp)
      have earlier : ∀ event ∈ events, Attests env report counts listing event :=
        fun event member => attested event (by simp [member])
      have calm := calm_run (fun event member => (earlier event member).calm) reached
      cases waiting : state.await.isWaiting with
      | false =>
        obtain ⟨-, same, given⟩ := step_unwaiting stepped waiting
        have settling := held earlier (by simpa [given] using last) (same ▸ waited)
        exact settling_step calm attests settling stepped
      | true =>
        obtain ⟨other, ended⟩ := Option.isSome_iff_exists.mp waited
        have onto : (workflow env).run (events ++ [event]) = some next :=
          Machine.run_snoc.mpr ⟨state, reached, stepped⟩
        obtain rfl := attested_report attested last onto ended
        have arrived : (received state event).terminal = none ∧
            (received state event).cancelRequested = false := by
          refine ⟨received_terminal.trans (waiting_unended reached waiting), ?_⟩
          obtain ⟨now, happening⟩ := event
          cases happening with
          | cancelRequested => exact absurd rfl attests.calm
          | _ => exact calm
        have uncommitted := waiting_uncommitted reached waiting
        rw [← @received_commands state event] at uncommitted
        cases step_moved stepped with
        | stayed given asleep => simp [arrived.1] at ended
        | refused given error => simp [arrived.1] at ended
        | moved given named onward =>
          have awaited := awaits_last reached named
          rw [submittedIds_snoc, given] at last
          simp only [Option.toList_none, List.append_nil] at last
          obtain rfl := Option.some.inj (awaited.symm.trans last)
          exact onward_settling onward arrived ended uncommitted
        | submitted given onward =>
          rw [submittedIds_snoc, given] at last
          simp only [Option.toList_some, List.getLast?_concat, Option.some.injEq] at last
          subst last
          exact onward_settling onward arrived ended uncommitted
  exact general attested last waited

/-! ### Whole runs -/

/-- A finished run in which the wait for the last submission returned, with what
its submissions, its reports and the answers after the wait were. -/
structure AttestedRun (settings : Settings) (inp : ConvertInput) (ids : List Text)
    (report : TaskCompleted) (counts : TaskOutcome) (listing : List Text) where
  env : Env
  settings_eq : env.settings = settings
  inp_eq : env.inp = inp
  events : List Event
  state : WorkflowState
  ran : (workflow env).run events = some state
  submitted : submittedIds events = ids
  last : ids.getLast? = some report.taskId
  attested : ∀ event ∈ events, Attests env report counts listing event
  waited : state.terminal.isSome = true
  outcome : Outcome
  ended : state.await = .closed outcome

/-- An outcome but for the number of safety polls. -/
def Outcome.sansPolls : Outcome → Outcome
  | .returned result => .returned { result with safetyPolls := 0 }
  | outcome => outcome

theorem verdict_sansPolls (settings : Settings) (inp : ConvertInput) (report : TaskCompleted)
    (counts : TaskOutcome) (listing : List Text) (submissions first second : Nat) :
    (verdict settings inp report counts listing submissions first).sansPolls =
      (verdict settings inp report counts listing submissions second).sansPolls := by
  unfold verdict
  split
  · rfl
  · split
    · rfl
    · split <;> rfl

/-- A result has exactly the listed keys, each under its format. -/
theorem verdict_outputs
    (returned : verdict settings inp report counts listing submissions safetyPolls =
      .returned result) :
    result.outputs.values.flatten.Perm listing ∧
      ∀ format keys, result.outputs.get? format = some keys →
        keys ≠ [] ∧ ∀ key ∈ keys, formatOf key = format := by
  have outputs : result.outputs = groupByFormat (sortedKeys listing) := by
    unfold verdict at returned
    split at returned
    · cases returned
    · split at returned
      · cases returned
      · split at returned
        · cases returned
        · cases returned
          rfl
  rw [outputs, groupByFormat]
  refine ⟨(OrderedDict.groupBy_perm _ _).trans (List.perm_insertionSort _ _), ?_⟩
  intro format keys found
  rw [OrderedDict.get?_groupBy] at found
  split at found
  · cases found
  · rename_i nonempty
    cases found
    refine ⟨nonempty, fun key member => ?_⟩
    exact of_decide_eq_true (List.mem_filter.mp member).2

theorem AttestedRun.outcome_eq
    (run : AttestedRun settings inp ids report counts listing) :
    run.outcome = verdict settings inp report counts listing ids.length run.state.safetyPolls ∧
      (report.taskStatus = .failure → FetchesNothing run.state.commands) ∧
      (report.taskStatus = .failure ∨ counts.produced = some 0 →
        CollectsNothing run.state.commands) := by
  have last : (submittedIds run.events).getLast? = some report.taskId := by
    rw [run.submitted]
    exact run.last
  have level := (submissions_counted run.ran).2 (Or.inr run.waited)
  rw [run.submitted] at level
  cases attested_settling run.attested last run.ran run.waited with
  | fetching pending => cases run.ended.symm.trans pending
  | collecting pending => cases run.ended.symm.trans pending
  | closed ended unfetched uncollected =>
    rw [run.settings_eq, run.inp_eq, level] at ended
    exact ⟨Await.closed.inj (run.ended.symm.trans ended), unfetched, uncollected⟩

/-- What both sample runs are told, in one way or the other. -/
def sampleReport : TaskCompleted := { taskId := "t".toList, taskStatus := .success }

theorem sample_attests (event : Event)
    (kind : event ∈ [accepted "t".toList, timedOut, signalled "t".toList .success,
      polledAs "success".toList, outcomeCounted 1 0, listed ["a.json".toList]]) :
    Attests (plainEnv 300 1) sampleReport ⟨"t".toList, some 1, none, some 0⟩ ["a.json".toList]
      event := by
  have told : ∀ other, (signalled "t".toList .success).signal? = some other →
      other = sampleReport := by
    rintro other ⟨rfl⟩
    rfl
  have answered : ∀ other, (polledAs "success".toList).answer? "t".toList = some other →
      other = sampleReport := by
    intro other found
    exact (Option.some.inj found).symm
  simp only [List.mem_cons, List.not_mem_nil, or_false] at kind
  rcases kind with rfl | rfl | rfl | rfl | rfl | rfl
  · exact ⟨nofun, nofun, nofun, nofun, nofun⟩
  · exact ⟨nofun, nofun, nofun, nofun, nofun⟩
  · exact ⟨nofun, fun other found _ => told other found, nofun, nofun, nofun⟩
  · exact ⟨nofun, nofun, answered, nofun, nofun⟩
  · refine ⟨nofun, nofun, nofun, ?_, nofun⟩
    rintro attempts ⟨rfl⟩
    rfl
  · refine ⟨nofun, nofun, nofun, nofun, ?_⟩
    rintro attempts ⟨rfl⟩
    exact ⟨[⟨some ["a.json".toList]⟩], List.Perm.refl _, rfl⟩

end DoclingServeRay.Orchestration
