import DoclingServeRay.Lib.Contracts
import DoclingServeRay.Lib.Growth
import DoclingServeRay.Orchestration.Document

/-! The Temporal namespace that conversions are started in (`dispatch.py`): the
runs on record under their workflow ids, what its clients ask of it, and what
they may count on whoever else is at work there. -/
namespace DoclingServeRay.Orchestration
open Strings EventMachine Calls

/-! ### Runs -/

/-- What a worker brings to a run. -/
structure Worker where
  settings : Settings
  uniform : Nat → ℚ
  jittered : ∀ draw, 1 - safetyPollJitter ≤ uniform draw ∧ uniform draw ≤ 1 + safetyPollJitter

def Worker.env (worker : Worker) (inp : ConvertInput) : Env where
  settings := worker.settings
  inp := inp
  uniform := worker.uniform
  jittered := worker.jittered

/-- A run on record. -/
structure ConversionRun where
  workflowId : Text
  env : Env
  state : WorkflowState
  terminated : Bool

/-- How a run has closed. -/
inductive Conclusion where
  | ended (outcome : Outcome)
  /-- By an operator. -/
  | terminated
  deriving DecidableEq

def ConversionRun.conclusion? (run : ConversionRun) : Option Conclusion :=
  if run.terminated then some .terminated else run.state.await.outcome?.map .ended

/-- The latest run under an id, by its place in the record. -/
def latestOf (workflowId : Text) : List ConversionRun → Option Nat
  | [] => none
  | run :: rest =>
    match latestOf workflowId rest with
    | some index => some (index + 1)
    | none => if run.workflowId = workflowId then some 0 else none

theorem latestOf_isSome {runs : List ConversionRun} {index : Nat} (found : runs[index]? = some run)
    (named : run.workflowId = workflowId) : ∃ latest, latestOf workflowId runs = some latest := by
  induction runs generalizing index with
  | nil => cases found
  | cons first rest ih =>
    rw [latestOf]
    cases later : latestOf workflowId rest with
    | some place => exact ⟨place + 1, rfl⟩
    | none =>
      cases index with
      | zero =>
        cases found
        exact ⟨0, if_pos named⟩
      | succ index =>
        obtain ⟨place, there⟩ := ih found
        cases later.symm.trans there

theorem latestOf_some {runs : List ConversionRun} {index : Nat}
    (latest : latestOf workflowId runs = some index) :
    (∃ run, runs[index]? = some run ∧ run.workflowId = workflowId) ∧
      ∀ (other : Nat) run, runs[other]? = some run → run.workflowId = workflowId →
        other ≤ index := by
  induction runs generalizing index with
  | nil => cases latest
  | cons first rest ih =>
    rw [latestOf] at latest
    cases later : latestOf workflowId rest with
    | some place =>
      rw [later] at latest
      cases latest
      obtain ⟨recorded, last⟩ := ih later
      refine ⟨recorded, ?_⟩
      intro other run found named
      cases other with
      | zero => omega
      | succ other =>
        have before := last other run found named
        omega
    | none =>
      rw [later] at latest
      obtain ⟨named, same⟩ := Option.ite_none_right_eq_some.mp latest
      cases same
      refine ⟨⟨first, rfl, named⟩, ?_⟩
      intro other run found same
      cases other with
      | zero => exact le_rfl
      | succ other =>
        obtain ⟨place, there⟩ := latestOf_isSome (show rest[other]? = some run from found) same
        cases later.symm.trans there

/-! ### The namespace and its clients -/

/-- The documents in S3 by bucket and key, and the runs of the namespace, oldest
first. Documents are only added. -/
structure Namespace where
  documents : List (Text × Text)
  runs : List ConversionRun

/-- The latest run under this id has not closed. -/
def Namespace.running (temporal : Namespace) (workflowId : Text) : Bool :=
  ((latestOf workflowId temporal.runs).bind (temporal.runs[·]?)).any (·.conclusion?.isNone)

def Namespace.begin (temporal : Namespace) (workflowId : Text) (env : Env) : Namespace :=
  { temporal with runs := temporal.runs ++ [⟨workflowId, env, start env, false⟩] }

/-- A workflow handle; one of a started workflow is for the run it started. -/
structure Handle where
  workflowId : Text
  runId : Option Nat
  deriving DecidableEq

inductive ClientCall where
  | listObjects (bucket keyPrefix : Text)
  | startWorkflow (workflowId : Text) (inp : ConvertInput) (taskQueue : Text)
  /-- The run that a handle's result is of. -/
  | follow (handle : Handle)
  /-- Its result, once it has closed. -/
  | result (index : Nat)
  /-- Not a client's: a document comes in, a run takes an event, an operator
  terminates one. -/
  | uploads (bucket key : Text)
  | proceeds (index : Nat) (event : Event)
  | terminates (index : Nat)

@[reducible] def ClientCall.Answer : ClientCall → Type
  | .listObjects _ _ => List ListPage
  | .startWorkflow _ _ _ => Handle
  | .follow _ => Nat
  | .result _ => ConvertResult
  | .uploads _ _ => Unit
  | .proceeds _ _ => Unit
  | .terminates _ => Unit

inductive ClientError where
  /-- `WorkflowAlreadyStartedError`. -/
  | alreadyStarted
  /-- `WorkflowFailureError`. -/
  | workflowFailure (cause : Conclusion)
  | other
  deriving DecidableEq

abbrev ClientOperation := Program ClientCall ClientCall.Answer ClientError

/-- What becomes of a call. -/
inductive ClientOutcome where
  | served
  | listed (pages : List ListPage)
  | accepted (worker : Worker)
  /-- The run starts, and the client does not learn of it. -/
  | unanswered (worker : Worker)
  | failed

/-- The pages list the bucket's documents below a prefix, each once. -/
def Lists (temporal : Namespace) (bucket keyPrefix : Text) (pages : List ListPage) : Prop :=
  (listKeys pages).Nodup ∧
    (∀ key ∈ listKeys pages, (bucket, key) ∈ temporal.documents ∧ keyPrefix <+: key) ∧
    ∀ document ∈ temporal.documents, document.1 = bucket → keyPrefix <+: document.2 →
      document.2 ∈ listKeys pages

instance : Decidable (Lists temporal bucket keyPrefix pages) := inferInstanceAs (Decidable (_ ∧ _ ∧ _))

/-- Only an open run takes an event, or is terminated. -/
def Namespace.move (temporal : Namespace) (index : Nat)
    (change : ConversionRun → Option ConversionRun) : Option Namespace :=
  (temporal.runs[index]?.bind fun run =>
    if run.conclusion? = none then change run else none).map fun next =>
      { temporal with runs := temporal.runs.set index next }

def serveClient (temporal : Namespace) :
    ClientOutcome → (call : ClientCall) → Option (Except ClientError call.Answer × Namespace)
  | .listed pages, .listObjects bucket keyPrefix =>
    if Lists temporal bucket keyPrefix pages then some (.ok pages, temporal) else none
  | .accepted worker, .startWorkflow workflowId inp _ =>
    some (if temporal.running workflowId then (.error .alreadyStarted, temporal)
      else (.ok ⟨workflowId, some temporal.runs.length⟩, temporal.begin workflowId (worker.env inp)))
  | .unanswered worker, .startWorkflow workflowId inp _ =>
    if temporal.running workflowId then none
    else some (.error .other, temporal.begin workflowId (worker.env inp))
  | .served, .follow handle =>
    some (match handle.runId.or (latestOf handle.workflowId temporal.runs) with
      | some index => .ok index
      | none => .error .other, temporal)
  | .served, .result index =>
    (temporal.runs[index]?.bind ConversionRun.conclusion?).map fun conclusion =>
      (match conclusion with
        | .ended (.returned result) => .ok result
        | _ => .error (.workflowFailure conclusion), temporal)
  | .served, .uploads bucket key =>
    some (.ok (), { temporal with documents := temporal.documents ++ [(bucket, key)] })
  | .served, .proceeds index event =>
    (temporal.move index fun run =>
      (step run.env run.state event).map fun next => { run with state := next }).map (.ok (), ·)
  | .served, .terminates index =>
    (temporal.move index fun run => some { run with terminated := true }).map (.ok (), ·)
  | .failed, .listObjects _ _ => some (.error .other, temporal)
  | .failed, .startWorkflow _ _ _ => some (.error .other, temporal)
  | .failed, .follow _ => some (.error .other, temporal)
  | .failed, .result _ => some (.error .other, temporal)
  | _, _ => none

/-- `start_conversion`. -/
def startConversion (inp : ConvertInput) : ClientOperation Handle :=
  Program.perform (ClientCall.startWorkflow (workflowIdForConvert inp.bucket inp.key) inp taskQueue)

/-! ### What a call changes -/

/-- An event has reached the run, or an operator. -/
inductive Goes (run : ConversionRun) : ConversionRun → Prop where
  | steps (stepped : step run.env run.state event = some state) : Goes run { run with state := state }
  | terminated : Goes run { run with terminated := true }

inductive Changed (before : Namespace) (call : ClientCall) : Namespace → Prop where
  | still : Changed before call before
  | uploaded (document : Text × Text) :
      Changed before call { before with documents := before.documents ++ [document] }
  | began (asked : call = .startWorkflow workflowId inp queue)
      (idle : before.running workflowId = false) (worker : Worker) :
      Changed before call (before.begin workflowId (worker.env inp))
  | moved (found : before.runs[index]? = some run) (open' : run.conclusion? = none)
      (goes : Goes run next) :
      Changed before call { before with runs := before.runs.set index next }

theorem move_changed {change : ConversionRun → Option ConversionRun}
    (goes : ∀ run next, change run = some next → Goes run next)
    (moved : before.move index change = some after) : Changed before call after := by
  obtain ⟨next, chosen, rfl⟩ := Option.map_eq_some_iff.mp moved
  obtain ⟨run, found, changed⟩ := Option.bind_eq_some_iff.mp chosen
  obtain ⟨open', changed⟩ := Option.ite_none_right_eq_some.mp changed
  exact .moved found open' (goes run next changed)

theorem serveClient_changed (served : serveClient before outcome call = some (answer, after)) :
    Changed before call after := by
  cases outcome with
  | served =>
    cases call with
    | listObjects bucket keyPrefix => cases served
    | startWorkflow workflowId inp queue => cases served
    | follow handle =>
      cases served
      exact .still
    | result index =>
      obtain ⟨conclusion, _, same⟩ := Option.map_eq_some_iff.mp served
      cases same
      exact .still
    | uploads bucket key =>
      cases served
      exact .uploaded (bucket, key)
    | proceeds index event =>
      obtain ⟨after, moved, same⟩ := Option.map_eq_some_iff.mp served
      cases same
      refine move_changed ?_ moved
      intro run next stepped
      obtain ⟨state, taken, rfl⟩ := Option.map_eq_some_iff.mp stepped
      exact .steps taken
    | terminates index =>
      obtain ⟨after, moved, same⟩ := Option.map_eq_some_iff.mp served
      cases same
      refine move_changed ?_ moved
      rintro run next ⟨⟩
      exact .terminated
  | listed pages =>
    cases call with
    | listObjects bucket keyPrefix =>
      obtain ⟨_, same⟩ := Option.ite_none_right_eq_some.mp served
      cases same
      exact .still
    | _ => cases served
  | accepted worker =>
    cases call with
    | startWorkflow workflowId inp queue =>
      simp only [serveClient, Option.some.injEq] at served
      split at served
      · cases served
        exact .still
      · rename_i idle
        cases served
        exact .began rfl (Bool.eq_false_iff.mpr idle) worker
    | _ => cases served
  | unanswered worker =>
    cases call with
    | startWorkflow workflowId inp queue =>
      obtain ⟨idle, same⟩ := Option.ite_none_left_eq_some.mp served
      cases same
      exact .began rfl (Bool.eq_false_iff.mpr idle) worker
    | _ => cases served
  | failed =>
    cases call with
    | uploads bucket key => cases served
    | proceeds index event => cases served
    | terminates index => cases served
    | _ =>
      cases served
      exact .still

/-! ### The record grows -/

/-- What is on record of a run stays so, and all of it once the run has closed. -/
def ConversionRun.GoesOn (run later : ConversionRun) : Prop :=
  later.workflowId = run.workflowId ∧ later.env = run.env ∧
    (later = run ∨ run.conclusion? = none)

section GoesOn

variable {run middle later last next : ConversionRun}

theorem goesOn_refl (run : ConversionRun) : run.GoesOn run := ⟨rfl, rfl, Or.inl rfl⟩

theorem goesOn_trans (first : run.GoesOn middle) (second : middle.GoesOn last) :
    run.GoesOn last := by
  obtain ⟨named, equipped, same | open'⟩ := first
  · rw [same] at second
    exact second
  · exact ⟨second.1.trans named, second.2.1.trans equipped, Or.inr open'⟩

theorem goesOn_concluded (goes : run.GoesOn later) (closed : run.conclusion? = some conclusion) :
    later = run := by
  rcases goes.2.2 with same | open'
  · exact same
  · cases open'.symm.trans closed

theorem goes_goesOn (open' : run.conclusion? = none) (goes : Goes run next) : run.GoesOn next := by
  cases goes with
  | steps stepped => exact ⟨rfl, rfl, Or.inr open'⟩
  | terminated => exact ⟨rfl, rfl, Or.inr open'⟩

end GoesOn

instance : Preorder Namespace where
  le before after := before.documents ⊆ after.documents ∧ ∀ (index : Nat) run,
    before.runs[index]? = some run → ∃ later, after.runs[index]? = some later ∧ run.GoesOn later
  le_refl temporal := ⟨List.Subset.refl _, fun _ run found => ⟨run, found, goesOn_refl run⟩⟩
  le_trans first middle last before after := by
    refine ⟨List.Subset.trans before.1 after.1, ?_⟩
    intro index run found
    obtain ⟨between, there, goes⟩ := before.2 index run found
    obtain ⟨later, here, goesOn⟩ := after.2 index between there
    exact ⟨later, here, goesOn_trans goes goesOn⟩

theorem changed_le (changed : Changed before call after) : before ≤ after := by
  cases changed with
  | still => exact le_rfl
  | uploaded document =>
    exact ⟨List.subset_append_left _ _, fun _ run found => ⟨run, found, goesOn_refl run⟩⟩
  | began asked idle worker =>
    refine ⟨List.Subset.refl _, ?_⟩
    intro index run found
    refine ⟨run, ?_, goesOn_refl run⟩
    have inside := (List.getElem?_eq_some_iff.mp found).1
    exact (List.getElem?_append_left inside).trans found
  | @moved place run next found open' goes =>
    refine ⟨List.Subset.refl _, ?_⟩
    intro index other there
    by_cases same : place = index
    · subst same
      cases found.symm.trans there
      have inside := (List.getElem?_eq_some_iff.mp found).1
      exact ⟨next, List.getElem?_set_self inside, goes_goesOn open' goes⟩
    · exact ⟨other, (List.getElem?_set_ne same).trans there, goesOn_refl other⟩

theorem serveClient_grows : Growing serveClient :=
  fun _ _ _ _ _ served => changed_le (serveClient_changed served)

/-! ### One run at a time -/

/-- Starts are under the id of the document. -/
def ClientCall.Named : ClientCall → Prop
  | .startWorkflow workflowId inp _ => workflowId = workflowIdForConvert inp.bucket inp.key
  | _ => True

/-- Every run is a run of the workflow under its own document's id, and of the
runs under one id only the latest can be open. -/
structure Tidy (temporal : Namespace) : Prop where
  named : ∀ run ∈ temporal.runs,
    run.workflowId = workflowIdForConvert run.env.inp.bucket run.env.inp.key
  followed : ∀ run ∈ temporal.runs, ∃ events, (workflow run.env).run events = some run.state
  succeeded : ∀ (index later : Nat) run other, index < later → temporal.runs[index]? = some run →
    temporal.runs[later]? = some other → run.workflowId = other.workflowId →
    run.conclusion? ≠ none

theorem running_latest {temporal : Namespace} (latest : latestOf workflowId temporal.runs = some index)
    (found : temporal.runs[index]? = some run) :
    temporal.running workflowId = run.conclusion?.isNone := by
  rw [Namespace.running, latest, Option.bind_some, found, Option.any_some]

theorem tidy_began (tidy : Tidy before) (idle : before.running workflowId = false)
    (own : workflowId = workflowIdForConvert inp.bucket inp.key) (worker : Worker) :
    Tidy (before.begin workflowId (worker.env inp)) where
  named := by
    intro run member
    rcases List.mem_append.mp member with old | new
    · exact tidy.named run old
    · rw [List.mem_singleton.mp new]
      exact own
  followed := by
    intro run member
    rcases List.mem_append.mp member with old | new
    · exact tidy.followed run old
    · rw [List.mem_singleton.mp new]
      exact ⟨[], rfl⟩
  succeeded := by
    intro index later run other order found there same
    have length := (List.getElem?_eq_some_iff.mp there).1
    simp only [Namespace.begin, List.length_append, List.length_cons, List.length_nil] at length
    have inside : index < before.runs.length := by omega
    have held : before.runs[index]? = some run := (List.getElem?_append_left inside).symm.trans found
    by_cases old : later < before.runs.length
    · exact tidy.succeeded index later run other order held
        ((List.getElem?_append_left old).symm.trans there) same
    · -- The new run: the latest one under its id has closed, and so have those before it.
      have last : later = before.runs.length := by omega
      subst last
      cases (List.getElem?_concat_length (l := before.runs)).symm.trans there
      obtain ⟨latest, newest⟩ := latestOf_isSome held same
      obtain ⟨⟨recent, recorded, named⟩, bound⟩ := latestOf_some newest
      rw [running_latest newest recorded] at idle
      rcases Nat.lt_or_eq_of_le (bound index run held same) with earlier | rfl
      · exact tidy.succeeded index latest run recent earlier held recorded (same.trans named.symm)
      · cases held.symm.trans recorded
        intro open'
        rw [open'] at idle
        cases idle

theorem tidy_moved (tidy : Tidy before) (found : before.runs[index]? = some run)
    (open' : run.conclusion? = none) (goes : Goes run next) :
    Tidy { before with runs := before.runs.set index next } := by
  have inside := (List.getElem?_eq_some_iff.mp found).1
  have member := List.mem_of_getElem? found
  obtain ⟨sameId, sameEnv, _⟩ := goes_goesOn open' goes
  refine ⟨?_, ?_, ?_⟩
  · intro other held
    rcases List.mem_or_eq_of_mem_set held with old | rfl
    · exact tidy.named other old
    · rw [sameId, sameEnv]
      exact tidy.named run member
  · intro other held
    rcases List.mem_or_eq_of_mem_set held with old | rfl
    · exact tidy.followed other old
    · obtain ⟨events, ran⟩ := tidy.followed run member
      cases goes with
      | steps stepped => exact ⟨events ++ [_], Machine.run_snoc.mpr ⟨run.state, ran, stepped⟩⟩
      | terminated => exact ⟨events, ran⟩
  · intro first later one other order here there same
    have earlier : ∀ {place : Nat} {after}, (before.runs.set index next)[place]? = some after →
        ∃ was, before.runs[place]? = some was ∧ was.workflowId = after.workflowId ∧
          (place = index ∨ was = after) := by
      intro place after held
      by_cases own : index = place
      · subst own
        rw [List.getElem?_set_self inside] at held
        cases held
        exact ⟨run, found, sameId.symm, Or.inl rfl⟩
      · rw [List.getElem?_set_ne own] at held
        exact ⟨after, held, rfl, Or.inr rfl⟩
    obtain ⟨wasOne, heldOne, namedOne, changedOne⟩ := earlier here
    obtain ⟨wasOther, heldOther, namedOther, _⟩ := earlier there
    have closed := tidy.succeeded first later wasOne wasOther order heldOne heldOther
      (by rw [namedOne, namedOther, same])
    rcases changedOne with rfl | rfl
    · cases found.symm.trans heldOne
      exact absurd open' closed
    · exact closed

theorem tidy_changed (tidy : Tidy before) (named : call.Named)
    (changed : Changed before call after) : Tidy after := by
  cases changed with
  | still => exact tidy
  | uploaded document => exact ⟨tidy.named, tidy.followed, tidy.succeeded⟩
  | began asked idle worker =>
    subst asked
    exact tidy_began tidy idle named worker
  | moved found open' goes => exact tidy_moved tidy found open' goes

/-- A closed run that has returned shows the required format. -/
theorem returned_required (tidy : Tidy temporal) (recorded : run ∈ temporal.runs)
    (returned : run.conclusion? = some (.ended (.returned result))) :
    requiredFormat ∈ result.outputs.keys := by
  obtain ⟨events, ran⟩ := tidy.followed run recorded
  have closed : run.state.await = .closed (.returned result) := by
    unfold ConversionRun.conclusion? at returned
    split at returned
    · cases returned
    · obtain ⟨outcome, ended, same⟩ := Option.map_eq_some_iff.mp returned
      cases same
      cases await : run.state.await with
      | closed outcome =>
        rw [await] at ended
        cases ended
        rfl
      | _ =>
        rw [await] at ended
        cases ended
  rcases List.eq_nil_or_concat events with rfl | ⟨earlier, event, rfl⟩
  · have first : start run.env = run.state := Option.some.inj ran
    rw [← first] at closed
    cases closed
  · rw [List.concat_eq_append] at ran
    obtain ⟨state, _, stepped⟩ := Machine.run_snoc.mp ran
    obtain ⟨_, _, _, collected, _, _, required, same⟩ := step_returned stepped closed
    rw [same]
    exact required

end DoclingServeRay.Orchestration
