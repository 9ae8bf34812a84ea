import DoclingServeRay.Orchestration.Starter
import DoclingServeRay.Relay.Addressing

/-! What a dispatch reports. It starts a workflow for each document, or joins the
one that runs already, and may wait for all of them; other dispatches and the
workflows themselves go on meanwhile. -/
namespace DoclingServeRay.Orchestration
open Strings EventMachine Calls

/-! ### What a handle stands for -/

/-- No run under this id that had closed at entry. -/
def Fresh (entry : Namespace) (workflowId : Text) (index : Nat) : Prop :=
  ∀ run, entry.runs[index]? = some run → run.workflowId = workflowId → run.conclusion? = none

def OnRecord (later : Namespace) (workflowId : Text) (index : Nat) : Prop :=
  ∃ run, later.runs[index]? = some run ∧ run.workflowId = workflowId

theorem onRecord_later (recorded : OnRecord before workflowId index) (grown : before ≤ later) :
    OnRecord later workflowId index := by
  obtain ⟨run, found, named⟩ := recorded
  obtain ⟨after, there, same, _⟩ := grown.2 index run found
  exact ⟨after, there, same.trans named⟩

/-- A run that is new since entry, and all after it. -/
theorem fresh_new {entry : Namespace} {index since : Nat} (new : entry.runs.length ≤ index)
    (after : index ≤ since) : Fresh entry workflowId since := by
  intro run found
  have inside := (List.getElem?_eq_some_iff.mp found).1
  omega

/-- A run that is open now was open at entry, and the later ones are new. -/
theorem fresh_latest {entry before : Namespace} {index since : Nat} (grown : entry ≤ before)
    (latest : latestOf workflowId before.runs = some index)
    (open' : before.running workflowId = true) (after : index ≤ since) :
    Fresh entry workflowId since := by
  intro run found named
  obtain ⟨⟨last, recorded, _⟩, newest⟩ := latestOf_some latest
  obtain ⟨now, there, same, _, still⟩ := grown.2 since run found
  have bound := newest since now there (same.trans named)
  obtain rfl : since = index := by omega
  cases recorded.symm.trans there
  rcases still with rfl | earlier
  · rw [running_latest latest recorded] at open'
    exact Option.isNone_iff_eq_none.mp open'
  · exact earlier

/-! ### The first loop -/

/-- What the first loop has found out about a document: which run it is about,
and whether it has started that run or joined it. -/
structure Joined where
  key : Text
  index : Nat
  isStarted : Bool
  deriving DecidableEq

def Joined.line (bucket : Text) (joined : Joined) : Line :=
  if joined.isStarted then .started (workflowIdForConvert bucket joined.key)
  else .alreadyRunning (workflowIdForConvert bucket joined.key)

def Joined.handle (bucket : Text) (joined : Joined) : Handle where
  workflowId := workflowIdForConvert bucket joined.key
  runId := if joined.isStarted then some joined.index else none

/-- The runs that its handle may bring a result of: the one it has started, or
from the one it has joined on. -/
def Joined.Covers (joined : Joined) (index : Nat) : Prop :=
  if joined.isStarted then index = joined.index else joined.index ≤ index

/-- At a moment on the way no run of the document was open and this one was the
next to start, by the command's own input; or it was the latest one, and open. -/
inductive Joins (passed : Namespace → Prop) (entry later : Namespace) (args : ConvertArgs) :
    Joined → Prop where
  | started (reached : passed moment) (since : entry ≤ moment)
      (idle : moment.running (workflowIdForConvert args.bucket key) = false)
      (found : later.runs[moment.runs.length]? = some run)
      (named : run.workflowId = workflowIdForConvert args.bucket key)
      (given : run.env.inp = args.input key) :
      Joins passed entry later args ⟨key, moment.runs.length, true⟩
  | alreadyRunning (reached : passed moment) (since : entry ≤ moment) (onward : moment ≤ later)
      (latest : latestOf (workflowIdForConvert args.bucket key) moment.runs = some index)
      (open' : moment.running (workflowIdForConvert args.bucket key) = true) :
      Joins passed entry later args ⟨key, index, false⟩

section Joins

variable {passed : Namespace → Prop} {entry before later : Namespace} {args : ConvertArgs}
  {joined : Joined}

theorem joins_later (joins : Joins passed entry before args joined) (grown : before ≤ later) :
    Joins passed entry later args joined := by
  cases joins with
  | started reached since idle found named given =>
    obtain ⟨after, there, same, equipped, _⟩ := grown.2 _ _ found
    exact .started reached since idle there (same.trans named) (by rw [equipped, given])
  | alreadyRunning reached since onward latest open' =>
    exact .alreadyRunning reached since (le_trans onward grown) latest open'

theorem joins_onRecord (joins : Joins passed entry later args joined) :
    OnRecord later (workflowIdForConvert args.bucket joined.key) joined.index := by
  cases joins with
  | started reached since idle found named given => exact ⟨_, found, named⟩
  | alreadyRunning reached since onward latest open' =>
    exact onRecord_later (latestOf_some latest).1 onward

theorem runs_grow (grown : entry ≤ later) : entry.runs.length ≤ later.runs.length := by
  by_contra shorter
  have inside : later.runs.length < entry.runs.length := not_le.mp shorter
  obtain ⟨run, found, _⟩ := grown.2 _ _ (List.getElem?_eq_getElem inside)
  exact absurd (List.getElem?_eq_some_iff.mp found).1 (lt_irrefl _)

/-- A run that its handle may bring a result of had not closed at entry. -/
theorem joins_fresh (joins : Joins passed entry later args joined) (covered : joined.Covers index) :
    Fresh entry (workflowIdForConvert args.bucket joined.key) index := by
  cases joins with
  | started reached since idle found named given =>
    have same : index = _ := covered
    exact fresh_new (runs_grow since) same.ge
  | alreadyRunning reached since onward latest open' => exact fresh_latest since latest open' covered

end Joins

def Line.isStarted : Line → Bool
  | .started _ => true
  | _ => false

/-- Where the first loop is, with what it has found out so far. -/
structure Progress (passed : Namespace → Prop) (entry : Namespace) (args : ConvertArgs)
    (joined : List Joined) (dispatching : Dispatching) (later : Namespace) : Prop where
  handles : dispatching.handles.entries =
    joined.map fun document => (document.key, document.handle args.bucket)
  lines : dispatching.lines = joined.map (·.line args.bucket)
  counted : dispatching.started = dispatching.lines.countP Line.isStarted
  joins : ∀ document ∈ joined, Joins passed entry later args document

theorem progress_later (progress : Progress passed entry args joined dispatching before)
    (grown : before ≤ later) : Progress passed entry args joined dispatching later :=
  { progress with joins := fun document member => joins_later (progress.joins document member) grown }

theorem progress_keys (progress : Progress passed entry args joined dispatching later) :
    dispatching.handles.keys = joined.map Joined.key := by
  rw [OrderedDict.keys, progress.handles, List.map_map]
  rfl

/-- One more key, with its handle and its line. -/
theorem progress_next {document : Joined}
    (progress : Progress passed entry args joined dispatching later)
    (unseen : document.key ∉ joined.map Joined.key)
    (joins : Joins passed entry later args document) :
    Progress passed entry args (joined ++ [document]) {
      handles := dispatching.handles.set document.key (document.handle args.bucket)
      started := dispatching.started + if (document.line args.bucket).isStarted then 1 else 0
      lines := dispatching.lines ++ [document.line args.bucket] } later where
  handles := by
    rw [← progress_keys progress] at unseen
    rw [OrderedDict.entries_set_of_absent unseen, progress.handles, List.map_append]
    rfl
  lines := by
    rw [progress.lines, List.map_append]
    rfl
  counted := by rw [List.countP_append, progress.counted, List.countP_singleton]
  joins := by
    intro other member
    rcases List.mem_append.mp member with old | new
    · exact progress.joins other old
    · rw [List.mem_singleton.mp new]
      exact joins

/-- An attempt to start a document's workflow starts a run, or finds one open. -/
theorem startConversion_assured {key : Text} (grown : entry ≤ world) :
    (startConversion (args.input key)).Assured serveClient passed (fun answer later =>
      (∀ handle, answer = .ok handle → ∃ document : Joined, document.key = key ∧
        document.line args.bucket = .started (workflowIdForConvert args.bucket key) ∧
        handle = document.handle args.bucket ∧ Joins passed entry later args document) ∧
      (answer = .error .alreadyStarted → ∃ document : Joined, document.key = key ∧
        document.line args.bucket = .alreadyRunning (workflowIdForConvert args.bucket key) ∧
        ⟨workflowIdForConvert args.bucket key, none⟩ = document.handle args.bucket ∧
        Joins passed entry later args document)) world := by
  refine Program.assured_perform ?_
  intro before outcome answer after earlier reached served later onward
  have since : entry ≤ before := le_trans grown earlier
  cases outcome with
  | accepted worker =>
    simp only [serveClient, Option.some.injEq] at served
    split at served
    · rename_i open'
      cases served
      refine ⟨by rintro handle ⟨⟩, ?_⟩
      intro _
      obtain ⟨index, latest⟩ : ∃ index, latestOf (workflowIdForConvert args.bucket key)
          before.runs = some index := by
        cases latest : latestOf (workflowIdForConvert args.bucket key) before.runs with
        | some index => exact ⟨index, rfl⟩
        | none =>
          have closed : before.running (workflowIdForConvert args.bucket key) = false := by
            rw [Namespace.running, latest]
            rfl
          cases closed.symm.trans open'
      exact ⟨⟨key, index, false⟩, rfl, rfl, rfl, .alreadyRunning reached since onward latest open'⟩
    · rename_i idle
      cases served
      refine ⟨?_, by rintro ⟨⟩⟩
      rintro handle ⟨⟩
      obtain ⟨run, found, named, equipped, _⟩ := onward.2 before.runs.length
        ⟨workflowIdForConvert args.bucket key, worker.env (args.input key),
          Orchestration.start (worker.env (args.input key)), false⟩ List.getElem?_concat_length
      exact ⟨⟨key, before.runs.length, true⟩, rfl, rfl, rfl,
        .started reached since (Bool.eq_false_iff.mpr idle) found named (by rw [equipped]; rfl)⟩
  | unanswered worker =>
    obtain ⟨_, same⟩ := Option.ite_none_left_eq_some.mp served
    cases same
    exact ⟨by rintro handle ⟨⟩, by rintro ⟨⟩⟩
  | failed =>
    cases served
    exact ⟨by rintro handle ⟨⟩, by rintro ⟨⟩⟩
  | served => cases served
  | listed pages => cases served

theorem startAll_assured {entry : Namespace} (distinct : (joined.map Joined.key ++ keys).Nodup)
    (grown : entry ≤ world) (progress : Progress passed entry args joined dispatching world) :
    (startAll args dispatching keys).Assured serveClient passed (fun result later =>
      ∀ final, result = .ok final → ∃ more, more.map Joined.key = keys ∧
        Progress passed entry args (joined ++ more) final later) world := by
  induction keys generalizing joined dispatching world with
  | nil =>
    rintro later onward final ⟨⟩
    refine ⟨[], rfl, ?_⟩
    rw [List.append_nil]
    exact progress_later progress onward
  | cons key keys ih =>
    have unseen : key ∉ joined.map Joined.key := by
      intro member
      exact (List.nodup_append.mp distinct).2.2 key member key List.mem_cons_self rfl
    -- The rest of the loop, from what the attempt has found out about this key.
    have onwards : ∀ (document : Joined) (later : Namespace), document.key = key →
        Joins passed entry later args document → world ≤ later →
        (startAll args {
          handles := dispatching.handles.set key (document.handle args.bucket)
          started := dispatching.started + if (document.line args.bucket).isStarted then 1 else 0
          lines := dispatching.lines ++ [document.line args.bucket] } keys).Assured serveClient passed
          (fun result later => ∀ final, result = .ok final → ∃ more, more.map Joined.key = key :: keys ∧
            Progress passed entry args (joined ++ more) final later) later := by
      rintro document later rfl joins onward
      have next := progress_next (progress_later progress onward) unseen joins
      refine Program.assured_weaken (ih ?_ (le_trans grown onward) next) ?_
      · rw [List.map_append, List.append_assoc]
        exact distinct
      · intro result last reached final same
        obtain ⟨more, keys, progress⟩ := reached final same
        refine ⟨document :: more, by rw [List.map_cons, keys], ?_⟩
        rw [List.append_cons]
        exact progress
    refine Program.assured_bind serveClient_grows
      (Program.assured_attempt (startConversion_assured grown)) ?_ ?_
    · rintro answer later onward ⟨inner, same, placing, running⟩
      cases same
      cases answer with
      | ok handle =>
        obtain ⟨document, own, line, rfl, joins⟩ := placing handle rfl
        have after := onwards document later own joins onward
        rw [line] at after
        exact after
      | error error =>
        cases error with
        | alreadyStarted =>
          obtain ⟨document, own, line, handle, joins⟩ := running rfl
          have after := onwards document later own joins onward
          rw [line, ← handle] at after
          exact after
        | workflowFailure cause => exact fun _ _ => nofun
        | other => exact fun _ _ => nofun
    · rintro error later onward ⟨inner, same, _⟩
      cases same

/-! ### The second loop -/

/-- What a line of the second loop says of a document: how the run that was
started for it has closed, or for a run that was joined, how that one or a later
one has. -/
inductive Awaited (later : Namespace) (bucket : Text) (joined : Joined) : Line → Prop where
  | ok (covered : joined.Covers index) (found : later.runs[index]? = some run)
      (named : run.workflowId = workflowIdForConvert bucket joined.key)
      (returned : run.conclusion? = some (.ended (.returned result))) :
      Awaited later bucket joined (okLine bucket joined.key result)
  | failed (covered : joined.Covers index) (found : later.runs[index]? = some run)
      (named : run.workflowId = workflowIdForConvert bucket joined.key)
      (closed : run.conclusion? = some cause)
      (unreturned : ∀ result, cause ≠ .ended (.returned result)) :
      Awaited later bucket joined (.failed bucket joined.key cause)

theorem awaited_later (awaited : Awaited before bucket joined line) (grown : before ≤ later) :
    Awaited later bucket joined line := by
  cases awaited with
  | ok covered found named returned =>
    obtain ⟨after, there, goes⟩ := grown.2 _ _ found
    cases goesOn_concluded goes returned
    exact .ok covered there named returned
  | failed covered found named closed unreturned =>
    obtain ⟨after, there, goes⟩ := grown.2 _ _ found
    cases goesOn_concluded goes closed
    exact .failed covered there named closed unreturned

/-- A handle leads to a run that it covers. -/
theorem follow_assured (joins : Joins passed entry world args joined) :
    (Program.perform (ClientCall.follow (joined.handle args.bucket)) :
      ClientOperation Nat).Assured serveClient passed (fun answer later =>
        (∀ index, answer = .ok index →
          OnRecord later (workflowIdForConvert args.bucket joined.key) index ∧
            joined.Covers index) ∧
        ∀ cause, answer ≠ .error (.workflowFailure cause)) world := by
  refine Program.assured_perform ?_
  intro before outcome answer after earlier _ served later onward
  have recorded := joins_onRecord (joins_later joins earlier)
  cases outcome with
  | served =>
    simp only [serveClient, Option.some.injEq, Prod.mk.injEq] at served
    obtain ⟨followed, rfl⟩ := served
    obtain ⟨key, place, isStarted⟩ := joined
    cases isStarted with
    | true =>
      rw [show (Joined.handle args.bucket ⟨key, place, true⟩).runId = some place from rfl,
        Option.some_or] at followed
      subst followed
      refine ⟨?_, by rintro cause ⟨⟩⟩
      rintro index ⟨⟩
      exact ⟨onRecord_later recorded onward, rfl⟩
    | false =>
      obtain ⟨run, found, same⟩ := recorded
      obtain ⟨newest, last⟩ := latestOf_isSome found same
      rw [show (Joined.handle args.bucket ⟨key, place, false⟩).runId = none from rfl,
        Option.none_or, Joined.handle, last] at followed
      subst followed
      obtain ⟨there, bound⟩ := latestOf_some last
      refine ⟨?_, by rintro cause ⟨⟩⟩
      rintro index ⟨⟩
      exact ⟨onRecord_later there onward, bound place run found same⟩
  | failed =>
    cases served
    exact ⟨by rintro index ⟨⟩, by rintro cause ⟨⟩⟩
  | listed pages => cases served
  | accepted worker => cases served
  | unanswered worker => cases served

theorem result_assured
    (recorded : OnRecord world (workflowIdForConvert bucket joined.key) index)
    (covered : joined.Covers index) :
    (Program.perform (ClientCall.result index) : ClientOperation ConvertResult).Assured serveClient
      passed (fun answer later => (∀ result, answer = .ok result →
          Awaited later bucket joined (okLine bucket joined.key result)) ∧
        ∀ cause, answer = .error (.workflowFailure cause) →
          Awaited later bucket joined (.failed bucket joined.key cause)) world := by
  refine Program.assured_perform ?_
  intro before outcome answer after earlier _ served later onward
  obtain ⟨run, found, named⟩ := onRecord_later recorded earlier
  cases outcome with
  | served =>
    obtain ⟨conclusion, concluded, same⟩ := Option.map_eq_some_iff.mp served
    rw [found, Option.bind_some] at concluded
    obtain ⟨answered, rfl⟩ := Prod.mk.inj same
    constructor
    · rintro result rfl
      split at answered
      · cases answered
        exact awaited_later (.ok covered found named concluded) onward
      · cases answered
    · rintro cause rfl
      split at answered
      · cases answered
      · rename_i unreturned
        cases answered
        exact awaited_later (.failed covered found named concluded unreturned) onward
  | failed =>
    cases served
    exact ⟨nofun, nofun⟩
  | listed pages => cases served
  | accepted worker => cases served
  | unanswered worker => cases served

theorem handleResult_assured (joins : Joins passed entry world args joined) :
    (handleResult (joined.handle args.bucket)).Assured serveClient passed (fun answer later =>
      (∀ result, answer = .ok result →
        Awaited later args.bucket joined (okLine args.bucket joined.key result)) ∧
      ∀ cause, answer = .error (.workflowFailure cause) →
        Awaited later args.bucket joined (.failed args.bucket joined.key cause)) world := by
  refine Program.assured_bind serveClient_grows (follow_assured joins) ?_ ?_
  · rintro index later onward ⟨followed, _⟩
    obtain ⟨recorded, covered⟩ := followed index rfl
    exact result_assured recorded covered
  · rintro error later onward ⟨_, unfailed⟩
    refine ⟨nofun, ?_⟩
    rintro cause same
    cases same
    exact absurd rfl (unfailed cause)

def Line.isFailed : Line → Bool
  | .failed _ _ _ => true
  | _ => false

/-- Where the second loop is after these documents, with what was printed before
it. -/
def Tallied (bucket : Text) (printed : List Line) (seen : List Joined) (awaiting : Awaiting)
    (later : Namespace) : Prop :=
  ∃ lines, awaiting.lines = printed ++ lines ∧
    List.Forall₂ (Awaited later bucket) seen lines ∧
    awaiting.failed = lines.countP Line.isFailed

theorem tallied_later (tallied : Tallied bucket printed seen awaiting before)
    (grown : before ≤ later) : Tallied bucket printed seen awaiting later := by
  obtain ⟨lines, shape, ends, counted⟩ := tallied
  exact ⟨lines, shape, ends.imp fun _ _ awaited => awaited_later awaited grown, counted⟩

theorem tallied_next (tallied : Tallied bucket printed seen awaiting later)
    (awaited : Awaited later bucket joined line) :
    Tallied bucket printed (seen ++ [joined])
      ⟨awaiting.failed + if line.isFailed then 1 else 0, awaiting.lines ++ [line]⟩ later := by
  obtain ⟨lines, shape, ends, counted⟩ := tallied
  refine ⟨lines ++ [line], ?_, List.rel_append ends (.cons awaited .nil), ?_⟩
  · rw [shape, List.append_assoc]
  · rw [List.countP_append, counted, List.countP_singleton]

theorem awaitAll_assured
    (joins : ∀ document ∈ joined, Joins passed entry world args document)
    (tallied : Tallied args.bucket printed seen awaiting world) :
    (awaitAll args.bucket awaiting (joined.map fun document =>
      (document.key, document.handle args.bucket))).Assured serveClient passed (fun result later =>
        ∀ final, result = .ok final → Tallied args.bucket printed (seen ++ joined) final later)
      world := by
  induction joined generalizing seen awaiting world with
  | nil =>
    rintro later onward final ⟨⟩
    rw [List.append_nil]
    exact tallied_later tallied onward
  | cons document joined ih =>
    rw [List.append_cons]
    refine Program.assured_bind serveClient_grows
      (Program.assured_attempt (handleResult_assured (joins _ List.mem_cons_self))) ?_ ?_
    · rintro answer later onward ⟨inner, same, returned, failed⟩
      cases same
      have others : ∀ other ∈ joined, Joins passed entry later args other :=
        fun other member => joins_later (joins other (List.mem_cons_of_mem _ member)) onward
      have still := tallied_later tallied onward
      cases answer with
      | ok result => exact ih others (tallied_next still (returned result rfl))
      | error error =>
        cases error with
        | workflowFailure cause => exact ih others (tallied_next still (failed cause rfl))
        | alreadyStarted => exact fun _ _ => nofun
        | other => exact fun _ _ => nofun
    · rintro error later onward ⟨inner, same, _⟩
      cases same

/-! ### The whole command -/

/-- The keys are the documents below the prefix, directories aside: those that
were there at the start, and none that never was. -/
structure Listed (entry later : Namespace) (args : ConvertArgs) (keys : List Text) : Prop where
  distinct : keys.Nodup
  present : ∀ key ∈ keys, (args.bucket, key) ∈ later.documents ∧ args.keyPrefix <+: key ∧
    ¬ ['/'] <:+ key
  complete : ∀ key, (args.bucket, key) ∈ entry.documents → args.keyPrefix <+: key →
    ¬ ['/'] <:+ key → key ∈ keys

/-- The lines that the first loop is counted up in. -/
def countedLine (lines : List Line) : Line :=
  .counted (lines.countP Line.isStarted) (lines.length - lines.countP Line.isStarted)

/-- What the command reports, between its start and a later state, with the
states on the way. -/
inductive Dispatched (passed : Namespace → Prop) (entry later : Namespace) (args : ConvertArgs) :
    Report → Prop where
  | nothing (listed : Listed entry later args []) :
      Dispatched passed entry later args ⟨1, [.noObjects args.bucket args.keyPrefix]⟩
  | unawaited (listed : Listed entry later args (joined.map Joined.key)) (more : joined ≠ [])
      (joins : ∀ document ∈ joined, Joins passed entry later args document)
      (unwaiting : args.wait = false) :
      Dispatched passed entry later args ⟨0, joined.map (·.line args.bucket) ++
        [countedLine (joined.map (·.line args.bucket)), .followThem]⟩
  | awaited (listed : Listed entry later args (joined.map Joined.key)) (more : joined ≠ [])
      (joins : ∀ document ∈ joined, Joins passed entry later args document)
      (waiting : args.wait = true)
      (ends : List.Forall₂ (Awaited later args.bucket) joined verdicts) :
      Dispatched passed entry later args ⟨if verdicts.countP Line.isFailed = 0 then 0 else 1,
        joined.map (·.line args.bucket) ++ [countedLine (joined.map (·.line args.bucket)), .waiting] ++
          verdicts⟩

theorem listed_later (listed : Listed entry before args keys) (grown : before ≤ later) :
    Listed entry later args keys where
  distinct := listed.distinct
  present key member := by
    obtain ⟨held, below⟩ := listed.present key member
    exact ⟨grown.1 held, below⟩
  complete := listed.complete

theorem listObjects_assured (grown : entry ≤ world) :
    (Program.perform (ClientCall.listObjects args.bucket args.keyPrefix) :
      ClientOperation (List ListPage)).Assured serveClient passed (fun answer later =>
        ∀ pages, answer = .ok pages → Listed entry later args (listObjects pages)) world := by
  refine Program.assured_perform ?_
  rintro before outcome answer after earlier _ served later onward pages rfl
  cases outcome with
  | listed shown =>
    obtain ⟨⟨distinct, present, complete⟩, same⟩ := Option.ite_none_right_eq_some.mp served
    cases same
    refine listed_later ⟨distinct.filter _, ?_, ?_⟩ onward
    · intro key member
      obtain ⟨listed, proper⟩ := List.mem_filter.mp member
      obtain ⟨held, below⟩ := present key listed
      exact ⟨held, below, of_decide_eq_true proper⟩
    · intro key held below proper
      have there : (args.bucket, key) ∈ before.documents := (le_trans grown earlier).1 held
      exact List.mem_filter.mpr ⟨complete _ there rfl below, decide_eq_true proper⟩
  | failed => cases served
  | served => cases served
  | accepted worker => cases served
  | unanswered worker => cases served

theorem convert_assured (grown : entry ≤ world) :
    (convert args).Assured serveClient passed (fun result later =>
      ∀ report, result = .ok report → Dispatched passed entry later args report) world := by
  refine Program.assured_bind serveClient_grows (listObjects_assured grown) ?_
    (fun _ _ _ _ _ => nofun)
  intro pages listedAt onward listing
  have listed := listing pages rfl
  dsimp only
  generalize listObjects pages = keys at listed ⊢
  split
  · rename_i none
    rintro later after report ⟨⟩
    rw [none] at listed
    exact .nothing (listed_later listed after)
  rename_i more
  have first : Progress passed entry args [] ⟨.empty, 0, []⟩ listedAt := ⟨rfl, rfl, rfl, nofun⟩
  have loop : (startAll args ⟨.empty, 0, []⟩ keys).Assured serveClient passed (fun result later =>
      ∀ final, result = .ok final → ∃ joined, joined.map Joined.key = keys ∧
        Progress passed entry args ([] ++ joined) final later) listedAt :=
    startAll_assured (show ([] ++ keys).Nodup from listed.distinct) (le_trans grown onward) first
  refine Program.assured_bind serveClient_grows loop ?_ (fun _ _ _ _ _ => nofun)
  intro dispatching startedAt begun progressing
  obtain ⟨joined, rfl, progress⟩ := progressing dispatching rfl
  rw [List.nil_append] at progress
  have some' : joined ≠ [] := by
    rintro rfl
    exact more rfl
  have same : Line.counted dispatching.started (dispatching.handles.keys.length - dispatching.started)
      = countedLine (joined.map (·.line args.bucket)) := by
    rw [progress_keys progress, progress.counted, progress.lines, countedLine, List.length_map,
      List.length_map]
  rw [same, progress.lines, progress.handles]
  split
  · rename_i unwaiting
    rintro later after report ⟨⟩
    rw [List.append_assoc]
    exact .unawaited (listed_later listed (le_trans begun after)) some'
      (fun document member => joins_later (progress.joins document member) after)
      (by simpa using unwaiting)
  · rename_i waiting
    have base : Tallied args.bucket (joined.map (·.line args.bucket) ++
        [countedLine (joined.map (·.line args.bucket))] ++ [.waiting]) [] ⟨0,
          joined.map (·.line args.bucket) ++ [countedLine (joined.map (·.line args.bucket))] ++
            [.waiting]⟩ startedAt :=
      ⟨[], (List.append_nil _).symm, .nil, rfl⟩
    refine Program.assured_bind serveClient_grows (awaitAll_assured progress.joins base) ?_
      (fun _ _ _ _ _ => nofun)
    rintro awaited awaitedAt waited tallying later after report ⟨⟩
    obtain ⟨verdicts, shape, ends, failures⟩ := tallying awaited rfl
    rw [shape, failures, List.append_assoc (joined.map (·.line args.bucket))]
    exact .awaited (listed_later listed (le_trans begun (le_trans waited after))) some'
      (fun document member => joins_later (progress.joins document member) (le_trans waited after))
      (by simpa using waiting) (ends.imp fun _ _ awaited => awaited_later awaited after)

/-! ### Among others -/

section Parties

variable {documents : List (Text × Text)} {args : ConvertArgs} {report : Report}

theorem dispatched_later (dispatched : Dispatched passed entry before args report)
    (grown : before ≤ later) : Dispatched passed entry later args report := by
  cases dispatched with
  | nothing listed => exact .nothing (listed_later listed grown)
  | unawaited listed more joins unwaiting =>
    exact .unawaited (listed_later listed grown) more
      (fun document member => joins_later (joins document member) grown) unwaiting
  | awaited listed more joins waiting ends =>
    exact .awaited (listed_later listed grown) more
      (fun document member => joins_later (joins document member) grown) waiting
      (ends.imp fun _ _ awaited => awaited_later awaited grown)

/-- The states of the namespace from the start of a dispatch on, with these
events. -/
abbrev Along (documents : List (Text × Text)) (args : ConvertArgs)
    (before : Pool Namespace Party ClientCall ClientCall.Answer ClientError Done)
    (rest : List (PoolEvent Party ClientOutcome)) : Namespace → Prop :=
  OnTheWay (pooled serveClient parties ⟨documents, []⟩) before (.enters (.dispatches args) :: rest)

theorem dispatch_found
    (begun : (pooled serveClient parties ⟨documents, []⟩).run events = some before)
    (ran : (pooled serveClient parties ⟨documents, []⟩).run
      (events ++ .enters (.dispatches args) :: rest) = some after)
    (ended : after.programs[before.programs.length]? =
      some (role, .done (.reported report))) :
    Dispatched (Along documents args before rest) before.world after.world args report := by
  obtain ⟨middle, reached, onward⟩ := Machine.run_append.mp ran
  cases begun.symm.trans reached
  obtain ⟨entered, stepped, onward⟩ := Machine.runFrom_cons.mp onward
  obtain ⟨programs, world⟩ : entered.programs =
      before.programs ++ [(.dispatches args, (Party.dispatches args).program)] ∧
        entered.world = before.world := by
    cases stepped
    exact ⟨rfl, rfl⟩
  have found : entered.programs[before.programs.length]? =
      some (.dispatches args, (Party.dispatches args).program) := by
    rw [programs, List.getElem?_concat_length]
  have assured : (Party.dispatches args).program.Assured serveClient
      (Along documents args before rest) (fun result later => ∀ report,
        result = .ok (.reported report) →
          Dispatched (Along documents args before rest) before.world later args report)
      entered.world := by
    rw [world]
    refine Program.assured_bind serveClient_grows (convert_assured le_rfl) ?_
      (fun _ _ _ _ _ => nofun)
    rintro found world _ reports later grown report ⟨⟩
    exact dispatched_later (reports found rfl) grown
  refine pool_assured serveClient_grows found assured ?_ onward ended report rfl
  rintro world ⟨middle, passes, same⟩
  exact ⟨middle, Machine.passes_later stepped passes, same⟩

/-- The verdict of a line that is no failure. -/
theorem awaited_ok (awaited : Awaited later bucket joined line) (fine : line.isFailed = false) :
    ∃ (index : Nat) (run : ConversionRun) (result : ConvertResult), later.runs[index]? = some run ∧
      joined.Covers index ∧ run.workflowId = workflowIdForConvert bucket joined.key ∧
      run.conclusion? = some (.ended (.returned result)) ∧
      line = okLine bucket joined.key result := by
  cases awaited with
  | ok covered found named returned => exact ⟨_, _, _, found, covered, named, returned, rfl⟩
  | failed covered found named closed unreturned => cases fine

end Parties

/-! ### What a dispatch reports -/

/-- What a dispatch reports, whatever else goes on: a line for each document
under the prefix, which says whether a run was started for it or one that was open
was joined; and when it waits, how the run that was started has closed, or the
one that was joined or a later one of its document. An exit code of zero then
means that each document was converted by a run that had not closed before the
dispatch, with the required format among its outputs. -/
theorem dispatch_reports {documents : List (Text × Text)} {args : ConvertArgs} {report : Report}
    (begun : (pooled serveClient parties ⟨documents, []⟩).run events = some before)
    (ran : (pooled serveClient parties ⟨documents, []⟩).run
      (events ++ .enters (.dispatches args) :: rest) = some after)
    (ended : after.programs[before.programs.length]? = some (role, .done (.reported report))) :
    Dispatched (Along documents args before rest) before.world after.world args report ∧
      (args.wait = true → report.exitCode = 0 → '/' ∉ args.bucket →
        (∀ run ∈ after.world.runs, '/' ∉ run.env.inp.bucket) →
        ∀ key, (args.bucket, key) ∈ before.world.documents → args.keyPrefix <+: key →
          ¬ ['/'] <:+ key → ∃ (index : Nat) (run : ConversionRun) (result : ConvertResult),
            after.world.runs[index]? = some run ∧
            run.env.inp.bucket = args.bucket ∧ run.env.inp.key = key ∧
            (∀ earlier, before.world.runs[index]? = some earlier → earlier.conclusion? = none) ∧
            run.conclusion? = some (.ended (.returned result)) ∧
            requiredFormat ∈ result.outputs.keys ∧ okLine args.bucket key result ∈ report.lines) := by
  have dispatched := dispatch_found begun ran ended
  refine ⟨dispatched, ?_⟩
  intro wait zero clear clears key there below proper
  have tidy := parties_tidy ran
  cases dispatched with
  | nothing listed => cases zero
  | unawaited listed more joins unwaiting => cases unwaiting.symm.trans wait
  | @awaited joined verdicts listed more joins waiting ends =>
    have none : verdicts.countP Line.isFailed = 0 := by
      by_contra some'
      rw [if_neg some'] at zero
      cases zero
    obtain ⟨document, held, rfl⟩ := List.mem_map.mp (listed.complete key there below proper)
    obtain ⟨line, member, awaited⟩ : ∃ line ∈ verdicts,
        Awaited after.world args.bucket document line := by
      obtain ⟨place, inside, rfl⟩ := List.getElem_of_mem held
      have within : place < verdicts.length := ends.length_eq ▸ inside
      exact ⟨_, List.getElem_mem within, List.Forall₂.get ends inside within⟩
    have fine : line.isFailed = false :=
      Bool.eq_false_iff.mpr (List.countP_eq_zero.mp none line member)
    obtain ⟨index, run, result, found, covered, named, returned, rfl⟩ := awaited_ok awaited fine
    have recorded := List.mem_of_getElem? found
    obtain ⟨bucket, own⟩ := Relay.workflowId_injective (clears run recorded) clear
      ((tidy.named run recorded).symm.trans named)
    refine ⟨index, run, result, found, bucket, own, ?_, returned,
      returned_required tidy recorded returned, List.mem_append_right _ member⟩
    intro earlier early
    refine joins_fresh (joins document held) covered earlier early ?_
    have grown : before.world ≤ after.world := by
      obtain ⟨middle, reached, onward⟩ := Machine.run_append.mp ran
      cases begun.symm.trans reached
      exact pool_grows serveClient_grows onward
    obtain ⟨later, now, same, _⟩ := grown.2 index earlier early
    cases found.symm.trans now
    exact same.symm.trans named

/-- Two documents are there. -/
def twoDocuments : List (Text × Text) :=
  [("docs".toList, "a.pdf".toList), ("docs".toList, "b.pdf".toList)]

def waitingArgs : ConvertArgs := { bucket := "docs".toList, keyPrefix := [], wait := true }

/-- A client starts a run of the first one. -/
def oneStarted : List (PoolEvent Party ClientOutcome) :=
  [.enters (.starts (waitingArgs.input "a.pdf".toList)), .moves 0 (.accepted plainWorker)]

/-- A run goes on to its end, in four steps from this place on. -/
def finishes (place index : Nat) : List (PoolEvent Party ClientOutcome) :=
  [.enters (.proceeds index (accepted "t".toList)), .moves place .served,
    .enters (.proceeds index (signalled "t".toList .success)), .moves (place + 1) .served,
    .enters (.proceeds index (outcomeCounted 1 0)), .moves (place + 2) .served,
    .enters (.proceeds index (listed ["temporal/docs/h/a.json".toList])),
    .moves (place + 3) .served]

/-- A dispatch joins the first run and starts one of the second document. Both
end, the second one first, and it reports. -/
def bothAwaited : List (PoolEvent Party ClientOutcome) :=
  [.moves 1 (.listed [⟨some ["a.pdf".toList, "b.pdf".toList]⟩]), .moves 1 (.accepted plainWorker),
    .moves 1 (.accepted plainWorker)] ++ finishes 2 1 ++ [.moves 1 .served] ++ finishes 6 0 ++
    [.moves 1 .served, .moves 1 .served, .moves 1 .served]

/-- The report of the program in this place, once it has made one. -/
def reportAt (place : Nat)
    (pool : Pool Namespace Party ClientCall ClientCall.Answer ClientError Done) : Option Report :=
  match pool.programs[place]? with
  | some (_, .done (.reported report)) => some report
  | _ => none

theorem dispatch_reports_converted :
    ∃ before after report, Dispatched (Along twoDocuments waitingArgs before bothAwaited)
        before.world after waitingArgs report ∧
      .started (workflowIdForConvert "docs".toList "b.pdf".toList) ∈ report.lines ∧
      .alreadyRunning (workflowIdForConvert "docs".toList "a.pdf".toList) ∈ report.lines ∧
      ∃ result, okLine "docs".toList "a.pdf".toList result ∈ report.lines := by
  have begins : ((pooled serveClient parties ⟨twoDocuments, []⟩).run oneStarted).any
      (fun pool => pool.programs.length = 1 ∧
        ("docs".toList, "a.pdf".toList) ∈ pool.world.documents) = true := by decide +kernel
  have goes : ((pooled serveClient parties ⟨twoDocuments, []⟩).run
      (oneStarted ++ .enters (.dispatches waitingArgs) :: bothAwaited)).any (fun pool =>
        (∀ run ∈ pool.world.runs, '/' ∉ run.env.inp.bucket) ∧
        (reportAt 1 pool).any fun report => report.exitCode = 0 ∧
          .started (workflowIdForConvert "docs".toList "b.pdf".toList) ∈ report.lines ∧
          .alreadyRunning (workflowIdForConvert "docs".toList "a.pdf".toList) ∈ report.lines) =
      true := by decide +kernel
  obtain ⟨before, begun, begins⟩ := (Option.any_eq_true _ _).mp begins
  obtain ⟨single, there⟩ := of_decide_eq_true begins
  obtain ⟨after, ran, goes⟩ := (Option.any_eq_true _ _).mp goes
  obtain ⟨clears, reported⟩ := of_decide_eq_true goes
  obtain ⟨report, made, shown⟩ := (Option.any_eq_true _ _).mp reported
  obtain ⟨zero, started, joined⟩ := of_decide_eq_true shown
  unfold reportAt at made
  split at made
  · rename_i ended
    cases made
    rw [← single] at ended
    obtain ⟨dispatched, converted⟩ := dispatch_reports begun ran ended
    obtain ⟨_, _, result, _, _, _, _, _, _, printed⟩ := converted rfl zero (by decide) clears
      "a.pdf".toList there List.nil_prefix (by decide)
    exact ⟨before, after.world, report, dispatched, started, joined, result, printed⟩
  · cases made

end DoclingServeRay.Orchestration
