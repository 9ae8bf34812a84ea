import DoclingServeRay.Orchestration.Namespace

/-! The command that converts every document under a prefix (`starter.py`), among
other dispatches, starts, uploads and terminations, and the workflows' own
progress. -/
namespace DoclingServeRay.Orchestration
open Strings EventMachine Calls

/-! ### The command -/

/-- What `str.strip` takes off. -/
def isSpace (char : Char) : Bool :=
  char.toNat ∈ [0x9, 0xa, 0xb, 0xc, 0xd, 0x1c, 0x1d, 0x1e, 0x1f, 0x20, 0x85, 0xa0, 0x1680,
    0x2000, 0x2001, 0x2002, 0x2003, 0x2004, 0x2005, 0x2006, 0x2007, 0x2008, 0x2009, 0x200a,
    0x2028, 0x2029, 0x202f, 0x205f, 0x3000]

def strip (text : Text) : Text :=
  ((text.dropWhile isSpace).reverse.dropWhile isSpace).reverse

structure ConvertArgs where
  bucket : Text := "docling-input".toList
  keyPrefix : Text
  toFormats : Text := "json,md".toList
  wait : Bool := false

/-- `[f.strip() for f in args.to_formats.split(',') if f.strip()]`. -/
def ConvertArgs.formats (args : ConvertArgs) : List Text :=
  ((args.toFormats.splitOn ',').map strip).filter (· ≠ [])

def ConvertArgs.input (args : ConvertArgs) (key : Text) : ConvertInput where
  bucket := args.bucket
  key := key
  toFormats := args.formats

/-- What the command prints. -/
inductive Line where
  | noObjects (bucket keyPrefix : Text)
  | started (workflowId : Text)
  | alreadyRunning (workflowId : Text)
  | counted (started alreadyRunning : Int)
  | followThem
  | waiting
  | failed (bucket key : Text) (cause : Conclusion)
  | ok (bucket key outputBucket : Text) (formats : List (Text × Nat)) (taskId : Text)
    (submissions safetyPolls : Nat)
  deriving DecidableEq

/-- The formats in order, with how many keys each has. -/
def formatCounts (result : ConvertResult) : List (Text × Nat) :=
  (result.outputs.keys.insertionSort (· ≤ ·)).map fun format =>
    (format, ((result.outputs.get? format).getD []).length)

def okLine (bucket key : Text) (result : ConvertResult) : Line :=
  .ok bucket key result.outputBucket (formatCounts result) result.taskId result.submissions
    result.safetyPolls

/-- `_list_objects`, from the pages on. -/
def listObjects (pages : List ListPage) : List Text :=
  (listKeys pages).filter fun key => ¬ ['/'] <:+ key

/-- `_convert`'s locals in its first loop. -/
structure Dispatching where
  handles : OrderedDict Text Handle
  started : Nat
  lines : List Line

def startAll (args : ConvertArgs) (dispatching : Dispatching) :
    List Text → ClientOperation Dispatching
  | [] => pure dispatching
  | key :: keys => do
    let workflowId := workflowIdForConvert args.bucket key
    let answer ← (startConversion (args.input key)).attempt
    match answer with
    | .ok handle =>
      startAll args {
        handles := dispatching.handles.set key handle
        started := dispatching.started + 1
        lines := dispatching.lines ++ [.started workflowId] } keys
    | .error .alreadyStarted =>
      startAll args {
        handles := dispatching.handles.set key ⟨workflowId, none⟩
        started := dispatching.started
        lines := dispatching.lines ++ [.alreadyRunning workflowId] } keys
    | .error error => .raise error

/-- `handle.result()`. -/
def handleResult (handle : Handle) : ClientOperation ConvertResult := do
  let index : Nat ← Program.perform (ClientCall.follow handle)
  Program.perform (ClientCall.result index)

/-- `_convert`'s locals in its second loop. -/
structure Awaiting where
  failed : Nat
  lines : List Line

def awaitAll (bucket : Text) (awaiting : Awaiting) :
    List (Text × Handle) → ClientOperation Awaiting
  | [] => pure awaiting
  | (key, handle) :: handles => do
    let answer ← (handleResult handle).attempt
    match answer with
    | .ok result =>
      awaitAll bucket { awaiting with lines := awaiting.lines ++ [okLine bucket key result] } handles
    | .error (.workflowFailure cause) =>
      awaitAll bucket ⟨awaiting.failed + 1, awaiting.lines ++ [.failed bucket key cause]⟩ handles
    | .error error => .raise error

/-- The exit code and what was printed. -/
structure Report where
  exitCode : Nat
  lines : List Line
  deriving DecidableEq

/-- `_convert`, once the client has connected. -/
def convert (args : ConvertArgs) : ClientOperation Report := do
  let pages : List ListPage ← Program.perform (ClientCall.listObjects args.bucket args.keyPrefix)
  let keys := listObjects pages
  if keys = [] then pure ⟨1, [.noObjects args.bucket args.keyPrefix]⟩
  else
    let dispatching ← startAll args ⟨.empty, 0, []⟩ keys
    let running : Int := dispatching.handles.keys.length - dispatching.started
    let lines := dispatching.lines ++ [.counted dispatching.started running]
    if !args.wait then pure ⟨0, lines ++ [.followThem]⟩
    else
      let awaited ← awaitAll args.bucket ⟨0, lines ++ [.waiting]⟩ dispatching.handles.entries
      pure ⟨if awaited.failed = 0 then 0 else 1, awaited.lines⟩

/-! ### Everyone at work in the namespace -/

inductive Party where
  | dispatches (args : ConvertArgs)
  | starts (inp : ConvertInput)
  | uploads (bucket key : Text)
  | proceeds (index : Nat) (event : Event)
  | terminates (index : Nat)

/-- What a party ends with. -/
inductive Done where
  | reported (report : Report)
  | started (handle : Handle)
  | moved

def Party.program : Party → ClientOperation Done
  | .dispatches args => do
    let report ← convert args
    pure (.reported report)
  | .starts inp => do
    let handle ← startConversion inp
    pure (.started handle)
  | .uploads bucket key => do
    Program.perform (ClientCall.uploads bucket key)
    pure .moved
  | .proceeds index event => do
    Program.perform (ClientCall.proceeds index event)
    pure .moved
  | .terminates index => do
    Program.perform (ClientCall.terminates index)
    pure .moved

def parties : Spawning Party Party ClientCall ClientCall.Answer ClientError Done where
  entering party := (party, party.program)
  following _ := []

theorem startAll_named (args : ConvertArgs) (dispatching : Dispatching) (keys : List Text) :
    (startAll args dispatching keys).AsksOnly ClientCall.Named := by
  induction keys generalizing dispatching with
  | nil => trivial
  | cons key keys ih =>
    refine ⟨rfl, ?_⟩
    intro answer
    cases answer with
    | ok handle => exact ih _
    | error error =>
      cases error with
      | alreadyStarted => exact ih _
      | workflowFailure cause => trivial
      | other => trivial

theorem awaitAll_named (bucket : Text) (awaiting : Awaiting) (handles : List (Text × Handle)) :
    (awaitAll bucket awaiting handles).AsksOnly ClientCall.Named := by
  induction handles generalizing awaiting with
  | nil => trivial
  | cons first handles ih =>
    refine ⟨trivial, ?_⟩
    intro followed
    cases followed with
    | ok index =>
      refine ⟨trivial, ?_⟩
      intro answer
      cases answer with
      | ok result => exact ih _
      | error error =>
        cases error with
        | workflowFailure cause => exact ih _
        | alreadyStarted => trivial
        | other => trivial
    | error error =>
      cases error with
      | workflowFailure cause => exact ih _
      | alreadyStarted => trivial
      | other => trivial

theorem convert_named (args : ConvertArgs) : (convert args).AsksOnly ClientCall.Named := by
  refine Program.asks_bind (Program.asks_perform (by trivial)) fun pages => ?_
  dsimp only
  split
  · trivial
  refine Program.asks_bind (startAll_named args _ _) fun dispatching => ?_
  split
  · trivial
  · exact Program.asks_bind (awaitAll_named _ _ _) fun _ => trivial

theorem party_named (party : Party) : party.program.AsksOnly ClientCall.Named := by
  cases party with
  | dispatches args => exact Program.asks_bind (convert_named args) fun _ => trivial
  | starts inp => exact Program.asks_bind (Program.asks_perform (by rfl)) fun _ => trivial
  | uploads bucket key =>
    exact Program.asks_bind (Program.asks_perform (by trivial)) fun _ => trivial
  | proceeds index event =>
    exact Program.asks_bind (Program.asks_perform (by trivial)) fun _ => trivial
  | terminates index =>
    exact Program.asks_bind (Program.asks_perform (by trivial)) fun _ => trivial

theorem tidy_begin (documents : List (Text × Text)) : Tidy ⟨documents, []⟩ where
  named _ member := absurd member List.not_mem_nil
  followed _ member := absurd member List.not_mem_nil
  succeeded _ _ _ _ _ found := by cases found

theorem parties_tidy
    (ran : (pooled serveClient parties ⟨documents, []⟩).run events = some pool) :
    Tidy pool.world := by
  refine pool_asking (tidy_begin documents) party_named ?_ ?_ ran
  · intro value program member
    cases member
  · intro world outcome call answer after named served tidy
    exact tidy_changed tidy named (serveClient_changed served)

/-! ### One run of a document at a time -/

/-- However dispatches, other starts, uploads, terminations and the workflows'
own progress interleave, every run is in a state of its own workflow, and a run
that is open is its document's last: all others have closed before it began. -/
theorem conversions_single {documents : List (Text × Text)}
    (ran : (pooled serveClient parties ⟨documents, []⟩).run events = some pool)
    {index : Nat} {run : ConversionRun} (found : pool.world.runs[index]? = some run) :
    (∃ events, (workflow run.env).run events = some run.state) ∧
      (run.conclusion? = none → ∀ (other : Nat) another, pool.world.runs[other]? = some another →
        another.env.inp.bucket = run.env.inp.bucket → another.env.inp.key = run.env.inp.key →
        other ≠ index → other < index ∧ another.conclusion? ≠ none) := by
  have tidy := parties_tidy ran
  refine ⟨tidy.followed run (List.mem_of_getElem? found), ?_⟩
  intro open' other another there bucket key distinct
  have same : another.workflowId = run.workflowId := by
    rw [tidy.named another (List.mem_of_getElem? there), bucket, key,
      tidy.named run (List.mem_of_getElem? found)]
  rcases Nat.lt_or_gt_of_ne distinct with earlier | later
  · exact ⟨earlier, tidy.succeeded other index another run earlier there found same⟩
  · exact absurd open' (tidy.succeeded index other run another later found there same.symm)

def plainWorker : Worker where
  settings := (plainEnv 300 2).settings
  uniform := (plainEnv 300 2).uniform
  jittered := (plainEnv 300 2).jittered

/-- A document's run is terminated, and the document started again. -/
def startedAgain : List (PoolEvent Party ClientOutcome) :=
  [.enters (.starts (plainEnv 300 2).inp), .moves 0 (.accepted plainWorker),
    .enters (.terminates 0), .moves 1 .served,
    .enters (.starts (plainEnv 300 2).inp), .moves 2 (.accepted plainWorker)]

/-- The first two runs are of one document, and the second one is open. -/
def reopened (pool : Pool Namespace Party ClientCall ClientCall.Answer ClientError Done) : Bool :=
  pool.world.runs[1]?.any fun run => run.conclusion?.isNone &&
    pool.world.runs[0]?.any fun another =>
      another.env.inp.bucket = run.env.inp.bucket ∧ another.env.inp.key = run.env.inp.key

theorem conversions_single_again :
    ∃ pool another, (pooled serveClient parties ⟨[], []⟩).run startedAgain = some pool ∧
      pool.world.runs[0]? = some another ∧ another.conclusion? ≠ none := by
  have goes : ((pooled serveClient parties ⟨[], []⟩).run startedAgain).any reopened = true := by
    decide +kernel
  obtain ⟨pool, ran, both⟩ := (Option.any_eq_true _ _).mp goes
  obtain ⟨run, found, shown⟩ := (Option.any_eq_true _ _).mp both
  obtain ⟨open', before⟩ := Bool.and_eq_true_iff.mp shown
  obtain ⟨another, there, same⟩ := (Option.any_eq_true _ _).mp before
  obtain ⟨bucket, key⟩ := of_decide_eq_true same
  exact ⟨pool, another, ran, there, ((conversions_single ran found).2
    (Option.isNone_iff_eq_none.mp open') 0 another there bucket key (by decide)).2⟩

end DoclingServeRay.Orchestration
