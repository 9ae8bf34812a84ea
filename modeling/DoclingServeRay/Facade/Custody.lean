import DoclingServeRay.Facade.Isolation

/-! What the facade keeps for a task it keeps until the task's result has been
fetched: in any interleaving, what disappears does so in a cleanup that follows
a fetch whose answer was rebuilt from the outputs it found, or by expiry of the
record. -/
namespace DoclingServeRay.Facade
open Strings EventMachine Calls

variable {codec : Codec} {settings : Settings} {passed : World → Prop}

/-- The object is below one of the request's two prefixes. -/
def BelowRequest (settings : Settings) (requestId : Text) (object : Text × Text) : Prop :=
  (object.1 = settings.s3InputBucket ∧ inputPrefix settings requestId <+: object.2) ∨
    (object.1 = settings.s3OutputBucket ∧ outputPrefix settings requestId <+: object.2)

/-! ### What a fetch answers with -/

/-- The keys below a prefix as they were listed at one moment, each with a
content that it has had at some moment, as far as its name says what it is. -/
structure ReadBack (passed : World → Prop) (bucket keyPrefix : Text)
    (objects : List (Text × Bytes)) : Prop where
  listed : ∃ world, passed world ∧ objects.map Prod.fst = world.list bucket keyPrefix
  contents : ∀ object ∈ objects, parseArtifactKey keyPrefix object.1 ≠ none →
    ∃ world, passed world ∧ world.objects.get? (bucket, object.1) = some object.2

/-- The answer is rebuilt for this record of the task from the outputs that were
read back, after docling-serve has said that something was converted. -/
structure Rebuilt (passed : World → Prop) (codec : Codec) (settings : Settings) (taskId : Text)
    (record : TaskRecord) (result : Resolved) : Prop where
  recorded : ∃ world, passed world ∧ world.records.get? (recordKey taskId) = some record
  built : ∃ (native : HttpResponse) (nativeResult : Json) (objects : List (Text × Bytes)),
    native.statusCode < 400 ∧ native.json.bind object? = some nativeResult ∧
      countsNothing nativeResult = false ∧
      ReadBack passed settings.s3OutputBucket (outputPrefix settings record.requestId) objects ∧
      reconstruct codec record nativeResult
        (groupArtifacts (outputPrefix settings record.requestId) .empty objects) = some result

/-- What a call can come to, in a world that is passed through. -/
def Serves (passed : World → Prop) (world : World) (call : Call)
    (answer : Except Raised call.Answer) (after : World) : Prop :=
  passed world ∧ ∃ outcome, serve world outcome call = some (answer, after)

theorem serve_listArtifacts
    (served : serve world outcome (.listArtifacts bucket keyPrefix) = some (.ok keys, after)) :
    keys = world.list bucket keyPrefix := by
  cases outcome with
  | served =>
    cases served
    rfl
  | _ => cases served

theorem resolvedFrom_rebuilt
    (resolved : ResolvedFrom (fun _ => True) (Serves passed) codec settings taskId
      ⟨result, some record⟩) : Rebuilt passed codec settings taskId record result := by
  cases resolved with
  | rebuilt recorded asked answered parsed converted listed read built =>
    obtain ⟨kept, _, _, way, _, served⟩ := recorded
    refine ⟨⟨kept, way, serve_redisGet served⟩, _, _, _, answered, parsed, converted, ?_, built⟩
    constructor
    · obtain ⟨world, _, _, way, _, served⟩ := listed
      exact ⟨world, way, read.keys.trans (serve_listArtifacts served)⟩
    · intro object member parses
      obtain ⟨world, _, _, way, _, served⟩ := read.contents object member parses
      exact ⟨world, way, serve_getObject served⟩

/-! ### Calls of each party -/

/-- Only expiry deletes, and only its record. -/
def Leaves (errand : Errand) (call : Call) : Prop :=
  call.deletes = true → ∃ taskId, errand = .expires taskId ∧ call = .redisDelete (recordKey taskId)

/-- Only a fetch ends with a resolution, and that is its own task's; where it
schedules a cleanup its answer is rebuilt. -/
def Resolves (passed : World → Prop) (codec : Codec) (settings : Settings) (errand : Errand)
    (finished : Finished) : Prop :=
  ∀ taskId resolution, finished = .resolved taskId resolution → errand = .fetches taskId ∧
    ∀ record, resolution.cleanup = some record →
      Rebuilt passed codec settings taskId record resolution.result

/-- A program that has come in from outside: no cleanup. -/
structure Outside (passed : World → Prop) (codec : Codec) (settings : Settings) (errand : Errand)
    (program : Operation Finished) : Prop where
  uncleaning : ∀ taskId, errand ≠ .cleans taskId
  leaves : program.AsksOnly (Leaves errand)
  resolves : program.Safe (fun _ => True) (Serves passed) (Resolves passed codec settings errand)

/-- The calls of a cleanup: it reads, and deletes what is below its prefixes and
its task's record. -/
inductive Cleans (settings : Settings) (taskId : Text) (record : TaskRecord) : Call → Prop where
  | reads (reads : call.reads = true) : Cleans settings taskId record call
  | objects (below : ∀ key ∈ keys, BelowRequest settings record.requestId (bucket, key)) :
      Cleans settings taskId record (.deleteObjects bucket keys)
  | record : Cleans settings taskId record (.redisDelete (recordKey taskId))

/-- A program that follows a resolution: the cleanup that it scheduled. -/
structure Follows (passed : World → Prop) (settings : Settings) (finished : Finished)
    (taskId : Text) (record : TaskRecord) (errand : Errand) (program : Operation Finished) :
    Prop where
  scheduled : ∃ result, finished = .resolved taskId ⟨result, some record⟩
  cleaning : errand = .cleans taskId
  confined : program.Confined (fun _ => True) (Serves passed) (Cleans settings taskId record)
    fun last => last = .ended

theorem reads_keep {call : Call} (reads : call.reads = true) : call.deletes = false := by
  cases call <;> first | rfl | cases reads

theorem fetchArtifacts_asks {asks : Call → Prop} (reads : ∀ call : Call, call.reads = true → asks call)
    (bucket keyPrefix : Text) (grouped : Grouped) (keys : List Text) :
    (fetchArtifacts bucket keyPrefix grouped keys).AsksOnly asks := by
  induction keys generalizing grouped with
  | nil => trivial
  | cons key keys ih =>
    unfold fetchArtifacts
    split
    · exact ih grouped
    · exact Program.asks_bind (Program.asks_perform (reads _ rfl)) fun content => ih _

/-- A fetch only reads. -/
theorem resolveResult_asks {asks : Call → Prop}
    (reads : ∀ call : Call, call.reads = true → asks call) (codec : Codec) (settings : Settings)
    (taskId : Text) (tenantId : Option Text) :
    (resolveResult codec settings taskId tenantId).AsksOnly asks := by
  apply Program.asks_mapError
  refine Program.asks_bind (Program.asks_perform (reads _ rfl)) fun raw => ?_
  cases raw with
  | none => exact Program.asks_bind (Program.asks_perform (reads _ rfl)) fun _ => trivial
  | some record =>
    refine Program.asks_bind (Program.asks_perform (reads _ rfl)) fun native => ?_
    split
    · trivial
    refine Program.asks_bind (asks_orRaise asks _) fun nativeResult => ?_
    split
    · trivial
    refine Program.asks_bind ?_ fun grouped => ?_
    · exact Program.asks_bind (Program.asks_perform (reads _ rfl)) fun keys =>
        fetchArtifacts_asks reads _ _ _ _
    · exact Program.asks_bind (asks_orRaise asks _) fun _ => trivial

theorem writeOutputs_asks {asks : Call → Prop}
    (uploads : ∀ bucket key file, asks (.uploadFileobj bucket key file)) (settings : Settings)
    (request : RequestId) (outputs : List (Text × Bytes)) :
    (writeOutputs settings request outputs).AsksOnly asks := by
  induction outputs with
  | nil => trivial
  | cons output outputs ih =>
    exact Program.asks_bind (Program.asks_perform (uploads _ _ _)) fun _ => ih

theorem arrival_outside (passed : World → Prop) (codec : Codec) (settings : Settings)
    (arrival : Arrival) :
    Outside passed codec settings arrival.errand (arrival.program codec settings) := by
  cases arrival with
  | submit request files options asZip tenantId =>
    refine ⟨nofun, ?_, Program.safe_last fun _ => nofun⟩
    refine Program.asks_bind ?_ fun _ => trivial
    exact submit_asks_only (fun _ _ _ => nofun) (fun _ _ _ => nofun) (fun _ _ _ _ => nofun) codec
      settings request.id files asZip tenantId
  | fetch taskId tenantId =>
    refine ⟨nofun, ?_, ?_⟩
    · refine Program.asks_bind (resolveResult_asks ?_ codec settings taskId tenantId)
        fun _ => trivial
      intro call reads deletes
      rw [reads_keep reads] at deletes
      cases deletes
    · refine Program.safe_bind (resolveResult_from (fun _ _ _ _ _ _ _ => trivial) codec settings
        taskId tenantId) ?_
      rintro ⟨result, cleanup⟩ resolved other _ ⟨⟩
      refine ⟨rfl, ?_⟩
      rintro record rfl
      exact resolvedFrom_rebuilt resolved
  | convert request outputs =>
    refine ⟨nofun, ?_, Program.safe_last fun _ => nofun⟩
    exact Program.asks_bind (writeOutputs_asks (fun _ _ _ => nofun) settings request outputs)
      fun _ => trivial
  | expire taskId =>
    refine ⟨nofun, ?_, Program.safe_last fun _ => nofun⟩
    exact Program.asks_bind (Program.asks_perform fun _ => ⟨taskId, rfl, rfl⟩) fun _ => trivial

theorem deleteBelow_cleans (taskId : Text) (record : TaskRecord) (bucket keyPrefix : Text)
    (below : ∀ key, keyPrefix <+: key → BelowRequest settings record.requestId (bucket, key)) :
    (deleteBelow bucket keyPrefix).Confined (fun _ => True) (Serves passed)
      (Cleans settings taskId record) fun _ => True := by
  refine Program.confined_bind (Program.confined_perform (Call.listArtifacts bucket keyPrefix)
    (fun keys : List Text => ∀ key ∈ keys, keyPrefix <+: key) (.reads rfl) ?_) ?_
  · rintro world answer after _ ⟨_, outcome, served⟩
    refine ⟨trivial, ?_⟩
    rintro keys rfl key member
    rw [serve_listArtifacts served] at member
    exact ((mem_list key).mp member).2
  · intro keys listed
    by_cases nothing : keys = []
    · rw [if_neg (not_not.mpr nothing)]
      trivial
    · rw [if_pos nothing]
      refine Program.confined_perform (Call.deleteObjects bucket keys) (fun _ => True)
        (.objects fun key member => below key (listed key member)) ?_
      exact fun _ _ _ _ _ => ⟨trivial, fun _ _ => trivial⟩

theorem cleaning_confined (settings : Settings) (taskId : Text) (record : TaskRecord) :
    (cleaning settings taskId record).Confined (fun _ => True) (Serves passed)
      (Cleans settings taskId record) fun last => last = .ended := by
  have cleaned : (do
      deleteBelow settings.s3InputBucket (inputPrefix settings record.requestId)
      deleteBelow settings.s3OutputBucket (outputPrefix settings record.requestId)
      Program.perform (Call.redisDelete (recordKey taskId))).Confined (fun _ => True)
      (Serves passed) (Cleans settings taskId record) fun _ => True := by
    refine Program.confined_bind (deleteBelow_cleans taskId record _ _ ?_) fun _ _ => ?_
    · exact fun key below => Or.inl ⟨rfl, below⟩
    refine Program.confined_bind (deleteBelow_cleans taskId record _ _ ?_) fun _ _ => ?_
    · exact fun key below => Or.inr ⟨rfl, below⟩
    exact Program.confined_perform (Call.redisDelete (recordKey taskId)) (fun _ => True) .record
      fun _ _ _ _ _ => ⟨trivial, fun _ _ => trivial⟩
  have caught : (cleanupTaskStorage settings taskId record).Confined (fun _ => True)
      (Serves passed) (Cleans settings taskId record) fun _ => True :=
    Program.confined_bind (Program.confined_attempt cleaned) fun _ _ => trivial
  exact Program.confined_bind caught fun _ _ => rfl

/-! ### In any interleaving -/

section Traffic

variable {start : World} {events rest : List (PoolEvent Arrival Outcome)}

/-- A fetch of the task has ended with an answer that is rebuilt for this record,
and has scheduled the cleanup. -/
def Fetched (passed : World → Prop) (codec : Codec) (settings : Settings)
    (pool : Pool World Errand Call Call.Answer Raised Finished) (taskId : Text)
    (record : TaskRecord) : Prop :=
  ∃ result, (Errand.fetches taskId, Program.done (.resolved taskId ⟨result, some record⟩)) ∈
      pool.programs ∧ Rebuilt passed codec settings taskId record result

theorem fetched_step (stepped : (pooled serve (traffic codec settings) start).step pool event =
      some next) (fetched : Fetched passed codec settings pool taskId record) :
    Fetched passed codec settings next taskId record := by
  obtain ⟨result, ended, rebuilt⟩ := fetched
  exact ⟨result, pool_done_step stepped ended, rebuilt⟩

theorem fetched_run (onward : (pooled serve (traffic codec settings) start).runFrom pool events =
      some next) (fetched : Fetched passed codec settings pool taskId record) :
    Fetched passed codec settings next taskId record := by
  obtain ⟨result, ended, rebuilt⟩ := fetched
  exact ⟨result, pool_done_run onward ended, rebuilt⟩

/-- Every program has come in from outside, or is the cleanup of a task whose
result was fetched before. -/
theorem traffic_lineage (ran : (pooled serve (traffic codec settings) start).run events = some pool)
    (way : ∀ world, OnTheWay (pooled serve (traffic codec settings) start) ⟨start, []⟩ events world →
      passed world)
    (member : (errand, program) ∈ pool.programs) :
    Outside passed codec settings errand program ∨ ∃ taskId record,
      Fetched passed codec settings pool taskId record ∧ errand = .cleans taskId ∧
        program.Confined (fun _ => True) (Serves passed) (Cleans settings taskId record)
          fun last => last = .ended := by
  have lineage := pool_lineage (Outside passed codec settings) (fun finished errand program =>
      ∃ taskId record, Follows passed settings finished taskId record errand program)
    (arrival_outside passed codec settings) ?_ ?_ ?_ ran way
  · rcases lineage _ member with outside | ⟨role, finished, ended, taskId, record, follows⟩
    · exact Or.inl outside
    · obtain ⟨⟨result, rfl⟩, cleaning, confined⟩ := follows
      refine Or.inr ⟨taskId, record, ?_, cleaning, confined⟩
      -- What ended with a resolution was a fetch of the same task.
      rcases lineage _ ended with outside | ⟨_, other, _, _, _, follows⟩
      · obtain ⟨rfl, rebuilt⟩ := outside.resolves taskId ⟨result, some record⟩ rfl
        exact ⟨result, ended, rebuilt record rfl⟩
      · cases follows.confined
  · intro finished program member
    cases finished with
    | ended => cases member
    | resolved taskId resolution =>
      obtain ⟨result, scheduled⟩ := resolution
      cases scheduled with
      | none => cases member
      | some record =>
        rw [List.mem_singleton.mp member]
        exact ⟨taskId, record, ⟨result, rfl⟩, rfl, cleaning_confined settings taskId record⟩
  · rintro errand call next world outcome answer after here ⟨uncleaning, leaves, resolves⟩ served
    exact ⟨uncleaning, leaves.2 answer,
      (resolves world answer after trivial ⟨here, outcome, served⟩).2⟩
  · rintro finished errand call next world outcome answer after here ⟨taskId, record, follows⟩ served
    obtain ⟨scheduled, cleaning, confined⟩ := follows
    exact ⟨taskId, record, scheduled, cleaning,
      (confined.2 world answer after trivial ⟨here, outcome, served⟩).2⟩

/-- What is there in the first pool and not in the later one has been fetched by
then, or is a record that has been expiring. -/
structure Kept (passed : World → Prop) (codec : Codec) (settings : Settings)
    (pool later : Pool World Errand Call Call.Answer Raised Finished) : Prop where
  objects : ∀ object, pool.world.objects.get? object ≠ none →
    later.world.objects.get? object = none →
    ∃ taskId record, Fetched passed codec settings later taskId record ∧
      BelowRequest settings record.requestId object
  records : ∀ key, pool.world.records.get? key ≠ none → later.world.records.get? key = none →
    ∃ taskId, key = recordKey taskId ∧
      ((∃ record, Fetched passed codec settings later taskId record) ∨
        ∃ program, (Errand.expires taskId, program) ∈ later.programs)

theorem kept_step (ran : (pooled serve (traffic codec settings) start).run events = some pool)
    (way : ∀ world, OnTheWay (pooled serve (traffic codec settings) start) ⟨start, []⟩ events world →
      passed world)
    (stepped : (pooled serve (traffic codec settings) start).step pool event = some next) :
    Kept passed codec settings pool next := by
  cases event with
  | enters arrival =>
    cases stepped
    exact ⟨fun _ present gone => absurd gone present, fun _ present gone => absurd gone present⟩
  | moves index outcome =>
    obtain ⟨errand, call, onward, answer, after, found, served, shape⟩ := pool_moves stepped
    obtain rfl : next.world = after := congrArg Pool.world shape
    have member := List.mem_of_getElem? found
    have lineage := traffic_lineage ran way member
    constructor
    · rintro ⟨bucket, key⟩ present gone
      rcases serve_objects served bucket key with same | ⟨keys, rfl, listed, _⟩ | ⟨file, rfl⟩
      · exact absurd (same ▸ gone) present
      · rcases lineage with outside | ⟨taskId, record, fetched, _, confined⟩
        · obtain ⟨_, _, same⟩ := outside.leaves.1 rfl
          cases same
        · refine ⟨taskId, record, fetched_step stepped fetched, ?_⟩
          cases confined.1 with
          | reads reads => cases reads
          | objects below => exact below key listed
      · rcases serve_uploadFileobj served with same | same
        · exact absurd (same ▸ gone) present
        · rw [same, OrderedDict.get?_set, if_pos rfl] at gone
          cases gone
    · intro key present gone
      rcases serve_records served key with same | ⟨rfl, _⟩ | ⟨written, _, _, held⟩
      · exact absurd (same ▸ gone) present
      · rcases lineage with outside | ⟨taskId, record, fetched, _, confined⟩
        · obtain ⟨taskId, rfl, same⟩ := outside.leaves.1 rfl
          cases same
          exact ⟨taskId, rfl, Or.inr (pool_role_step stepped ⟨_, member⟩)⟩
        · refine ⟨taskId, ?_, Or.inl ⟨record, fetched_step stepped fetched⟩⟩
          cases confined.1 with
          | reads reads => cases reads
          | record => rfl
      · rw [gone] at held
        cases held

theorem kept_run (ran : (pooled serve (traffic codec settings) start).run events = some pool)
    (way : ∀ world, OnTheWay (pooled serve (traffic codec settings) start) ⟨start, []⟩
      (events ++ rest) world → passed world)
    (onward : (pooled serve (traffic codec settings) start).runFrom pool rest = some later) :
    Kept passed codec settings pool later := by
  induction rest generalizing events pool with
  | nil =>
    cases onward
    exact ⟨fun _ present gone => absurd gone present, fun _ present gone => absurd gone present⟩
  | cons event rest ih =>
    obtain ⟨next, stepped, finished⟩ := Machine.runFrom_cons.mp onward
    have first := kept_step ran (fun world early => way world (onTheWay_append early)) stepped
    rw [List.append_cons] at way
    have after := ih (Machine.run_snoc.mpr ⟨pool, ran, stepped⟩) way finished
    constructor
    · intro object present gone
      by_cases still : next.world.objects.get? object = none
      · obtain ⟨taskId, record, fetched, below⟩ := first.objects object present still
        exact ⟨taskId, record, fetched_run finished fetched, below⟩
      · exact after.objects object still gone
    · intro key present gone
      by_cases still : next.world.records.get? key = none
      · obtain ⟨taskId, named, cause⟩ := first.records key present still
        refine ⟨taskId, named, ?_⟩
        rcases cause with ⟨record, fetched⟩ | expiring
        · exact Or.inl ⟨record, fetched_run finished fetched⟩
        · exact Or.inr (pool_role_run finished expiring)
      · exact after.records key still gone

/-- Along any interleaving of submissions, conversions, fetches, cleanups and
expiries: an object disappears only after a fetch whose answer was rebuilt, from
outputs listed and read back on the way, for a record of the request that the
object belongs to, and a task's record only after such a fetch of that task, or by
expiry. -/
theorem kept_until_fetched
    (ran : (pooled serve (traffic codec settings) start).run events = some pool)
    (onward : (pooled serve (traffic codec settings) start).runFrom pool rest = some later) :
    Kept (OnTheWay (pooled serve (traffic codec settings) start) ⟨start, []⟩ (events ++ rest)) codec
      settings pool later :=
  kept_run ran (fun _ way => way) onward

end Traffic

theorem kept_until_fetched_report :
    ∃ later taskId record,
      (pooled serve (traffic asciiCodec {}) sharedWorld).run (cleanedUp ++ [.moves 1 .served]) =
        some later ∧
      Fetched (OnTheWay (pooled serve (traffic asciiCodec {}) sharedWorld) ⟨sharedWorld, []⟩
        (cleanedUp ++ [.moves 1 .served])) asciiCodec {} later taskId record ∧
      BelowRequest {} record.requestId
        ("docling-output".toList, "facade-results/r/h/report.md".toList) := by
  have removed : ((pooled serve (traffic asciiCodec {}) sharedWorld).run
      (cleanedUp ++ [.moves 1 .served])).any (fun later => later.world.objects.get?
        ("docling-output".toList, "facade-results/r/h/report.md".toList) = none) = true := by
    decide +kernel
  obtain ⟨later, ran, gone⟩ := (Option.any_eq_true _ _).mp removed
  have present : sharedWorld.objects.get?
      ("docling-output".toList, "facade-results/r/h/report.md".toList) ≠ none := by
    decide +kernel
  have begins : (pooled serve (traffic asciiCodec {}) sharedWorld).run [] = some ⟨sharedWorld, []⟩ :=
    rfl
  obtain ⟨taskId, record, fetched, below⟩ :=
    (kept_until_fetched begins ran).objects _ present (of_decide_eq_true gone)
  exact ⟨later, taskId, record, ran, fetched, below⟩

end DoclingServeRay.Facade
