import DoclingServeRay.Facade.Undelivered

/-! Single-use delivery: any number of fetches of one task's result, and the
cleanups that they schedule, interleaved call by call. -/
namespace DoclingServeRay.Facade
open Strings EventMachine Calls

/-! ### The programs -/

inductive Role where
  | reader
  | cleanup
  deriving DecidableEq

/-- What a program of the pool ends with. -/
inductive Ended where
  | answered (reply : Reply) (cleanup : Option TaskRecord)
  | cleaned

/-- `get_result`: the answer, and the background task that follows it. -/
def getResult (codec : Codec) (settings : Settings) (taskId : Text) (tenantId : Option Text) :
    Operation Ended := do
  let resolution ← resolveResult codec settings taskId tenantId
  pure (.answered (finishResult resolution.result) resolution.cleanup)

def cleanup (settings : Settings) (taskId : Text) (record : TaskRecord) : Operation Ended := do
  let _ ← cleanupTaskStorage settings taskId record
  pure .cleaned

/-- Requests come in with a tenant each, and a cleanup follows the answer that
scheduled it. -/
def deliveries (codec : Codec) (settings : Settings) (taskId : Text) :
    Spawning (Option Text) Role Call Call.Answer Raised Ended where
  entering tenantId := (.reader, getResult codec settings taskId tenantId)
  following
    | .answered _ (some record) => [(.cleanup, cleanup settings taskId record)]
    | _ => []

/-! ### The world only shrinks -/

/-- Objects and records disappear, and none changes or appears. -/
structure Shrunk (original world : World) : Prop where
  objects : ∀ key body, world.objects.get? key = some body →
    original.objects.get? key = some body
  records : ∀ key record, world.records.get? key = some record →
    original.records.get? key = some record

theorem shrunk_deleteKeys (shrunk : Shrunk original world) (bucket : Text) (keys : List Text) :
    Shrunk original (world.deleteKeys bucket keys) where
  objects := by
    intro key body present
    rw [get?_deleteKeys] at present
    split at present
    · cases present
    · exact shrunk.objects key body present
  records := shrunk.records

theorem shrunk_deleteRecord (shrunk : Shrunk original world) (deleted : Text) :
    Shrunk original (world.deleteRecord deleted) where
  objects := shrunk.objects
  records := by
    intro key record present
    rw [get?_deleteRecord] at present
    split at present
    · cases present
    · exact shrunk.records key record present

/-- The calls of a cleanup. -/
def Call.deletes : Call → Bool
  | .redisDelete _ => true
  | .deleteObjects _ _ => true
  | _ => false

theorem serve_deletes {call : Call} {answer : Except Raised call.Answer}
    (deletes : call.deletes = true) (shrunk : Shrunk original world)
    (served : serve world outcome call = some (answer, after)) : Shrunk original after := by
  cases call with
  | redisDelete key =>
    rcases serve_redisDelete served with rfl | rfl
    · exact shrunk
    · exact shrunk_deleteRecord shrunk key
  | deleteObjects bucket keys =>
    rcases serve_deleteObjects served with rfl | ⟨gone, _, rfl⟩
    · exact shrunk
    · exact shrunk_deleteKeys shrunk bucket gone
  | _ => cases deletes

section Cleanup

variable {original : World} {permits : Role → World → Outcome → Call → Prop} {role : Role}

theorem deleteBelow_safe (bucket keyPrefix : Text) :
    (deleteBelow bucket keyPrefix).Safe (Shrunk original) (Permitted serve permits role)
      fun _ => True := by
  refine Program.safe_bind (Program.safe_perform (Call.listArtifacts bucket keyPrefix)
    (fun _ => True) ?_) ?_
  · rintro world answer after shrunk ⟨outcome, _, served⟩
    rw [serve_reads rfl served]
    exact ⟨shrunk, fun _ _ => trivial⟩
  · intro keys _
    by_cases nothing : keys = []
    · rw [if_neg (not_not.mpr nothing)]
      trivial
    · rw [if_pos nothing]
      refine Program.safe_perform (Call.deleteObjects bucket keys) (fun _ => True) ?_
      rintro world answer after shrunk ⟨outcome, _, served⟩
      exact ⟨serve_deletes rfl shrunk served, fun _ _ => trivial⟩

/-- A cleanup only deletes, wherever it stops. -/
theorem cleanupTaskStorage_safe (settings : Settings) (taskId : Text) (record : TaskRecord) :
    (cleanupTaskStorage settings taskId record).Safe (Shrunk original)
      (Permitted serve permits role) fun _ => True := by
  have removes : (Program.perform (Call.redisDelete (recordKey taskId))).Safe (Shrunk original)
      (Permitted serve permits role) fun _ => True := by
    refine Program.safe_perform (Call.redisDelete (recordKey taskId)) (fun _ => True) ?_
    rintro world answer after shrunk ⟨outcome, _, served⟩
    exact ⟨serve_deletes rfl shrunk served, fun _ _ => trivial⟩
  have cleans := Program.safe_bind (@deleteBelow_safe original permits role settings.s3InputBucket
      (inputPrefix settings record.requestId)) fun _ _ =>
    Program.safe_bind (deleteBelow_safe settings.s3OutputBucket
      (outputPrefix settings record.requestId)) fun _ _ => removes
  exact Program.safe_bind (Program.safe_attempt cleans) fun _ _ => trivial

theorem cleanup_safe (settings : Settings) (taskId : Text) (record : TaskRecord) :
    (cleanup settings taskId record).Safe (Shrunk original) (Permitted serve permits role)
      fun ended => ended = .cleaned :=
  Program.safe_bind (cleanupTaskStorage_safe settings taskId record) fun _ _ => rfl

end Cleanup

/-! ### Complete answers -/

/-- The objects are those of the record's documents: every key parses to the
stem of an uploaded name, no two to the same stem and field, and every uploaded
name has one. -/
structure Named (record : TaskRecord) (keyPrefix : Text) (objects : List (Text × Bytes)) : Prop where
  parsed : ∀ object ∈ objects, ∃ parsed, parseArtifactKey keyPrefix object.1 = some parsed ∧
    parsed.stem ∈ record.filenames.map stemOf
  apart : ∀ first ∈ objects, ∀ second ∈ objects, ∀ stem field,
    Occupies keyPrefix stem field first.1 → Occupies keyPrefix stem field second.1 →
      first.1 = second.1
  converted : ∀ filename ∈ record.filenames, ∃ object ∈ objects, ∃ field,
    Occupies keyPrefix (stemOf filename) field object.1

/-- The answer has every object under its own name, and reports no document as
failed. -/
def Reply.Complete (codec : Codec) (keyPrefix : Text) (objects : List (Text × Bytes))
    (reply : Reply) : Prop :=
  match reply.body with
  | .bytes _ => False
  | .document response => response.status = "success".toList ∧ ∀ object ∈ objects,
      ∃ parsed content, parseArtifactKey keyPrefix object.1 = some parsed ∧
        response.document.fields.get? parsed.field = some content ∧
        fieldValue codec parsed.field object.2 = some content
  | .archive content => (∀ object ∈ objects, ∃ parsed,
        parseArtifactKey keyPrefix object.1 = some parsed ∧
        (parsed.stem ++ parsed.ext, .artifact object.2) ∈ content) ∧
      ∀ name statuses, (name, .manifest statuses) ∈ content →
        ∀ document ∈ statuses, document.status = "success".toList

section Completeness

variable {record : TaskRecord} {keyPrefix : Text} {objects : List (Text × Bytes)}

theorem slot_named (named : Named record keyPrefix objects)
    (ordered : objects.Pairwise fun first second => first.1 < second.1)
    (member : object ∈ objects) (read : parseArtifactKey keyPrefix object.1 = some parsed) :
    (groupArtifacts keyPrefix .empty objects).slot parsed.stem parsed.field =
      some (parsed.ext, object.2) := by
  rw [slot_groupArtifacts ordered]
  refine ⟨object.1, member, read, ?_⟩
  intro later listed after occupied
  have same := named.apart object member later listed parsed.stem parsed.field
    ⟨parsed.ext, read⟩ occupied
  exact absurd (same ▸ after) (lt_irrefl _)

/-- Every uploaded name has something under its stem. -/
theorem stem_named (named : Named record keyPrefix objects)
    (ordered : objects.Pairwise fun first second => first.1 < second.1)
    (uploaded : filename ∈ record.filenames) :
    (((groupArtifacts keyPrefix .empty objects).get? (stemOf filename)).getD
      .empty).entries.isEmpty = false := by
  obtain ⟨object, member, field, ext, read⟩ := named.converted filename uploaded
  have filled := slot_named named ordered member read
  rw [← slot_eq, ← OrderedDict.mem_entries_iff] at filled
  exact List.isEmpty_eq_false_iff_exists_mem.mpr ⟨_, filled⟩

theorem status_success {document : ZipDocument}
    (filled : document.artifactsByField.entries.isEmpty = false) :
    document.status.status = "success".toList := by
  simp [ZipDocument.status, filled]

/-- A reconstruction from all of a task's objects is complete. -/
theorem reconstruct_complete (named : Named record keyPrefix objects)
    (ordered : objects.Pairwise fun first second => first.1 < second.1)
    (built : reconstruct codec record nativeResult (groupArtifacts keyPrefix .empty objects) =
      some result) : (finishResult result).Complete codec keyPrefix objects := by
  unfold reconstruct at built
  by_cases zipped : record.zipped = true
  · rw [if_pos zipped] at built
    cases built
    refine ⟨?_, ?_⟩
    · intro object member
      obtain ⟨parsed, read, known⟩ := named.parsed object member
      obtain ⟨filename, uploaded, stem⟩ := List.mem_map.mp known
      refine ⟨parsed, read, (mem_zipArchive _ _).mpr ⟨_, List.mem_map.mpr ⟨filename, uploaded, rfl⟩,
        (mem_zipEntries _ _).mpr ⟨parsed.field, parsed.ext, ?_, ?_⟩⟩⟩
      · rw [slot_eq, stem, slot_named named ordered member read]
      · rw [stem]
    · intro name statuses written document reported
      have manifest := (mem_manifest name statuses).mp written
      rw [manifest.2, zipDocuments, List.map_map, List.mem_map] at reported
      obtain ⟨filename, uploaded, rfl⟩ := reported
      exact status_success (stem_named named ordered uploaded)
  · rw [if_neg zipped] at built
    obtain ⟨filename, first, built⟩ := Option.bind_eq_some_iff.mp built
    obtain ⟨document, made, built⟩ := Option.bind_eq_some_iff.mp built
    obtain ⟨time, _, built⟩ := Option.bind_eq_some_iff.mp built
    cases built
    refine ⟨rfl, ?_⟩
    intro object member
    obtain ⟨parsed, read, known⟩ := named.parsed object member
    have stem : stemOf filename = parsed.stem := by
      rw [single_name zipped first, List.map_singleton, List.mem_singleton] at known
      exact known.symm
    have filled := slot_named named ordered member read
    rw [← slot_eq, ← stem] at filled
    obtain ⟨content, reads⟩ := document_value made filled
    refine ⟨parsed, content, read, ?_, reads⟩
    rw [(document_field made parsed.field).2, filled]
    exact reads

end Completeness

/-! ### Deliveries -/

/-- A reader makes a listing only while everything it should list is there. -/
def listsWhole (original : World) (role : Role) (world : World) (_outcome : Outcome) (call : Call) :
    Bool :=
  match role, call with
  | .reader, .listArtifacts bucket keyPrefix =>
    (original.list bucket keyPrefix).all fun key => key ∈ world.list bucket keyPrefix
  | _, _ => true

/-- In this run, no reader lists after an object was removed. -/
def ListsWhole (codec : Codec) (settings : Settings) (taskId : Text) (original : World)
    (events : List (PoolEvent (Option Text) Outcome)) : Prop :=
  Respects serve (deliveries codec settings taskId) original
    (fun role world outcome call => listsWhole original role world outcome call = true) events

section Deliveries

variable {original : World} {settings : Settings} {taskId : Text} {record : TaskRecord}
  {docling : HttpResponse → Prop}

/-- What a reader's calls may do in a run where readers list in time. -/
def readerPermits (original : World) (docling : HttpResponse → Prop) (role : Role) (world : World)
    (outcome : Outcome) (call : Call) : Prop :=
  listsWhole original role world outcome call = true ∧
    ∀ response, outcome = .responded response → docling response

theorem readers_attentive (recorded : original.records.get? (recordKey taskId) = some record) :
    Attentive original docling settings taskId record (Shrunk original)
      (Permitted serve (readerPermits original docling) .reader) where
  served := by
    rintro world call answer after ⟨outcome, _, served⟩
    exact ⟨outcome, served⟩
  unchanged := fun world shrunk => shrunk.objects
  recorded := by
    intro world shrunk other present
    have found := shrunk.records _ other present
    rw [recorded] at found
    exact (Option.some.inj found).symm
  listed := by
    rintro world shrunk keys after ⟨outcome, ⟨whole, _⟩, served⟩
    have listing : keys = world.list settings.s3OutputBucket
        (outputPrefix settings record.requestId) := by
      cases outcome <;> cases served
      rfl
    rw [listing]
    refine list_congr fun key => ⟨?_, ?_⟩
    · intro member
      obtain ⟨⟨body, present⟩, below⟩ := (mem_list key).mp member
      exact (mem_list key).mpr ⟨⟨body, shrunk.objects _ body present⟩, below⟩
    · intro member
      exact of_decide_eq_true (List.all_eq_true.mp whole key member)
  asked := by
    rintro world headers response after ⟨outcome, ⟨_, told⟩, served⟩
    cases outcome with
    | responded other =>
      cases served
      exact told _ rfl
    | _ => cases served

/-- Whatever the interleaving and wherever cleanups stop: when the objects are
named as the documents are and no reader lists late, every answer is
docling-serve's own or carries everything. -/
theorem deliveries_complete (recorded : original.records.get? (recordKey taskId) = some record)
    (named : Named record (outputPrefix settings record.requestId)
      (original.below settings.s3OutputBucket (outputPrefix settings record.requestId)))
    (whole : ListsWhole codec settings taskId original events)
    (ran : (pooled serve (deliveries codec settings taskId) original).run events = some pool)
    (answered : (role, .done (.answered reply scheduled)) ∈ pool.programs) :
    (∃ index response, .moves index (.responded response) ∈ events ∧
      reply = finishResult (.passthrough response)) ∨
    reply.Complete codec (outputPrefix settings record.requestId)
      (original.below settings.s3OutputBucket (outputPrefix settings record.requestId)) := by
  let docling response := ∃ index, PoolEvent.moves index (Outcome.responded response) ∈ events
  let right (ended : Ended) : Prop := ∀ reply scheduled, ended = .answered reply scheduled →
    (∃ response, docling response ∧ reply = finishResult (.passthrough response)) ∨
      reply.Complete codec (outputPrefix settings record.requestId)
        (original.below settings.s3OutputBucket (outputPrefix settings record.requestId))
  have reader : ∀ tenantId, (getResult codec settings taskId tenantId).Safe (Shrunk original)
      (Permitted serve (readerPermits original docling) .reader) right := by
    intro tenantId
    refine Program.safe_bind (resolveResult_safe (readers_attentive recorded) codec tenantId) ?_
    rintro resolution (⟨response, told, rfl⟩ | ⟨nativeResult, result, built, rfl⟩)
    · rintro reply scheduled ⟨⟩
      exact Or.inl ⟨response, told, rfl⟩
    · rintro reply scheduled ⟨⟩
      exact Or.inr (reconstruct_complete named below_ordered built)
  have respects : Respects serve (deliveries codec settings taskId) original
      (readerPermits original docling) events := by
    intro before event after occurs
    have timely := whole before event after occurs
    cases event with
    | enters tenantId => trivial
    | moves index outcome =>
      intro role request rest found
      refine ⟨timely role request rest found, ?_⟩
      rintro response rfl
      exact ⟨index, Machine.occurs_mem occurs⟩
  obtain ⟨_, safe⟩ := pool_safe ⟨fun _ _ present => present, fun _ _ present => present⟩ reader
    (by
      intro ended _ program member
      cases ended with
      | cleaned => cases member
      | answered reply scheduled =>
        cases scheduled with
        | none => cases member
        | some other =>
          rw [List.mem_singleton.mp member]
          refine Program.safe_weaken (cleanup_safe settings taskId other) ?_
          rintro _ rfl reply scheduled ⟨⟩)
    respects ran
  rcases safe _ answered reply scheduled rfl with ⟨response, ⟨index, asked⟩, same⟩ | complete
  · exact Or.inl ⟨index, response, asked, same⟩
  · exact Or.inr complete

end Deliveries

/-! ### One file in Markdown -/

def plainRecord : TaskRecord where
  requestId := "r".toList
  tenantId := none
  filenames := ["report.pdf".toList]
  toFormats := ["md".toList]
  asZip := false

def plainWorld : World := taskWorld plainRecord [("h/report.md", [109])]

theorem plain_below : plainWorld.below "docling-output".toList
    (outputPrefix {} plainRecord.requestId) =
      [("facade-results/r/h/report.md".toList, [109])] := by decide +kernel

theorem plain_parsed : parseArtifactKey (outputPrefix {} plainRecord.requestId)
    "facade-results/r/h/report.md".toList = some ⟨".md".toList, .mdContent, "report".toList⟩ := by
  decide +kernel

theorem plain_named : Named plainRecord (outputPrefix {} plainRecord.requestId)
    (plainWorld.below "docling-output".toList (outputPrefix {} plainRecord.requestId)) := by
  rw [plain_below]
  constructor
  · intro object member
    obtain rfl := List.mem_singleton.mp member
    exact ⟨_, plain_parsed, by decide⟩
  · intro first one second other stem field _ _
    rw [List.mem_singleton.mp one, List.mem_singleton.mp other]
  · intro filename uploaded
    obtain rfl := List.mem_singleton.mp uploaded
    exact ⟨_, List.mem_singleton_self _, .mdContent, ".md".toList, plain_parsed⟩

/-- Two requests fetch the one artifact. The cleanup after the first one starts
before the second one has read it, and deletes it afterwards. -/
def overlapping : List (PoolEvent (Option Text) Outcome) :=
  [.enters none, .enters none, .moves 0 .served, .moves 1 .served, .moves 0 (converted 1),
    .moves 0 .served, .moves 1 (converted 1), .moves 1 .served, .moves 0 .served, .moves 2 .served,
    .moves 2 .served, .moves 1 .served, .moves 2 .served, .moves 2 .served]

/-- Both readers were answered with a document, and the record is gone. -/
def bothAnswered (pool : Pool World Role Call Call.Answer Raised Ended) : Bool :=
  pool.world.records.get? (recordKey "t".toList) = none &&
  match pool.programs with
  | [(.reader, .done (.answered ⟨_, _, _, .document _⟩ _)),
      (.reader, .done (.answered ⟨_, _, _, .document _⟩ _)), _, _] => true
  | _ => false

theorem deliveries_complete_twice :
    ∃ pool first second, (pooled serve (deliveries asciiCodec {} "t".toList) plainWorld).run
        overlapping = some pool ∧ pool.world.records.get? (recordKey "t".toList) = none ∧
      pool.programs[0]? = some (.reader, .done first) ∧
      pool.programs[1]? = some (.reader, .done second) ∧
      ∀ ended, ended = first ∨ ended = second → ∃ reply scheduled,
        ended = .answered reply scheduled ∧
        reply.Complete asciiCodec (outputPrefix {} plainRecord.requestId)
          (plainWorld.below "docling-output".toList (outputPrefix {} plainRecord.requestId)) := by
  have goes : ((pooled serve (deliveries asciiCodec {} "t".toList) plainWorld).run overlapping).any
      bothAnswered = true := by decide +kernel
  obtain ⟨pool, ran, shape⟩ := (Option.any_eq_true _ _).mp goes
  have whole : ListsWhole asciiCodec {} "t".toList plainWorld overlapping :=
    respects_of_check (by decide +kernel)
  have complete : ∀ status mediaType headers response scheduled,
      (Role.reader, Program.done (Ended.answered ⟨status, mediaType, headers, .document response⟩
        scheduled)) ∈ pool.programs →
      Reply.Complete asciiCodec (outputPrefix {} plainRecord.requestId)
        (plainWorld.below "docling-output".toList (outputPrefix {} plainRecord.requestId))
        ⟨status, mediaType, headers, .document response⟩ := by
    intro status mediaType headers response scheduled answered
    rcases @deliveries_complete plainWorld {} "t".toList plainRecord _ _ _ _ _ _ (by decide +kernel)
      plain_named whole ran answered with ⟨index, native, _, same⟩ | complete
    · cases same
    · exact complete
  unfold bothAnswered at shape
  obtain ⟨gone, shape⟩ := Bool.and_eq_true_iff.mp shape
  split at shape
  · rename_i ended
    rw [ended] at complete
    refine ⟨pool, _, _, ran, of_decide_eq_true gone, congrArg (·[0]?) ended,
      congrArg (·[1]?) ended, ?_⟩
    rintro _ (rfl | rfl)
    · exact ⟨_, _, rfl, complete _ _ _ _ _ List.mem_cons_self⟩
    · exact ⟨_, _, rfl, complete _ _ _ _ _ (List.mem_cons_of_mem _ List.mem_cons_self)⟩
  · cases shape

/-- A request fetches the one artifact. -/
def fetch (index : Nat) : List (PoolEvent (Option Text) Outcome) :=
  [.enters none, .moves index .served, .moves index (converted 1), .moves index .served,
    .moves index .served]

/-- The outputs are gone and the record is not: Redis failed the cleanup. -/
def hollow : List (PoolEvent (Option Text) Outcome) :=
  fetch 0 ++ [.moves 1 .served, .moves 1 .served, .moves 1 .served, .moves 1 (.failed .other)] ++
    [.enters none, .moves 2 .served, .moves 2 (converted 1), .moves 2 .served]

/-- The second reader was answered 200 with a document that has no content. -/
def hollowAnswered (pool : Pool World Role Call Call.Answer Raised Ended) : Bool :=
  match pool.programs with
  | [_, _, (.reader, .done (.answered ⟨200, _, _, .document response⟩ _)), _] =>
    response.document.fields.keys = []
  | _ => false

theorem second_fetch_hollow :
    ∃ pool reply scheduled, (pooled serve (deliveries asciiCodec {} "t".toList) plainWorld).run
        hollow = some pool ∧
      plainWorld.records.get? (recordKey "t".toList) = some plainRecord ∧
      Named plainRecord (outputPrefix {} plainRecord.requestId)
        (plainWorld.below "docling-output".toList (outputPrefix {} plainRecord.requestId)) ∧
      (.reader, .done (.answered reply scheduled)) ∈ pool.programs ∧ reply.status = 200 ∧
      ¬ ((∃ response, reply = finishResult (.passthrough response)) ∨
        reply.Complete asciiCodec (outputPrefix {} plainRecord.requestId)
          (plainWorld.below "docling-output".toList (outputPrefix {} plainRecord.requestId))) := by
  have goes : ((pooled serve (deliveries asciiCodec {} "t".toList) plainWorld).run hollow).any
      hollowAnswered = true := by decide +kernel
  obtain ⟨pool, ran, shape⟩ := (Option.any_eq_true _ _).mp goes
  unfold hollowAnswered at shape
  split at shape
  · rename_i first cleaning mediaType headers response scheduled next ended
    have answered : (Role.reader, Program.done (.answered ⟨200, mediaType, headers,
        .document response⟩ scheduled)) ∈ pool.programs := by
      rw [ended]
      simp
    refine ⟨pool, _, scheduled, ran, by decide +kernel, plain_named, answered, rfl, ?_⟩
    rintro (⟨native, same⟩ | ⟨_, complete⟩)
    · cases congrArg Reply.body same
    · rw [plain_below] at complete
      obtain ⟨parsed, content, _, present, _⟩ := complete _ (List.mem_singleton_self _)
      have listed := (OrderedDict.mem_keys_iff _ _).mpr ⟨content, present⟩
      rw [of_decide_eq_true shape] at listed
      cases listed
  · cases shape

end DoclingServeRay.Facade
