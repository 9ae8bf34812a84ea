import DoclingServeRay.Facade.Rejection
import DoclingServeRay.Facade.SingleUse

/-! All requests share two buckets and one Redis. Submissions, fetches, the
cleanups that follow them, docling-serve's own writes and the expiry of records
are interleaved call by call; each keeps to what belongs to its request. -/
namespace DoclingServeRay.Facade
open Strings EventMachine Calls

/-- The id of a request, a `uuid4`. -/
structure RequestId where
  id : Text
  unslashed : '/' ∉ id

/-- The objects of a request: its uploads and its outputs. -/
def Owns (settings : Settings) (request : RequestId) (object : Text × Text) : Prop :=
  (object.1 = settings.s3InputBucket ∧ inputPrefix settings request.id <+: object.2) ∨
    (object.1 = settings.s3OutputBucket ∧ outputPrefix settings request.id <+: object.2)

theorem requestId_of_below {keyPrefix : Text} {request other : RequestId}
    (first : keyPrefix ++ request.id ++ "/".toList <+: key)
    (second : keyPrefix ++ other.id ++ "/".toList <+: key) : request = other := by
  obtain ⟨tail, rfl⟩ := first
  obtain ⟨tail', same⟩ := second
  rw [List.append_assoc, List.append_assoc, List.append_assoc, List.append_assoc] at same
  have inside := List.append_cancel_left same
  obtain ⟨equal, _⟩ := append_separator_inj other.unslashed request.unslashed inside
  cases request
  cases other
  cases equal
  rfl

/-- With two buckets, no object belongs to two requests. -/
theorem owns_unique (apart : settings.s3InputBucket ≠ settings.s3OutputBucket)
    (first : Owns settings request object) (second : Owns settings other object) :
    request = other := by
  rcases first with ⟨bucket, below⟩ | ⟨bucket, below⟩
  · rcases second with ⟨_, below'⟩ | ⟨bucket', _⟩
    · exact requestId_of_below below below'
    · exact absurd (bucket.symm.trans bucket') apart
  · rcases second with ⟨bucket', _⟩ | ⟨_, below'⟩
    · exact absurd (bucket'.symm.trans bucket) apart
    · exact requestId_of_below below below'

theorem owns_input (settings : Settings) (request : RequestId) (name : Text) :
    Owns settings request (settings.s3InputBucket, inputPrefix settings request.id ++ name) :=
  Or.inl ⟨rfl, List.prefix_append _ _⟩

theorem owns_output (settings : Settings) (request : RequestId) (name : Text) :
    Owns settings request (settings.s3OutputBucket, outputPrefix settings request.id ++ name) :=
  Or.inr ⟨rfl, List.prefix_append _ _⟩

/-! ### What one call changes -/

theorem serve_objects {call : Call} {answer : Except Raised call.Answer}
    (served : serve world outcome call = some (answer, after)) (bucket key : Text) :
    after.objects.get? (bucket, key) = world.objects.get? (bucket, key) ∨
      (∃ keys, call = .deleteObjects bucket keys ∧ key ∈ keys ∧
        after.objects.get? (bucket, key) = none) ∨
      ∃ file, call = .uploadFileobj bucket key file := by
  by_cases reads : call.reads = true
  · rw [serve_reads reads served]
    exact Or.inl rfl
  cases call with
  | uploadFileobj bucket' key' file =>
    rcases serve_uploadFileobj served with rfl | rfl
    · exact Or.inl rfl
    · by_cases same : (bucket, key) = (bucket', key')
      · cases same
        exact Or.inr (Or.inr ⟨file, rfl⟩)
      · refine Or.inl ?_
        rw [OrderedDict.get?_set, if_neg same]
  | deleteObjects bucket' keys =>
    rcases serve_deleteObjects served with rfl | ⟨gone, within, rfl⟩
    · exact Or.inl rfl
    · rw [get?_deleteKeys]
      by_cases listed : bucket = bucket' ∧ key ∈ gone
      · obtain ⟨rfl, member⟩ := listed
        exact Or.inr (Or.inl ⟨keys, rfl, within member, if_pos ⟨rfl, member⟩⟩)
      · exact Or.inl (if_neg listed)
  | redisSet key' record ttlSeconds =>
    rcases serve_redisSet served with rfl | rfl
    · exact Or.inl rfl
    · exact Or.inl rfl
  | redisDelete key' =>
    rcases serve_redisDelete served with rfl | rfl
    · exact Or.inl rfl
    · exact Or.inl rfl
  | convertBatch body headers =>
    rw [serve_convertBatch served]
    exact Or.inl rfl
  | _ => exact absurd rfl reads

theorem serve_records {call : Call} {answer : Except Raised call.Answer}
    (served : serve world outcome call = some (answer, after)) (key : Text) :
    after.records.get? key = world.records.get? key ∨
      (call = .redisDelete key ∧ after.records.get? key = none) ∨
      ∃ record ttlSeconds, call = .redisSet key record ttlSeconds ∧
        after.records.get? key = some record := by
  by_cases reads : call.reads = true
  · rw [serve_reads reads served]
    exact Or.inl rfl
  cases call with
  | redisSet key' record ttlSeconds =>
    rcases serve_redisSet served with rfl | rfl
    · exact Or.inl rfl
    · by_cases same : key = key'
      · subst same
        exact Or.inr (Or.inr ⟨record, ttlSeconds, rfl, by rw [OrderedDict.get?_set, if_pos rfl]⟩)
      · refine Or.inl ?_
        rw [OrderedDict.get?_set, if_neg same]
  | redisDelete key' =>
    rcases serve_redisDelete served with rfl | rfl
    · exact Or.inl rfl
    · rw [get?_deleteRecord]
      by_cases same : key = key'
      · subst same
        exact Or.inr (Or.inl ⟨rfl, if_pos rfl⟩)
      · exact Or.inl (if_neg same)
  | uploadFileobj bucket' key' file =>
    rcases serve_uploadFileobj served with rfl | rfl
    · exact Or.inl rfl
    · exact Or.inl rfl
  | deleteObjects bucket' keys =>
    rcases serve_deleteObjects served with rfl | ⟨gone, _, rfl⟩
    · exact Or.inl rfl
    · exact Or.inl rfl
  | convertBatch body headers =>
    rw [serve_convertBatch served]
    exact Or.inl rfl
  | _ => exact absurd rfl reads

/-! ### The parties -/

/-- What a program of the pool is there for. -/
inductive Errand where
  | submits (request : RequestId)
  | fetches (taskId : Text)
  | cleans (taskId : Text)
  | converts (request : RequestId)
  | expires (taskId : Text)

/-- What brings a program into the pool. -/
inductive Arrival where
  | submit (request : RequestId) (files : List UploadFile)
    (options : OrderedDict Text FormValue) (asZip : Bool) (tenantId : Option Text)
  | fetch (taskId : Text) (tenantId : Option Text)
  | convert (request : RequestId) (outputs : List (Text × Bytes))
  | expire (taskId : Text)

/-- What a program of the pool ends with. -/
inductive Finished where
  | resolved (taskId : Text) (resolution : Resolution)
  | ended

/-- docling-serve writes outputs under any names below the prefix it was given. -/
def writeOutputs (settings : Settings) (request : RequestId) : List (Text × Bytes) → Operation Unit
  | [] => pure ()
  | output :: outputs => do
    Program.perform (Call.uploadFileobj settings.s3OutputBucket
      (outputPrefix settings request.id ++ output.1) output.2)
    writeOutputs settings request outputs

def Arrival.program (codec : Codec) (settings : Settings) : Arrival → Operation Finished
  | .submit request files options asZip tenantId => do
    let _ ← submitFileUpload codec settings request.id files options asZip tenantId
    pure .ended
  | .fetch taskId tenantId => do
    let resolution ← resolveResult codec settings taskId tenantId
    pure (.resolved taskId resolution)
  | .convert request outputs => do
    writeOutputs settings request outputs
    pure .ended
  | .expire taskId => do
    Program.perform (Call.redisDelete (recordKey taskId))
    pure .ended

def Arrival.errand : Arrival → Errand
  | .submit request _ _ _ _ => .submits request
  | .fetch taskId _ => .fetches taskId
  | .convert request _ => .converts request
  | .expire taskId => .expires taskId

def cleaning (settings : Settings) (taskId : Text) (record : TaskRecord) : Operation Finished := do
  cleanupTaskStorage settings taskId record
  pure .ended

/-- Everything that goes on at once; a cleanup follows the fetch that scheduled
it. -/
def traffic (codec : Codec) (settings : Settings) :
    Spawning Arrival Errand Call Call.Answer Raised Finished where
  entering arrival := (arrival.errand, arrival.program codec settings)
  following
    | .resolved taskId ⟨_, some record⟩ => [(.cleans taskId, cleaning settings taskId record)]
    | _ => []

section Requests

-- docling-serve gives no task id twice: the request that each of them is given to.
variable (codec : Codec) (settings : Settings) (owner : Text → RequestId)

/-- A submission is only told a task id of its own. -/
def ownTaskId : Errand → World → Outcome → Call → Prop
  | .submits request, _, .responded response, _ => ∀ task taskId, response.json = some task →
    task.get? "task_id".toList = some taskId → owner (formatted codec taskId) = request
  | _, _, _, _ => True

def Errand.request : Errand → RequestId
  | .submits request => request
  | .fetches taskId => owner taskId
  | .cleans taskId => owner taskId
  | .converts request => request
  | .expires taskId => owner taskId

/-- The call keeps to the objects of a request and the records of its tasks. -/
def Within (request : RequestId) : Call → Prop
  | .redisGet key => ∃ taskId, key = recordKey taskId ∧ owner taskId = request
  | .redisSet key record _ => record.requestId = request.id ∧
    ∃ taskId, key = recordKey taskId ∧ owner taskId = request
  | .redisDelete key => ∃ taskId, key = recordKey taskId ∧ owner taskId = request
  | .uploadFileobj bucket key _ => Owns settings request (bucket, key)
  | .listArtifacts bucket keyPrefix => ∀ key, keyPrefix <+: key → Owns settings request (bucket, key)
  | .getObject bucket key => Owns settings request (bucket, key)
  | .deleteObjects bucket keys => ∀ key ∈ keys, Owns settings request (bucket, key)
  | .convertBatch _ _ => True
  | .getResult _ _ => True

/-- A fetch only reads, and of objects only outputs; a cleanup only reads and
deletes, and of records only its own. -/
def Restrained : Errand → Call → Prop
  | .fetches taskId, call => call.reads = true ∧ ∀ bucket key, call = .getObject bucket key →
    bucket = settings.s3OutputBucket ∧ outputPrefix settings (owner taskId).id <+: key
  | .cleans taskId, call => (call.reads = true ∨ call.deletes = true) ∧
    ∀ key, call = .redisDelete key → key = recordKey taskId
  | _, _ => True

structure Asks (errand : Errand) (call : Call) : Prop where
  within : Within settings owner (errand.request owner) call
  restrained : Restrained settings owner errand call

/-- Every record is the one of the request that its task id was given to. -/
def Sound (world : World) : Prop :=
  ∀ taskId record, world.records.get? (recordKey taskId) = some record →
    record.requestId = (owner taskId).id

end Requests

section Behaviour

variable {codec : Codec} {settings : Settings} {owner : Text → RequestId} {errand : Errand}

theorem recordKey_inj (same : recordKey taskId = recordKey other) : taskId = other :=
  List.append_cancel_left same

theorem sound_served {call : Call} {answer : Except Raised call.Answer}
    (within : Within settings owner request call) (sound : Sound owner world)
    (served : serve world outcome call = some (answer, after)) : Sound owner after := by
  intro taskId record present
  rcases serve_records served (recordKey taskId) with same | ⟨_, gone⟩ | ⟨written, _, rfl, held⟩
  · rw [same] at present
    exact sound taskId record present
  · cases gone.symm.trans present
  · cases held.symm.trans present
    obtain ⟨recorded, other, same, given⟩ := within
    rw [recordKey_inj same, given]
    exact recorded

/-- Whatever the others do, the program makes calls of its errand only. -/
abbrev Behaves (codec : Codec) (settings : Settings) (owner : Text → RequestId) (errand : Errand)
    (post : α → Prop) (program : Operation α) : Prop :=
  program.Confined (Sound owner) (Permitted serve (ownTaskId codec owner) errand)
    (Asks settings owner errand) post

theorem behaves_perform {call : Call} (asked : Asks settings owner errand call)
    (post : call.Answer → Prop) (returned : ∀ world value after, Sound owner world →
      Permitted serve (ownTaskId codec owner) errand world call (.ok value) after → post value) :
    Behaves codec settings owner errand post (Program.perform call) := by
  refine Program.confined_perform call post asked ?_
  intro world answer after sound permitted
  obtain ⟨outcome, told, served⟩ := permitted
  refine ⟨sound_served asked.within sound served, ?_⟩
  rintro value rfl
  exact returned world value after sound ⟨outcome, told, served⟩

/-! ### Submissions -/

theorem uploads_behave (request : RequestId) (files : List UploadFile) :
    Behaves codec settings owner (.submits request) (fun _ => True)
      (uploadFiles settings request.id files) := by
  induction files with
  | nil => trivial
  | cons file files ih =>
    refine Program.confined_bind (behaves_perform ?_ (fun _ => True) ?_) fun _ _ => ih
    · exact ⟨owns_input settings request (uploadName file), trivial⟩
    · exact fun _ _ _ _ _ => trivial

theorem submit_behaves (request : RequestId) (files : List UploadFile)
    (options : OrderedDict Text FormValue) (zipped : Bool) (tenantId : Option Text) :
    Behaves codec settings owner (.submits request) (fun _ => True)
      (submitFileUpload codec settings request.id files options zipped tenantId) := by
  refine Program.confined_mapError ?_ _
  refine Program.confined_bind (uploads_behave request files) fun _ _ => ?_
  refine Program.confined_bind (behaves_perform ?_
    (fun response : HttpResponse => ∀ task taskId, response.json = some task →
      task.get? "task_id".toList = some taskId → owner (formatted codec taskId) = request) ?_) ?_
  · exact ⟨trivial, trivial⟩
  · rintro world response after _ ⟨outcome, told, served⟩
    cases outcome with
    | responded other =>
      cases served
      exact told
    | _ => cases served
  · intro response told
    split
    · trivial
    cases given : HttpResponse.json response with
    | none => trivial
    | some task =>
      simp only [orRaise, Program.done_bind]
      cases named : task.get? "task_id".toList with
      | none => trivial
      | some taskId =>
        simp only [Program.done_bind]
        refine Program.confined_bind (behaves_perform ?_ (fun _ => True) ?_) ?_
        · exact ⟨⟨rfl, _, rfl, told task taskId given named⟩, trivial⟩
        · exact fun _ _ _ _ _ => trivial
        · intro _ _
          cases taskStatus? codec task <;> trivial

theorem outputs_behave (request : RequestId) (outputs : List (Text × Bytes)) :
    Behaves codec settings owner (.converts request) (fun _ => True)
      (writeOutputs settings request outputs) := by
  induction outputs with
  | nil => trivial
  | cons output outputs ih =>
    refine Program.confined_bind (behaves_perform ?_ (fun _ => True) ?_) fun _ _ => ih
    · exact ⟨owns_output settings request output.1, trivial⟩
    · exact fun _ _ _ _ _ => trivial

/-! ### Fetches -/

theorem fetchArtifacts_behave (taskId : Text) (grouped : Grouped) (keys : List Text) :
    Behaves codec settings owner (.fetches taskId) (fun _ => True)
      (fetchArtifacts settings.s3OutputBucket (outputPrefix settings (owner taskId).id) grouped
        keys) := by
  induction keys generalizing grouped with
  | nil => trivial
  | cons key keys ih =>
    unfold fetchArtifacts
    split
    · exact ih grouped
    · rename_i parsed read
      have below : outputPrefix settings (owner taskId).id <+: key := by
        obtain ⟨rest, rfl, _⟩ := parseArtifactKey_eq_some read
        exact List.prefix_append _ rest
      refine Program.confined_bind (behaves_perform ?_ (fun _ => True) ?_) fun content _ =>
        ih (addArtifact grouped parsed content)
      · refine ⟨Or.inr ⟨rfl, below⟩, rfl, ?_⟩
        rintro bucket other ⟨⟩
        exact ⟨rfl, below⟩
      · exact fun _ _ _ _ _ => trivial

theorem fetchArtifactsByStem_behaves (taskId : Text) :
    Behaves codec settings owner (.fetches taskId) (fun _ => True)
      (fetchArtifactsByStem settings.s3OutputBucket (outputPrefix settings (owner taskId).id)) := by
  refine Program.confined_bind (behaves_perform ?_ (fun _ => True) ?_) fun keys _ =>
    fetchArtifacts_behave taskId .empty keys
  · refine ⟨fun key below => Or.inr ⟨rfl, below⟩, rfl, ?_⟩
    rintro bucket key ⟨⟩
  · exact fun _ _ _ _ _ => trivial

/-- A fetch schedules a cleanup of its own request, if any. -/
theorem resolve_behaves (taskId : Text) (tenantId : Option Text) :
    Behaves codec settings owner (.fetches taskId)
      (fun resolution => ∀ record, resolution.cleanup = some record →
        record.requestId = (owner taskId).id) (resolveResult codec settings taskId tenantId) := by
  have asks : ∀ headers, Behaves codec settings owner (.fetches taskId) (fun _ => True)
      (Program.perform (Call.getResult taskId headers)) := by
    intro headers
    refine behaves_perform ?_ (fun _ => True) fun _ _ _ _ _ => trivial
    refine ⟨trivial, rfl, ?_⟩
    rintro bucket key ⟨⟩
  refine Program.confined_mapError ?_ _
  refine Program.confined_bind (behaves_perform ?_
    (fun raw : Option TaskRecord => ∀ record, raw = some record →
      record.requestId = (owner taskId).id) ?_) ?_
  · refine ⟨⟨taskId, rfl, rfl⟩, rfl, ?_⟩
    rintro bucket key ⟨⟩
  · rintro world raw after sound ⟨outcome, _, served⟩ record rfl
    exact sound taskId record (serve_redisGet served)
  intro raw known
  cases raw with
  | none =>
    refine Program.confined_bind (asks _) fun native _ => ?_
    rintro record ⟨⟩
  | some record =>
    refine Program.confined_bind (asks _) fun native _ => ?_
    split
    · rintro other ⟨⟩
    cases HttpResponse.json native |>.bind object? with
    | none => trivial
    | some nativeResult =>
      simp only [orRaise, Program.done_bind]
      split
      · rintro other ⟨⟩
      rw [known record rfl]
      refine Program.confined_bind (fetchArtifactsByStem_behaves taskId) fun grouped _ => ?_
      cases reconstruct codec record nativeResult grouped with
      | none => trivial
      | some result =>
        rintro other ⟨⟩
        exact known record rfl

/-! ### Cleanups -/

theorem deleteBelow_behaves (taskId bucket keyPrefix : Text)
    (owned : ∀ key, keyPrefix <+: key → Owns settings (owner taskId) (bucket, key)) :
    Behaves codec settings owner (.cleans taskId) (fun _ => True) (deleteBelow bucket keyPrefix) := by
  refine Program.confined_bind (behaves_perform ?_
    (fun keys : List Text => ∀ key ∈ keys, keyPrefix <+: key) ?_) ?_
  · refine ⟨owned, Or.inl rfl, ?_⟩
    rintro key ⟨⟩
  · rintro world keys after _ ⟨outcome, _, served⟩ key member
    cases outcome with
    | served =>
      cases served
      exact ((mem_list key).mp member).2
    | _ => cases served
  · intro keys below
    by_cases nothing : keys = []
    · rw [if_neg (not_not.mpr nothing)]
      trivial
    · rw [if_pos nothing]
      refine behaves_perform ?_ (fun _ => True) fun _ _ _ _ _ => trivial
      refine ⟨fun key member => owned key (below key member), Or.inr rfl, ?_⟩
      rintro key ⟨⟩

theorem cleaning_behaves (taskId : Text) (record : TaskRecord)
    (own : record.requestId = (owner taskId).id) (post : Finished → Prop) (ended : post .ended) :
    Behaves codec settings owner (.cleans taskId) post (cleaning settings taskId record) := by
  have cleaned : Behaves codec settings owner (.cleans taskId) (fun _ => True) (do
      deleteBelow settings.s3InputBucket (inputPrefix settings record.requestId)
      deleteBelow settings.s3OutputBucket (outputPrefix settings record.requestId)
      Program.perform (Call.redisDelete (recordKey taskId))) := by
    rw [own]
    refine Program.confined_bind (deleteBelow_behaves taskId _ _ ?_) fun _ _ => ?_
    · exact fun key below => Or.inl ⟨rfl, below⟩
    refine Program.confined_bind (deleteBelow_behaves taskId _ _ ?_) fun _ _ => ?_
    · exact fun key below => Or.inr ⟨rfl, below⟩
    refine behaves_perform ?_ (fun _ => True) fun _ _ _ _ _ => trivial
    refine ⟨⟨taskId, rfl, rfl⟩, Or.inr rfl, ?_⟩
    rintro key ⟨⟩
    rfl
  have caught : Behaves codec settings owner (.cleans taskId) (fun _ => True)
      (cleanupTaskStorage settings taskId record) :=
    Program.confined_bind (Program.confined_attempt cleaned) fun _ _ => trivial
  exact Program.confined_bind caught fun _ _ => ended

/-! ### Isolation -/

/-- What a program of the pool may end with: a cleanup is scheduled for the
request that its task id was given to. -/
def OwnCleanup (owner : Text → RequestId) (finished : Finished) : Prop :=
  ∀ taskId result record, finished = .resolved taskId ⟨result, some record⟩ →
    record.requestId = (owner taskId).id

theorem arrival_behaves (arrival : Arrival) :
    Behaves codec settings owner arrival.errand (OwnCleanup owner)
      (arrival.program codec settings) := by
  cases arrival with
  | submit request files options asZip tenantId =>
    refine Program.confined_bind (submit_behaves request files options asZip tenantId) ?_
    rintro status _ taskId result record ⟨⟩
  | fetch taskId tenantId =>
    refine Program.confined_bind (resolve_behaves taskId tenantId) ?_
    rintro ⟨result, scheduled⟩ own other _ record same
    cases same
    exact own record rfl
  | convert request outputs =>
    refine Program.confined_bind (outputs_behave request outputs) ?_
    rintro done _ taskId result record ⟨⟩
  | expire taskId =>
    refine Program.confined_bind (behaves_perform ?_ (fun _ => True) ?_) ?_
    · exact ⟨⟨taskId, rfl, rfl⟩, trivial⟩
    · exact fun _ _ _ _ _ => trivial
    · rintro done _ other result record ⟨⟩

/-- What belongs to other requests is as it was. -/
structure Spares (settings : Settings) (request : RequestId) (before after : World) : Prop where
  objects : ∀ other object, Owns settings other object → other ≠ request →
    after.objects.get? object = before.objects.get? object
  records : ∀ key record, record.requestId ≠ request.id →
    (after.records.get? key = some record ↔ before.records.get? key = some record)

/-- Only objects of the request and its task's record are gone, and nothing is
new. -/
structure Removes (settings : Settings) (request : RequestId) (taskId : Text)
    (before after : World) : Prop where
  shrunk : Shrunk before after
  objects : ∀ object, after.objects.get? object ≠ before.objects.get? object →
    Owns settings request object
  records : ∀ key, after.records.get? key ≠ before.records.get? key → key = recordKey taskId

theorem spares_served (apart : settings.s3InputBucket ≠ settings.s3OutputBucket) {call : Call}
    {answer : Except Raised call.Answer} (within : Within settings owner request call)
    (sound : Sound owner world) (served : serve world outcome call = some (answer, after)) :
    Spares settings request world after := by
  have still := sound_served within sound served
  constructor
  · rintro other ⟨bucket, key⟩ owned foreign
    rcases serve_objects served bucket key with same | ⟨keys, rfl, listed, _⟩ | ⟨file, rfl⟩
    · exact same
    · exact absurd (owns_unique apart owned (within key listed)) foreign
    · exact absurd (owns_unique apart owned within) foreign
  · intro key record foreign
    rcases serve_records served key with same | ⟨rfl, gone⟩ | ⟨written, _, rfl, held⟩
    · rw [same]
    · obtain ⟨taskId, rfl, rfl⟩ := within
      constructor
      · intro present
        cases gone.symm.trans present
      · intro present
        exact absurd (sound taskId record present) foreign
    · obtain ⟨recorded, taskId, rfl, rfl⟩ := within
      constructor
      · intro present
        exact absurd (still taskId record present) foreign
      · intro present
        exact absurd (sound taskId record present) foreign

theorem removes_served {call : Call} {answer : Except Raised call.Answer}
    (asked : Asks settings owner (.cleans taskId) call)
    (served : serve world outcome call = some (answer, after)) :
    Removes settings (owner taskId) taskId world after := by
  obtain ⟨within, acts, own⟩ := asked
  rcases acts with reads | deletes
  · rw [serve_reads reads served]
    exact ⟨⟨fun _ _ => id, fun _ _ => id⟩, fun _ changed => absurd rfl changed,
      fun _ changed => absurd rfl changed⟩
  · refine ⟨serve_deletes deletes ⟨fun _ _ => id, fun _ _ => id⟩ served, ?_, ?_⟩
    · rintro ⟨bucket, key⟩ changed
      rcases serve_objects served bucket key with same | ⟨keys, rfl, listed, _⟩ | ⟨file, rfl⟩
      · exact absurd same changed
      · exact within key listed
      · cases deletes
    · intro key changed
      rcases serve_records served key with same | ⟨same, _⟩ | ⟨written, _, rfl, _⟩
      · exact absurd same changed
      · exact own key same
      · cases deletes

/-- In every interleaving: a fetch changes nothing and reads only outputs of its
own request, a cleanup removes only what belongs to its own task, and no call of
any request touches what belongs to another one. -/
theorem requests_isolated (apart : settings.s3InputBucket ≠ settings.s3OutputBucket)
    (sound : Sound owner start)
    (unique : Respects serve (traffic codec settings) start (ownTaskId codec owner) events)
    (occurs : (pooled serve (traffic codec settings) start).Occurs events pool
      (.moves index outcome) next) :
    ∃ errand call rest, pool.programs[index]? = some (errand, .call call rest) ∧
      Spares settings (errand.request owner) pool.world next.world ∧
      (∀ taskId, errand = .fetches taskId → next.world = pool.world ∧
        ∀ bucket key, call = .getObject bucket key →
          bucket = settings.s3OutputBucket ∧ outputPrefix settings (owner taskId).id <+: key) ∧
      ∀ taskId, errand = .cleans taskId →
        Removes settings (owner taskId) taskId pool.world next.world := by
  obtain ⟨first, later, rfl, reached, stepped⟩ := occurs
  have earlier : Respects serve (traffic codec settings) start (ownTaskId codec owner) first := by
    rintro before event after ⟨head, tail, rfl, ran, moved⟩
    exact unique before event after ⟨head, tail ++ .moves index outcome :: later, by simp, ran, moved⟩
  obtain ⟨kept, behave⟩ := pool_confined sound arrival_behaves (by
      intro finished own program member
      cases finished with
      | ended => cases member
      | resolved taskId resolution =>
        obtain ⟨result, scheduled⟩ := resolution
        cases scheduled with
        | none => cases member
        | some record =>
          rw [List.mem_singleton.mp member]
          apply cleaning_behaves taskId record (own taskId result record rfl)
          rintro other again result ⟨⟩)
    earlier reached
  obtain ⟨errand, call, rest, answer, found, asked, served⟩ := pool_asks behave stepped
  refine ⟨errand, call, rest, found, spares_served apart asked.within kept served, ?_, ?_⟩
  · rintro taskId rfl
    exact ⟨serve_reads asked.restrained.1 served, asked.restrained.2⟩
  · rintro taskId rfl
    exact removes_served asked served

end Behaviour

/-! ### Two requests -/

def firstRequest : RequestId := ⟨"r".toList, by decide⟩

def secondRequest : RequestId := ⟨"s".toList, by decide⟩

/-- The first request has the task `t`, and the second one any other. -/
def twoOwners (taskId : Text) : RequestId :=
  if taskId = "t".toList then firstRequest else secondRequest

def sharedWorld : World where
  records := (OrderedDict.empty.set (recordKey "t".toList) plainRecord).set (recordKey "u".toList)
    { plainRecord with requestId := "s".toList }
  objects := (OrderedDict.empty.set
    ("docling-output".toList, "facade-results/r/h/report.md".toList) [109]).set
    ("docling-output".toList, "facade-results/s/h/report.md".toList) [110]

/-- The first task is fetched, and its outputs are being deleted. -/
def cleanedUp : List (PoolEvent Arrival Outcome) :=
  [.enters (.fetch "t".toList none), .moves 0 .served, .moves 0 (converted 1), .moves 0 .served,
    .moves 0 .served, .moves 1 .served, .moves 1 .served]

theorem sharedWorld_sound : Sound twoOwners sharedWorld := by
  intro taskId record present
  simp only [sharedWorld, OrderedDict.get?_set, OrderedDict.get?_empty] at present
  split at present
  · rename_i second
    cases present
    obtain rfl := recordKey_inj second
    rfl
  · split at present
    · rename_i first
      cases present
      obtain rfl := recordKey_inj first
      rfl
    · cases present

theorem cleanedUp_unique : Respects serve (traffic asciiCodec {}) sharedWorld
    (ownTaskId asciiCodec twoOwners) (cleanedUp ++ [.moves 1 .served]) := by
  intro pool event next occurs
  have member := Machine.occurs_mem occurs
  cases event with
  | enters arrival => trivial
  | moves index outcome =>
    intro errand call rest found
    have answers : outcome = .served ∨ outcome = converted 1 := by
      simp only [cleanedUp, List.cons_append, List.nil_append, List.mem_cons, reduceCtorEq,
        PoolEvent.moves.injEq, List.not_mem_nil, or_false, false_or] at member
      tauto
    rcases answers with rfl | rfl
    · cases errand <;> trivial
    · cases errand with
      | submits request =>
        rintro task taskId ⟨⟩ named
        cases named
      | _ => trivial

theorem requests_isolated_cleanup :
    ∃ pool next errand call rest, (pooled serve (traffic asciiCodec {}) sharedWorld).Occurs
        (cleanedUp ++ [.moves 1 .served]) pool (.moves 1 .served) next ∧
      pool.programs[1]? = some (errand, .call call rest) ∧
      Spares {} (errand.request twoOwners) pool.world next.world := by
  have goes : ((pooled serve (traffic asciiCodec {}) sharedWorld).run
      (cleanedUp ++ [.moves 1 .served])).isSome = true := by decide +kernel
  obtain ⟨next, ran⟩ := Option.isSome_iff_exists.mp goes
  obtain ⟨pool, reached, stepped⟩ := Machine.run_snoc.mp ran
  have occurs : (pooled serve (traffic asciiCodec {}) sharedWorld).Occurs
      (cleanedUp ++ [.moves 1 .served]) pool (.moves 1 .served) next :=
    Machine.occurs_snoc.mpr (Or.inr ⟨rfl, reached, stepped⟩)
  obtain ⟨errand, call, rest, found, spares, _⟩ :=
    requests_isolated (by decide) sharedWorld_sound cleanedUp_unique occurs
  exact ⟨pool, next, errand, call, rest, occurs, found, spares⟩

end DoclingServeRay.Facade
