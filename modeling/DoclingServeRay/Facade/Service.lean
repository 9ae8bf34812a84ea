import DoclingServeRay.Lib.Calls
import DoclingServeRay.Facade.Artifacts

/-! The facade's operations (`service.py`) as programs over the calls they make
to Redis, S3 and docling-serve, and the world that serves those calls. -/
namespace DoclingServeRay.Facade
open Strings Calls

/-- The settings read here. -/
structure Settings where
  recordTtlSeconds : Int := 604800
  s3Endpoint : Text := "minio:9000".toList
  s3VerifySsl : Bool := false
  s3AccessKey : Text := "minioadmin".toList
  s3SecretKey : Text := "minioadmin123".toList
  s3InputBucket : Text := "docling-input".toList
  s3OutputBucket : Text := "docling-output".toList
  s3InputPrefix : Text := "facade-uploads/".toList
  s3OutputPrefix : Text := "facade-results/".toList
  tenantIdHeader : Text := "X-Tenant-Id".toList

def inputPrefix (settings : Settings) (requestId : Text) : Text :=
  settings.s3InputPrefix ++ requestId ++ "/".toList

def outputPrefix (settings : Settings) (requestId : Text) : Text :=
  settings.s3OutputPrefix ++ requestId ++ "/".toList

def recordKey (taskId : Text) : Text := "facade:task:".toList ++ taskId

/-! ### Calls -/

structure S3Coords where
  kind : Text := "s3".toList
  endpoint : Text
  verifySsl : Bool
  accessKey : Text
  secretKey : Text
  bucket : Text
  keyPrefix : Text
  deriving DecidableEq

def s3Coords (settings : Settings) (bucket keyPrefix : Text) : S3Coords where
  endpoint := settings.s3Endpoint
  verifySsl := settings.s3VerifySsl
  accessKey := settings.s3AccessKey
  secretKey := settings.s3SecretKey
  bucket := bucket
  keyPrefix := keyPrefix

/-- A value of the form's options: a list, or a bare value. -/
inductive FormValue where
  | one (value : Text)
  | many (values : List Text)
  deriving DecidableEq

structure BatchBody where
  sources : List S3Coords
  target : S3Coords
  options : OrderedDict Text FormValue
  deriving DecidableEq

/-- An answer of docling-serve's; `json` is its content parsed, where it can be. -/
structure HttpResponse where
  statusCode : Nat
  content : Bytes
  contentType : Option Text
  text : Text
  json : Option Json

abbrev Headers := List (Text × Text)

inductive Call where
  | redisGet (key : Text)
  | redisSet (key : Text) (record : TaskRecord) (ttlSeconds : Int)
  | redisDelete (key : Text)
  | uploadFileobj (bucket key : Text) (file : Bytes)
  | listArtifacts (bucket keyPrefix : Text)
  | getObject (bucket key : Text)
  | deleteObjects (bucket : Text) (keys : List Text)
  | convertBatch (body : BatchBody) (headers : Headers)
  | getResult (taskId : Text) (headers : Headers)
  deriving DecidableEq

@[reducible] def Call.Answer : Call → Type
  | .redisGet _ => Option TaskRecord
  | .redisSet _ _ _ => Unit
  | .redisDelete _ => Unit
  | .uploadFileobj _ _ _ => Unit
  | .listArtifacts _ _ => List Text
  | .getObject _ _ => Bytes
  | .deleteObjects _ _ => Unit
  | .convertBatch _ _ => HttpResponse
  | .getResult _ _ => HttpResponse

/-- An exception: FastAPI's own, one of `_TRANSPORT_ERRORS`, or any other. -/
inductive Raised where
  | http (statusCode : Nat) (detail : Text)
  | transport (text : Text)
  | other
  deriving DecidableEq

abbrev Operation := Program Call Call.Answer Raised

/-- `_translate_transport_errors`. -/
def translateTransportErrors (program : Operation α) : Operation α :=
  program.mapError fun error =>
    match error with
    | .transport text => .http 502 ("Upstream unavailable: ".toList ++ text)
    | error => error

def tenantHeaders (settings : Settings) (tenantId : Option Text) : Headers :=
  match tenantId with
  | some tenant => if tenant = [] then [] else [(settings.tenantIdHeader, tenant)]
  | none => []

/-! ### Cleaning up -/

def deleteBelow (bucket keyPrefix : Text) : Operation Unit := do
  let keys : List Text ← Program.perform (Call.listArtifacts bucket keyPrefix)
  if keys ≠ [] then Program.perform (Call.deleteObjects bucket keys) else pure ()

/-- `_cleanup_task_storage`: best-effort, failures are swallowed. -/
def cleanupTaskStorage (settings : Settings) (taskId : Text) (record : TaskRecord) :
    Operation Unit := do
  let cleaned := do
    deleteBelow settings.s3InputBucket (inputPrefix settings record.requestId)
    deleteBelow settings.s3OutputBucket (outputPrefix settings record.requestId)
    Program.perform (Call.redisDelete (recordKey taskId))
  let _ ← cleaned.attempt
  pure ()

/-! ### Submitting -/

structure UploadFile where
  filename : Option Text
  file : Bytes
  deriving DecidableEq

/-- `file.filename or 'file.pdf'`. -/
def uploadName (file : UploadFile) : Text :=
  match file.filename with
  | some name => if name = [] then "file.pdf".toList else name
  | none => "file.pdf".toList

/-- The loop over the files of `submit_file_upload`. -/
def uploadFiles (settings : Settings) (requestId : Text) : List UploadFile → Operation Unit
  | [] => pure ()
  | file :: files => do
    Program.perform (Call.uploadFileobj settings.s3InputBucket
      (inputPrefix settings requestId ++ uploadName file) file.file)
    uploadFiles settings requestId files

def batchBody (settings : Settings) (requestId : Text)
    (convertOptions : OrderedDict Text FormValue) : BatchBody where
  sources := [s3Coords settings settings.s3InputBucket (inputPrefix settings requestId)]
  target := s3Coords settings settings.s3OutputBucket (outputPrefix settings requestId)
  options := convertOptions

/-- `list(convert_options.get('to_formats', DEFAULT_TO_FORMATS))`; a bare text
gives the list of its characters. -/
def toFormats (convertOptions : OrderedDict Text FormValue) : List Text :=
  match convertOptions.get? "to_formats".toList with
  | some (.many values) => values
  | some (.one value) => value.map fun char => [char]
  | none => defaultToFormats

structure TaskStatusResponse where
  taskId : Text
  taskType : Text
  taskStatus : Text
  taskPosition : Option Int
  taskMeta : Option Json
  errorMessage : Option Text
  failure : Option Json

/-- A text of a pydantic model. -/
def text? : Json → Option Text
  | .text value => some value
  | _ => none

/-- A `dict[str, Any]` of a pydantic model. -/
def object? : Json → Option Json
  | .object members => some (.object members)
  | _ => none

/-- An optional member: absent or null, or a value of the right type. -/
def optionalMember (json : Json) (name : String) (read : Json → Option α) : Option (Option α) :=
  match json.get? name.toList with
  | none => some none
  | some .null => some none
  | some value => (read value).map some

/-- The answer to the client; `none` where the task lacks a member that is
required, or one has the wrong type. -/
def taskStatus? (codec : Codec) (task : Json) : Option TaskStatusResponse := do
  let taskId ← (task.get? "task_id".toList).bind text?
  let taskType ← (task.get? "task_type".toList).bind text?
  let taskStatus ← (task.get? "task_status".toList).bind text?
  let taskPosition ← optionalMember task "task_position" codec.toInt
  let taskMeta ← optionalMember task "task_meta" object?
  let errorMessage ← optionalMember task "error_message" text?
  let failure ← optionalMember task "failure" object?
  some ⟨taskId, taskType, taskStatus, taskPosition, taskMeta, errorMessage, failure⟩

/-- A JSON value in an f-string. -/
def formatted (codec : Codec) : Json → Text
  | .text value => value
  | value => codec.format value

/-- `some value`, or an exception that is none of ours. -/
def orRaise : Option α → Operation α
  | some value => .done value
  | none => .raise .other

def submitFileUpload (codec : Codec) (settings : Settings) (requestId : Text)
    (files : List UploadFile) (convertOptions : OrderedDict Text FormValue) (asZip : Bool)
    (tenantId : Option Text) : Operation TaskStatusResponse :=
  translateTransportErrors do
    uploadFiles settings requestId files
    let response : HttpResponse ← Program.perform
      (Call.convertBatch (batchBody settings requestId convertOptions) (tenantHeaders settings tenantId))
    if 400 ≤ response.statusCode then .raise (.http response.statusCode response.text)
    else
      let task ← orRaise response.json
      let taskId ← orRaise (task.get? "task_id".toList)
      Program.perform (Call.redisSet (recordKey (formatted codec taskId)) {
        requestId := requestId
        tenantId := tenantId
        filenames := files.map uploadName
        toFormats := toFormats convertOptions
        asZip := asZip } settings.recordTtlSeconds)
      orRaise (taskStatus? codec task)

/-! ### Resolving a result -/

inductive Resolved where
  | passthrough (response : HttpResponse)
  | document (response : ConvertDocumentResponse)
  | zip (result : ZipResult)

/-- What `resolve_result` returns, and the record it scheduled a cleanup for. -/
structure Resolution where
  result : Resolved
  cleanup : Option TaskRecord

/-- The loop of `fetch_artifacts_by_stem` over the listed keys. -/
def fetchArtifacts (bucket keyPrefix : Text) (grouped : Grouped) : List Text → Operation Grouped
  | [] => pure grouped
  | key :: keys =>
    match parseArtifactKey keyPrefix key with
    | none => fetchArtifacts bucket keyPrefix grouped keys
    | some parsed => do
      let content : Bytes ← Program.perform (Call.getObject bucket key)
      fetchArtifacts bucket keyPrefix (addArtifact grouped parsed content) keys

def fetchArtifactsByStem (bucket keyPrefix : Text) : Operation Grouped := do
  let keys : List Text ← Program.perform (Call.listArtifacts bucket keyPrefix)
  fetchArtifacts bucket keyPrefix .empty keys

/-- `filename.rsplit('.', 1)[0]`. -/
def stemOf (filename : Text) : Text := rsplitHead '.' filename

/-- `native_result.get('num_succeeded', 0) == 0`, as Python compares. -/
def countsNothing (nativeResult : Json) : Bool :=
  match nativeResult.get? "num_succeeded".toList with
  | none => true
  | some (.number value) => value = 0
  | some (.bool value) => !value
  | some _ => false

def zipDocuments (record : TaskRecord) (grouped : Grouped) : List ZipDocument :=
  record.filenames.map fun filename =>
    ⟨filename, stemOf filename, (grouped.get? (stemOf filename)).getD .empty⟩

/-- `record.as_zip or len(record.filenames) > 1`. -/
def TaskRecord.zipped (record : TaskRecord) : Bool :=
  record.asZip || 1 < record.filenames.length

/-- `resolve_result` from the grouped artifacts on; `none` where it raises. -/
def reconstruct (codec : Codec) (record : TaskRecord) (nativeResult : Json) (grouped : Grouped) :
    Option Resolved :=
  if record.zipped then
    some (.zip (buildZipArchive (zipDocuments record grouped)))
  else do
    let filename ← record.filenames.head?
    let document ← buildExportDocumentResponse codec filename
      ((grouped.get? (stemOf filename)).getD .empty)
    let processingTime ← codec.toFloat
      ((nativeResult.get? "processing_time".toList).getD (.number 0))
    some (.document ⟨document, "success".toList, processingTime⟩)

def resolveResult (codec : Codec) (settings : Settings) (taskId : Text) (tenantId : Option Text) :
    Operation Resolution :=
  translateTransportErrors do
    let raw : Option TaskRecord ← Program.perform (Call.redisGet (recordKey taskId))
    let headers := tenantHeaders settings tenantId
    match raw with
    -- Not a task the facade originated.
    | none =>
      let native : HttpResponse ← Program.perform (Call.getResult taskId headers)
      pure ⟨.passthrough native, none⟩
    | some record =>
      let native : HttpResponse ← Program.perform (Call.getResult taskId headers)
      if 400 ≤ native.statusCode then pure ⟨.passthrough native, none⟩
      else
        let nativeResult ← orRaise (native.json.bind object?)
        if countsNothing nativeResult then pure ⟨.passthrough native, none⟩
        else
          let grouped ← fetchArtifactsByStem settings.s3OutputBucket
            (outputPrefix settings record.requestId)
          let result ← orRaise (reconstruct codec record nativeResult grouped)
          pure ⟨result, some record⟩

/-! ### Answering -/

inductive ReplyBody where
  | bytes (content : Bytes)
  | document (response : ConvertDocumentResponse)
  | archive (content : List (Text × ZipContent))

structure Reply where
  status : Nat
  mediaType : Option Text
  headers : Headers
  body : ReplyBody

/-- `_finish_result`. -/
def finishResult : Resolved → Reply
  | .passthrough response => ⟨response.statusCode, response.contentType, [], .bytes response.content⟩
  | .zip result => {
      status := 200
      mediaType := some "application/zip".toList
      headers :=
        ("Content-Disposition".toList, "attachment; filename=\"converted_docs.zip\"".toList) ::
          if result.hasFailures then [("X-Facade-Partial-Failure".toList, "true".toList)] else []
      body := .archive result.content }
  | .document response => ⟨200, some "application/json".toList, [], .document response⟩

/-! ### The world -/

/-- Redis, and the objects of S3 under their bucket and key. -/
structure World where
  records : OrderedDict Text TaskRecord
  objects : OrderedDict (Text × Text) Bytes

/-- What becomes of a call. -/
inductive Outcome where
  | served
  | responded (response : HttpResponse)
  /-- S3 deletes some of the keys, and says so or not. -/
  | deleted (keys : List Text) (error : Option Raised)
  | failed (error : Raised)

/-- S3 lists a bucket's keys in order. -/
def World.list (world : World) (bucket keyPrefix : Text) : List Text :=
  ((world.objects.keys.filter fun key => key.1 = bucket && keyPrefix.isPrefixOf key.2).map
    Prod.snd).insertionSort (· ≤ ·)

def World.deleteKeys (world : World) (bucket : Text) (keys : List Text) : World :=
  { world with objects := world.objects.filterKeys fun key => !(key.1 = bucket && key.2 ∈ keys) }

def World.deleteRecord (world : World) (key : Text) : World :=
  { world with records := world.records.filterKeys fun other => other ≠ key }

/-- `NoSuchKey`, as botocore words it. -/
def noSuchKey : Raised := .transport
  ("An error occurred (NoSuchKey) when calling the GetObject operation: ".toList ++
    "The specified key does not exist.".toList)

/-- Any call may fail before its effect, and a deletion also after some or all of it. -/
def serve (world : World) : Outcome → (call : Call) → Option (Except Raised call.Answer × World)
  | .served, .redisGet key => some (.ok (world.records.get? key), world)
  | .served, .redisSet key record _ =>
    some (.ok (), { world with records := world.records.set key record })
  | .served, .redisDelete key => some (.ok (), world.deleteRecord key)
  | .served, .uploadFileobj bucket key file =>
    some (.ok (), { world with objects := world.objects.set (bucket, key) file })
  | .served, .listArtifacts bucket keyPrefix => some (.ok (world.list bucket keyPrefix), world)
  | .served, .getObject bucket key =>
    match world.objects.get? (bucket, key) with
    | some content => some (.ok content, world)
    | none => some (.error noSuchKey, world)
  | .served, .deleteObjects bucket keys => some (.ok (), world.deleteKeys bucket keys)
  | .responded response, .convertBatch _ _ => some (.ok response, world)
  | .responded response, .getResult _ _ => some (.ok response, world)
  | .deleted some' error, .deleteObjects bucket keys =>
    some (match error with
      | some raised => .error raised
      | none => .ok (), world.deleteKeys bucket (keys.filter (· ∈ some')))
  | .deleted _ (some raised), .redisDelete key => some (.error raised, world.deleteRecord key)
  | .failed error, _ => some (.error error, world)
  | _, _ => none

/-! ### What the calls that write do -/

theorem get?_deleteKeys (world : World) (bucket : Text) (keys : List Text) (object : Text × Text) :
    (world.deleteKeys bucket keys).objects.get? object =
      if object.1 = bucket ∧ object.2 ∈ keys then none else world.objects.get? object := by
  rw [World.deleteKeys, OrderedDict.get?_filterKeys]
  by_cases listed : object.1 = bucket ∧ object.2 ∈ keys
  · simp [listed]
  · rcases not_and_or.mp listed with other | unlisted
    · simp [other]
    · simp [unlisted]

theorem get?_deleteRecord (world : World) (deleted key : Text) :
    (world.deleteRecord deleted).records.get? key =
      if key = deleted then none else world.records.get? key := by
  rw [World.deleteRecord, OrderedDict.get?_filterKeys]
  by_cases same : key = deleted
  · simp [same]
  · simp [same]

/-- A delete request takes none, some or all of its keys away. -/
theorem serve_deleteObjects
    (served : serve world outcome (.deleteObjects bucket keys) = some (answer, after)) :
    after = world ∨ ∃ gone, gone ⊆ keys ∧ after = world.deleteKeys bucket gone := by
  cases outcome with
  | served =>
    cases served
    exact Or.inr ⟨keys, List.Subset.refl keys, rfl⟩
  | deleted some' error =>
    cases served
    exact Or.inr ⟨_, List.filter_sublist.subset, rfl⟩
  | failed error =>
    cases served
    exact Or.inl rfl
  | responded response => cases served

theorem serve_redisDelete
    (served : serve world outcome (.redisDelete key) = some (answer, after)) :
    after = world ∨ after = world.deleteRecord key := by
  cases outcome with
  | served =>
    cases served
    exact Or.inr rfl
  | deleted keys error =>
    cases error with
    | none => cases served
    | some raised =>
      cases served
      exact Or.inr rfl
  | failed error =>
    cases served
    exact Or.inl rfl
  | responded response => cases served

theorem serve_uploadFileobj
    (served : serve world outcome (.uploadFileobj bucket key file) = some (answer, after)) :
    after = world ∨ after = { world with objects := world.objects.set (bucket, key) file } := by
  cases outcome with
  | served =>
    cases served
    exact Or.inr rfl
  | failed error =>
    cases served
    exact Or.inl rfl
  | responded response => cases served
  | deleted keys error => cases served

theorem serve_redisSet
    (served : serve world outcome (.redisSet key record ttlSeconds) = some (answer, after)) :
    after = world ∨ after = { world with records := world.records.set key record } := by
  cases outcome with
  | served =>
    cases served
    exact Or.inr rfl
  | failed error =>
    cases served
    exact Or.inl rfl
  | responded response => cases served
  | deleted keys error => cases served

theorem serve_convertBatch
    (served : serve world outcome (.convertBatch body headers) = some (answer, after)) :
    after = world := by
  cases outcome <;> cases served <;> rfl

/-! ### Concrete surroundings -/

/-- A codec for ASCII, with one JSON object for all texts. -/
def asciiCodec : Codec where
  decode := fun body => some (body.map fun byte => Char.ofNat byte.toNat)
  loads := fun _ => some (.object [])
  toFloat := fun _ => some 0
  toInt := fun _ => some 0
  format := fun _ => []

/-- docling-serve reports so many converted documents. -/
def converted (succeeded : ℚ) : Outcome :=
  .responded ⟨200, [], none, [], some (.object [("num_succeeded".toList, .number succeeded)])⟩

/-- One task, `t`, with these objects below its output prefix. -/
def taskWorld (record : TaskRecord) (objects : List (String × Bytes)) : World where
  records := OrderedDict.empty.set (recordKey "t".toList) record
  objects := objects.foldl (fun held object =>
    held.set ("docling-output".toList, outputPrefix {} record.requestId ++ object.1.toList)
      object.2) .empty

end DoclingServeRay.Facade
