import DoclingServeRay.Facade.Options
import DoclingServeRay.Facade.Undelivered

/-! A request from its files to its answer, with a docling-serve that converts every
upload on its own: the upload's key, the name docling-serve derives from it, the
stem read back from the artifact's key, and the stem of the uploaded name. -/
namespace DoclingServeRay.Facade
open Strings Calls

/-! ### docling-serve -/

/-- The leaf of a key without its last extension. -/
def leafStem (key : Text) : Text := stemOf (rsplitTail '/' key)

/-- A docling-serve that accepts the batch, converts every document in it and
reports so. -/
structure Docling (codec : Codec) where
  /-- The directory of an object's outputs. -/
  hash : Text → Bytes → Text
  /-- The extension of each requested format. -/
  extensions : List Text
  convert : Text → Bytes → Bytes
  accepted : HttpResponse
  task : TaskStatusResponse
  finished : HttpResponse
  nativeResult : Json
  plain : ∀ ext ∈ extensions, '/' ∉ ext
  /-- What is written in a format with a field reads as that field requires. -/
  readable : ∀ ext ∈ extensions, ∀ field, (ext, field) ∈ extensionToField → ∀ body,
    ∃ content, fieldValue codec field (convert ext body) = some content ∧ content.isValid = true
  accepts : accepted.statusCode < 400 ∧ accepted.json.bind (taskStatus? codec) = some task
  finishes : finished.statusCode < 400 ∧ finished.json.bind object? = some nativeResult ∧
    countsNothing nativeResult = false ∧
    (codec.toFloat ((nativeResult.get? "processing_time".toList).getD (.number 0))).isSome = true

namespace Docling

variable {codec : Codec} (docling : Docling codec)

def outputKey (target : S3Coords) (source : Text × Bytes) (ext : Text) : Text :=
  target.keyPrefix ++ docling.hash source.1 source.2 ++ '/' :: (leafStem source.1 ++ ext)

/-- One object for each format. -/
def outputs (target : S3Coords) (source : Text × Bytes) : List ((Text × Text) × Bytes) :=
  docling.extensions.map fun ext =>
    ((target.bucket, docling.outputKey target source ext), docling.convert ext source.2)

/-- Every object below a source's prefix is converted on its own. -/
def convertSources (body : BatchBody) (world : World) : World :=
  let sources := body.sources.flatMap fun source => world.below source.bucket source.keyPrefix
  { world with objects := world.objects.setAll (sources.flatMap (docling.outputs body.target)) }

/-- A world where S3 and Redis serve every call and docling-serve converts what
it accepts. -/
def handle (world : World) : (call : Call) → Except Raised call.Answer × World
  | .convertBatch body _ => (.ok docling.accepted, docling.convertSources body world)
  | .getResult _ _ => (.ok docling.finished, world)
  | call => (serve world .served call).getD (.error .other, world)

end Docling

/-! ### Submitting and fetching -/

/-- One request of the facade, up to its files. -/
structure Submission where
  settings : Settings
  requestId : Text
  convertOptions : OrderedDict Text FormValue
  asZip : Bool
  tenantId : Option Text
  /-- Redis and S3 before the request. -/
  world : World
  /-- The request id is new. -/
  fresh : ∀ bucket key body, world.objects.get? (bucket, key) = some body →
    ¬ inputPrefix settings requestId <+: key ∧ ¬ outputPrefix settings requestId <+: key
  /-- Uploads do not land among the outputs. -/
  separate : settings.s3InputBucket = settings.s3OutputBucket → ∀ name,
    ¬ outputPrefix settings requestId <+: inputPrefix settings requestId ++ name

namespace Submission

variable {codec : Codec} (submission : Submission) (docling : Docling codec)

def record (files : List UploadFile) : TaskRecord where
  requestId := submission.requestId
  tenantId := submission.tenantId
  filenames := files.map uploadName
  toFormats := toFormats submission.convertOptions
  asZip := submission.asZip

def target : S3Coords :=
  s3Coords submission.settings submission.settings.s3OutputBucket
    (outputPrefix submission.settings submission.requestId)

def uploads (files : List UploadFile) : List ((Text × Text) × Bytes) :=
  files.map fun file => ((submission.settings.s3InputBucket,
    inputPrefix submission.settings submission.requestId ++ uploadName file), file.file)

/-- The world after the uploads. -/
def uploaded (files : List UploadFile) : World :=
  { submission.world with
    objects := submission.world.objects.setAll (submission.uploads files) }

/-- The uploads as docling-serve lists them. -/
def sources (files : List UploadFile) : List (Text × Bytes) :=
  (submission.uploaded files).below submission.settings.s3InputBucket
    (inputPrefix submission.settings submission.requestId)

/-- The world once docling-serve is done. -/
def finished (files : List UploadFile) : World :=
  docling.convertSources (batchBody submission.settings submission.requestId
    submission.convertOptions) (submission.uploaded files)

/-- The objects below the request's output prefix. -/
def artifacts (files : List UploadFile) : List (Text × Bytes) :=
  (submission.finished docling files).below submission.settings.s3OutputBucket
    (outputPrefix submission.settings submission.requestId)

def grouped (files : List UploadFile) : Grouped :=
  groupArtifacts (outputPrefix submission.settings submission.requestId) .empty
    (submission.artifacts docling files)

/-- `submit_file_upload`, and `resolve_result` for the task it returns. -/
def exchange (codec : Codec) (files : List UploadFile) (tenantId : Option Text) :
    Operation Resolution := do
  let task ← submitFileUpload codec submission.settings submission.requestId files
    submission.convertOptions submission.asZip submission.tenantId
  resolveResult codec submission.settings task.taskId tenantId

end Submission

/-! ### Names -/

section Names

theorem leafStem_upload (settings : Settings) (requestId name : Text) :
    leafStem (inputPrefix settings requestId ++ name) = leafStem name := by
  have shape : inputPrefix settings requestId ++ name =
      (settings.s3InputPrefix ++ requestId) ++ '/' :: name := by simp [inputPrefix]
  rw [leafStem, shape, rsplitTail_after]
  rfl

theorem not_mem_leafStem (key : Text) : '/' ∉ leafStem key := by
  intro member
  exact not_mem_rsplitTail '/' key ((rsplitHead_begins '.' _).subset member)

end Names

namespace Submission

variable {codec : Codec} {submission : Submission} {docling : Docling codec}
  {files : List UploadFile}

/-! ### Keys -/

theorem parse_outputKey (source : Text × Bytes) (known : ext ∈ docling.extensions) :
    parseArtifactKey (outputPrefix submission.settings submission.requestId)
        (docling.outputKey submission.target source ext) =
      parseLeaf (leafStem source.1 ++ ext) := by
  have leaf : '/' ∉ leafStem source.1 ++ ext := by
    rw [List.mem_append, not_or]
    exact ⟨not_mem_leafStem _, docling.plain ext known⟩
  have shape : docling.outputKey submission.target source ext =
      outputPrefix submission.settings submission.requestId ++
        (docling.hash source.1 source.2 ++ '/' :: (leafStem source.1 ++ ext)) := by
    simp [Docling.outputKey, target, s3Coords]
  rw [shape, parseArtifactKey_append, rsplitTail_append leaf]

/-- What docling-serve converts is what was uploaded. -/
theorem mem_sources (member : source ∈ submission.sources files) :
    ∃ file ∈ files, source =
      (inputPrefix submission.settings submission.requestId ++ uploadName file, file.file) := by
  obtain ⟨key, body⟩ := source
  obtain ⟨present, below⟩ := (mem_below key body).mp member
  rcases OrderedDict.get?_setAll submission.world.objects (submission.uploads files)
    (submission.settings.s3InputBucket, key) with ⟨value, written, holds⟩ | ⟨_, kept⟩
  · obtain rfl : value = body := Option.some.inj (holds.symm.trans present)
    obtain ⟨file, uploaded, same⟩ := List.mem_map.mp written
    cases same
    exact ⟨file, uploaded, rfl⟩
  · exact absurd below (submission.fresh _ _ _ (kept.symm.trans present)).1

/-- With distinct names, every upload is converted. -/
theorem sources_of_file (distinct : (files.map uploadName).Nodup) (member : file ∈ files) :
    (inputPrefix submission.settings submission.requestId ++ uploadName file, file.file) ∈
      submission.sources files := by
  refine (mem_below _ _).mpr ⟨?_, List.prefix_append _ _⟩
  rcases OrderedDict.get?_setAll submission.world.objects (submission.uploads files)
    (submission.settings.s3InputBucket,
      inputPrefix submission.settings submission.requestId ++ uploadName file)
    with ⟨value, written, holds⟩ | ⟨absent, _⟩
  · obtain ⟨other, uploaded, same⟩ := List.mem_map.mp written
    simp only [Prod.mk.injEq, true_and, List.append_cancel_left_eq] at same
    obtain ⟨named, rfl⟩ := same
    obtain rfl := List.inj_on_of_nodup_map distinct uploaded member named
    exact holds
  · exact absurd (List.mem_map.mpr ⟨file, member, rfl⟩) (absent file.file)

theorem convertSources_eq :
    submission.finished docling files =
      { submission.uploaded files with
        objects := (submission.uploaded files).objects.setAll
          ((submission.sources files).flatMap (docling.outputs submission.target)) } := by
  simp [finished, Docling.convertSources, batchBody, sources, target, s3Coords]

/-- The objects below the output prefix are docling-serve's. -/
theorem mem_artifacts (member : (key, body) ∈ submission.artifacts docling files) :
    ∃ file ∈ files, ∃ ext ∈ docling.extensions, key = docling.outputKey submission.target
      (inputPrefix submission.settings submission.requestId ++ uploadName file, file.file) ext ∧
      body = docling.convert ext file.file := by
  obtain ⟨present, below⟩ := (mem_below key body).mp member
  rw [convertSources_eq] at present
  rcases OrderedDict.get?_setAll (submission.uploaded files).objects
    ((submission.sources files).flatMap (docling.outputs submission.target))
    (submission.settings.s3OutputBucket, key) with ⟨value, written, holds⟩ | ⟨_, kept⟩
  · obtain rfl : value = body := Option.some.inj (holds.symm.trans present)
    obtain ⟨source, listed, output⟩ := List.mem_flatMap.mp written
    obtain ⟨ext, known, same⟩ := List.mem_map.mp output
    obtain ⟨file, uploaded, rfl⟩ := mem_sources listed
    cases same
    exact ⟨file, uploaded, ext, known, rfl, rfl⟩
  have held := kept.symm.trans present
  rcases OrderedDict.get?_setAll submission.world.objects (submission.uploads files)
    (submission.settings.s3OutputBucket, key) with ⟨value, written, _⟩ | ⟨_, older⟩
  · obtain ⟨file, _, same⟩ := List.mem_map.mp written
    simp only [Prod.mk.injEq] at same
    obtain ⟨⟨bucket, rfl⟩, _⟩ := same
    exact absurd below (submission.separate bucket _)
  · exact absurd below (submission.fresh _ _ _ (older.symm.trans held)).2

theorem artifacts_of_source (listed : source ∈ submission.sources files)
    (known : ext ∈ docling.extensions) :
    ∃ body, (docling.outputKey submission.target source ext, body) ∈
      submission.artifacts docling files := by
  have below : outputPrefix submission.settings submission.requestId <+:
      docling.outputKey submission.target source ext := by
    simp only [Docling.outputKey, target, s3Coords, List.append_assoc]
    exact List.prefix_append _ _
  rcases OrderedDict.get?_setAll (submission.uploaded files).objects
    ((submission.sources files).flatMap (docling.outputs submission.target))
    (submission.settings.s3OutputBucket, docling.outputKey submission.target source ext)
    with ⟨value, _, holds⟩ | ⟨absent, _⟩
  · refine ⟨value, (mem_below _ _).mpr ⟨?_, below⟩⟩
    rw [convertSources_eq]
    exact holds
  · exact absurd (List.mem_flatMap.mpr ⟨source, listed, List.mem_map.mpr ⟨ext, known, rfl⟩⟩)
      (absent _)

/-! ### Slots -/

/-- What fills a slot was converted from one of the files, and is read from the
name that docling-serve gave it. -/
theorem slot_source (filled : (submission.grouped docling files).slot stem field = some (ext, body)) :
    ∃ file ∈ files, ∃ form ∈ docling.extensions,
      parseLeaf (leafStem (uploadName file) ++ form) = some ⟨ext, field, stem⟩ ∧
        body = docling.convert form file.file := by
  obtain ⟨key, listed, read, _⟩ := (slot_groupArtifacts below_ordered _ _ _ _).mp filled
  obtain ⟨file, uploaded, form, known, rfl, rfl⟩ := mem_artifacts listed
  rw [parse_outputKey _ known, leafStem_upload] at read
  exact ⟨file, uploaded, form, known, read, rfl⟩

end Submission

/-- Every upload's artifacts are written under its own stem, and no two uploads'
or formats' under one name. -/
structure NamesSeparate (names extensions : List Text) : Prop where
  leaf : ∀ name ∈ names, stemOf name = leafStem name
  distinct : (names.map stemOf).Nodup
  apart : ∀ name ∈ names, ∀ ext ∈ extensions, ∀ other ∈ names, ∀ ext' ∈ extensions,
    stemOf name ++ ext = stemOf other ++ ext' → name = other ∧ ext = ext'

namespace Submission

variable {codec : Codec} {submission : Submission} {docling : Docling codec}
  {files : List UploadFile}

/-- What fills a slot goes by its own name in S3. -/
theorem slot_named (leaf : ∀ name ∈ files.map uploadName, stemOf name = leafStem name)
    (filled : (submission.grouped docling files).slot stem field = some (ext, body)) :
    ∃ file ∈ files, ∃ form ∈ docling.extensions,
      parseLeaf (stemOf (uploadName file) ++ form) = some ⟨ext, field, stem⟩ ∧
        stem ++ ext = stemOf (uploadName file) ++ form ∧ (ext, field) ∈ extensionToField ∧
          body = docling.convert form file.file := by
  obtain ⟨file, uploaded, form, known, read, same⟩ := slot_source filled
  rw [← leaf _ (List.mem_map_of_mem uploaded)] at read
  obtain ⟨listed, whole⟩ := parseLeaf_eq_some read
  exact ⟨file, uploaded, form, known, read, whole.symm, listed, same⟩

/-- Where names are separate, each artifact is in the slot that its name is read
as. -/
theorem slot_filled (separate : NamesSeparate (files.map uploadName) docling.extensions)
    (member : file ∈ files) (known : ext ∈ docling.extensions)
    (read : parseLeaf (stemOf (uploadName file) ++ ext) = some ⟨found, field, stem⟩) :
    (submission.grouped docling files).slot stem field =
      some (found, docling.convert ext file.file) := by
  have named : uploadName file ∈ files.map uploadName := List.mem_map_of_mem member
  obtain ⟨content, written⟩ :=
    artifacts_of_source (@sources_of_file submission files file (separate.distinct.of_map _) member) known
  have occupied : Occupies (outputPrefix submission.settings submission.requestId) stem field
      (docling.outputKey submission.target
        (inputPrefix submission.settings submission.requestId ++ uploadName file, file.file) ext) := by
    refine ⟨found, ?_⟩
    rw [parse_outputKey _ known, leafStem_upload, ← separate.leaf _ named, read]
  obtain ⟨⟨held, body⟩, filled⟩ := slot_occupied written occupied
  obtain ⟨other, uploaded, form, wanted, _, whole, listed, rfl⟩ := slot_named separate.leaf filled
  obtain ⟨listed', whole'⟩ := parseLeaf_eq_some read
  obtain rfl : held = found := field_ext listed listed'
  -- Two artifacts of one name would be of one file and one format.
  obtain ⟨same, rfl⟩ := separate.apart _ named ext known _ (List.mem_map_of_mem uploaded) form wanted
    (whole'.trans whole)
  obtain rfl := List.inj_on_of_nodup_map (separate.distinct.of_map _) member uploaded same
  exact filled

/-! ### The exchange, call by call -/

theorem uploadFiles_eval (settings : Settings) (requestId : Text) (world : World) :
    (uploadFiles settings requestId files).eval docling.handle world =
      (.ok (), { world with objects := world.objects.setAll (files.map fun file =>
        ((settings.s3InputBucket, inputPrefix settings requestId ++ uploadName file),
          file.file)) }) := by
  induction files generalizing world with
  | nil => rfl
  | cons file files ih =>
    rw [uploadFiles, Program.eval_bind_ok _ (Program.eval_perform rfl), ih]
    rfl

/-- The submission leaves the outputs in S3 and the record in Redis. -/
theorem submit_eval :
    (submitFileUpload codec submission.settings submission.requestId files
        submission.convertOptions submission.asZip submission.tenantId).eval docling.handle
        submission.world =
      (.ok docling.task, { submission.finished docling files with
        records := submission.world.records.set (recordKey docling.task.taskId)
          (submission.record files) }) := by
  obtain ⟨accepted, answered⟩ := docling.accepts
  obtain ⟨json, parsed, read⟩ := Option.bind_eq_some_iff.mp answered
  rw [submitFileUpload, translateTransportErrors, Program.eval_mapError,
    Program.eval_bind_ok _ (uploadFiles_eval _ _ _),
    Program.eval_bind_ok _ (Program.eval_perform rfl), if_neg (Nat.not_le.mpr accepted), parsed]
  simp only [orRaise, Program.done_bind, taskStatus_taskId read, formatted]
  rw [Program.eval_bind_ok _ (Program.eval_perform rfl), read]
  rfl

theorem handle_answers (docling : Docling codec) (world : World) :
    Answers docling.handle world docling.finished where
  redisGet := fun _ => rfl
  getResult := fun _ _ => rfl
  listArtifacts := fun _ _ => rfl
  getObject := fun bucket key body held => by simp [Docling.handle, serve, held]

/-- The fetch answers with the reconstruction from what docling-serve wrote. -/
theorem resolve_eval {world : World} (tenantId : Option Text)
    (recorded : world.records.get? (recordKey docling.task.taskId) =
      some (submission.record files))
    (written : world.objects = (submission.finished docling files).objects) :
    (resolveResult codec submission.settings docling.task.taskId tenantId).eval docling.handle
        world =
      ((reconstruct codec (submission.record files) docling.nativeResult
        (submission.grouped docling files)).elim (.error .other)
          fun result => .ok ⟨result, some (submission.record files)⟩, world) := by
  obtain ⟨answered, parsed, counts, _⟩ := docling.finishes
  have grouped : groupArtifacts (outputPrefix submission.settings (submission.record files).requestId)
      .empty (world.below submission.settings.s3OutputBucket
        (outputPrefix submission.settings (submission.record files).requestId)) =
      submission.grouped docling files := by
    simp only [Submission.grouped, artifacts, World.below, World.list, written]
    rfl
  rw [resolve_eval_reconstructed (handle_answers docling world) recorded answered parsed counts,
    grouped]

theorem exchange_eval (tenantId : Option Text) :
    ∃ world, (submission.exchange codec files tenantId).eval docling.handle submission.world =
      ((reconstruct codec (submission.record files) docling.nativeResult
        (submission.grouped docling files)).elim (.error .other)
          fun result => .ok ⟨result, some (submission.record files)⟩, world) := by
  rw [exchange, Program.eval_bind_ok _ (@submit_eval codec submission docling files)]
  have recorded := OrderedDict.get?_set submission.world.records
    (recordKey docling.task.taskId) (recordKey docling.task.taskId) (submission.record files)
  exact ⟨_, resolve_eval tenantId (recorded.trans (if_pos rfl)) rfl⟩

end Submission

end DoclingServeRay.Facade
