import DoclingServeRay.Facade.Undelivered
import DoclingServeRay.Orchestration.Workflow

/-! The places that decide whether a document was converted: the early return of
a fetch, the inline answer, the manifest of an archive, and the workflow. -/
namespace DoclingServeRay.Facade
open Strings Calls

/-- The counts of a docling-serve result. -/
structure Counts where
  numSucceeded : Nat
  numPartiallySucceeded : Nat
  numFailed : Nat

/-- A result with these counts; the time, where there is one, is a number. -/
structure Reports (counts : Counts) (nativeResult : Json) : Prop where
  succeeded : nativeResult.get? "num_succeeded".toList = some (.number counts.numSucceeded)
  partially : nativeResult.get? "num_partially_succeeded".toList =
    some (.number counts.numPartiallySucceeded)
  failed : nativeResult.get? "num_failed".toList = some (.number counts.numFailed)
  time : ∃ value, (nativeResult.get? "processing_time".toList).getD (.number 0) = .number value

/-- What the workflow's `fetch_outcome` makes of the same result. -/
def Counts.outcome (counts : Counts) (taskId : Text) : Orchestration.TaskOutcome where
  taskId := taskId
  numSucceeded := some counts.numSucceeded
  numPartiallySucceeded := some counts.numPartiallySucceeded
  numFailed := some counts.numFailed

/-- A task of the facade with one file. -/
structure OneFileTask where
  taskId : Text
  requestId : Text
  tenantId : Option Text
  filename : Text
  toFormats : List Text

def OneFileTask.record (task : OneFileTask) (asZip : Bool) : TaskRecord where
  requestId := task.requestId
  tenantId := task.tenantId
  filenames := [task.filename]
  toFormats := task.toFormats
  asZip := asZip

/-- Nothing fails, and docling-serve answers with its result. -/
def serveAnswering (native : HttpResponse) (world : World) (call : Call) :
    Except Raised call.Answer × World :=
  match call with
  | .getResult _ _ => (.ok native, world)
  | call => (serve world .served call).getD (.error .other, world)

section Tasks

variable (codec : Codec) (settings : Settings) (world : World) (task : OneFileTask)
  (native : HttpResponse)

def OneFileTask.stored (asZip : Bool) : World :=
  { world with records := world.records.set (recordKey task.taskId) (task.record asZip) }

/-- What `resolve_result` returns for the task, submitted with `as_zip` or not. -/
def OneFileTask.answer (tenantId : Option Text) (asZip : Bool) : Except Raised Resolution :=
  ((resolveResult codec settings task.taskId tenantId).eval (serveAnswering native)
    (task.stored world asZip)).1

/-- The artifacts of the document in S3. -/
def OneFileTask.artifacts : OrderedDict Field (Text × Bytes) :=
  ((groupArtifacts (outputPrefix settings task.requestId) .empty (world.below
    settings.s3OutputBucket (outputPrefix settings task.requestId))).get?
    (stemOf task.filename)).getD .empty

end Tasks

/-- The archive has this content for the document in the format of this field. -/
def ZipResult.Carries (codec : Codec) (archive : ZipResult) (stem : Text) (field : Field)
    (content : Content) : Prop :=
  ∃ ext body, (ext, field) ∈ extensionToField ∧
    (stem ++ ext, .artifact body) ∈ archive.content ∧ fieldValue codec field body = some content

/-- The inline answer and the archive say the same of the document. -/
structure SamePackage (codec : Codec) (filename : Text) (response : ConvertDocumentResponse)
    (archive : ZipResult) : Prop where
  status : response.status = "success".toList ↔
    ⟨filename, "success".toList⟩ ∈ archive.documentStatuses
  contents : ∀ field content, response.document.fields.get? field = some content ↔
    archive.Carries codec (stemOf filename) field content

/-- The verdicts agree: docling-serve's counts are passed through exactly when
the workflow sees nothing produced in them, and otherwise `as_zip` changes
nothing but the packaging. -/
structure VerdictsAgree (codec : Codec) (settings : Settings) (world : World) (task : OneFileTask)
    (native : HttpResponse) (counts : Counts) (tenantId : Option Text) : Prop where
  produced : ∀ asZip, task.answer codec settings world native tenantId asZip =
    .ok ⟨.passthrough native, none⟩ ↔ (counts.outcome task.taskId).produced = some 0
  packaging : (∀ asZip, task.answer codec settings world native tenantId asZip =
      .ok ⟨.passthrough native, none⟩) ∨
    ∃ response archive, task.answer codec settings world native tenantId false =
        .ok ⟨.document response, some (task.record false)⟩ ∧
      task.answer codec settings world native tenantId true =
        .ok ⟨.zip archive, some (task.record true)⟩ ∧
      SamePackage codec task.filename response archive

/-! ### Reading the counts -/

theorem produced_zero_iff (counts : Counts) (taskId : Text) :
    (counts.outcome taskId).produced = some 0 ↔
      counts.numSucceeded = 0 ∧ counts.numPartiallySucceeded = 0 := by
  simp only [Counts.outcome, Orchestration.TaskOutcome.produced, Option.map_some,
    Option.getD_some, Option.some.injEq]
  omega

theorem countsNothing_iff (reports : Reports counts nativeResult) :
    countsNothing nativeResult = true ↔ counts.numSucceeded = 0 := by
  unfold countsNothing
  rw [reports.succeeded]
  simp

theorem serveAnswering_answers (native : HttpResponse) (world : World) :
    Answers (serveAnswering native) world native where
  redisGet := fun _ => rfl
  getResult := fun _ _ => rfl
  listArtifacts := fun _ _ => rfl
  getObject := fun bucket key body held => by simp [serveAnswering, serve, held]

/-- Artifacts that were fetched have the extensions of their fields. -/
theorem artifacts_paired
    (held : (OneFileTask.artifacts settings world task).get? field = some (ext, body)) :
    (ext, field) ∈ extensionToField := by
  rw [OneFileTask.artifacts, slot_eq, slot_groupArtifacts below_ordered] at held
  obtain ⟨key, _, read, _⟩ := held
  obtain ⟨_, _, leaf⟩ := parseArtifactKey_eq_some read
  exact (parseLeaf_eq_some leaf).1

/-! ### The answers -/

section Answered

variable {codec : Codec} {settings : Settings} {world : World} {task : OneFileTask}
  {native : HttpResponse} {counts : Counts} {nativeResult : Json}

theorem stored_record (world : World) (task : OneFileTask) (asZip : Bool) :
    (task.stored world asZip).records.get? (recordKey task.taskId) = some (task.record asZip) := by
  rw [OneFileTask.stored, OrderedDict.get?_set, if_pos rfl]

theorem answer_passed (answered : native.statusCode < 400)
    (parsed : native.json.bind object? = some nativeResult)
    (nothing : countsNothing nativeResult = true) (tenantId : Option Text) (asZip : Bool) :
    task.answer codec settings world native tenantId asZip = .ok ⟨.passthrough native, none⟩ := by
  rw [OneFileTask.answer, resolve_eval_passed (serveAnswering_answers native _)
    (stored_record world task asZip) answered parsed nothing]

theorem answer_reconstructed (answered : native.statusCode < 400)
    (parsed : native.json.bind object? = some nativeResult)
    (counted : countsNothing nativeResult = false) (tenantId : Option Text) (asZip : Bool) :
    task.answer codec settings world native tenantId asZip =
      (reconstruct codec (task.record asZip) nativeResult (groupArtifacts
        (outputPrefix settings task.requestId) .empty (world.below settings.s3OutputBucket
          (outputPrefix settings task.requestId)))).elim (.error .other)
        fun result => .ok ⟨result, some (task.record asZip)⟩ := by
  rw [OneFileTask.answer, resolve_eval_reconstructed (serveAnswering_answers native _)
    (stored_record world task asZip) answered parsed counted]
  rfl

/-- The archive of the one document. -/
def OneFileTask.archive (settings : Settings) (world : World) (task : OneFileTask) : ZipResult :=
  buildZipArchive [⟨task.filename, stemOf task.filename, task.artifacts settings world⟩]

/-- As an archive, whatever the artifacts. -/
theorem answer_zip (answered : native.statusCode < 400)
    (parsed : native.json.bind object? = some nativeResult)
    (counted : countsNothing nativeResult = false) (tenantId : Option Text) :
    task.answer codec settings world native tenantId true =
      .ok ⟨.zip (task.archive settings world), some (task.record true)⟩ := by
  rw [answer_reconstructed answered parsed counted]
  rfl

/-- Inline, the document if it can be made. -/
theorem answer_inline (answered : native.statusCode < 400)
    (parsed : native.json.bind object? = some nativeResult)
    (counted : countsNothing nativeResult = false) (tenantId : Option Text)
    (timed : codec.toFloat ((nativeResult.get? "processing_time".toList).getD (.number 0)) =
      some time) :
    task.answer codec settings world native tenantId false =
      (buildExportDocumentResponse codec task.filename (task.artifacts settings world)).elim
        (.error .other) fun document =>
          .ok ⟨.document ⟨document, "success".toList, time⟩, some (task.record false)⟩ := by
  have inline : ¬ (task.record false).zipped = true := by
    simp [OneFileTask.record, TaskRecord.zipped]
  rw [answer_reconstructed answered parsed counted, reconstruct, if_neg inline]
  simp only [OneFileTask.record, List.head?_cons, Option.bind_eq_bind, Option.bind_some, timed]
  cases built : buildExportDocumentResponse codec task.filename (task.artifacts settings world) with
  | none =>
    rw [OneFileTask.artifacts] at built
    rw [built]
    rfl
  | some document =>
    rw [OneFileTask.artifacts] at built
    rw [built]
    rfl

/-! ### The package -/

/-- What the archive carries is what the artifacts read as. -/
theorem archive_carries (field : Field) (content : Content) :
    (task.archive settings world).Carries codec (stemOf task.filename) field content ↔
      ((task.artifacts settings world).get? field).bind
        (fun artifact => fieldValue codec field artifact.2) = some content := by
  simp only [ZipResult.Carries, OneFileTask.archive, mem_zipArchive, List.mem_singleton,
    exists_eq_left, mem_zipEntries, Option.bind_eq_some_iff]
  constructor
  · rintro ⟨ext, body, paired, ⟨field', ext', held, same⟩, read⟩
    obtain rfl := List.append_cancel_left same
    obtain rfl := ext_field paired (artifacts_paired held)
    exact ⟨(ext, body), held, read⟩
  · rintro ⟨⟨ext, body⟩, held, read⟩
    exact ⟨ext, body, artifacts_paired held, ⟨field, ext, held, rfl⟩, read⟩

/-- The manifest reports success for a document with artifacts. -/
theorem manifest_success_iff :
    ⟨task.filename, "success".toList⟩ ∈ (task.archive settings world).documentStatuses ↔
      (task.artifacts settings world).entries ≠ [] := by
  simp only [OneFileTask.archive, buildZipArchive, List.map_singleton, List.mem_singleton,
    ZipDocument.status]
  cases (task.artifacts settings world).entries with
  | nil => simp
  | cons entry entries => simp

/-- Nothing was converted, not even in part; or something was in full, and its
artifacts are there and read as their fields require. -/
def PlainVerdict (codec : Codec) (settings : Settings) (world : World) (task : OneFileTask)
    (counts : Counts) : Prop :=
  (counts.numSucceeded = 0 ∧ counts.numPartiallySucceeded = 0) ∨
    (0 < counts.numSucceeded ∧ (task.artifacts settings world).entries ≠ [] ∧
      Readable codec (task.artifacts settings world))

theorem plain_of_agree (answered : native.statusCode < 400)
    (parsed : native.json.bind object? = some nativeResult) (reports : Reports counts nativeResult)
    (timed : codec.toFloat ((nativeResult.get? "processing_time".toList).getD (.number 0)) =
      some time)
    (agree : VerdictsAgree codec settings world task native counts tenantId) :
    PlainVerdict codec settings world task counts := by
  by_cases nothing : counts.numSucceeded = 0
  · have passed : task.answer codec settings world native tenantId false = _ :=
      answer_passed answered parsed ((countsNothing_iff reports).mpr nothing) tenantId false
    exact Or.inl ((produced_zero_iff counts task.taskId).mp ((agree.produced false).mp passed))
  · have counted : countsNothing nativeResult = false :=
      Bool.eq_false_iff.mpr fun none => nothing ((countsNothing_iff reports).mp none)
    have zip : task.answer codec settings world native tenantId true = _ :=
      answer_zip answered parsed counted tenantId
    have inline : task.answer codec settings world native tenantId false = _ :=
      answer_inline answered parsed counted tenantId timed
    rcases agree.packaging with passed | ⟨response, archive, document, archived, same⟩
    · cases zip.symm.trans (passed true)
    · cases zip.symm.trans archived
      cases built : buildExportDocumentResponse codec task.filename
          (task.artifacts settings world) with
      | none =>
        rw [built] at inline
        cases inline.symm.trans document
      | some made =>
        rw [built] at inline
        cases inline.symm.trans document
        exact Or.inr ⟨Nat.pos_of_ne_zero nothing, manifest_success_iff.mp (same.status.mp rfl),
          readable_of_document built⟩

/-- The verdicts agree exactly when nothing was converted, not even in part, or
something was in full and its artifacts are there and readable. -/
theorem verdicts_agree_iff (answered : native.statusCode < 400)
    (parsed : native.json.bind object? = some nativeResult) (reports : Reports counts nativeResult)
    (floats : ∀ value, ∃ time, codec.toFloat (.number value) = some time) :
    VerdictsAgree codec settings world task native counts tenantId ↔
      PlainVerdict codec settings world task counts := by
  obtain ⟨value, given⟩ := reports.time
  obtain ⟨time, timed⟩ := floats value
  rw [← given] at timed
  refine ⟨plain_of_agree answered parsed reports timed, ?_⟩
  rintro (⟨nothing, nor⟩ | ⟨something, present, readable⟩)
  · have passed : ∀ asZip, task.answer codec settings world native tenantId asZip = _ :=
      answer_passed answered parsed ((countsNothing_iff reports).mpr nothing) tenantId
    refine ⟨fun asZip => ?_, Or.inl passed⟩
    exact iff_of_true (passed asZip) ((produced_zero_iff counts task.taskId).mpr ⟨nothing, nor⟩)
  · have counted : countsNothing nativeResult = false :=
      Bool.eq_false_iff.mpr fun none => something.ne' ((countsNothing_iff reports).mp none)
    obtain ⟨document, built⟩ := document_of_readable readable task.filename
    have zip : task.answer codec settings world native tenantId true = _ :=
      answer_zip answered parsed counted tenantId
    have inline : task.answer codec settings world native tenantId false = _ :=
      answer_inline answered parsed counted tenantId timed
    rw [built] at inline
    constructor
    · intro asZip
      refine iff_of_false ?_ fun none =>
        something.ne' ((produced_zero_iff counts task.taskId).mp none).1
      intro passed
      cases asZip with
      | false => cases inline.symm.trans passed
      | true => cases zip.symm.trans passed
    · refine Or.inr ⟨_, _, inline, zip, ?_, ?_⟩
      · exact iff_of_true rfl (manifest_success_iff.mpr present)
      · intro field content
        rw [archive_carries, (document_field built field).2]

end Answered

/-! ### A partial success -/

def report : OneFileTask := ⟨"t".toList, "r".toList, none, "a.pdf".toList, ["md".toList]⟩

def reportWorld : World := taskWorld (report.record false) [("h/a.md", [109])]

/-- docling-serve's result with these counts. -/
def Counts.result (counts : Counts) : Json := .object [
  ("num_succeeded".toList, .number counts.numSucceeded),
  ("num_partially_succeeded".toList, .number counts.numPartiallySucceeded),
  ("num_failed".toList, .number counts.numFailed)]

def Counts.native (counts : Counts) : HttpResponse := ⟨200, [], none, [], some counts.result⟩

theorem result_reports (counts : Counts) : Reports counts counts.result :=
  ⟨rfl, rfl, rfl, 0, rfl⟩

theorem report_artifacts : (report.artifacts {} reportWorld).entries =
    [(.mdContent, ".md".toList, [109])] := by decide +kernel

/-- One document converted in full, and its Markdown there. -/
theorem verdicts_agree_report :
    VerdictsAgree asciiCodec {} reportWorld report (Counts.native ⟨1, 0, 0⟩) ⟨1, 0, 0⟩ none := by
  refine (verdicts_agree_iff (by decide) rfl (result_reports _) fun _ => ⟨0, rfl⟩).mpr ?_
  refine Or.inr ⟨Nat.one_pos, ?_, ?_⟩
  · rw [report_artifacts]
    exact List.cons_ne_nil _ _
  · intro field artifact present
    have listed := (OrderedDict.mem_entries_iff _ _ _).mpr present
    rw [report_artifacts] at listed
    cases List.mem_singleton.mp listed
    exact ⟨_, rfl, rfl⟩

/-- A document converted in part is passed over by the facade alone. -/
theorem partial_success_passed_over :
    ¬ ∀ codec settings world task counts tenantId,
      VerdictsAgree codec settings world task (Counts.native counts) counts tenantId := by
  intro agree
  have timed : asciiCodec.toFloat (((Counts.result ⟨0, 1, 0⟩).get?
      "processing_time".toList).getD (.number 0)) = some 0 := rfl
  have plain := plain_of_agree (by decide) rfl (result_reports ⟨0, 1, 0⟩) timed
    (agree asciiCodec {} reportWorld report ⟨0, 1, 0⟩ none)
  rcases plain with ⟨_, none⟩ | ⟨something, _⟩
  · cases none
  · cases something

end DoclingServeRay.Facade
