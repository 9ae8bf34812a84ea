import DoclingServeRay.Facade.Reconstruction

/-! A cleanup deletes by key prefix, and an answer carries what its file names
and its table of formats select: which objects are in both. -/
namespace DoclingServeRay.Facade
open Strings Calls

/-- The bytes are in the answer: read into a field of the document, or as an
entry of the archive. -/
def Resolved.delivers (codec : Codec) : Resolved → Bytes → Prop
  | .passthrough _, _ => False
  | .document response, body => ∃ field content,
      response.document.fields.get? field = some content ∧ fieldValue codec field body = some content
  | .zip result, body => ∃ name, (name, .artifact body) ∈ result.content

/-- The answer cannot tell the two apart: an archive keeps bytes, and a document
what they read as. -/
def Indistinct (codec : Codec) (record : TaskRecord) (field : Field) (held body : Bytes) : Prop :=
  if record.zipped then held = body
  else fieldValue codec field held = fieldValue codec field body

theorem document_field {artifacts : OrderedDict Field (Text × Bytes)}
    (built : buildExportDocumentResponse codec filename artifacts = some document) (field : Field) :
    document.filename = filename ∧
      document.fields.get? field =
        (artifacts.get? field).bind fun artifact => fieldValue codec field artifact.2 := by
  obtain ⟨fields, mapped, valid⟩ := Option.bind_eq_some_iff.mp built
  split at valid
  · cases valid
    exact ⟨rfl, OrderedDict.get?_traverse mapped field⟩
  · cases valid

theorem document_value {artifacts : OrderedDict Field (Text × Bytes)}
    (built : buildExportDocumentResponse codec filename artifacts = some document)
    (present : artifacts.get? field = some artifact) :
    ∃ content, fieldValue codec field artifact.2 = some content := by
  obtain ⟨fields, mapped, _⟩ := Option.bind_eq_some_iff.mp built
  obtain ⟨content, read⟩ := OrderedDict.image_of_traverse mapped present
  exact ⟨content, read⟩

/-- Every artifact reads as its field requires. -/
def Readable (codec : Codec) (artifacts : OrderedDict Field (Text × Bytes)) : Prop :=
  ∀ field artifact, artifacts.get? field = some artifact →
    ∃ content, fieldValue codec field artifact.2 = some content ∧ content.isValid = true

/-- Readable artifacts make a document. -/
theorem document_of_readable {artifacts : OrderedDict Field (Text × Bytes)}
    (readable : Readable codec artifacts) (filename : Text) :
    ∃ document, buildExportDocumentResponse codec filename artifacts = some document := by
  obtain ⟨fields, mapped⟩ := OrderedDict.traverse_of_images fun field artifact held =>
    (readable field artifact held).imp fun _ both => both.1
  have valid : fields.values.all Content.isValid = true := by
    rw [List.all_eq_true]
    intro content listed
    obtain ⟨⟨field, _⟩, entry, rfl⟩ := List.mem_map.mp listed
    have held := (OrderedDict.mem_entries_iff _ _ _).mp entry
    rw [OrderedDict.get?_traverse mapped] at held
    obtain ⟨artifact, present, value⟩ := Option.bind_eq_some_iff.mp held
    obtain ⟨other, same, good⟩ := readable field artifact present
    rw [value] at same
    exact Option.some.inj same ▸ good
  exact ⟨⟨filename, fields⟩, by
    rw [buildExportDocumentResponse, mapped, Option.bind_some, if_pos valid]⟩

/-- A document is made of readable artifacts. -/
theorem readable_of_document {artifacts : OrderedDict Field (Text × Bytes)}
    (built : buildExportDocumentResponse codec filename artifacts = some document) :
    Readable codec artifacts := by
  intro field artifact present
  obtain ⟨content, read⟩ := document_value built present
  obtain ⟨fields, mapped, valid⟩ := Option.bind_eq_some_iff.mp built
  split at valid
  · rename_i good
    refine ⟨content, read, List.all_eq_true.mp good content (List.mem_map.mpr ⟨(field, content), ?_, rfl⟩)⟩
    rw [OrderedDict.mem_entries_iff, OrderedDict.get?_traverse mapped, present]
    exact read
  · cases valid

theorem mem_zipEntries {document : ZipDocument} (name : Text) (body : Bytes) :
    (name, .artifact body) ∈ document.entries ↔ ∃ field ext,
      document.artifactsByField.get? field = some (ext, body) ∧ name = document.stem ++ ext := by
  simp only [ZipDocument.entries, OrderedDict.values, List.map_map, List.mem_map, Prod.exists,
    Function.comp_apply, Prod.mk.injEq, ZipContent.artifact.injEq, OrderedDict.mem_entries_iff]
  constructor
  · rintro ⟨field, ext, held, present, rfl, rfl⟩
    exact ⟨field, ext, present, rfl⟩
  · rintro ⟨field, ext, present, rfl⟩
    exact ⟨field, ext, body, present, rfl, rfl⟩

theorem mem_zipArchive {documents : List ZipDocument} (name : Text) (body : Bytes) :
    (name, .artifact body) ∈ (buildZipArchive documents).content ↔
      ∃ document ∈ documents, (name, .artifact body) ∈ document.entries := by
  simp [buildZipArchive]

/-- The archive has one manifest, with a status for each document. -/
theorem mem_manifest {documents : List ZipDocument} (name : Text)
    (statuses : List DocumentStatus) :
    (name, .manifest statuses) ∈ (buildZipArchive documents).content ↔
      name = "_status.json".toList ∧ statuses = documents.map ZipDocument.status := by
  have artifacts : ∀ document : ZipDocument,
      (name, ZipContent.manifest statuses) ∉ document.entries := by
    intro document entry
    obtain ⟨artifact, _, equal⟩ := List.mem_map.mp entry
    cases equal
  simp [buildZipArchive, artifacts]

theorem slot_eq (grouped : Grouped) (stem : Text) (field : Field) :
    ((grouped.get? stem).getD .empty).get? field = grouped.slot stem field := by
  unfold Grouped.slot
  cases grouped.get? stem <;> rfl

theorem single_name {record : TaskRecord} (inline : ¬ record.zipped = true)
    (first : record.filenames.head? = some filename) : record.filenames = [filename] := by
  cases names : record.filenames with
  | nil => simp [names] at first
  | cons head rest =>
    simp only [names, List.head?_cons, Option.some.injEq] at first
    subst first
    cases rest with
    | nil => rfl
    | cons second rest => simp [TaskRecord.zipped, names] at inline

/-- An answer delivers the bytes held in the slots of the uploaded stems. -/
theorem reconstruct_delivers (built : reconstruct codec record nativeResult grouped = some result)
    (body : Bytes) :
    result.delivers codec body ↔ ∃ filename ∈ record.filenames, ∃ field ext held,
      grouped.slot (stemOf filename) field = some (ext, held) ∧
        Indistinct codec record field held body := by
  unfold reconstruct at built
  by_cases zipped : record.zipped = true
  · rw [if_pos zipped] at built
    cases built
    simp only [Resolved.delivers, mem_zipArchive, mem_zipEntries, zipDocuments, List.mem_map,
      Indistinct, zipped, ↓reduceIte]
    constructor
    · rintro ⟨name, _, ⟨filename, uploaded, rfl⟩, field, ext, present, _⟩
      rw [slot_eq] at present
      exact ⟨filename, uploaded, field, ext, body, present, rfl⟩
    · rintro ⟨filename, uploaded, field, ext, _, present, rfl⟩
      rw [← slot_eq] at present
      exact ⟨_, _, ⟨filename, uploaded, rfl⟩, field, ext, present, rfl⟩
  · rw [if_neg zipped] at built
    obtain ⟨filename, first, built⟩ := Option.bind_eq_some_iff.mp built
    obtain ⟨document, made, built⟩ := Option.bind_eq_some_iff.mp built
    obtain ⟨time, _, built⟩ := Option.bind_eq_some_iff.mp built
    cases built
    have single := single_name zipped first
    simp only [Resolved.delivers, (document_field made _).2, slot_eq, Option.bind_eq_some_iff,
      Indistinct, zipped, single, List.mem_singleton, exists_eq_left]
    constructor
    · rintro ⟨field, content, ⟨⟨ext, held⟩, present, read⟩, same⟩
      exact ⟨field, ext, held, present, read.trans same.symm⟩
    · rintro ⟨field, ext, held, present, same⟩
      obtain ⟨content, read⟩ := document_value made ((slot_eq _ _ _).trans present)
      exact ⟨field, content, ⟨(ext, held), present, read⟩, same ▸ read⟩

/-- An object with these bytes is selected for the answer: its key parses to the
stem of an uploaded name, and no later key does to the same stem and field. -/
def Selected (codec : Codec) (record : TaskRecord) (keyPrefix : Text)
    (objects : List (Text × Bytes)) (body : Bytes) : Prop :=
  ∃ object ∈ objects, ∃ parsed, parseArtifactKey keyPrefix object.1 = some parsed ∧
    parsed.stem ∈ record.filenames.map stemOf ∧
    (∀ later ∈ objects, object.1 < later.1 →
      ¬ Occupies keyPrefix parsed.stem parsed.field later.1) ∧
    Indistinct codec record parsed.field object.2 body

/-- Over a set of objects, the answer delivers exactly what is selected. -/
theorem reconstruct_selects {objects : List (Text × Bytes)}
    (ordered : objects.Pairwise fun first second => first.1 < second.1)
    (built : reconstruct codec record nativeResult
      (groupArtifacts keyPrefix .empty objects) = some result) (body : Bytes) :
    result.delivers codec body ↔ Selected codec record keyPrefix objects body := by
  rw [reconstruct_delivers built]
  simp only [slot_groupArtifacts ordered, Selected, List.mem_map]
  constructor
  · rintro ⟨filename, uploaded, field, ext, held, ⟨key, member, parsed, free⟩, same⟩
    exact ⟨(key, held), member, ⟨ext, field, stemOf filename⟩, parsed, ⟨filename, uploaded, rfl⟩,
      free, same⟩
  · rintro ⟨⟨key, held⟩, member, ⟨ext, field, _⟩, parsed, ⟨filename, uploaded, rfl⟩, free, same⟩
    exact ⟨filename, uploaded, field, ext, held, ⟨key, member, parsed, free⟩, same⟩

/-! ### A fetch in a world that stands still -/

/-- A fetch leaves the world alone, and schedules a cleanup only with a
reconstruction from what is there. -/
theorem resolution_static {world after : World}
    (ran : (resolveResult codec settings taskId tenantId).run serve world outcomes =
      some (.ok ⟨result, some record⟩, after)) :
    ∃ nativeResult, reconstruct codec record nativeResult
      (groupArtifacts (outputPrefix settings record.requestId) .empty
        (world.below settings.s3OutputBucket (outputPrefix settings record.requestId))) =
      some result := by
  obtain ⟨found, settled⟩ : ∃ found, ∀ other,
      world.records.get? (recordKey taskId) = some other → other = found :=
    -- Where there is no record, any will do.
    ⟨(world.records.get? (recordKey taskId)).getD record, fun other present => by simp [present]⟩
  have attentive : Attentive world (fun _ => True) settings taskId found (fun here => here = world)
      (fun here call answer after => ∃ outcome, serve here outcome call = some (answer, after)) := by
    constructor
    · exact fun _ _ _ _ does => does
    · rintro _ rfl key body present
      exact present
    · rintro _ rfl other present
      exact settled other present
    · rintro _ rfl keys after ⟨outcome, served⟩
      cases outcome <;> cases served
      rfl
    · exact fun _ _ _ _ _ => trivial
  obtain ⟨_, returned⟩ := Program.safe_run
    (fun _ _ _ _ _ served => ⟨_, served⟩) (resolveResult_safe attentive codec tenantId) rfl ran
  rcases returned _ rfl with ⟨response, _, same⟩ | ⟨nativeResult, rebuilt, built, same⟩
  · cases same
  · cases same
    exact ⟨nativeResult, built⟩

/-- A fetch that schedules a cleanup delivers everything that the cleanup
deletes exactly when everything is selected for its answer. -/
theorem deleted_objects_delivered_iff {world after : World}
    (ran : (resolveResult codec settings taskId tenantId).run serve world outcomes =
      some (.ok ⟨result, some record⟩, after)) :
    (∀ key body, world.objects.get? (settings.s3OutputBucket, key) = some body →
      outputPrefix settings record.requestId <+: key → result.delivers codec body) ↔
    ∀ key body, world.objects.get? (settings.s3OutputBucket, key) = some body →
      outputPrefix settings record.requestId <+: key →
      Selected codec record (outputPrefix settings record.requestId)
        (world.below settings.s3OutputBucket (outputPrefix settings record.requestId)) body := by
  obtain ⟨nativeResult, built⟩ := resolution_static ran
  have selects := reconstruct_selects below_ordered built
  constructor
  · intro delivered key body present below
    exact (selects body).mp (delivered key body present below)
  · intro selected key body present below
    exact (selects body).mpr (selected key body present below)

def fetchOutcomes : List Outcome := [.served, converted 1, .served, .served]

/-- Two files, in Markdown and HTML. -/
def twoFilesRecord : TaskRecord where
  requestId := "r".toList
  tenantId := none
  filenames := ["notes.pdf".toList, "report.pdf".toList]
  toFormats := ["md".toList, "html".toList]
  asZip := false

/-- The HTML of the second file was not produced. -/
def threeObjects : World :=
  taskWorld twoFilesRecord [("h/notes.html", [104]), ("h/notes.md", [110]), ("h/report.md", [109])]

theorem three_below : threeObjects.below "docling-output".toList
    (outputPrefix {} twoFilesRecord.requestId) =
      [("facade-results/r/h/notes.html".toList, [104]), ("facade-results/r/h/notes.md".toList, [110]),
        ("facade-results/r/h/report.md".toList, [109])] := by decide +kernel

theorem three_selected (member : (key, body) ∈ threeObjects.below "docling-output".toList
    (outputPrefix {} twoFilesRecord.requestId)) :
    Selected asciiCodec twoFilesRecord (outputPrefix {} twoFilesRecord.requestId)
      (threeObjects.below "docling-output".toList (outputPrefix {} twoFilesRecord.requestId)) body := by
  have parsed : ∀ object ∈ threeObjects.below "docling-output".toList
      (outputPrefix {} twoFilesRecord.requestId), ∃ parsed,
        parseArtifactKey (outputPrefix {} twoFilesRecord.requestId) object.1 = some parsed ∧
          parsed.stem ∈ twoFilesRecord.filenames.map stemOf ∧
          ∀ later ∈ threeObjects.below "docling-output".toList
            (outputPrefix {} twoFilesRecord.requestId), object.1 < later.1 →
              (parseArtifactKey (outputPrefix {} twoFilesRecord.requestId) later.1).map
                (fun other => (other.stem, other.field)) ≠ some (parsed.stem, parsed.field) := by
    rw [three_below]
    simp only [List.forall_mem_cons]
    refine ⟨⟨⟨".html".toList, .htmlContent, "notes".toList⟩, ?_⟩,
      ⟨⟨".md".toList, .mdContent, "notes".toList⟩, ?_⟩,
      ⟨⟨".md".toList, .mdContent, "report".toList⟩, ?_⟩, nofun⟩
    all_goals decide +kernel
  obtain ⟨read, same, uploaded, last⟩ := parsed _ member
  refine ⟨(key, body), member, read, same, uploaded, ?_, rfl⟩
  rintro later listed after ⟨ext, occupied⟩
  exact last later listed after (by rw [occupied]; rfl)

theorem deleted_objects_delivered_three :
    ∃ result after, (resolveResult asciiCodec {} "t".toList none).run serve threeObjects
        (fetchOutcomes ++ [.served, .served]) = some (.ok ⟨result, some twoFilesRecord⟩, after) ∧
      ∀ key body, threeObjects.objects.get? ("docling-output".toList, key) = some body →
        outputPrefix {} twoFilesRecord.requestId <+: key → result.delivers asciiCodec body := by
  have goes : ((resolveResult asciiCodec {} "t".toList none).run serve threeObjects
      (fetchOutcomes ++ [.served, .served])).any (fun ended =>
        match ended.1 with
        | .ok resolution => resolution.cleanup = some twoFilesRecord
        | .error _ => false) = true := by decide +kernel
  obtain ⟨⟨ended, after⟩, ran, shape⟩ := (Option.any_eq_true _ _).mp goes
  cases ended with
  | error error => cases shape
  | ok resolution =>
    obtain ⟨result, cleanup⟩ := resolution
    obtain rfl : cleanup = some twoFilesRecord := of_decide_eq_true shape
    refine ⟨result, after, ran, (deleted_objects_delivered_iff ran).mpr ?_⟩
    intro key body present below
    exact three_selected ((mem_below key body).mpr ⟨present, below⟩)

/-! ### A format without a field -/

/-- One file, asked for as an archive in Markdown and YAML. -/
def yamlRecord : TaskRecord where
  requestId := "r".toList
  tenantId := none
  filenames := ["report.pdf".toList]
  toFormats := ["md".toList, "yaml".toList]
  asZip := true

/-- A run that ended in an archive without the YAML, to be cleaned up after. -/
def withoutYaml (ended : Except Raised Resolution × World) : Bool :=
  match ended.1 with
  | .ok ⟨.zip result, some record⟩ => record = yamlRecord &&
      result.content.all fun entry => entry.2 ≠ .artifact [121]
  | _ => false

/-- The YAML is deleted with the rest, and is in no answer. -/
theorem unknown_format_undelivered :
    ∃ result after, (resolveResult asciiCodec {} "t".toList none).run serve
        (taskWorld yamlRecord [("h/report.md", [109]), ("h/report.yaml", [121])]) fetchOutcomes =
          some (.ok ⟨result, some yamlRecord⟩, after) ∧
      ¬ ∀ key body, (taskWorld yamlRecord [("h/report.md", [109]), ("h/report.yaml", [121])]).objects.get?
          ("docling-output".toList, key) = some body →
        outputPrefix {} yamlRecord.requestId <+: key → result.delivers asciiCodec body := by
  have goes : ((resolveResult asciiCodec {} "t".toList none).run serve
      (taskWorld yamlRecord [("h/report.md", [109]), ("h/report.yaml", [121])]) fetchOutcomes).any
        withoutYaml = true := by decide +kernel
  obtain ⟨⟨ended, after⟩, ran, shape⟩ := (Option.any_eq_true _ _).mp goes
  unfold withoutYaml at shape
  dsimp only at shape
  split at shape
  · rename_i result record
    rw [Bool.and_eq_true, decide_eq_true_eq] at shape
    obtain ⟨rfl, missing⟩ := shape
    refine ⟨.zip result, after, ran, ?_⟩
    intro delivered
    obtain ⟨name, member⟩ := delivered "facade-results/r/h/report.yaml".toList [121]
      (by decide +kernel) (by decide +kernel)
    have other := List.all_eq_true.mp missing _ member
    simp at other
  · cases shape

end DoclingServeRay.Facade
