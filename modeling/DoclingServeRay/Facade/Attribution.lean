import DoclingServeRay.Facade.Exchange
import DoclingServeRay.Facade.Archive

/-! What the answer gives back for an uploaded file: the artifacts that are read
from an archive under its names, or the fields of the one document. -/
namespace DoclingServeRay.Facade
open Strings Calls

/-! ### What an answer gives back -/

section Answers

variable {codec : Codec} (docling : Docling codec)

/-- What is read from the archive by name: every file's own artifacts, each under
a name of its own, and besides them the manifest, which has every file down. -/
structure ArchiveGives (files : List UploadFile) (archive : ZipResult) : Prop where
  written : ∀ name ∈ archive.namelist, FitsHeader name
  distinct : archive.namelist.Nodup
  apart : ∀ (i j : Nat) (file other : UploadFile), files[i]? = some file → files[j]? = some other →
    ∀ ext ∈ docling.extensions, ∀ ext' ∈ docling.extensions,
      stemOf (uploadName file) ++ ext = stemOf (uploadName other) ++ ext' → i = j ∧ ext = ext'
  own : ∀ file ∈ files, ∀ ext ∈ docling.extensions,
    archive.read (stemOf (uploadName file) ++ ext) =
      some (.artifact (docling.convert ext file.file))
  only : ∀ name body, archive.read name = some (.artifact body) →
    ∃ file ∈ files, ∃ ext ∈ docling.extensions, name = stemOf (uploadName file) ++ ext
  manifest : archive.read "_status.json".toList = some (.manifest (files.map fun file =>
    ⟨uploadName file, if docling.extensions = [] then "failed".toList else "success".toList⟩))

/-- What the fields of the one document hold: the file's own artifacts, as they
read in their fields, and nothing else. -/
structure DocumentGives (file : UploadFile) (document : ExportDocumentResponse) : Prop where
  filename : document.filename = uploadName file
  own : ∀ ext ∈ docling.extensions, ∃ field content, (ext, field) ∈ extensionToField ∧
    fieldValue codec field (docling.convert ext file.file) = some content ∧
      document.fields.get? field = some content
  only : ∀ field content, document.fields.get? field = some content →
    ∃ ext ∈ docling.extensions, (ext, field) ∈ extensionToField ∧
      fieldValue codec field (docling.convert ext file.file) = some content

/-- The answer gives every file its own artifacts back. -/
def Resolved.Gives (files : List UploadFile) : Resolved → Prop
  | .passthrough _ => False
  | .zip archive => ArchiveGives docling files archive
  | .document response => ∃ file, files = [file] ∧ DocumentGives docling file response.document

/-- docling-serve tells these contents apart, in every format, as bytes and as
what a field holds of them. -/
structure Docling.Discerns (sample : Nat → Bytes) : Prop where
  bytes : ∀ ext ∈ docling.extensions, ∀ other ∈ docling.extensions, ∀ i j,
    docling.convert ext (sample i) = docling.convert other (sample j) → ext = other ∧ i = j
  content : ∀ ext ∈ docling.extensions, ∀ other ∈ docling.extensions, ∀ field content,
    (ext, field) ∈ extensionToField → ∀ i j,
    fieldValue codec field (docling.convert ext (sample i)) = some content →
    fieldValue codec field (docling.convert other (sample j)) = some content → ext = other ∧ i = j

end Answers

/-! ### Names -/

/-- The stem that is read off an artifact's name. -/
def stemRead (leaf : Text) : Option Text := (parseLeaf leaf).map Parsed.stem

/-- Names that an archive can give every artifact back under: each is read as one
of some upload, each upload has one read as its own, and none is cut, too long or
the manifest's. -/
structure NamesArchived (names extensions : List Text) : Prop extends
    NamesSeparate names extensions where
  read : ∀ name ∈ names, ∀ ext ∈ extensions, ∃ other ∈ names,
    stemRead (stemOf name ++ ext) = some (stemOf other)
  success : ∀ name ∈ names, ∃ other ∈ names, ∃ ext ∈ extensions,
    stemRead (stemOf other ++ ext) = some (stemOf name)
  printed : ∀ name ∈ names, ∀ ext ∈ extensions, Char.ofNat 0 ∉ stemOf name ++ ext
  unreserved : ∀ name ∈ names, ∀ ext ∈ extensions, stemOf name ++ ext ≠ "_status.json".toList
  short : ∀ name ∈ names, ∀ ext ∈ extensions, FitsHeader (stemOf name ++ ext)

/-- The name of the one upload leads back to it: its artifacts are written under
its own stem, and each is read as that stem and its extension. -/
structure NameIdentifies (name : Text) (extensions : List Text) : Prop where
  leaf : stemOf name = leafStem name
  read : ∀ ext ∈ extensions, ∃ field,
    parseLeaf (stemOf name ++ ext) = some ⟨ext, field, stemOf name⟩

theorem stemRead_eq_some {leaf stem : Text} (read : stemRead leaf = some stem) :
    ∃ ext field, parseLeaf leaf = some ⟨ext, field, stem⟩ := by
  obtain ⟨⟨ext, field, _⟩, found, rfl⟩ := Option.map_eq_some_iff.mp read
  exact ⟨ext, field, found⟩

theorem NameIdentifies.separate {name : Text} {extensions : List Text}
    (identifies : NameIdentifies name extensions) : NamesSeparate [name] extensions where
  leaf := by
    intro other member
    rw [List.mem_singleton.mp member]
    exact identifies.leaf
  distinct := List.nodup_singleton _
  apart := by
    intro first one ext _ second two ext' _ same
    rw [List.mem_singleton.mp one, List.mem_singleton.mp two] at same ⊢
    exact ⟨rfl, List.append_cancel_left same⟩

namespace Submission

variable {codec : Codec} (submission : Submission) (docling : Docling codec)

/-- The exchange is answered, and the answer gives every file its own. -/
def OwnContent (files : List UploadFile) : Prop :=
  ∀ tenantId, ∃ result world,
    (submission.exchange codec files tenantId).eval docling.handle submission.world =
      (.ok ⟨result, some (submission.record files)⟩, world) ∧ result.Gives docling files

/-- A file's place in the archive. -/
def documentOf (files : List UploadFile) (file : UploadFile) : ZipDocument :=
  ⟨uploadName file, stemOf (uploadName file),
    ((submission.grouped docling files).get? (stemOf (uploadName file))).getD .empty⟩

variable {submission docling} {files : List UploadFile}

theorem ownContent_iff : OwnContent submission docling files ↔
    ∃ result, reconstruct codec (submission.record files) docling.nativeResult
      (submission.grouped docling files) = some result ∧ result.Gives docling files := by
  constructor
  · intro own
    obtain ⟨result, world, answered, gives⟩ := own none
    obtain ⟨world', evaluated⟩ := @exchange_eval codec submission docling files none
    rw [evaluated] at answered
    cases built : reconstruct codec (submission.record files) docling.nativeResult
        (submission.grouped docling files) with
    | none => simp [built] at answered
    | some other =>
      simp only [built, Option.elim_some, Prod.mk.injEq, Except.ok.injEq, Resolution.mk.injEq,
        and_true] at answered
      exact ⟨other, rfl, answered.1 ▸ gives⟩
  · rintro ⟨result, built, gives⟩ tenantId
    obtain ⟨world, evaluated⟩ := @exchange_eval codec submission docling files tenantId
    rw [built] at evaluated
    exact ⟨result, world, evaluated, gives⟩

theorem zipDocuments_eq : zipDocuments (submission.record files) (submission.grouped docling files) =
    files.map (submission.documentOf docling files) := by
  simp only [zipDocuments, record, List.map_map]
  rfl

theorem documentOf_get? (file : UploadFile) (field : Field) :
    (submission.documentOf docling files file).artifactsByField.get? field =
      (submission.grouped docling files).slot (stemOf (uploadName file)) field := by
  simp only [documentOf, slot_eq]

/-! ### Archives -/

theorem documents_paired : ∀ document ∈ files.map (submission.documentOf docling files),
    document.Paired := by
  intro document member field ext body held
  obtain ⟨file, _, rfl⟩ := List.mem_map.mp member
  rw [documentOf_get?] at held
  obtain ⟨_, _, _, _, read, _⟩ := slot_source held
  exact (parseLeaf_eq_some read).1

/-- An entry of the archive is an artifact under its own name. -/
theorem entry_named (leaf : ∀ name ∈ files.map uploadName, stemOf name = leafStem name)
    (held : (submission.documentOf docling files file).artifactsByField.get? field =
      some (ext, body)) :
    ∃ other ∈ files, ∃ form ∈ docling.extensions,
      parseLeaf (stemOf (uploadName other) ++ form) =
          some ⟨ext, field, stemOf (uploadName file)⟩ ∧
        stemOf (uploadName file) ++ ext = stemOf (uploadName other) ++ form ∧
          body = docling.convert form other.file := by
  rw [documentOf_get?] at held
  obtain ⟨other, uploaded, form, known, read, whole, _, same⟩ := slot_named leaf held
  exact ⟨other, uploaded, form, known, read, whole, same⟩

section Archived

variable (archived : NamesArchived (files.map uploadName) docling.extensions)
include archived

theorem documents_printed : ∀ document ∈ files.map (submission.documentOf docling files),
    document.Printed := by
  rintro document member field ⟨⟨ext, body⟩, held⟩ cut
  obtain ⟨file, uploaded, rfl⟩ := List.mem_map.mp member
  obtain ⟨other, there, form, known, _, whole, _⟩ := entry_named archived.leaf held
  refine archived.printed _ (List.mem_map_of_mem there) form known ?_
  rw [← whole]
  exact List.mem_append_left _ cut

theorem documents_nodup :
    (buildZipArchive (files.map (submission.documentOf docling files))).namelist.Nodup := by
  have separate := archived.toNamesSeparate
  have distinct : (files.map (stemOf ∘ uploadName)).Nodup := by
    rw [← List.map_map]
    exact separate.distinct
  have paired := @documents_paired codec submission docling files
  have printed := @documents_printed codec submission docling files archived
  rw [namelist_nodup_iff paired printed]
  constructor
  · refine List.pairwise_map.mpr (List.Pairwise.imp_of_mem ?_ (List.pairwise_map.mp distinct))
    rintro first second one two differ collide
    have member := List.mem_map_of_mem (f := submission.documentOf docling files) one
    have member' := List.mem_map_of_mem (f := submission.documentOf docling files) two
    obtain ⟨name, mine, others⟩ := (shared_name_iff (paired _ member) (printed _ member)
      (paired _ member') (printed _ member')).mpr collide
    obtain ⟨field, ext, body, held, rfl⟩ := (mem_names _).mp mine
    obtain ⟨field', ext', body', held', same⟩ := (mem_names _).mp others
    rw [entry_name (paired _ member) (printed _ member) held,
      entry_name (paired _ member') (printed _ member') held'] at same
    obtain ⟨source, there, form, known, read, whole, _⟩ := entry_named separate.leaf held
    obtain ⟨source', there', form', known', read', whole', _⟩ := entry_named separate.leaf held'
    have single : stemOf (uploadName source) ++ form = stemOf (uploadName source') ++ form' :=
      whole.symm.trans (same.trans whole')
    rw [single, read'] at read
    injection read with parsed
    injection parsed with _ _ stems
    exact differ stems.symm
  · rintro document member reserved ⟨⟨ext, body⟩, held⟩
    obtain ⟨file, uploaded, rfl⟩ := List.mem_map.mp member
    obtain ⟨other, there, form, known, _, whole, _⟩ := entry_named separate.leaf held
    refine archived.unreserved _ (List.mem_map_of_mem there) form known ?_
    rw [← whole]
    exact (status_name_iff (documents_paired _ member _ _ _ held)).mpr ⟨reserved, rfl⟩

theorem documents_succeed (formats : docling.extensions ≠ []) :
    (files.map (submission.documentOf docling files)).map ZipDocument.status = files.map fun file =>
      ⟨uploadName file,
        if docling.extensions = [] then "failed".toList else "success".toList⟩ := by
  rw [List.map_map]
  refine List.map_congr_left fun file member => ?_
  obtain ⟨name, listed, ext, known, read⟩ := archived.success _ (List.mem_map_of_mem member)
  obtain ⟨other, there, rfl⟩ := List.mem_map.mp listed
  obtain ⟨found, field, parsed⟩ := stemRead_eq_some read
  have filled := @slot_filled codec submission docling files _ _ _ _ _ archived.toNamesSeparate
    there known parsed
  rw [← documentOf_get?, ← OrderedDict.mem_entries_iff] at filled
  have present : (submission.documentOf docling files file).artifactsByField.entries.isEmpty =
      false := by
    rw [List.isEmpty_eq_false_iff]
    exact List.ne_nil_of_mem filled
  rw [Function.comp_apply, ZipDocument.status, present, if_neg formats]
  rfl

/-- Names of that kind give everything back. -/
theorem archive_gives (formats : docling.extensions ≠ []) :
    ArchiveGives docling files (buildZipArchive (files.map (submission.documentOf docling files))) := by
  have separate := archived.toNamesSeparate
  have paired := @documents_paired codec submission docling files
  have printed := @documents_printed codec submission docling files archived
  have nodup := @documents_nodup codec submission docling files archived
  refine ⟨?_, nodup, ?_, ?_, ?_, ?_⟩
  · refine (fits_header_iff paired printed).mpr ?_
    intro document member field ext body held
    obtain ⟨file, uploaded, rfl⟩ := List.mem_map.mp member
    obtain ⟨other, there, form, known, _, whole, _⟩ := entry_named separate.leaf held
    have fits := archived.short _ (List.mem_map_of_mem there) form known
    rwa [← whole] at fits
  · intro i j file other here there ext known ext' known' same
    have one := List.mem_of_getElem? here
    have two := List.mem_of_getElem? there
    obtain ⟨name, formats⟩ := separate.apart _ (List.mem_map_of_mem one) ext known _
      (List.mem_map_of_mem two) ext' known' same
    refine ⟨?_, formats⟩
    obtain ⟨inside, rfl⟩ := List.getElem?_eq_some_iff.mp here
    obtain ⟨inside', rfl⟩ := List.getElem?_eq_some_iff.mp there
    exact ((separate.distinct.of_map _).of_map uploadName).getElem_inj_iff.mp
      (List.inj_on_of_nodup_map (separate.distinct.of_map _) one two name)
  · intro file member ext known
    obtain ⟨name, listed, read⟩ := archived.read _ (List.mem_map_of_mem member) ext known
    obtain ⟨other, there, rfl⟩ := List.mem_map.mp listed
    obtain ⟨found, field, parsed⟩ := stemRead_eq_some read
    have filled := @slot_filled codec submission docling files _ _ _ _ _ separate member known parsed
    rw [← documentOf_get?] at filled
    have member' := List.mem_map_of_mem (f := submission.documentOf docling files) there
    have back := read_artifact nodup member' (paired _ member') (printed _ member') filled
    rw [(parseLeaf_eq_some parsed).2]
    exact back
  · intro name body read
    obtain ⟨entry, listed, same⟩ := List.mem_map.mp (mem_of_read read)
    obtain ⟨name', content⟩ := entry
    obtain ⟨rfl, rfl⟩ := Prod.mk.inj same
    obtain ⟨document, member, inside⟩ := (mem_zipArchive _ _).mp listed
    obtain ⟨field, ext, held, rfl⟩ := (mem_zipEntries _ _).mp inside
    rw [entry_name (paired _ member) (printed _ member) held]
    obtain ⟨file, uploaded, rfl⟩ := List.mem_map.mp member
    obtain ⟨other, there, form, known, _, whole, _⟩ := entry_named separate.leaf held
    exact ⟨other, there, form, known, whole⟩
  · rw [read_manifest, documents_succeed archived formats]

end Archived

/-- Without formats there is nothing to mix up. -/
theorem slot_none (formatless : docling.extensions = []) (stem : Text) (field : Field) :
    (submission.grouped docling files).slot stem field = none := by
  cases filled : (submission.grouped docling files).slot stem field with
  | none => rfl
  | some held =>
    obtain ⟨_, _, form, known, _⟩ := slot_source filled
    simp [formatless] at known

theorem archive_gives_nothing (formatless : docling.extensions = []) :
    ArchiveGives docling files (buildZipArchive (files.map (submission.documentOf docling files))) := by
  have bare : ∀ file, (submission.documentOf docling files file).artifactsByField.entries = [] := by
    intro file
    refine List.eq_nil_iff_forall_not_mem.mpr fun entry listed => ?_
    have held := (OrderedDict.mem_entries_iff _ _ _).mp listed
    rw [documentOf_get?, slot_none formatless] at held
    cases held
  have entries : (files.map (submission.documentOf docling files)).flatMap ZipDocument.entries = [] := by
    refine List.flatMap_eq_nil_iff.mpr fun document member => ?_
    obtain ⟨file, _, rfl⟩ := List.mem_map.mp member
    simp [ZipDocument.entries, OrderedDict.values, bare]
  have names : (buildZipArchive (files.map (submission.documentOf docling files))).namelist =
      ["_status.json".toList] := by
    have manifest : zipInfoName "_status.json".toList = "_status.json".toList := by decide
    rw [ZipResult.namelist, buildZipArchive, entries, List.nil_append, List.map_singleton, manifest]
  refine ⟨?_, names ▸ List.nodup_singleton _, ?_, ?_, ?_, ?_⟩
  · rw [names]
    decide
  · intro _ _ _ _ _ _ ext known
    simp [formatless] at known
  · intro _ _ ext known
    simp [formatless] at known
  · intro name body read
    obtain ⟨entry, listed, same⟩ := List.mem_map.mp (mem_of_read read)
    rw [buildZipArchive, entries, List.nil_append, List.mem_singleton] at listed
    subst listed
    cases same
  · rw [read_manifest, List.map_map, formatless, if_pos rfl]
    have failed : ZipDocument.status ∘ submission.documentOf docling files =
        fun file => ⟨uploadName file, "failed".toList⟩ := by
      funext file
      rw [Function.comp_apply, ZipDocument.status, bare]
      rfl
    rw [failed]

end Submission

/-! ### What an archive shows of the names -/

/-- A stem without a slash is the leaf's, or the leaf has no extension. -/
theorem stem_cases {name : Text} (clear : '/' ∉ stemOf name) :
    stemOf name = leafStem name ∨ '.' ∉ leafStem name := by
  by_cases path : '/' ∈ name
  · refine Or.inr fun dotted => ?_
    cases split : splitLast '/' name with
    | none => exact absurd path ((splitLast_eq_none_iff '/' name).mp split)
    | some sides =>
      obtain ⟨directory, leaf⟩ := sides
      obtain ⟨rfl, last⟩ := of_splitLast split
      rw [leafStem, rsplitTail_append last] at dotted
      have extended : '.' ∈ leaf := (rsplitHead_begins '.' leaf).subset dotted
      cases parts : splitLast '.' leaf with
      | none => exact absurd extended ((splitLast_eq_none_iff '.' leaf).mp parts)
      | some parts' =>
        obtain ⟨before, after⟩ := parts'
        obtain ⟨rfl, final⟩ := of_splitLast parts
        refine clear ?_
        rw [stemOf, ← List.cons_append, ← List.append_assoc, rsplitHead_append final]
        simp
  · refine Or.inl ?_
    rw [leafStem, rsplitTail_of_absent path]

/-- An artifact's name that the archive gives back by the upload's stem begins
with the leaf's. -/
theorem leaf_of_cut {name ext found stem : Text} {field : Field} (plain : '/' ∉ ext)
    (read : parseLeaf (leafStem name ++ ext) = some ⟨found, field, stem⟩)
    (cut : zipInfoName (leafStem name ++ ext) = stemOf name ++ ext) :
    stemOf name = leafStem name := by
  have kept : ∀ char ∈ stemOf name ++ ext, char ∈ leafStem name ++ ext := by
    intro char member
    rw [← cut] at member
    exact (List.takeWhile_sublist _).subset member
  have clear : '/' ∉ stemOf name := by
    intro member
    rcases List.mem_append.mp (kept '/' (List.mem_append_left _ member)) with inLeaf | inExt
    · exact not_mem_leafStem name inLeaf
    · exact plain inExt
  rcases stem_cases clear with same | bare
  · exact same
  obtain ⟨listed, whole⟩ := parseLeaf_eq_some read
  have dotted : '.' ∈ ext := by
    have table : ∀ row ∈ extensionToField, '.' ∈ row.1 := by decide
    have within : '.' ∈ leafStem name ++ ext := by
      rw [whole]
      exact List.mem_append_right _ (table _ listed)
    exact (List.mem_append.mp within).resolve_left bare
  have printed : Char.ofNat 0 ∉ ext := by
    intro member
    refine not_mem_zipInfoName (leafStem name ++ ext) ?_
    rw [cut]
    exact List.mem_append_right _ member
  have ends := zipInfoName_of_printed printed
  unfold zipInfoName at cut ends
  rw [List.takeWhile_append] at cut
  split at cut
  · rw [ends] at cut
    exact (List.append_cancel_right cut).symm
  · -- The cut would lie before the dot.
    refine absurd ?_ bare
    have early : '.' ∈ List.takeWhile (fun char => decide (char ≠ Char.ofNat 0)) (leafStem name) := by
      rw [cut]
      exact List.mem_append_right _ dotted
    exact (List.takeWhile_sublist _).subset early

namespace Submission

variable {codec : Codec} {submission : Submission} {docling : Docling codec}
  {files : List UploadFile}

/-- Contents that docling-serve tells apart show where an archive's entry comes
from. -/
theorem entry_own {sample : Nat → Bytes} (discerns : docling.Discerns sample)
    (sampled : ∀ (index : Nat) (file : UploadFile), files[index]? = some file →
      file.file = sample index)
    (gives : ArchiveGives docling files
      (buildZipArchive (files.map (submission.documentOf docling files))))
    (member : file ∈ files) (known : ext ∈ docling.extensions) :
    stemOf (uploadName file) = leafStem (uploadName file) ∧
      (∃ other ∈ files, stemRead (stemOf (uploadName file) ++ ext) =
        some (stemOf (uploadName other))) ∧
      stemOf (uploadName file) ++ ext ∈
        (buildZipArchive (files.map (submission.documentOf docling files))).namelist := by
  have back := gives.own file member ext known
  obtain ⟨⟨name, content⟩, listed, same⟩ := List.mem_map.mp (mem_of_read back)
  obtain ⟨named, rfl⟩ := Prod.mk.inj same
  obtain ⟨document, present, inside⟩ := (mem_zipArchive _ _).mp listed
  obtain ⟨field, found, held, rfl⟩ := (mem_zipEntries _ _).mp inside
  obtain ⟨other, there, rfl⟩ := List.mem_map.mp present
  rw [documentOf_get?] at held
  obtain ⟨source, uploaded, form, wanted, read, bytes⟩ := slot_source held
  obtain ⟨i, here⟩ := List.mem_iff_getElem?.mp member
  obtain ⟨j, place⟩ := List.mem_iff_getElem?.mp uploaded
  rw [sampled i file here, sampled j source place] at bytes
  obtain ⟨rfl, rfl⟩ := discerns.bytes ext known form wanted i j bytes
  obtain rfl := Option.some.inj (here.symm.trans place)
  have cut : zipInfoName (leafStem (uploadName file) ++ ext) = stemOf (uploadName file) ++ ext := by
    rw [(parseLeaf_eq_some read).2]
    exact named
  have leaf := leaf_of_cut (docling.plain ext known) read cut
  refine ⟨leaf, ⟨other, there, ?_⟩, List.mem_map.mpr ⟨_, listed, named⟩⟩
  rw [leaf, stemRead, read]
  rfl

/-- An archive with every file's artifacts under names of their own has no two
names for one artifact. -/
theorem names_separate (formats : docling.extensions ≠ [])
    (leaf : ∀ name ∈ files.map uploadName, stemOf name = leafStem name)
    (gives : ArchiveGives docling files
      (buildZipArchive (files.map (submission.documentOf docling files)))) :
    NamesSeparate (files.map uploadName) docling.extensions := by
  obtain ⟨first, format⟩ := List.exists_mem_of_ne_nil _ formats
  refine ⟨leaf, ?_, ?_⟩
  · rw [List.map_map, List.nodup_iff_getElem?_ne_getElem?]
    intro i j less inside
    rw [List.length_map] at inside
    have here : files[i]? = some files[i] := List.getElem?_eq_getElem (by omega)
    have there : files[j]? = some files[j] := List.getElem?_eq_getElem inside
    simp only [List.getElem?_map, here, there, Option.map_some, Function.comp_apply]
    intro same
    have stems := Option.some.inj same
    have index := (gives.apart i j _ _ here there first format first format (by rw [stems])).1
    omega
  · intro name listed ext known other listed' ext' known' same
    obtain ⟨file, member, rfl⟩ := List.mem_map.mp listed
    obtain ⟨mate, member', rfl⟩ := List.mem_map.mp listed'
    obtain ⟨i, here⟩ := List.mem_iff_getElem?.mp member
    obtain ⟨j, there⟩ := List.mem_iff_getElem?.mp member'
    obtain ⟨rfl, alike⟩ := gives.apart i j _ _ here there ext known ext' known' same
    rw [Option.some.inj (here.symm.trans there)]
    exact ⟨rfl, alike⟩

theorem names_archived {sample : Nat → Bytes} (discerns : docling.Discerns sample)
    (formats : docling.extensions ≠ [])
    (sampled : ∀ (index : Nat) (file : UploadFile), files[index]? = some file →
      file.file = sample index)
    (gives : ArchiveGives docling files
      (buildZipArchive (files.map (submission.documentOf docling files)))) :
    NamesArchived (files.map uploadName) docling.extensions := by
  have own := fun file member ext known =>
    @entry_own codec submission docling files file ext sample discerns sampled gives member known
  have leaf : ∀ name ∈ files.map uploadName, stemOf name = leafStem name := by
    intro name listed
    obtain ⟨file, member, rfl⟩ := List.mem_map.mp listed
    obtain ⟨first, format⟩ := List.exists_mem_of_ne_nil _ formats
    exact (own file member first format).1
  refine ⟨names_separate formats leaf gives, ?_, ?_, ?_, ?_, ?_⟩
  · intro name listed ext known
    obtain ⟨file, member, rfl⟩ := List.mem_map.mp listed
    obtain ⟨_, ⟨other, there, read⟩, _⟩ := own file member ext known
    exact ⟨_, List.mem_map_of_mem there, read⟩
  · intro name listed
    obtain ⟨file, member, rfl⟩ := List.mem_map.mp listed
    -- The manifest has the file down as converted, so something is in its slots.
    have manifest := gives.manifest
    rw [read_manifest, List.map_map, if_neg formats] at manifest
    have alike := List.map_inj_left.mp (ZipContent.manifest.inj (Option.some.inj manifest)) file member
    have succeeded := congrArg DocumentStatus.status alike
    obtain ⟨⟨field, found, body⟩, entry⟩ :=
      List.exists_mem_of_ne_nil _ ((status_success_iff _).mp succeeded)
    have held := (OrderedDict.mem_entries_iff _ _ _).mp entry
    obtain ⟨other, there, form, known, read, _⟩ := entry_named leaf held
    refine ⟨_, List.mem_map_of_mem there, form, known, ?_⟩
    rw [stemRead, read]
    rfl
  · intro name listed ext known
    obtain ⟨file, member, rfl⟩ := List.mem_map.mp listed
    obtain ⟨_, named⟩ := List.mem_map.mp (own file member ext known).2.2
    rw [← named.2]
    exact not_mem_zipInfoName _
  · intro name listed ext known same
    obtain ⟨file, member, rfl⟩ := List.mem_map.mp listed
    have back := gives.own file member ext known
    rw [same, read_manifest] at back
    cases back
  · intro name listed ext known
    obtain ⟨file, member, rfl⟩ := List.mem_map.mp listed
    exact gives.written _ (own file member ext known).2.2

/-! ### The one document -/

theorem reconstruct_single (inline : ¬ (submission.record [file]).zipped = true) :
    reconstruct codec (submission.record [file]) docling.nativeResult
        (submission.grouped docling [file]) =
      (buildExportDocumentResponse codec (uploadName file)
        (submission.documentOf docling [file] file).artifactsByField).bind fun document =>
          (codec.toFloat ((docling.nativeResult.get? "processing_time".toList).getD (.number 0))).map
            fun time => .document ⟨document, "success".toList, time⟩ := by
  rw [reconstruct, if_neg inline]
  simp only [record, List.map_cons, List.map_nil, List.head?_cons, Option.bind_eq_bind,
    Option.bind_some, documentOf, Option.map_eq_bind]
  rfl

/-- Where the name identifies, the slots of its stem hold its own artifacts. -/
theorem slot_single (identifies : NameIdentifies (uploadName file) docling.extensions)
    (field : Field) (ext : Text) (body : Bytes) :
    (submission.documentOf docling [file] file).artifactsByField.get? field = some (ext, body) ↔
      ext ∈ docling.extensions ∧ (ext, field) ∈ extensionToField ∧
        body = docling.convert ext file.file := by
  have separate : NamesSeparate ([file].map uploadName) docling.extensions := identifies.separate
  rw [documentOf_get?]
  constructor
  · intro filled
    obtain ⟨other, uploaded, form, known, read, _, listed, rfl⟩ := slot_named separate.leaf filled
    obtain rfl := List.mem_singleton.mp uploaded
    obtain ⟨field', own⟩ := identifies.read form known
    rw [own] at read
    injection read with same
    injection same with same _ _
    subst same
    exact ⟨known, listed, rfl⟩
  · rintro ⟨known, listed, rfl⟩
    obtain ⟨field', own⟩ := identifies.read ext known
    obtain rfl := ext_field listed (parseLeaf_eq_some own).1
    exact slot_filled separate List.mem_cons_self known own

theorem document_gives (inline : ¬ (submission.record [file]).zipped = true)
    (slots : ∀ field ext body,
      (submission.documentOf docling [file] file).artifactsByField.get? field = some (ext, body) ↔
        ext ∈ docling.extensions ∧ (ext, field) ∈ extensionToField ∧
          body = docling.convert ext file.file)
    (listed : ∀ ext ∈ docling.extensions, ∃ field, (ext, field) ∈ extensionToField) :
    ∃ result, reconstruct codec (submission.record [file]) docling.nativeResult
      (submission.grouped docling [file]) = some result ∧ result.Gives docling [file] := by
  have readable : Readable codec (submission.documentOf docling [file] file).artifactsByField := by
    rintro field ⟨ext, body⟩ held
    obtain ⟨known, row, rfl⟩ := (slots field ext body).mp held
    exact docling.readable ext known field row file.file
  obtain ⟨document, made⟩ := document_of_readable readable (uploadName file)
  obtain ⟨time, timed⟩ := Option.isSome_iff_exists.mp docling.finishes.2.2.2
  refine ⟨.document ⟨document, "success".toList, time⟩, ?_, file, rfl, ?_, ?_, ?_⟩
  · rw [reconstruct_single inline, made, timed]
    rfl
  · exact (document_field made .mdContent).1
  · intro ext known
    obtain ⟨field, row⟩ := listed ext known
    have held := (slots field ext _).mpr ⟨known, row, rfl⟩
    obtain ⟨content, read, _⟩ := docling.readable ext known field row file.file
    refine ⟨field, content, row, read, ?_⟩
    rw [(document_field made field).2, held]
    exact read
  · intro field content present
    rw [(document_field made field).2] at present
    obtain ⟨⟨ext, body⟩, held, read⟩ := Option.bind_eq_some_iff.mp present
    obtain ⟨known, row, rfl⟩ := (slots field ext body).mp held
    exact ⟨ext, known, row, read⟩

/-- A document with a file's own artifacts shows the way back to its name. -/
theorem name_identifies {sample : Nat → Bytes} (discerns : docling.Discerns sample)
    (formats : docling.extensions ≠ []) (sampled : file.file = sample 0)
    (made : buildExportDocumentResponse codec (uploadName file)
      (submission.documentOf docling [file] file).artifactsByField = some document)
    (gives : DocumentGives docling file document) :
    NameIdentifies (uploadName file) docling.extensions := by
  have own : ∀ ext ∈ docling.extensions, ∃ field,
      parseLeaf (leafStem (uploadName file) ++ ext) =
        some ⟨ext, field, stemOf (uploadName file)⟩ := by
    intro ext known
    obtain ⟨field, content, row, read, present⟩ := gives.own ext known
    rw [(document_field made field).2] at present
    obtain ⟨⟨found, body⟩, held, value⟩ := Option.bind_eq_some_iff.mp present
    rw [documentOf_get?] at held
    obtain ⟨other, uploaded, form, wanted, parsed, rfl⟩ := slot_source held
    obtain rfl := List.mem_singleton.mp uploaded
    dsimp only at value
    rw [sampled] at read value
    obtain ⟨rfl, _⟩ := discerns.content ext known form wanted field content row 0 0 read value
    obtain rfl := field_ext row (parseLeaf_eq_some parsed).1
    exact ⟨field, parsed⟩
  obtain ⟨first, known⟩ := List.exists_mem_of_ne_nil _ formats
  obtain ⟨field, parsed⟩ := own first known
  have leaf : stemOf (uploadName file) = leafStem (uploadName file) :=
    (List.append_cancel_right (parseLeaf_eq_some parsed).2).symm
  refine ⟨leaf, fun ext known => ?_⟩
  have read := own ext known
  rwa [← leaf] at read

/-! ### Any contents -/

/-- Where an archive gives all sample contents back, the names are of that kind. -/
theorem archived_of_ownContent {sample : Nat → Bytes} (discerns : docling.Discerns sample)
    (formats : docling.extensions ≠ [])
    (sampled : ∀ (index : Nat) (file : UploadFile), files[index]? = some file →
      file.file = sample index)
    (zipped : (submission.record files).zipped = true) (own : OwnContent submission docling files) :
    NamesArchived (files.map uploadName) docling.extensions := by
  obtain ⟨result, built, gives⟩ := ownContent_iff.mp own
  rw [reconstruct, if_pos zipped, zipDocuments_eq] at built
  cases built
  exact names_archived discerns formats sampled gives

theorem single_file (inline : ¬ (submission.record (file :: rest)).zipped = true) : rest = [] := by
  have single : [uploadName file] ++ rest.map uploadName = [uploadName file] :=
    single_name inline rfl
  simpa using single

theorem identified_of_ownContent {sample : Nat → Bytes} (discerns : docling.Discerns sample)
    (formats : docling.extensions ≠ [])
    (sampled : ∀ (index : Nat) (file : UploadFile), files[index]? = some file →
      file.file = sample index)
    (inline : ¬ (submission.record files).zipped = true)
    (own : OwnContent submission docling files) :
    ∀ name ∈ files.map uploadName, NameIdentifies name docling.extensions := by
  obtain ⟨result, built, gives⟩ := ownContent_iff.mp own
  cases files with
  | nil =>
    intro name member
    cases member
  | cons file rest =>
    obtain rfl := single_file inline
    rw [reconstruct_single inline] at built
    obtain ⟨document, made, timed⟩ := Option.bind_eq_some_iff.mp built
    obtain ⟨time, _, rfl⟩ := Option.map_eq_some_iff.mp timed
    obtain ⟨other, same, gives⟩ := gives
    obtain rfl := List.head_eq_of_cons_eq same
    intro name member
    rw [List.mem_singleton.mp member]
    exact name_identifies discerns formats (sampled 0 file rfl) made gives

theorem ownContent_of_archived (zipped : (submission.record files).zipped = true)
    (condition : docling.extensions = [] ∨
      NamesArchived (files.map uploadName) docling.extensions) :
    OwnContent submission docling files := by
  refine ownContent_iff.mpr ⟨_, (if_pos zipped).trans (by rw [zipDocuments_eq]), ?_⟩
  by_cases formats : docling.extensions = []
  · exact archive_gives_nothing formats
  · exact archive_gives (condition.resolve_left formats) formats

theorem ownContent_of_identified (inline : ¬ (submission.record files).zipped = true)
    (nonempty : files ≠ [])
    (condition : docling.extensions = [] ∨
      ∀ name ∈ files.map uploadName, NameIdentifies name docling.extensions) :
    OwnContent submission docling files := by
  obtain ⟨file, rest, rfl⟩ := List.exists_cons_of_ne_nil nonempty
  obtain rfl := single_file inline
  refine ownContent_iff.mpr ?_
  by_cases formats : docling.extensions = []
  · refine document_gives inline ?_ ?_
    · intro field ext body
      rw [documentOf_get?, slot_none formats]
      simp [formats]
    · simp [formats]
  · have identifies := condition.resolve_left formats _ List.mem_cons_self
    refine document_gives inline (slot_single identifies) ?_
    intro ext known
    obtain ⟨field, parsed⟩ := identifies.read ext known
    exact ⟨field, (parseLeaf_eq_some parsed).1⟩

/-- Files of the same names, each with the sample content of its place. -/
def withContents (sample : Nat → Bytes) (files : List UploadFile) : List UploadFile :=
  files.mapIdx fun index file => { file with file := sample index }

theorem withContents_names (sample : Nat → Bytes) (files : List UploadFile) :
    (withContents sample files).map uploadName = files.map uploadName := by
  refine List.ext_getElem? fun index => ?_
  simp only [withContents, List.getElem?_map, List.getElem?_mapIdx, Option.map_map]
  rfl

theorem withContents_file {sample : Nat → Bytes} (index : Nat) (file : UploadFile)
    (found : (withContents sample files)[index]? = some file) : file.file = sample index := by
  simp only [withContents, List.getElem?_mapIdx, Option.map_eq_some_iff] at found
  obtain ⟨_, _, rfl⟩ := found
  rfl

end Submission

/-- Files of these names get their own contents back, whatever they contain,
exactly when no format is asked for, or an archive can give every artifact back
under their names, or, where the answer is no archive, the one name identifies
its artifacts. -/
theorem own_content_iff {codec : Codec} (submission : Submission) (docling : Docling codec)
    {sample : Nat → Bytes} (discerns : docling.Discerns sample)
    {files : List UploadFile} (nonempty : files ≠ []) :
    (∀ others : List UploadFile, others.map uploadName = files.map uploadName →
      submission.OwnContent docling others) ↔
    docling.extensions = [] ∨
      if (submission.record files).zipped then
        NamesArchived (files.map uploadName) docling.extensions
      else ∀ name ∈ files.map uploadName, NameIdentifies name docling.extensions := by
  have recorded : ∀ others : List UploadFile, others.map uploadName = files.map uploadName →
      submission.record others = submission.record files := by
    intro others names
    rw [Submission.record, names, Submission.record]
  constructor
  · intro own
    by_cases formats : docling.extensions = []
    · exact Or.inl formats
    refine Or.inr ?_
    have names := Submission.withContents_names sample files
    have answered := own _ names
    rw [← names, ← recorded _ names]
    split
    · rename_i zipped
      exact Submission.archived_of_ownContent discerns formats Submission.withContents_file zipped
        answered
    · rename_i inline
      exact Submission.identified_of_ownContent discerns formats Submission.withContents_file inline
        answered
  · intro condition others names
    rw [← names, ← recorded others names] at condition
    by_cases zipped : (submission.record others).zipped = true
    · rw [if_pos zipped] at condition
      exact Submission.ownContent_of_archived zipped condition
    · rw [if_neg zipped] at condition
      have present : others ≠ [] := by
        rintro rfl
        exact nonempty (List.map_eq_nil_iff.mp names.symm)
      exact Submission.ownContent_of_identified zipped present condition

/-! ### Two uploads that differ in their extension -/

/-- JSON that is read as an object of one member. -/
def echoCodec : Codec :=
  { asciiCodec with loads := fun text => some (.object [(text, .null)]) }

/-- The first request to an empty S3 and Redis. -/
def firstSubmission : Submission where
  settings := {}
  requestId := "r".toList
  convertOptions := .empty
  asZip := false
  tenantId := none
  world := ⟨.empty, .empty⟩
  fresh := nofun
  separate := fun same => absurd same (by decide)

/-- Markdown and JSON that repeat the document after a byte for the format, with
one directory for each kind of file. -/
def echoDocling : Docling echoCodec where
  hash := fun key _ => rsplitTail '.' key
  extensions := [".json".toList, ".md".toList]
  convert := fun ext body => (if ext = ".json".toList then 1 else 2) :: body
  accepted := ⟨200, [], none, [], some (.object [("task_id".toList, .text "t".toList),
    ("task_type".toList, .text "convert".toList), ("task_status".toList, .text "pending".toList)])⟩
  task := ⟨"t".toList, "convert".toList, "pending".toList, none, none, none, none⟩
  finished := ⟨200, [], none, [], some (.object [("num_succeeded".toList, .number 2)])⟩
  nativeResult := .object [("num_succeeded".toList, .number 2)]
  plain := by decide
  readable := by
    intro ext known field listed body
    cases field with
    | jsonContent => exact ⟨_, rfl, rfl⟩
    | _ => exact ⟨_, rfl, rfl⟩
  accepts := ⟨by decide, rfl⟩
  finishes := ⟨by decide, rfl, by decide +kernel, rfl⟩

/-- What a field holds shows the bytes as a text. -/
theorem echo_value {field : Field} {body other : Bytes} {content : Content}
    (value : fieldValue echoCodec field body = some content)
    (value' : fieldValue echoCodec field other = some content) :
    echoCodec.decode body = echoCodec.decode other := by
  cases field with
  | jsonContent =>
    have same := Option.some.inj (value.trans value'.symm)
    simp only [Content.json.injEq, Json.object.injEq, List.cons.injEq, Prod.mk.injEq, and_true] at same
    exact congrArg some same
  | mdContent | htmlContent | textContent | doctagsContent | doclangContent =>
    have same := Option.some.inj (value.trans value'.symm)
    simp only [Content.text.injEq] at same
    exact congrArg some same

theorem echoDocling_discerns : echoDocling.Discerns fun length => List.replicate length 0 := by
  have apart : ∀ ext ∈ echoDocling.extensions, ∀ other ∈ echoDocling.extensions, ∀ i j : Nat,
      echoCodec.decode (echoDocling.convert ext (List.replicate i 0)) =
        echoCodec.decode (echoDocling.convert other (List.replicate j 0)) → ext = other ∧ i = j := by
    intro ext known other wanted i j same
    simp only [echoDocling, echoCodec, asciiCodec, List.map_cons, Option.some.injEq,
      List.cons.injEq, List.map_replicate] at same known wanted
    obtain ⟨first, rest⟩ := same
    refine ⟨?_, by simpa using congrArg List.length rest⟩
    rcases List.mem_cons.mp known with rfl | known <;> rcases List.mem_cons.mp wanted with rfl | wanted
    · rfl
    · obtain rfl := List.mem_singleton.mp wanted
      exact absurd first (by decide)
    · obtain rfl := List.mem_singleton.mp known
      exact absurd first (by decide)
    · rw [List.mem_singleton.mp known, List.mem_singleton.mp wanted]
  constructor
  · intro ext known other wanted i j same
    exact apart ext known other wanted i j (congrArg _ same)
  · intro ext known other wanted field content _ i j value value'
    exact apart ext known other wanted i j (echo_value value value')

/-- Two uploads in two formats each. -/
def minutes : List UploadFile :=
  [⟨some "report.pdf".toList, [1]⟩, ⟨some "minutes.docx".toList, [2]⟩]

theorem own_content_minutes : firstSubmission.OwnContent echoDocling minutes := by
  have archived : NamesArchived (minutes.map uploadName) echoDocling.extensions :=
    ⟨⟨by decide +kernel, by decide +kernel, by decide +kernel⟩, by decide +kernel,
      by decide +kernel, by decide +kernel, by decide +kernel, by decide +kernel⟩
  have nonempty : minutes ≠ [] := List.cons_ne_nil _ _
  exact (own_content_iff firstSubmission echoDocling echoDocling_discerns nonempty).mpr
    (Or.inr archived) _ rfl

def siblings : List UploadFile :=
  [⟨some "a.pdf".toList, [1]⟩, ⟨some "a.docx".toList, [2]⟩]

/-- Both get what was converted from the first, and the second one's artifacts are
nowhere in the archive. -/
theorem extension_siblings_mixed_up : ¬ firstSubmission.OwnContent echoDocling siblings ∧
    ∃ archive world, (firstSubmission.exchange echoCodec siblings none).eval echoDocling.handle
        firstSubmission.world = (.ok ⟨.zip archive, some (firstSubmission.record siblings)⟩, world) ∧
      archive.read "a.md".toList = some (.artifact [2, 1]) ∧
      ∀ entry ∈ archive.content, entry.2 ≠ .artifact [2, 2] := by
  obtain ⟨world, answered⟩ := @Submission.exchange_eval _ firstSubmission echoDocling siblings none
  have built : reconstruct echoCodec (firstSubmission.record siblings) echoDocling.nativeResult
      (firstSubmission.grouped echoDocling siblings) =
        some (.zip (buildZipArchive (siblings.map (firstSubmission.documentOf echoDocling siblings)))) :=
    (if_pos (by decide)).trans (by rw [Submission.zipDocuments_eq])
  have mixed : (buildZipArchive (siblings.map (firstSubmission.documentOf echoDocling siblings))).read
      "a.md".toList = some (.artifact [2, 1]) := by
    decide +kernel
  refine ⟨?_, _, world, by rw [answered, built]; rfl, mixed, by decide +kernel⟩
  intro own
  obtain ⟨result, same, gives⟩ := Submission.ownContent_iff.mp own
  obtain rfl := Option.some.inj (built.symm.trans same)
  have back := gives.own ⟨some "a.docx".toList, [2]⟩ (by simp [siblings]) ".md".toList (by decide)
  rw [show stemOf (uploadName ⟨some "a.docx".toList, [2]⟩) ++ ".md".toList = "a.md".toList by decide,
    mixed] at back
  exact absurd back (by decide)

end DoclingServeRay.Facade
