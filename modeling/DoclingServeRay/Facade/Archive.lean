import DoclingServeRay.Facade.Undelivered
import Mathlib.Data.List.TakeWhile

/-! Reading an archive back by name. The names of its entries are stems with an
extension each, next to the manifest's, in one flat directory. -/
namespace DoclingServeRay.Facade
open Strings

/-- `ZipInfo` ends a name at its first null byte. -/
def zipInfoName (name : Text) : Text := name.takeWhile fun char => char ≠ Char.ofNat 0

/-- `ZipFile.namelist()` -/
def ZipResult.namelist (archive : ZipResult) : List Text :=
  archive.content.map fun entry => zipInfoName entry.1

/-- `ZipFile.NameToInfo`: of several entries with one name the last one. -/
def ZipResult.nameToInfo (archive : ZipResult) : OrderedDict Text ZipContent :=
  OrderedDict.empty.setAll (archive.content.map fun entry => (zipInfoName entry.1, entry.2))

/-- `ZipFile.read(name)` -/
def ZipResult.read (archive : ZipResult) (name : Text) : Option ZipContent :=
  archive.nameToInfo.get? name

/-- The headers write a name's length in sixteen bits, or fail. -/
def FitsHeader (name : Text) : Prop :=
  (name.flatMap String.utf8EncodeChar).length < 2 ^ 16

instance (name : Text) : Decidable (FitsHeader name) := Nat.decLt _ _

/-- The artifacts have the extensions that the table pairs with their fields. -/
def ZipDocument.Paired (document : ZipDocument) : Prop :=
  ∀ field ext body, document.artifactsByField.get? field = some (ext, body) →
    (ext, field) ∈ extensionToField

/-- Everything is written, and read back by its name. -/
structure ReadsBack (documents : List ZipDocument) : Prop where
  written : ∀ name ∈ (buildZipArchive documents).namelist, FitsHeader name
  distinct : (buildZipArchive documents).namelist.Nodup
  count : (buildZipArchive documents).namelist.length =
    (documents.map fun document => document.artifactsByField.entries.length).sum + 1
  artifacts : ∀ document ∈ documents, ∀ field ext body,
    document.artifactsByField.get? field = some (ext, body) →
    (buildZipArchive documents).read (document.stem ++ ext) = some (.artifact body)
  manifest : (buildZipArchive documents).read "_status.json".toList =
    some (.manifest (documents.map ZipDocument.status))
  statuses : ∀ document ∈ documents, document.status.filename = document.filename ∧
    (document.status.status = "success".toList ↔ document.artifactsByField.entries ≠ [])

def ZipDocument.Has (document : ZipDocument) (field : Field) : Prop :=
  ∃ artifact, document.artifactsByField.get? field = some artifact

/-- The doctags of one document are named as the text of the other one. -/
def Shadows (first second : ZipDocument) : Prop :=
  second.stem = first.stem ++ ".doctags".toList ∧ first.Has .doctagsContent ∧
    second.Has .textContent

/-- Two documents have artifacts of one name. -/
def Collide (first second : ZipDocument) : Prop :=
  (first.stem = second.stem ∧ ∃ field, first.Has field ∧ second.Has field) ∨
    Shadows first second ∨ Shadows second first

/-- The stems keep all names apart, whole and short enough. -/
structure NamesApart (documents : List ZipDocument) : Prop where
  pairwise : documents.Pairwise fun first second => ¬ Collide first second
  unreserved : ∀ document ∈ documents, document.stem = "_status".toList →
    ¬ document.Has .jsonContent
  printed : ∀ document ∈ documents, ∀ field, document.Has field →
    Char.ofNat 0 ∉ document.stem
  short : ∀ document ∈ documents, ∀ field ext body,
    document.artifactsByField.get? field = some (ext, body) → FitsHeader (document.stem ++ ext)

/-! ### Names -/

theorem ext_printed {ext : Text} (listed : (ext, field) ∈ extensionToField) :
    Char.ofNat 0 ∉ ext := by
  have table : ∀ row ∈ extensionToField, Char.ofNat 0 ∉ row.1 := by decide
  exact table _ listed

/-- Only JSON under the stem `_status` is named as the manifest. -/
theorem status_name_iff {ext stem : Text} (listed : (ext, field) ∈ extensionToField) :
    stem ++ ext = "_status.json".toList ↔ stem = "_status".toList ∧ field = .jsonContent := by
  constructor
  · intro same
    have ends : ext <:+ "_status.json".toList := ⟨stem, same⟩
    have table : ∀ row ∈ extensionToField, row.1 <:+ "_status.json".toList →
        row.1 = ".json".toList ∧ row.2 = .jsonContent := by decide
    obtain ⟨rfl, rfl⟩ := table _ listed ends
    have whole : "_status.json".toList = "_status".toList ++ ".json".toList := by decide
    exact ⟨List.append_cancel_right (same.trans whole), rfl⟩
  · rintro ⟨rfl, rfl⟩
    have json : (".json".toList, Field.jsonContent) ∈ extensionToField := by decide
    rw [field_ext listed json]
    decide

/-- A longer stem and a text, where doctags are of the same name. -/
theorem doctags_name {ext ext' : Text} (doctags : (ext, .doctagsContent) ∈ extensionToField)
    (text : (ext', .textContent) ∈ extensionToField) (stem : Text) :
    stem ++ ext = stem ++ ".doctags".toList ++ ext' := by
  have first : (".doctags.txt".toList, Field.doctagsContent) ∈ extensionToField := by decide
  have second : (".txt".toList, Field.textContent) ∈ extensionToField := by decide
  rw [field_ext doctags first, field_ext text second, List.append_assoc]
  rfl

/-- Two names are one where stem and field are, or doctags meet a text. -/
theorem name_eq_iff {stem stem' ext ext' : Text} (listed : (ext, field) ∈ extensionToField)
    (listed' : (ext', field') ∈ extensionToField) :
    stem ++ ext = stem' ++ ext' ↔
      (stem = stem' ∧ field = field') ∨
      (stem' = stem ++ ".doctags".toList ∧ field = .doctagsContent ∧ field' = .textContent) ∨
      (stem = stem' ++ ".doctags".toList ∧ field' = .doctagsContent ∧ field = .textContent) := by
  constructor
  · intro same
    have ends' : ext' <:+ stem ++ ext := ⟨stem', same.symm⟩
    rcases List.suffix_or_suffix_of_suffix (List.suffix_append stem ext) ends' with within | within
    · rcases ext_suffix listed listed' within with rfl | ⟨text, doctags, longer⟩
      · exact Or.inl ⟨List.append_cancel_right same, ext_field listed listed'⟩
      · rw [longer, ← List.append_assoc] at same
        exact Or.inr (Or.inr ⟨List.append_cancel_right same, doctags, text⟩)
    · rcases ext_suffix listed' listed within with rfl | ⟨text, doctags, longer⟩
      · exact Or.inl ⟨List.append_cancel_right same, ext_field listed listed'⟩
      · rw [longer, ← List.append_assoc] at same
        exact Or.inr (Or.inl ⟨(List.append_cancel_right same).symm, doctags, text⟩)
  · rintro (⟨rfl, rfl⟩ | ⟨rfl, rfl, rfl⟩ | ⟨rfl, rfl, rfl⟩)
    · rw [field_ext listed listed']
    · exact doctags_name listed listed' stem
    · exact (doctags_name listed' listed stem').symm

/-- A name without a null byte stays as it is. -/
theorem zipInfoName_of_printed {name : Text} (printed : Char.ofNat 0 ∉ name) :
    zipInfoName name = name := by
  apply List.takeWhile_eq_self_iff.mpr
  intro char member
  apply decide_eq_true
  rintro rfl
  exact printed member

theorem not_mem_zipInfoName (name : Text) : Char.ofNat 0 ∉ zipInfoName name := by
  intro member
  have kept : decide (Char.ofNat 0 ≠ Char.ofNat 0) = true :=
    @List.mem_takeWhile_imp _ (fun char => decide (char ≠ Char.ofNat 0)) _ _ member
  exact of_decide_eq_true kept rfl

/-! ### Entries -/

/-- The names of one document's entries. -/
def ZipDocument.names (document : ZipDocument) : List Text :=
  document.artifactsByField.values.map fun artifact => zipInfoName (document.stem ++ artifact.1)

theorem namelist_eq (documents : List ZipDocument) :
    (buildZipArchive documents).namelist =
      documents.flatMap ZipDocument.names ++ ["_status.json".toList] := by
  have manifest : zipInfoName "_status.json".toList = "_status.json".toList := by decide
  simp only [ZipResult.namelist, buildZipArchive, List.map_append, List.map_flatMap,
    List.map_cons, List.map_nil, manifest, ZipDocument.entries, List.map_map]
  rfl

theorem mem_names {document : ZipDocument} (name : Text) :
    name ∈ document.names ↔ ∃ field ext body,
      document.artifactsByField.get? field = some (ext, body) ∧
        name = zipInfoName (document.stem ++ ext) := by
  simp only [ZipDocument.names, OrderedDict.values, List.mem_map, Prod.exists]
  constructor
  · rintro ⟨ext, body, ⟨field, _, _, entry, same⟩, rfl⟩
    cases same
    exact ⟨field, ext, body, (OrderedDict.mem_entries_iff _ _ _).mp entry, rfl⟩
  · rintro ⟨field, ext, body, held, rfl⟩
    exact ⟨ext, body, ⟨field, ext, body, (OrderedDict.mem_entries_iff _ _ _).mpr held, rfl⟩, rfl⟩

/-- No name is cut short. -/
def ZipDocument.Printed (document : ZipDocument) : Prop :=
  ∀ field, document.Has field → Char.ofNat 0 ∉ document.stem

section Names

variable {document first second : ZipDocument} {documents : List ZipDocument}

theorem entry_name (paired : document.Paired) (printed : document.Printed)
    (held : document.artifactsByField.get? field = some (ext, body)) :
    zipInfoName (document.stem ++ ext) = document.stem ++ ext := by
  apply zipInfoName_of_printed
  intro member
  rcases List.mem_append.mp member with inStem | inExt
  · exact printed field ⟨_, held⟩ inStem
  · exact ext_printed (paired field ext body held) inExt

theorem append_doctags_ne (stem : Text) : stem ≠ stem ++ ".doctags".toList := by
  intro same
  have short := congrArg List.length same
  simp at short

/-- One document's names differ. -/
theorem names_nodup (paired : document.Paired) (printed : document.Printed) :
    document.names.Nodup := by
  rw [ZipDocument.names, OrderedDict.values, List.map_map]
  refine List.Nodup.map_on ?_ (List.Nodup.of_map _ document.artifactsByField.distinct)
  rintro ⟨field, ext, body⟩ entry ⟨field', ext', body'⟩ entry' same
  have held := (OrderedDict.mem_entries_iff _ _ _).mp entry
  have held' := (OrderedDict.mem_entries_iff _ _ _).mp entry'
  simp only [Function.comp_apply, entry_name paired printed held,
    entry_name paired printed held'] at same
  rcases (name_eq_iff (paired _ _ _ held) (paired _ _ _ held')).mp same with
    ⟨_, rfl⟩ | ⟨longer, _⟩ | ⟨longer, _⟩
  · rw [held] at held'
    cases held'
    rfl
  · exact absurd longer (append_doctags_ne _)
  · exact absurd longer (append_doctags_ne _)

/-- Two documents share a name exactly when they collide. -/
theorem shared_name_iff (paired : first.Paired) (printed : first.Printed)
    (paired' : second.Paired) (printed' : second.Printed) :
    (∃ name ∈ first.names, name ∈ second.names) ↔ Collide first second := by
  constructor
  · rintro ⟨name, one, other⟩
    obtain ⟨field, ext, body, held, rfl⟩ := (mem_names name).mp one
    obtain ⟨field', ext', body', held', same⟩ := (mem_names _).mp other
    rw [entry_name paired printed held, entry_name paired' printed' held'] at same
    rcases (name_eq_iff (paired _ _ _ held) (paired' _ _ _ held')).mp same with
      ⟨stem, rfl⟩ | ⟨longer, rfl, rfl⟩ | ⟨longer, rfl, rfl⟩
    · exact Or.inl ⟨stem, field, ⟨_, held⟩, ⟨_, held'⟩⟩
    · exact Or.inr (Or.inl ⟨longer, ⟨_, held⟩, ⟨_, held'⟩⟩)
    · exact Or.inr (Or.inr ⟨longer, ⟨_, held'⟩, ⟨_, held⟩⟩)
  · intro collide
    have shares : ∃ field field', (∃ artifact, first.artifactsByField.get? field = some artifact ∧
        ∃ artifact', second.artifactsByField.get? field' = some artifact' ∧
          first.stem ++ artifact.1 = second.stem ++ artifact'.1) := by
      rcases collide with ⟨stem, field, ⟨⟨ext, body⟩, held⟩, ⟨ext', body'⟩, held'⟩ |
        ⟨longer, ⟨⟨ext, body⟩, held⟩, ⟨ext', body'⟩, held'⟩ |
        ⟨longer, ⟨⟨ext', body'⟩, held'⟩, ⟨ext, body⟩, held⟩
      · exact ⟨field, field, _, held, _, held', (name_eq_iff (paired _ _ _ held)
          (paired' _ _ _ held')).mpr (Or.inl ⟨stem, rfl⟩)⟩
      · exact ⟨_, _, _, held, _, held', (name_eq_iff (paired _ _ _ held)
          (paired' _ _ _ held')).mpr (Or.inr (Or.inl ⟨longer, rfl, rfl⟩))⟩
      · exact ⟨_, _, _, held, _, held', (name_eq_iff (paired _ _ _ held)
          (paired' _ _ _ held')).mpr (Or.inr (Or.inr ⟨longer, rfl, rfl⟩))⟩
    obtain ⟨field, field', ⟨ext, body⟩, held, ⟨ext', body'⟩, held', same⟩ := shares
    refine ⟨zipInfoName (first.stem ++ ext), (mem_names _).mpr ⟨field, ext, body, held, rfl⟩,
      (mem_names _).mpr ⟨field', ext', body', held', ?_⟩⟩
    exact congrArg zipInfoName same

/-- A document takes the manifest's name exactly with JSON under `_status`. -/
theorem status_name_mem_iff (paired : document.Paired) (printed : document.Printed) :
    "_status.json".toList ∈ document.names ↔
      document.stem = "_status".toList ∧ document.Has .jsonContent := by
  rw [mem_names]
  constructor
  · rintro ⟨field, ext, body, held, same⟩
    rw [entry_name paired printed held] at same
    obtain ⟨stem, rfl⟩ := (status_name_iff (paired _ _ _ held)).mp same.symm
    exact ⟨stem, _, held⟩
  · rintro ⟨stem, ⟨ext, body⟩, held⟩
    refine ⟨.jsonContent, ext, body, held, ?_⟩
    rw [entry_name paired printed held]
    exact ((status_name_iff (paired _ _ _ held)).mpr ⟨stem, rfl⟩).symm

/-- No name occurs twice exactly when the stems keep them apart. -/
theorem namelist_nodup_iff (paired : ∀ document ∈ documents, document.Paired)
    (printed : ∀ document ∈ documents, document.Printed) :
    (buildZipArchive documents).namelist.Nodup ↔
      (documents.Pairwise fun first second => ¬ Collide first second) ∧
        ∀ document ∈ documents, document.stem = "_status".toList →
          ¬ document.Has .jsonContent := by
  have apart : ∀ first ∈ documents, ∀ second ∈ documents,
      (first.names.Disjoint second.names ↔ ¬ Collide first second) := by
    intro first one second other
    rw [← shared_name_iff (paired first one) (printed first one) (paired second other)
      (printed second other), List.Disjoint]
    simp
  have each : ∀ document ∈ documents, document.names.Nodup := fun document member =>
    names_nodup (paired document member) (printed document member)
  rw [namelist_eq, List.nodup_append, List.nodup_flatMap]
  constructor
  · rintro ⟨⟨_, disjoint⟩, _, unreserved⟩
    refine ⟨?_, ?_⟩
    · refine List.Pairwise.imp_of_mem ?_ disjoint
      intro first second one other separate
      exact (apart first one second other).mp separate
    · intro document member stem json
      have taken := (status_name_mem_iff (paired document member) (printed document member)).mpr
        ⟨stem, json⟩
      exact unreserved _ (List.mem_flatMap.mpr ⟨document, member, taken⟩) _
        (List.mem_singleton_self _) rfl
  · rintro ⟨pairwise, unreserved⟩
    refine ⟨⟨each, ?_⟩, List.nodup_singleton _, ?_⟩
    · refine List.Pairwise.imp_of_mem ?_ pairwise
      intro first second one other separate
      exact (apart first one second other).mpr separate
    · rintro name listed other single rfl
      rw [List.mem_singleton.mp single] at listed
      obtain ⟨document, member, taken⟩ := List.mem_flatMap.mp listed
      obtain ⟨stem, json⟩ := (status_name_mem_iff (paired document member)
        (printed document member)).mp taken
      exact unreserved document member stem json

end Names

/-! ### Reading -/

/-- What is read under a name is an entry of that name. -/
theorem mem_of_read {archive : ZipResult} {name : Text} {content : ZipContent}
    (read : archive.read name = some content) :
    (name, content) ∈ archive.content.map fun entry => (zipInfoName entry.1, entry.2) := by
  rcases OrderedDict.get?_setAll OrderedDict.empty
    (archive.content.map fun entry => (zipInfoName entry.1, entry.2)) name with
    ⟨value, listed, held⟩ | ⟨_, absent⟩
  · have same : some value = some content := held.symm.trans read
    cases same
    exact listed
  · have none : none = some content := absent.symm.trans read
    cases none

/-- Where no name occurs twice, every entry is read under its own. -/
theorem read_of_nodup {archive : ZipResult} (nodup : archive.namelist.Nodup) {name : Text}
    {content : ZipContent} (listed : (name, content) ∈ archive.content) :
    archive.read (zipInfoName name) = some content := by
  have named : (zipInfoName name, content) ∈
      archive.content.map fun entry => (zipInfoName entry.1, entry.2) :=
    List.mem_map.mpr ⟨(name, content), listed, rfl⟩
  rcases OrderedDict.get?_setAll OrderedDict.empty
    (archive.content.map fun entry => (zipInfoName entry.1, entry.2)) (zipInfoName name) with
    ⟨value, other, held⟩ | ⟨absent, _⟩
  · obtain ⟨entry, member, same⟩ := List.mem_map.mp other
    obtain ⟨sameName, rfl⟩ := Prod.mk.inj same
    -- Both entries have this name, so they are one entry.
    have one := List.inj_on_of_nodup_map nodup member listed sameName
    rw [one] at held
    exact held
  · exact absurd named (absent content)

/-- The manifest is written last, whatever stems there are. -/
theorem read_manifest (documents : List ZipDocument) :
    (buildZipArchive documents).read "_status.json".toList =
      some (.manifest (documents.map ZipDocument.status)) := by
  have manifest : zipInfoName "_status.json".toList = "_status.json".toList := by decide
  have written : (buildZipArchive documents).nameToInfo =
      (OrderedDict.empty.setAll ((documents.flatMap ZipDocument.entries).map
        fun entry => (zipInfoName entry.1, entry.2))).set "_status.json".toList
          (.manifest (documents.map ZipDocument.status)) := by
    simp only [ZipResult.nameToInfo, buildZipArchive, OrderedDict.setAll, List.map_append,
      List.map_cons, List.map_nil, List.foldl_append, List.foldl_cons, List.foldl_nil, manifest]
  rw [ZipResult.read, written, OrderedDict.get?_set, if_pos rfl]

/-- One entry for each artifact, and one for the manifest. -/
theorem namelist_length (documents : List ZipDocument) :
    (buildZipArchive documents).namelist.length =
      (documents.map fun document => document.artifactsByField.entries.length).sum + 1 := by
  rw [namelist_eq, List.length_append, List.length_flatMap]
  simp [ZipDocument.names, OrderedDict.values]

/-- The manifest reports success exactly where there is an artifact. -/
theorem status_success_iff (document : ZipDocument) :
    document.status.status = "success".toList ↔ document.artifactsByField.entries ≠ [] := by
  cases listed : document.artifactsByField.entries with
  | nil =>
    simp [ZipDocument.status, listed]
  | cons => simp [ZipDocument.status, listed]

/-- What is read under a document's name has a name that was not cut. -/
theorem printed_of_read {documents : List ZipDocument} {document : ZipDocument}
    {content : ZipContent}
    (read : (buildZipArchive documents).read (document.stem ++ ext) = some content) :
    Char.ofNat 0 ∉ document.stem := by
  obtain ⟨entry, _, same⟩ := List.mem_map.mp (mem_of_read read)
  have cut : zipInfoName entry.1 = document.stem ++ ext := congrArg Prod.fst same
  intro member
  have kept : Char.ofNat 0 ∈ zipInfoName entry.1 := by
    rw [cut]
    exact List.mem_append_left _ member
  exact not_mem_zipInfoName _ kept

/-- All names fit exactly when the artifacts' do. -/
theorem fits_header_iff {documents : List ZipDocument}
    (paired : ∀ document ∈ documents, document.Paired)
    (printed : ∀ document ∈ documents, document.Printed) :
    (∀ name ∈ (buildZipArchive documents).namelist, FitsHeader name) ↔
      ∀ document ∈ documents, ∀ field ext body,
        document.artifactsByField.get? field = some (ext, body) →
        FitsHeader (document.stem ++ ext) := by
  rw [namelist_eq]
  constructor
  · intro fits document member field ext body held
    apply fits
    have name := entry_name (paired document member) (printed document member) held
    exact List.mem_append_left _ (List.mem_flatMap.mpr
      ⟨document, member, (mem_names _).mpr ⟨field, ext, body, held, name.symm⟩⟩)
  · intro fits name listed
    rcases List.mem_append.mp listed with artifact | manifest
    · obtain ⟨document, member, taken⟩ := List.mem_flatMap.mp artifact
      obtain ⟨field, ext, body, held, rfl⟩ := (mem_names name).mp taken
      rw [entry_name (paired document member) (printed document member) held]
      exact fits document member field ext body held
    · rw [List.mem_singleton.mp manifest]
      decide

/-- An artifact is read back under its name once no name occurs twice. -/
theorem read_artifact {documents : List ZipDocument} {document : ZipDocument}
    (nodup : (buildZipArchive documents).namelist.Nodup) (member : document ∈ documents)
    (paired : document.Paired) (printed : document.Printed)
    (held : document.artifactsByField.get? field = some (ext, body)) :
    (buildZipArchive documents).read (document.stem ++ ext) = some (.artifact body) := by
  have listed : (document.stem ++ ext, .artifact body) ∈ (buildZipArchive documents).content :=
    (mem_zipArchive _ _).mpr ⟨document, member, (mem_zipEntries _ _).mpr ⟨field, ext, held, rfl⟩⟩
  have read := read_of_nodup nodup listed
  rw [entry_name paired printed held] at read
  exact read

/-- The archive is read back by name exactly when the stems keep all names
apart. -/
theorem archive_reads_back_iff (documents : List ZipDocument)
    (paired : ∀ document ∈ documents, document.Paired) :
    ReadsBack documents ↔ NamesApart documents := by
  constructor
  · intro back
    have printed : ∀ document ∈ documents, document.Printed := by
      rintro document member field ⟨⟨ext, body⟩, held⟩
      exact printed_of_read (back.artifacts document member field ext body held)
    obtain ⟨pairwise, unreserved⟩ := (namelist_nodup_iff paired printed).mp back.distinct
    exact ⟨pairwise, unreserved, printed, (fits_header_iff paired printed).mp back.written⟩
  · intro apart
    have nodup := (namelist_nodup_iff paired apart.printed).mpr
      ⟨apart.pairwise, apart.unreserved⟩
    refine ⟨(fits_header_iff paired apart.printed).mpr apart.short, nodup,
      namelist_length documents, ?_, read_manifest documents, ?_⟩
    · intro document member field ext body held
      exact read_artifact nodup member (paired document member)
        (apart.printed document member) held
    · intro document _
      exact ⟨rfl, status_success_iff document⟩

/-- A document with Markdown only. -/
def markdownDocument (filename stem : Text) (body : Bytes) : ZipDocument :=
  ⟨filename, stem, OrderedDict.empty.set .mdContent (".md".toList, body)⟩

theorem markdown_paired (filename stem : Text) (body : Bytes) :
    (markdownDocument filename stem body).Paired := by
  intro field ext held present
  by_cases md : field = .mdContent
  · subst md
    cases present
    decide
  · rw [markdownDocument, OrderedDict.get?_set, if_neg md] at present
    cases present

/-- Two uploads with two stems, as the tests have them. -/
def apartDocuments : List ZipDocument :=
  [markdownDocument "a.pdf".toList "a".toList [49], markdownDocument "b.pdf".toList "b".toList [50]]

theorem apartDocuments_paired : ∀ document ∈ apartDocuments, document.Paired := by
  intro document member
  rcases List.mem_pair.mp member with rfl | rfl
  · exact markdown_paired _ _ _
  · exact markdown_paired _ _ _

theorem apartDocuments_apart : NamesApart apartDocuments := by
  refine ⟨List.pairwise_pair.mpr ?_, ?_, ?_, ?_⟩
  · rintro (⟨stem, _⟩ | ⟨stem, _⟩ | ⟨stem, _⟩)
    · exact absurd stem (by decide)
    · exact absurd stem (by decide)
    · exact absurd stem (by decide)
  · intro document member stem
    rcases List.mem_pair.mp member with rfl | rfl
    · exact absurd stem (by decide)
    · exact absurd stem (by decide)
  · intro document member field _
    rcases List.mem_pair.mp member with rfl | rfl
    · decide
    · decide
  · intro document member field ext body held
    have listed := apartDocuments_paired document member field ext body held
    have table : ∀ document ∈ apartDocuments, ∀ row ∈ extensionToField,
        FitsHeader (document.stem ++ row.1) := by decide
    exact table document member _ listed

theorem archive_reads_back_apart : ReadsBack apartDocuments :=
  (archive_reads_back_iff apartDocuments apartDocuments_paired).mpr apartDocuments_apart

/-- Two uploads with one stem. -/
def twinDocuments : List ZipDocument :=
  [markdownDocument "a.pdf".toList "a".toList [49],
    markdownDocument "a.docx".toList "a".toList [50]]

/-- The second one's Markdown is read for the first one's. -/
theorem twins_share_a_name : (∀ document ∈ twinDocuments, document.Paired) ∧
    ¬ ReadsBack twinDocuments ∧
    (buildZipArchive twinDocuments).read "a.md".toList = some (.artifact [50]) := by
  refine ⟨?_, ?_, by decide⟩
  · intro document member
    rcases List.mem_pair.mp member with rfl | rfl
    · exact markdown_paired _ _ _
    · exact markdown_paired _ _ _
  · intro back
    exact absurd back.distinct (by decide)

end DoclingServeRay.Facade
