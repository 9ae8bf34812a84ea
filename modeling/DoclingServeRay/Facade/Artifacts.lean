import DoclingServeRay.Lib.Json
import DoclingServeRay.Lib.OrderedDict
import Mathlib.Data.List.Lex
import Mathlib.Data.List.Sort
import Mathlib.Data.Char
import Mathlib.Algebra.Order.Ring.Rat
import Mathlib.Algebra.Order.Ring.Cast

/-! What the facade makes of the objects docling-serve wrote (`utils.py`) and
the shapes it answers in (`schemas.py`). -/
namespace DoclingServeRay.Facade
open Strings

abbrev Bytes := List UInt8

/-! ### schemas.py -/

/-- The fields of `ExportDocumentResponse` that an artifact can fill. -/
inductive Field where
  | mdContent
  | jsonContent
  | htmlContent
  | textContent
  | doctagsContent
  | doclangContent
  deriving DecidableEq, Repr

/-- Bookkeeping for a task that the facade itself submitted. -/
structure TaskRecord where
  requestId : Text
  tenantId : Option Text
  filenames : List Text
  toFormats : List Text
  asZip : Bool
  deriving DecidableEq

/-- What a field holds: the text of an artifact, or the JSON it parses as. -/
inductive Content where
  | text (value : Text)
  | json (value : Json)

structure ExportDocumentResponse where
  filename : Text
  fields : OrderedDict Field Content

structure ConvertDocumentResponse where
  document : ExportDocumentResponse
  status : Text
  processingTime : ℚ

structure DocumentStatus where
  filename : Text
  status : Text
  deriving DecidableEq

/-- An entry of the archive: an artifact's bytes, or the manifest as JSON. -/
inductive ZipContent where
  | artifact (body : Bytes)
  | manifest (documents : List DocumentStatus)
  deriving DecidableEq

structure ZipResult where
  /-- The entries in the order they were written. -/
  content : List (Text × ZipContent)
  documentStatuses : List DocumentStatus
  deriving DecidableEq

def ZipResult.hasFailures (result : ZipResult) : Bool :=
  result.documentStatuses.any fun document => document.status = "failed".toList

/-! ### utils.py -/

/-- The longest suffix first: `.doctags.txt` also ends in `.txt`. -/
def extensionToField : List (Text × Field) := [
  (".doctags.txt".toList, .doctagsContent),
  (".json".toList, .jsonContent),
  (".md".toList, .mdContent),
  (".html".toList, .htmlContent),
  (".dclg".toList, .doclangContent),
  (".txt".toList, .textContent)]

def defaultToFormats : List Text := ["md".toList]

/-- What `parse_artifact_key` reads off a key. -/
structure Parsed where
  ext : Text
  field : Field
  stem : Text
  deriving DecidableEq

/-- The part of `parse_artifact_key` after the leaf name is known. -/
def parseLeaf (filename : Text) : Option Parsed :=
  (firstSuffix extensionToField filename).map fun row =>
    ⟨row.1, row.2, filename.take (filename.length - row.1.length)⟩

def parseArtifactKey (keyPrefix key : Text) : Option Parsed :=
  if keyPrefix.isPrefixOf key then
    parseLeaf (rsplitTail '/' (key.drop keyPrefix.length))
  else none

/-- Artifacts by stem and then by field, each with its extension. -/
abbrev Grouped := OrderedDict Text (OrderedDict Field (Text × Bytes))

/-- `grouped.setdefault(stem, {})[field_name] = (ext, content)`. -/
def addArtifact (grouped : Grouped) (parsed : Parsed) (content : Bytes) : Grouped :=
  grouped.upsert parsed.stem fun held =>
    (held.getD .empty).set parsed.field (parsed.ext, content)

/-- What Python's libraries make of bytes, texts and JSON values. -/
structure Codec where
  /-- `body.decode('utf-8')` -/
  decode : Bytes → Option Text
  /-- `json.loads` -/
  loads : Text → Option Json
  /-- A `float` field of a pydantic model. -/
  toFloat : Json → Option ℚ
  /-- An `int` field of a pydantic model. -/
  toInt : Json → Option Int
  /-- A JSON value other than a text, in an f-string. -/
  format : Json → Text

/-- `Optional[dict[str, Any]]`, for the one field that is not a text. -/
def Content.isValid : Content → Bool
  | .text _ => true
  | .json .null => true
  | .json (.object _) => true
  | .json _ => false

/-- One artifact as the value of its field. -/
def fieldValue (codec : Codec) (field : Field) (body : Bytes) : Option Content :=
  (codec.decode body).bind fun text =>
    if field = .jsonContent then (codec.loads text).map Content.json else some (.text text)

/-- `none` where an artifact does not decode or its JSON is not an object. -/
def buildExportDocumentResponse (codec : Codec) (filename : Text)
    (artifactsByField : OrderedDict Field (Text × Bytes)) : Option ExportDocumentResponse :=
  (artifactsByField.traverse fun field artifact => fieldValue codec field artifact.2).bind
    fun fields =>
      if fields.values.all Content.isValid then some ⟨filename, fields⟩ else none

/-- A document of the archive: the uploaded name, its stem and its artifacts. -/
structure ZipDocument where
  filename : Text
  stem : Text
  artifactsByField : OrderedDict Field (Text × Bytes)

def ZipDocument.entries (document : ZipDocument) : List (Text × ZipContent) :=
  document.artifactsByField.values.map fun artifact =>
    (document.stem ++ artifact.1, .artifact artifact.2)

def ZipDocument.status (document : ZipDocument) : DocumentStatus where
  filename := document.filename
  status := if document.artifactsByField.entries.isEmpty then "failed".toList
    else "success".toList

def buildZipArchive (documents : List ZipDocument) : ZipResult :=
  let statuses := documents.map ZipDocument.status
  ⟨documents.flatMap ZipDocument.entries ++ [("_status.json".toList, .manifest statuses)], statuses⟩

/-! ### Leaf names -/

/-- A leaf name that parses is its stem and a row of the table. -/
theorem parseLeaf_eq_some (read : parseLeaf filename = some parsed) :
    (parsed.ext, parsed.field) ∈ extensionToField ∧ filename = parsed.stem ++ parsed.ext := by
  obtain ⟨⟨ext, field⟩, found, rfl⟩ := Option.map_eq_some_iff.mp read
  obtain ⟨listed, ends⟩ := firstSuffix_mem found
  obtain ⟨stem, rfl⟩ := ends
  exact ⟨listed, by simp⟩

/-- Of a key below the prefix, the leaf is read. -/
theorem parseArtifactKey_append (keyPrefix rest : Text) :
    parseArtifactKey keyPrefix (keyPrefix ++ rest) = parseLeaf (rsplitTail '/' rest) := by
  have begins : keyPrefix.isPrefixOf (keyPrefix ++ rest) = true :=
    List.isPrefixOf_iff_prefix.mpr (List.prefix_append keyPrefix rest)
  rw [parseArtifactKey, if_pos begins, List.drop_left]

/-- A key that parses is below the prefix. -/
theorem parseArtifactKey_eq_some (read : parseArtifactKey keyPrefix key = some parsed) :
    ∃ rest, key = keyPrefix ++ rest ∧ parseLeaf (rsplitTail '/' rest) = some parsed := by
  by_cases begins : keyPrefix.isPrefixOf key = true
  · obtain ⟨rest, rfl⟩ := List.isPrefixOf_iff_prefix.mp begins
    rw [parseArtifactKey_append] at read
    exact ⟨rest, rfl, read⟩
  · rw [parseArtifactKey, if_neg begins] at read
    cases read

/-- No two formats share a field. -/
theorem field_ext {ext other : Text} {field : Field} (first : (ext, field) ∈ extensionToField)
    (second : (other, field) ∈ extensionToField) : ext = other := by
  have unique : ∀ row ∈ extensionToField, ∀ row' ∈ extensionToField,
      row.2 = row'.2 → row.1 = row'.1 := by decide
  exact unique _ first _ second rfl

/-- No two fields share an extension. -/
theorem ext_field {ext : Text} {field other : Field} (first : (ext, field) ∈ extensionToField)
    (second : (ext, other) ∈ extensionToField) : field = other := by
  have unique : ∀ row ∈ extensionToField, ∀ row' ∈ extensionToField,
      row.1 = row'.1 → row.2 = row'.2 := by decide
  exact unique _ first _ second rfl

/-- Of the extensions, only `.txt` ends another one. -/
theorem ext_suffix {ext other : Text} {field field' : Field}
    (first : (ext, field) ∈ extensionToField) (second : (other, field') ∈ extensionToField)
    (ends : ext <:+ other) :
    ext = other ∨ (field = .textContent ∧ field' = .doctagsContent ∧
      other = ".doctags".toList ++ ext) := by
  have table : ∀ row ∈ extensionToField, ∀ row' ∈ extensionToField, row.1 <:+ row'.1 →
      row.1 = row'.1 ∨ (row.2 = .textContent ∧ row'.2 = .doctagsContent ∧
        row'.1 = ".doctags".toList ++ row.1) := by decide
  exact table _ first _ second ends

/-! ### Slots -/

/-- The artifact held for a stem and a field. -/
def Grouped.slot (grouped : Grouped) (stem : Text) (field : Field) : Option (Text × Bytes) :=
  (grouped.get? stem).bind fun artifacts => artifacts.get? field

theorem slot_addArtifact (grouped : Grouped) (parsed : Parsed) (content : Bytes) (stem : Text)
    (field : Field) :
    (addArtifact grouped parsed content).slot stem field =
      if parsed.stem = stem ∧ parsed.field = field then some (parsed.ext, content)
      else grouped.slot stem field := by
  unfold Grouped.slot addArtifact
  rw [OrderedDict.get?_upsert]
  by_cases sameStem : parsed.stem = stem
  · subst sameStem
    rw [if_pos rfl, Option.bind_some, OrderedDict.get?_set]
    by_cases sameField : parsed.field = field
    · simp [sameField]
    · have other : ¬ field = parsed.field := fun equal => sameField equal.symm
      simp only [other, sameField, and_false, ↓reduceIte]
      cases grouped.get? parsed.stem with
      | none => simp
      | some artifacts => simp
  · have other : ¬ stem = parsed.stem := fun equal => sameStem equal.symm
    simp [sameStem, other]

/-- The artifacts of some objects, added in order; other objects are passed
over. -/
def groupArtifacts (keyPrefix : Text) (grouped : Grouped) (objects : List (Text × Bytes)) :
    Grouped :=
  objects.foldl (fun grouped object =>
    match parseArtifactKey keyPrefix object.1 with
    | some parsed => addArtifact grouped parsed object.2
    | none => grouped) grouped

/-- Whether a key is read as an artifact of this stem and field. -/
def Occupies (keyPrefix : Text) (stem : Text) (field : Field) (key : Text) : Prop :=
  ∃ ext, parseArtifactKey keyPrefix key = some ⟨ext, field, stem⟩

theorem slot_groupArtifacts_snoc (keyPrefix : Text) (objects : List (Text × Bytes))
    (object : Text × Bytes) (stem : Text) (field : Field) :
    (groupArtifacts keyPrefix .empty (objects ++ [object])).slot stem field =
      match parseArtifactKey keyPrefix object.1 with
      | some parsed =>
        if parsed.stem = stem ∧ parsed.field = field then some (parsed.ext, object.2)
        else (groupArtifacts keyPrefix .empty objects).slot stem field
      | none => (groupArtifacts keyPrefix .empty objects).slot stem field := by
  simp only [groupArtifacts, List.foldl_append, List.foldl_cons, List.foldl_nil]
  cases parseArtifactKey keyPrefix object.1 with
  | none => rfl
  | some parsed => exact slot_addArtifact _ parsed object.2 stem field

/-- A slot that an object is read into is not empty. -/
theorem slot_occupied {keyPrefix : Text} {objects : List (Text × Bytes)} (member : object ∈ objects)
    (occupied : Occupies keyPrefix stem field object.1) :
    ∃ held, (groupArtifacts keyPrefix .empty objects).slot stem field = some held := by
  induction objects using List.reverseRecOn with
  | nil => cases member
  | append_singleton objects last ih =>
    rw [slot_groupArtifacts_snoc]
    rcases List.mem_append.mp member with old | new
    · obtain ⟨held, filled⟩ := ih old
      split
      · split
        · exact ⟨_, rfl⟩
        · exact ⟨held, filled⟩
      · exact ⟨held, filled⟩
    · obtain ⟨ext, read⟩ := occupied
      rw [← List.mem_singleton.mp new, read]
      exact ⟨_, if_pos ⟨rfl, rfl⟩⟩

/-- Of the objects that are read into a slot, the last one fills it. -/
theorem slot_groupArtifacts {keyPrefix : Text} {objects : List (Text × Bytes)}
    (ordered : objects.Pairwise fun first second => first.1 < second.1) (stem : Text)
    (field : Field) (ext : Text) (body : Bytes) :
    (groupArtifacts keyPrefix .empty objects).slot stem field = some (ext, body) ↔
      ∃ key, (key, body) ∈ objects ∧ parseArtifactKey keyPrefix key = some ⟨ext, field, stem⟩ ∧
        ∀ later ∈ objects, key < later.1 → ¬ Occupies keyPrefix stem field later.1 := by
  induction objects using List.reverseRecOn with
  | nil => simp [groupArtifacts, Grouped.slot]
  | append_singleton objects last ih =>
    obtain ⟨before, _, below⟩ := List.pairwise_append.mp ordered
    have smaller : ∀ object ∈ objects, object.1 < last.1 := fun object member =>
      below object member last (List.mem_singleton_self last)
    rw [slot_groupArtifacts_snoc]
    by_cases occupied : Occupies keyPrefix stem field last.1
    · obtain ⟨found, parsed⟩ := occupied
      simp only [parsed, and_self, ↓reduceIte, Option.some.injEq, Prod.mk.injEq]
      constructor
      · rintro ⟨rfl, rfl⟩
        refine ⟨last.1, by simp, parsed, ?_⟩
        intro later member after
        rcases List.mem_append.mp member with old | new
        · exact absurd after (lt_asymm (smaller later old))
        · rw [List.mem_singleton.mp new] at after
          exact absurd after (lt_irrefl _)
      · rintro ⟨key, member, read, free⟩
        rcases List.mem_append.mp member with old | new
        · exact absurd ⟨found, parsed⟩ (free last (by simp) (smaller _ old))
        · obtain rfl := List.mem_singleton.mp new
          rw [parsed] at read
          cases read
          exact ⟨rfl, rfl⟩
    · have passed : (match parseArtifactKey keyPrefix last.1 with
          | some parsed =>
            if parsed.stem = stem ∧ parsed.field = field then some (parsed.ext, last.2)
            else (groupArtifacts keyPrefix .empty objects).slot stem field
          | none => (groupArtifacts keyPrefix .empty objects).slot stem field) =
          (groupArtifacts keyPrefix .empty objects).slot stem field := by
        cases read : parseArtifactKey keyPrefix last.1 with
        | none => rfl
        | some parsed =>
          have other : ¬ (parsed.stem = stem ∧ parsed.field = field) := by
            rintro ⟨rfl, rfl⟩
            exact occupied ⟨parsed.ext, read⟩
          simp only [other, ↓reduceIte]
      rw [passed, ih before]
      constructor
      · rintro ⟨key, member, read, free⟩
        refine ⟨key, List.mem_append_left _ member, read, ?_⟩
        intro later member after
        rcases List.mem_append.mp member with old | new
        · exact free later old after
        · rwa [List.mem_singleton.mp new]
      · rintro ⟨key, member, read, free⟩
        rcases List.mem_append.mp member with old | new
        · exact ⟨key, old, read, fun later held => free later (List.mem_append_left _ held)⟩
        · rw [← List.mem_singleton.mp new] at occupied
          exact absurd ⟨ext, read⟩ occupied

end DoclingServeRay.Facade
