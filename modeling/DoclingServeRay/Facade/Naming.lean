import DoclingServeRay.Facade.Service
import DoclingServeRay.Orchestration.Verdict

/-! The names of artifacts, and what the two services read off them: the facade a
field and a stem, and the worker a format, each by a table of its own. -/
namespace DoclingServeRay.Facade
open Strings
open Orchestration (formatOf suffixToFormat collectOutputs listKeys ListPage)

/-! ### Reading a name back -/

/-- A path of directories: empty, or ending in a slash. -/
def Directories (path : Text) : Prop := path = [] ∨ ∃ parent, path = parent ++ "/".toList

theorem extensions_unslashed (listed : (ext, field) ∈ extensionToField) : '/' ∉ ext := by
  have table : ∀ row ∈ extensionToField, '/' ∉ row.1 := by decide
  exact table _ listed

theorem extensionToField_longestFirst : LongestFirst extensionToField := by decide

/-- A leaf is read as the longest extension that it has. -/
theorem parseLeaf_eq_some_iff (filename : Text) (parsed : Parsed) :
    parseLeaf filename = some parsed ↔
      (parsed.ext, parsed.field) ∈ extensionToField ∧ filename = parsed.stem ++ parsed.ext ∧
        ∀ row ∈ extensionToField, row.1 <:+ filename → row.1 <:+ parsed.ext := by
  constructor
  · intro read
    obtain ⟨listed, shape⟩ := parseLeaf_eq_some read
    obtain ⟨row, found, same⟩ := Option.map_eq_some_iff.mp read
    obtain ⟨_, _, longest⟩ := (firstSuffix_eq_some_iff extensionToField_longestFirst _ _).mp found
    cases same
    exact ⟨listed, shape, longest⟩
  · rintro ⟨listed, rfl, longest⟩
    have found := (firstSuffix_eq_some_iff extensionToField_longestFirst
      (parsed.stem ++ parsed.ext) (parsed.ext, parsed.field)).mpr
      ⟨listed, List.suffix_append _ _, longest⟩
    rw [parseLeaf, found]
    simp

/-- A text whose stem ends in `.doctags` has the name of doctags. -/
def ReadsAsDoctags (field : Field) (stem : Text) : Prop :=
  field = .textContent ∧ ".doctags".toList <:+ stem

/-- Every other name is read as it was made. -/
theorem parseLeaf_name_iff (listed : (ext, field) ∈ extensionToField) (stem : Text) :
    parseLeaf (stem ++ ext) = some ⟨ext, field, stem⟩ ↔ ¬ ReadsAsDoctags field stem := by
  rw [parseLeaf_eq_some_iff]
  constructor
  · rintro ⟨_, _, longest⟩ ⟨rfl, doctags⟩
    have text : (".txt".toList, Field.textContent) ∈ extensionToField := by decide
    obtain rfl := field_ext listed text
    obtain ⟨short, rfl⟩ := doctags
    have ends : ".doctags.txt".toList <:+ ".txt".toList :=
      longest (".doctags.txt".toList, .doctagsContent) (by decide)
      ⟨short, (List.append_assoc short ".doctags".toList ".txt".toList).symm⟩
    exact absurd ends (by decide)
  · intro plain
    refine ⟨listed, rfl, ?_⟩
    rintro ⟨other, field'⟩ row ends
    rcases List.suffix_or_suffix_of_suffix ends (List.suffix_append stem ext) with shorter | longer
    · exact shorter
    · rcases ext_suffix listed row longer with rfl | ⟨text, _, rfl⟩
      · exact List.suffix_refl _
      · obtain ⟨short, same⟩ := ends
        rw [← List.append_assoc] at same
        exact absurd ⟨text, short, List.append_cancel_right same⟩ plain

/-- Directories in front of a leaf do not matter, and the slashes of a stem make
directories as well. -/
theorem parseArtifactKey_name (listed : (ext, field) ∈ extensionToField)
    (path : Directories directories) (keyPrefix stem : Text) :
    parseArtifactKey keyPrefix (keyPrefix ++ directories ++ stem ++ ext) =
      parseLeaf (rsplitTail '/' stem ++ ext) := by
  rw [List.append_assoc, List.append_assoc, parseArtifactKey_append]
  have below : rsplitTail '/' (directories ++ (stem ++ ext)) = rsplitTail '/' (stem ++ ext) := by
    rcases path with rfl | ⟨parent, rfl⟩
    · rfl
    · rw [List.append_assoc]
      exact rsplitTail_after '/' parent (stem ++ ext)
  rw [below, rsplitTail_append_clear (extensions_unslashed listed)]

/-- A key is read as the extension and the field it was named with, and as the
leaf of the uploaded name's stem, unless it has the name of doctags: so as the
stem itself exactly where that has no slash. -/
theorem artifact_name_read (listed : (ext, field) ∈ extensionToField)
    (path : Directories directories) (keyPrefix filename : Text) :
    (¬ ReadsAsDoctags field (rsplitTail '/' (stemOf filename)) →
      parseArtifactKey keyPrefix (keyPrefix ++ directories ++ stemOf filename ++ ext) =
        some ⟨ext, field, rsplitTail '/' (stemOf filename)⟩) ∧
    (∀ stem, field = .textContent →
      rsplitTail '/' (stemOf filename) = stem ++ ".doctags".toList →
      parseArtifactKey keyPrefix (keyPrefix ++ directories ++ stemOf filename ++ ext) =
        some ⟨".doctags.txt".toList, .doctagsContent, stem⟩) ∧
    (parseArtifactKey keyPrefix (keyPrefix ++ directories ++ stemOf filename ++ ext) =
        some ⟨ext, field, stemOf filename⟩ ↔
      '/' ∉ stemOf filename ∧ ¬ ReadsAsDoctags field (stemOf filename)) := by
  rw [parseArtifactKey_name listed path]
  refine ⟨(parseLeaf_name_iff listed _).mpr, ?_, ?_⟩
  · rintro stem rfl doctags
    have text : (".txt".toList, Field.textContent) ∈ extensionToField := by decide
    have row : (".doctags.txt".toList, Field.doctagsContent) ∈ extensionToField := by decide
    obtain rfl := field_ext listed text
    rw [doctags, List.append_assoc]
    apply (parseLeaf_name_iff row stem).mpr
    rintro ⟨⟨⟩, _⟩
  · constructor
    · intro read
      obtain ⟨_, shape⟩ := parseLeaf_eq_some read
      have leaf : rsplitTail '/' (stemOf filename) = stemOf filename :=
        List.append_cancel_right shape
      rw [leaf] at read
      refine ⟨?_, (parseLeaf_name_iff listed _).mp read⟩
      rw [← leaf]
      exact not_mem_rsplitTail '/' (stemOf filename)
    · rintro ⟨flat, plain⟩
      rw [rsplitTail_of_absent flat]
      exact (parseLeaf_name_iff listed _).mpr plain

theorem artifact_name_read_nested :
    parseArtifactKey "out/".toList ("out/".toList ++ "abc123hash/".toList ++
        stemOf "report.v2.pdf".toList ++ ".md".toList) =
      some ⟨".md".toList, .mdContent, stemOf "report.v2.pdf".toList⟩ :=
  (artifact_name_read (by decide) (Or.inr ⟨"abc123hash".toList, rfl⟩) "out/".toList
    "report.v2.pdf".toList).2.2.mpr (by unfold ReadsAsDoctags; decide)

/-- A stem may look like part of an extension, or like directories. -/
theorem stems_misread :
    parseArtifactKey "out/".toList
        ("out/".toList ++ [] ++ stemOf "a.doctags.pdf".toList ++ ".txt".toList) ≠
      some ⟨".txt".toList, .textContent, stemOf "a.doctags.pdf".toList⟩ ∧
    parseArtifactKey "out/".toList
        ("out/".toList ++ [] ++ stemOf "dir/a.pdf".toList ++ ".md".toList) ≠
      some ⟨".md".toList, .mdContent, stemOf "dir/a.pdf".toList⟩ := by
  decide

/-! ### Classifying a listing -/

/-- The worker's outputs are a partition of the listing by format. -/
structure Partitions (listing : List Text) (outputs : OrderedDict Text (List Text)) : Prop where
  once : outputs.values.flatten.Perm listing
  own : ∀ format key, ((outputs.get? format).getD []).count key =
    if formatOf key = format then listing.count key else 0
  sorted : ∀ format keys, outputs.get? format = some keys → keys.Pairwise (· ≤ ·)
  json : "json".toList ∈ outputs.keys ↔ ∃ key ∈ listing, ".json".toList <:+ key

theorem collectOutputs_partitions (settings : Orchestration.Settings) (pages : List ListPage) :
    Partitions (listKeys pages) (collectOutputs settings pages).outputs where
  once := (OrderedDict.groupBy_perm formatOf _).trans (List.perm_insertionSort _ _)
  own := by
    intro format key
    have sorted := (List.perm_insertionSort (· ≤ ·) (listKeys pages)).count_eq key
    rw [← sorted]
    exact OrderedDict.count_groupBy formatOf _ format key
  sorted := by
    intro format keys held
    exact (List.pairwise_insertionSort (· ≤ ·) (listKeys pages)).sublist
      (OrderedDict.groupBy_sublist held)
  json := Orchestration.required_listed_iff (listKeys pages)

/-! ### Two tables -/

/-- The fields as the response names them. -/
def Field.name : Field → Text
  | .mdContent => "md_content".toList
  | .jsonContent => "json_content".toList
  | .htmlContent => "html_content".toList
  | .textContent => "text_content".toList
  | .doctagsContent => "doctags_content".toList
  | .doclangContent => "doclang_content".toList

/-- The formats that are neither renamed nor part of another suffix. -/
def plainFormats : List (Text × Field) := [
  ("json".toList, .jsonContent),
  ("md".toList, .mdContent),
  ("html".toList, .htmlContent)]

/-- The facade and the worker read a key alike. -/
structure ServicesAgree (keyPrefix key : Text) : Prop where
  named : ∀ parsed, parseArtifactKey keyPrefix key = some parsed →
    formatOf key ++ "_content".toList = parsed.field.name
  plain : ∀ format field, (format, field) ∈ plainFormats →
    (formatOf key = format ↔
      ∃ parsed, parseArtifactKey keyPrefix key = some parsed ∧ parsed.field = field)

theorem suffixToFormat_longestFirst : LongestFirst suffixToFormat := by decide

/-- Every extension of the facade is one of the worker's, with the format that
the field is named after. -/
theorem extension_format (listed : (ext, field) ∈ extensionToField) :
    ∃ format, (ext, format) ∈ suffixToFormat ∧ format ++ "_content".toList = field.name := by
  have table : ∀ row ∈ extensionToField, ∃ known ∈ suffixToFormat,
      known.1 = row.1 ∧ known.2 ++ "_content".toList = row.2.name := by decide
  obtain ⟨⟨ext', format⟩, known, rfl, named⟩ := table _ listed
  exact ⟨format, known, named⟩

/-- The worker knows no longer suffix that the facade does not know. -/
theorem longer_suffix_known (listed : (ext, field) ∈ extensionToField)
    (known : (suffix, format) ∈ suffixToFormat) (longer : ext <:+ suffix) :
    ∃ field', (suffix, field') ∈ extensionToField := by
  have table : ∀ row ∈ extensionToField, ∀ row' ∈ suffixToFormat, row.1 <:+ row'.1 →
      ∃ other ∈ extensionToField, other.1 = row'.1 := by decide
  obtain ⟨⟨_, field'⟩, member, rfl⟩ := table _ listed _ known longer
  exact ⟨field', member⟩

/-- Of a key, only the leaf decides whether it ends in an extension. -/
theorem extension_leaf_iff (listed : (ext, field) ∈ extensionToField) (key : Text) :
    ext <:+ rsplitTail '/' key ↔ ext <:+ key :=
  suffix_rsplitTail_iff (extensions_unslashed listed) key

/-- Below a prefix that ends in a slash, the facade reads the leaf of the key. -/
theorem parseArtifactKey_below (directory rest : Text) :
    parseArtifactKey (directory ++ "/".toList) (directory ++ "/".toList ++ rest) =
      parseLeaf (rsplitTail '/' (directory ++ "/".toList ++ rest)) := by
  have leaf : rsplitTail '/' (directory ++ "/".toList ++ rest) = rsplitTail '/' rest := by
    rw [List.append_assoc]
    exact rsplitTail_after '/' directory rest
  rw [parseArtifactKey_append, leaf]

/-- What the facade reads, the worker files under the format of the field. -/
theorem formatOf_of_parse {key : Text} (read : parseLeaf (rsplitTail '/' key) = some parsed) :
    formatOf key ++ "_content".toList = parsed.field.name := by
  obtain ⟨listed, shape, longest⟩ := (parseLeaf_eq_some_iff _ _).mp read
  obtain ⟨format, known, named⟩ := extension_format listed
  have ends : parsed.ext <:+ key := by
    apply (extension_leaf_iff listed key).mp
    rw [shape]
    exact List.suffix_append _ _
  have found : firstSuffix suffixToFormat key = some (parsed.ext, format) := by
    apply (firstSuffix_eq_some_iff suffixToFormat_longestFirst key _).mpr
    refine ⟨known, ends, ?_⟩
    rintro ⟨suffix, other⟩ member fits
    rcases List.suffix_or_suffix_of_suffix fits ends with shorter | longer
    · exact shorter
    · obtain ⟨field', row⟩ := longer_suffix_known listed member longer
      exact longest _ row ((extension_leaf_iff row key).mpr fits)
  rw [← named, formatOf, found]

/-- The facade reads such a format exactly where the leaf ends in its extension. -/
theorem parse_plain_iff (plain : (format, field) ∈ plainFormats) (filename : Text) :
    (∃ parsed, parseLeaf filename = some parsed ∧ parsed.field = field) ↔
      '.' :: format <:+ filename := by
  have listed : ('.' :: format, field) ∈ extensionToField := by
    have table : ∀ row ∈ plainFormats, ('.' :: row.1, row.2) ∈ extensionToField := by decide
    exact table _ plain
  have apart : ∀ row ∈ extensionToField, '.' :: format <:+ row.1 → row.1 <:+ '.' :: format := by
    have table : ∀ row ∈ plainFormats, ∀ other ∈ extensionToField,
        '.' :: row.1 <:+ other.1 → other.1 <:+ '.' :: row.1 := by decide
    exact table _ plain
  constructor
  · rintro ⟨parsed, read, rfl⟩
    obtain ⟨row, rfl⟩ := parseLeaf_eq_some read
    rw [field_ext listed row]
    exact List.suffix_append _ _
  · rintro ⟨stem, rfl⟩
    refine ⟨⟨'.' :: format, field, stem⟩, (parseLeaf_eq_some_iff _ _).mpr ⟨listed, rfl, ?_⟩, rfl⟩
    intro row member fits
    rcases List.suffix_or_suffix_of_suffix fits (List.suffix_append stem ('.' :: format)) with
      shorter | longer
    · exact shorter
    · exact apart row member longer

theorem services_agree (directory rest : Text) :
    ServicesAgree (directory ++ "/".toList) (directory ++ "/".toList ++ rest) := by
  constructor
  · intro parsed read
    rw [parseArtifactKey_below] at read
    exact formatOf_of_parse read
  · intro format field plain
    have table : ∀ row ∈ plainFormats, ('.' :: row.1, row.1) ∈ suffixToFormat ∧
        ('.' :: row.1, row.2) ∈ extensionToField := by decide
    obtain ⟨known, listed⟩ := table _ plain
    rw [parseArtifactKey_below, parse_plain_iff plain, Orchestration.formatOf_plain_iff known,
      extension_leaf_iff listed]

end DoclingServeRay.Facade
