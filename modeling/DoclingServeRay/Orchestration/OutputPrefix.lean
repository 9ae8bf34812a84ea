import DoclingServeRay.Orchestration.Activities

/-! When the outputs of two documents are kept apart. Each document's outputs go
below `{output_prefix}{bucket}/{key}/convert/`, with a key that may itself
contain `/convert/`. -/
namespace DoclingServeRay.Orchestration
open Strings

variable {settings : Settings} {bucket key bucket' key' object : Text}

/-- docling-serve writes below the target prefix of the request that it got. -/
def Written (settings : Settings) (bucket key object : Text) : Prop :=
  ∃ options callbacks,
    (buildBatchConvertBody settings bucket key options callbacks).target.keyPrefix <+: object

/-- `collect_outputs` lists below the document's prefix. -/
def Listing (settings : Settings) (bucket key : Text) (pages : List ListPage) : Prop :=
  ∀ object ∈ listKeys pages, convertOutputPrefix settings bucket key <+: object

/-- What the conversion of one document may write is not below the other one's
prefix, and is in no collection of the other one's outputs. -/
def Apart (settings : Settings) (bucket key bucket' key' : Text) : Prop :=
  (∀ object, Written settings bucket key object →
    ¬ convertOutputPrefix settings bucket' key' <+: object) ∧
  ∀ pages, Listing settings bucket' key' pages →
    ∀ keys ∈ (collectOutputs settings pages).outputs.values, ∀ object ∈ keys,
      ¬ Written settings bucket key object

/-- The second document's key goes on below the first one's outputs. -/
def Nested (bucket key bucket' key' : Text) : Prop :=
  bucket = bucket' ∧ key ++ "/convert/".toList <+: key' ++ "/".toList

instance : Decidable (Nested bucket key bucket' key') := inferInstanceAs (Decidable (_ ∧ _))

theorem written_iff :
    Written settings bucket key object ↔ convertOutputPrefix settings bucket key <+: object :=
  ⟨fun ⟨_, _, below⟩ => below, fun below => ⟨.empty, [], below⟩⟩

/-! ### Prefixes of prefixes -/

/-- The marker does not overlap itself, but for its slashes. -/
theorem convert_overlap : ∀ shift < 8, 0 < shift →
    ¬ "/convert/".toList.drop shift <+: "/convert/".toList := by decide

/-- A key's prefix extends the prefix of another key only where the other key's
marker ends within it. -/
theorem marked_prefix_iff (other : key ≠ key') :
    key ++ "/convert/".toList <+: key' ++ "/convert/".toList ↔
      key ++ "/convert/".toList <+: key' ++ "/".toList := by
  have slash : key' ++ "/".toList <+: key' ++ "/convert/".toList :=
    (List.prefix_append_right_inj key').mpr (by decide)
  constructor
  · intro extends'
    by_cases fits : (key ++ "/convert/".toList).length ≤ (key' ++ "/".toList).length
    · exact List.prefix_of_prefix_length_le extends' slash fits
    exfalso
    have marker : "/convert/".toList.length = 9 := by decide
    have shorter : key.length ≤ key'.length := by
      have lengths := extends'.length_le
      simp only [List.length_append] at lengths
      omega
    obtain ⟨middle, rfl⟩ : key <+: key' :=
      List.prefix_of_prefix_length_le ((List.prefix_append _ _).trans extends')
        (List.prefix_append _ _) shorter
    rw [List.append_assoc, List.prefix_append_right_inj] at extends'
    obtain ⟨rest, same⟩ := extends'
    have short : middle.length < 8 := by
      simp only [List.length_append, marker, not_le] at fits
      have one : "/".toList.length = 1 := by decide
      omega
    have some' : 0 < middle.length := by
      apply List.length_pos_of_ne_nil
      rintro rfl
      exact other (by simp)
    have dropped := congrArg (List.drop middle.length) same
    rw [List.drop_left, List.drop_append_of_le_length (by omega)] at dropped
    exact convert_overlap middle.length short some' ⟨rest, dropped⟩
  · intro within
    exact within.trans slash

theorem convertOutputPrefix_extends_iff (clear : '/' ∉ bucket) (clear' : '/' ∉ bucket')
    (other : (bucket, key) ≠ (bucket', key')) :
    convertOutputPrefix settings bucket key <+: convertOutputPrefix settings bucket' key' ↔
      Nested bucket key bucket' key' := by
  have shape : ∀ held text : Text, convertOutputPrefix settings held text =
      settings.outputPrefix ++ (held ++ '/' :: (text ++ "/convert/".toList)) := by
    intro held text
    simp [convertOutputPrefix]
  rw [shape, shape, List.prefix_append_right_inj]
  constructor
  · intro extends'
    obtain ⟨rfl, keys⟩ := append_separator_prefix clear clear' extends'
    have distinct : key ≠ key' := by
      rintro rfl
      exact other rfl
    exact ⟨rfl, (marked_prefix_iff distinct).mp keys⟩
  · rintro ⟨rfl, keys⟩
    have distinct : key ≠ key' := by
      rintro rfl
      exact other rfl
    rw [List.prefix_append_right_inj]
    obtain ⟨rest, same⟩ := (marked_prefix_iff distinct).mpr keys
    exact ⟨rest, by rw [List.cons_append, same]⟩

/-- Some object is below both prefixes exactly when one extends the other. -/
theorem common_object_iff (first second : Text) :
    (∃ object, first <+: object ∧ second <+: object) ↔ first <+: second ∨ second <+: first := by
  constructor
  · rintro ⟨object, below, below'⟩
    exact List.prefix_or_prefix_of_prefix below below'
  · rintro (extends' | extends')
    · exact ⟨second, extends', List.prefix_rfl⟩
    · exact ⟨first, List.prefix_rfl, extends'⟩

/-! ### Collections -/

theorem mem_collectOutputs (pages : List ListPage)
    (member : keys ∈ (collectOutputs settings pages).outputs.values) (held : object ∈ keys) :
    object ∈ listKeys pages := by
  have grouped : object ∈ (groupByFormat ((listKeys pages).insertionSort (· ≤ ·))).values.flatten :=
    List.mem_flatten.mpr ⟨keys, member, held⟩
  rw [groupByFormat, (OrderedDict.groupBy_perm formatOf _).mem_iff] at grouped
  exact (List.mem_insertionSort _).mp grouped

/-- Two documents are kept apart exactly when neither key goes on below the
outputs of the other one. -/
theorem outputs_apart_iff (settings : Settings) (clear : '/' ∉ bucket) (clear' : '/' ∉ bucket')
    (other : (bucket, key) ≠ (bucket', key')) :
    Apart settings bucket key bucket' key' ↔
      ¬ Nested bucket key bucket' key' ∧ ¬ Nested bucket' key' bucket key := by
  rw [← @convertOutputPrefix_extends_iff settings _ _ _ _ clear clear' other,
    ← @convertOutputPrefix_extends_iff settings _ _ _ _ clear' clear other.symm, ← not_or,
    ← common_object_iff]
  constructor
  · rintro ⟨apart, _⟩ ⟨object, below, below'⟩
    exact apart object (written_iff.mpr below) below'
  · intro disjoint
    refine ⟨?_, ?_⟩
    · intro object written below'
      exact disjoint ⟨object, written_iff.mp written, below'⟩
    · intro pages listing keys member object held written
      have below' := listing object (mem_collectOutputs pages member held)
      exact disjoint ⟨object, written_iff.mp written, below'⟩

theorem outputs_apart_siblings :
    Apart {} "docs".toList "a.pdf".toList "docs".toList "b.pdf".toList :=
  (outputs_apart_iff {} (by decide) (by decide) (by decide)).mpr ⟨by decide, by decide⟩

/-- The outputs of `a/convert/b.pdf` are below the prefix of `a`, and collected
with the outputs of `a`. -/
theorem outputs_of_nested_key_collected :
    '/' ∉ "docs".toList ∧
      ("docs".toList, "a/convert/b.pdf".toList) ≠ ("docs".toList, "a".toList) ∧
      ¬ Apart {} "docs".toList "a/convert/b.pdf".toList "docs".toList "a".toList := by
  refine ⟨by decide, by decide, ?_⟩
  rintro ⟨apart, _⟩
  apply apart (convertOutputPrefix {} "docs".toList "a/convert/b.pdf".toList)
  · exact written_iff.mpr List.prefix_rfl
  · decide

end DoclingServeRay.Orchestration
