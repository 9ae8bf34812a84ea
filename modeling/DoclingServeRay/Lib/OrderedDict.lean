import Mathlib.Data.List.Basic
import Mathlib.Data.List.Nodup
import Mathlib.Data.List.Induction

/-! A finite map that remembers the order in which its keys were first
written. Overwriting a key keeps its position; a new key goes to the end. One
operation, `upsert`, covers every write: the caller says what the new value is,
given the old one if there was one. -/
namespace OrderedDict

/-- Write through a list of entries: the first entry of the key is rewritten
in place, and a key that is absent is appended. -/
def upsertEntries [DecidableEq κ] (key : κ) (value : Option α → α) : List (κ × α) → List (κ × α)
  | [] => [(key, value none)]
  | entry :: rest =>
    if entry.1 = key then (key, value (some entry.2)) :: rest
    else entry :: upsertEntries key value rest

/-- The value of the first entry with this key. -/
def find [DecidableEq κ] (key : κ) : List (κ × α) → Option α
  | [] => none
  | entry :: rest => if entry.1 = key then some entry.2 else find key rest

theorem keys_upsertEntries [DecidableEq κ] (key : κ) (value : Option α → α)
    (entries : List (κ × α)) :
    (upsertEntries key value entries).map Prod.fst =
      if key ∈ entries.map Prod.fst then entries.map Prod.fst
      else entries.map Prod.fst ++ [key] := by
  induction entries with
  | nil => simp [upsertEntries]
  | cons entry rest ih =>
    by_cases same : entry.1 = key
    · simp [upsertEntries, same]
    · have distinct : ¬ key = entry.1 := fun equal => same equal.symm
      simp only [upsertEntries, same, ↓reduceIte, List.map_cons, ih, List.mem_cons, distinct,
        false_or]
      split <;> rfl

theorem nodup_upsertEntries [DecidableEq κ] (key : κ) (value : Option α → α)
    {entries : List (κ × α)} (distinct : (entries.map Prod.fst).Nodup) :
    ((upsertEntries key value entries).map Prod.fst).Nodup := by
  rw [keys_upsertEntries]
  split
  · exact distinct
  · rename_i fresh
    rw [List.nodup_append]
    refine ⟨distinct, by simp, ?_⟩
    intro held member added single
    rw [List.mem_singleton.mp single]
    exact fun equal => fresh (equal ▸ member)

theorem upsertEntries_of_absent [DecidableEq κ] (value : Option α → α) {entries : List (κ × α)}
    (absent : key ∉ entries.map Prod.fst) :
    upsertEntries key value entries = entries ++ [(key, value none)] := by
  induction entries with
  | nil => rfl
  | cons entry rest ih =>
    rw [List.map_cons, List.mem_cons, not_or] at absent
    rw [upsertEntries, if_neg (Ne.symm absent.1), ih absent.2, List.cons_append]

theorem find_upsertEntries [DecidableEq κ] (key probe : κ) (value : Option α → α)
    (entries : List (κ × α)) :
    find probe (upsertEntries key value entries) =
      if probe = key then some (value (find key entries)) else find probe entries := by
  induction entries with
  | nil =>
    by_cases same : probe = key
    · simp [upsertEntries, find, same]
    · have distinct : ¬ key = probe := fun equal => same equal.symm
      simp [upsertEntries, find, same, distinct]
  | cons entry rest ih =>
    by_cases held : entry.1 = key
    · by_cases same : probe = key
      · simp [upsertEntries, find, held, same]
      · have distinct : ¬ key = probe := fun equal => same equal.symm
        simp [upsertEntries, find, held, same, distinct]
    · by_cases same : entry.1 = probe
      · have distinct : ¬ probe = key := fun equal => held (same.trans equal)
        simp [upsertEntries, find, same, distinct]
      · simp [upsertEntries, find, held, same, ih]

end OrderedDict

/-- Entries in first-written order, one for each key. -/
@[ext]
structure OrderedDict (κ α : Type) where
  entries : List (κ × α)
  distinct : (entries.map Prod.fst).Nodup
  deriving DecidableEq

namespace OrderedDict

variable {κ α : Type}

def empty : OrderedDict κ α := ⟨[], List.nodup_nil⟩

instance : Inhabited (OrderedDict κ α) := ⟨empty⟩

def keys (dict : OrderedDict κ α) : List κ := dict.entries.map Prod.fst

def values (dict : OrderedDict κ α) : List α := dict.entries.map Prod.snd

@[simp] theorem keys_empty : (empty : OrderedDict κ α).keys = [] := rfl

variable [DecidableEq κ]

def get? (dict : OrderedDict κ α) (key : κ) : Option α := find key dict.entries

def upsert (dict : OrderedDict κ α) (key : κ) (value : Option α → α) : OrderedDict κ α :=
  ⟨upsertEntries key value dict.entries, nodup_upsertEntries key value dict.distinct⟩

/-- Write a value whether or not the key is present. -/
def set (dict : OrderedDict κ α) (key : κ) (value : α) : OrderedDict κ α :=
  dict.upsert key fun _ => value

/-- Write a value only where the key is absent: the first writer wins. -/
def setDefault (dict : OrderedDict κ α) (key : κ) (value : α) : OrderedDict κ α :=
  dict.upsert key fun old => old.getD value

/-- `dict.fromkeys(keys)`: the keys without their repetitions, in order. -/
def fromKeys (keys : List κ) : OrderedDict κ Unit :=
  keys.foldl (fun dict key => dict.set key ()) empty

@[simp] theorem get?_empty (key : κ) : (empty : OrderedDict κ α).get? key = none := rfl

theorem get?_upsert (dict : OrderedDict κ α) (key probe : κ) (value : Option α → α) :
    (dict.upsert key value).get? probe =
      if probe = key then some (value (dict.get? key)) else dict.get? probe :=
  find_upsertEntries key probe value dict.entries

theorem keys_upsert (dict : OrderedDict κ α) (key : κ) (value : Option α → α) :
    (dict.upsert key value).keys = if key ∈ dict.keys then dict.keys else dict.keys ++ [key] :=
  keys_upsertEntries key value dict.entries

theorem get?_set (dict : OrderedDict κ α) (key probe : κ) (value : α) :
    (dict.set key value).get? probe = if probe = key then some value else dict.get? probe :=
  get?_upsert dict key probe _

theorem entries_set_of_absent {dict : OrderedDict κ α} (absent : key ∉ dict.keys) (value : α) :
    (dict.set key value).entries = dict.entries ++ [(key, value)] :=
  upsertEntries_of_absent _ absent

theorem get?_setDefault (dict : OrderedDict κ α) (key probe : κ) (value : α) :
    (dict.setDefault key value).get? probe =
      if probe = key then some ((dict.get? key).getD value) else dict.get? probe :=
  get?_upsert dict key probe _

/-- A present key keeps its value and its place when it is written again. -/
theorem setDefault_of_present {dict : OrderedDict κ α} {key : κ}
    (present : dict.get? key = some held) (value : α) : dict.setDefault key value = dict := by
  have unchanged : ∀ entries : List (κ × α), find key entries = some held →
      upsertEntries key (fun old => old.getD value) entries = entries := by
    intro entries
    induction entries with
    | nil => simp [find]
    | cons entry rest ih =>
      intro found
      by_cases same : entry.1 = key
      · subst same
        simp [upsertEntries]
      · simp only [find, same, ↓reduceIte] at found
        simp [upsertEntries, same, ih found]
  exact OrderedDict.ext (unchanged dict.entries present)

/-- An entry of the dictionary is exactly what its key looks up. -/
theorem mem_entries_iff (dict : OrderedDict κ α) (key : κ) (value : α) :
    (key, value) ∈ dict.entries ↔ dict.get? key = some value := by
  obtain ⟨entries, distinct⟩ := dict
  simp only [get?]
  induction entries with
  | nil => simp [find]
  | cons entry rest ih =>
    obtain ⟨fresh, below⟩ := List.nodup_cons.mp distinct
    by_cases same : entry.1 = key
    · subst same
      have absent : (entry.1, value) ∉ rest := fun member =>
        fresh (List.mem_map.mpr ⟨_, member, rfl⟩)
      simp only [List.mem_cons, absent, or_false, find, ↓reduceIte, Option.some.injEq]
      exact ⟨fun equal => equal ▸ rfl, fun equal => equal ▸ rfl⟩
    · have other : (key, value) ≠ entry := fun equal => same (equal ▸ rfl)
      simp [find, same, other, ih below]

theorem mem_keys_iff (dict : OrderedDict κ α) (key : κ) :
    key ∈ dict.keys ↔ ∃ value, dict.get? key = some value := by
  simp only [keys, List.mem_map, Prod.exists, exists_and_right, exists_eq_right,
    mem_entries_iff]

theorem mem_keys_upsert (dict : OrderedDict κ α) (key probe : κ) (value : Option α → α) :
    probe ∈ (dict.upsert key value).keys ↔ probe = key ∨ probe ∈ dict.keys := by
  rw [keys_upsert]
  split
  · rename_i held
    exact ⟨Or.inr, fun either => either.elim (fun same => same ▸ held) id⟩
  · rw [List.mem_append, List.mem_singleton, or_comm]

theorem mem_keys_set (dict : OrderedDict κ α) (key probe : κ) (value : α) :
    probe ∈ (dict.set key value).keys ↔ probe = key ∨ probe ∈ dict.keys :=
  mem_keys_upsert dict key probe _

/-- `fromKeys` neither loses a key nor makes one up. -/
theorem mem_keys_fromKeys (keys : List κ) (key : κ) : key ∈ (fromKeys keys).keys ↔ key ∈ keys := by
  induction keys using List.reverseRecOn with
  | nil => simp [fromKeys]
  | append_singleton keys last ih =>
    have extended : fromKeys (keys ++ [last]) = (fromKeys keys).set last () := by
      simp [fromKeys]
    rw [extended, mem_keys_set, ih, List.mem_append, List.mem_singleton, or_comm]

/-- The first key given stays the first. -/
theorem head?_keys_fromKeys (first : κ) (keys : List κ) :
    (fromKeys (first :: keys)).keys.head? = some first := by
  induction keys using List.reverseRecOn with
  | nil => rfl
  | append_singleton keys last ih =>
    have extended : fromKeys (first :: (keys ++ [last])) =
        (fromKeys (first :: keys)).set last () := by
      simp [fromKeys]
    rw [extended, set, keys_upsert]
    split
    · exact ih
    · rw [List.head?_append, ih, Option.some_or]

/-- Keep the entries of some keys. -/
def filterKeys (dict : OrderedDict κ α) (keep : κ → Bool) : OrderedDict κ α :=
  ⟨dict.entries.filter fun entry => keep entry.1,
    dict.distinct.sublist (List.filter_sublist.map Prod.fst)⟩

theorem get?_filterKeys (dict : OrderedDict κ α) (keep : κ → Bool) (key : κ) :
    (dict.filterKeys keep).get? key = if keep key then dict.get? key else none := by
  have filtered : ∀ entries : List (κ × α), find key (entries.filter fun entry => keep entry.1) =
      if keep key then find key entries else none := by
    intro entries
    induction entries with
    | nil => simp [find]
    | cons entry rest ih =>
      by_cases same : entry.1 = key
      · subst same
        by_cases kept : keep entry.1 = true
        · simp [find, kept]
        · simp [ih, kept]
      · by_cases kept : keep entry.1 = true
        · simp [find, kept, same, ih]
        · simp [find, kept, same, ih]
  exact filtered dict.entries

/-- Write entries one after the other. -/
def setAll (dict : OrderedDict κ α) (entries : List (κ × α)) : OrderedDict κ α :=
  entries.foldl (fun written entry => written.set entry.1 entry.2) dict

/-- After some writes a key holds one of the values written to it, or what it
held before if there is none. -/
theorem get?_setAll (dict : OrderedDict κ α) (entries : List (κ × α)) (key : κ) :
    (∃ value, (key, value) ∈ entries ∧ (dict.setAll entries).get? key = some value) ∨
      ((∀ value, (key, value) ∉ entries) ∧ (dict.setAll entries).get? key = dict.get? key) := by
  induction entries using List.reverseRecOn with
  | nil => exact Or.inr ⟨fun _ => List.not_mem_nil, rfl⟩
  | append_singleton entries last ih =>
    have written : dict.setAll (entries ++ [last]) = (dict.setAll entries).set last.1 last.2 := by
      simp [setAll]
    rw [written, get?_set]
    by_cases same : key = last.1
    · subst same
      exact Or.inl ⟨last.2, by simp, if_pos rfl⟩
    · rw [if_neg same]
      rcases ih with ⟨value, member, holds⟩ | ⟨absent, kept⟩
      · exact Or.inl ⟨value, List.mem_append_left _ member, holds⟩
      · refine Or.inr ⟨?_, kept⟩
        intro value member
        rcases List.mem_append.mp member with old | new
        · exact absent value old
        · exact same (congrArg Prod.fst (List.mem_singleton.mp new))

/-! ### Mapping with failure -/

section Traverse

variable {β : Type}

/-- Map every value in order; `none` as soon as one has no image. -/
def traverse (dict : OrderedDict κ α) (image : κ → α → Option β) : Option (OrderedDict κ β) :=
  dict.entries.foldlM (fun made entry => (image entry.1 entry.2).map (made.set entry.1)) empty

theorem get?_traverse {dict : OrderedDict κ α} {image : κ → α → Option β}
    (mapped : dict.traverse image = some made) (key : κ) :
    made.get? key = (dict.get? key).bind (image key) := by
  have folded : ∀ (entries : List (κ × α)) (before made : OrderedDict κ β),
      (entries.map Prod.fst).Nodup →
      entries.foldlM (fun made entry => (image entry.1 entry.2).map (made.set entry.1)) before =
        some made →
      made.get? key = match find key entries with
        | some value => image key value
        | none => before.get? key := by
    intro entries
    induction entries with
    | nil =>
      rintro before made _ ⟨⟩
      rfl
    | cons entry rest ih =>
      intro before made distinct mapped
      obtain ⟨fresh, below⟩ := List.nodup_cons.mp distinct
      rw [List.foldlM_cons] at mapped
      obtain ⟨next, written, onward⟩ := Option.bind_eq_some_iff.mp mapped
      obtain ⟨value, imaged, rfl⟩ := Option.map_eq_some_iff.mp written
      rw [ih _ _ below onward]
      by_cases same : entry.1 = key
      · subst same
        have absent : find entry.1 rest = none := by
          cases found : find entry.1 rest with
          | none => rfl
          | some other =>
            have member := (mem_entries_iff ⟨rest, below⟩ entry.1 other).mpr found
            exact absurd (List.mem_map.mpr ⟨_, member, rfl⟩) fresh
        simp [find, absent, get?_set, imaged]
      · have other : ¬ key = entry.1 := fun equal => same equal.symm
        simp [find, same, get?_set, other]
  rw [folded dict.entries empty made dict.distinct mapped]
  simp only [get?]
  cases find key dict.entries <;> rfl

theorem image_of_traverse {dict : OrderedDict κ α} {image : κ → α → Option β}
    (mapped : dict.traverse image = some made) (present : dict.get? key = some value) :
    ∃ result, image key value = some result := by
  have each : ∀ (entries : List (κ × α)) (before : OrderedDict κ β),
      entries.foldlM (fun made entry => (image entry.1 entry.2).map (made.set entry.1)) before =
        some made →
      ∀ entry ∈ entries, ∃ result, image entry.1 entry.2 = some result := by
    intro entries
    induction entries with
    | nil => nofun
    | cons entry rest ih =>
      intro before mapped probe member
      rw [List.foldlM_cons] at mapped
      obtain ⟨next, written, onward⟩ := Option.bind_eq_some_iff.mp mapped
      obtain ⟨result, imaged, _⟩ := Option.map_eq_some_iff.mp written
      rcases List.mem_cons.mp member with rfl | below
      · exact ⟨result, imaged⟩
      · exact ih next onward probe below
  exact each dict.entries empty mapped (key, value) ((mem_entries_iff dict key value).mpr present)

theorem traverse_of_images {dict : OrderedDict κ α} {image : κ → α → Option β}
    (each : ∀ key value, dict.get? key = some value → ∃ result, image key value = some result) :
    ∃ made, dict.traverse image = some made := by
  have folds : ∀ (entries : List (κ × α)) (before : OrderedDict κ β),
      (∀ entry ∈ entries, ∃ result, image entry.1 entry.2 = some result) →
      ∃ made, entries.foldlM
        (fun made entry => (image entry.1 entry.2).map (made.set entry.1)) before = some made := by
    intro entries
    induction entries with
    | nil => exact fun before _ => ⟨before, rfl⟩
    | cons entry rest ih =>
      intro before mapped
      obtain ⟨result, imaged⟩ := mapped entry List.mem_cons_self
      obtain ⟨made, onward⟩ := ih (before.set entry.1 result) fun probe member =>
        mapped probe (List.mem_cons_of_mem _ member)
      exact ⟨made, by simpa [List.foldlM_cons, imaged] using onward⟩
  exact folds dict.entries empty fun entry member =>
    each entry.1 entry.2 ((mem_entries_iff dict entry.1 entry.2).mp member)

end Traverse

/-! ### Grouping -/

section Grouping

variable (label : α → κ)

/-- Append a value to the list held under a key. -/
def append (dict : OrderedDict κ (List α)) (key : κ) (value : α) : OrderedDict κ (List α) :=
  dict.upsert key fun held => held.getD [] ++ [value]

/-- Values under their label, each list in the order of the values given. -/
def groupBy (values : List α) : OrderedDict κ (List α) :=
  values.foldl (fun groups value => groups.append (label value) value) empty

theorem groupBy_snoc (values : List α) (value : α) :
    groupBy label (values ++ [value]) = (groupBy label values).append (label value) value := by
  simp [groupBy]

/-- A group is exactly the values with its label, and there is no empty group. -/
theorem get?_groupBy (values : List α) (key : κ) :
    (groupBy label values).get? key =
      if values.filter (label · = key) = [] then none
      else some (values.filter (label · = key)) := by
  induction values using List.reverseRecOn with
  | nil => rfl
  | append_singleton values value ih =>
    rw [groupBy_snoc, append, get?_upsert, List.filter_append]
    by_cases same : key = label value
    · subst same
      rw [if_pos rfl, ih]
      by_cases fresh : values.filter (label · = label value) = [] <;> simp [fresh]
    · have other : ¬ label value = key := fun equal => same equal.symm
      simp [same, other, ih]

/-- A group keeps the order of the values. -/
theorem groupBy_sublist {label : α → κ} {values group : List α}
    (held : (groupBy label values).get? key = some group) : group.Sublist values := by
  rw [get?_groupBy] at held
  split at held
  · cases held
  · cases held
    exact List.filter_sublist

/-- A value is in the group of its own label as often as it was given. -/
theorem count_groupBy [BEq α] [LawfulBEq α] (values : List α) (key : κ) (value : α) :
    (((groupBy label values).get? key).getD []).count value =
      if label value = key then values.count value else 0 := by
  have group : ((groupBy label values).get? key).getD [] = values.filter (label · = key) := by
    rw [get?_groupBy]
    split
    · rename_i empty
      exact empty.symm
    · rfl
  rw [group]
  by_cases own : label value = key
  · rw [if_pos own]
    apply List.count_filter
    exact decide_eq_true own
  · rw [if_neg own]
    apply List.count_eq_zero_of_not_mem
    intro member
    exact own (of_decide_eq_true (List.mem_filter.mp member).2)

theorem mem_keys_groupBy (values : List α) (key : κ) :
    key ∈ (groupBy label values).keys ↔ ∃ value ∈ values, label value = key := by
  rw [mem_keys_iff, get?_groupBy]
  by_cases none : values.filter (label · = key) = []
  · simp only [none, ↓reduceIte, reduceCtorEq, exists_false, false_iff]
    rintro ⟨value, member, labelled⟩
    have absent := List.filter_eq_nil_iff.mp none value member
    simp [labelled] at absent
  · simp only [none, ↓reduceIte, Option.some.injEq, exists_eq', true_iff]
    obtain ⟨value, member⟩ := List.exists_mem_of_ne_nil _ none
    obtain ⟨member, labelled⟩ := List.mem_filter.mp member
    exact ⟨value, member, of_decide_eq_true labelled⟩

theorem values_append_perm (dict : OrderedDict κ (List α)) (key : κ) (value : α) :
    (dict.append key value).values.flatten.Perm (value :: dict.values.flatten) := by
  obtain ⟨entries, distinct⟩ := dict
  simp only [append, values, upsert]
  clear distinct
  induction entries with
  | nil => exact List.Perm.refl _
  | cons entry rest ih =>
    simp only [upsertEntries]
    split
    · simp only [Option.getD_some, List.map_cons, List.flatten_cons, List.append_assoc,
        List.singleton_append]
      exact List.perm_middle
    · simp only [List.map_cons, List.flatten_cons]
      exact (ih.append_left entry.2).trans List.perm_middle

/-- Grouping neither loses nor repeats a value. -/
theorem groupBy_perm (values : List α) : (groupBy label values).values.flatten.Perm values := by
  induction values using List.reverseRecOn with
  | nil => exact List.Perm.refl _
  | append_singleton values value ih =>
    rw [groupBy_snoc]
    refine (values_append_perm _ _ _).trans ?_
    refine (ih.cons value).trans ?_
    exact (List.perm_append_singleton value values).symm

end Grouping

end OrderedDict
