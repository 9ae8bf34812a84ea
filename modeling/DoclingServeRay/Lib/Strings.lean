import Mathlib.Data.List.Infix

/-! Strings as lists of code points: splitting at the last separator and
looking a string up in an ordered table of suffixes. Everything is stated over
lists of any type with decidable equality. -/
namespace Strings

/-- A string of Unicode code points. -/
abbrev Text := List Char

instance lawfulText : LawfulBEq Text := List.instLawfulBEq

section FirstSeparator

variable {α : Type} {separator : α}

/-- Text up to its first separator can be read off. -/
theorem append_separator_inj (clear : separator ∉ first) (clear' : separator ∉ other)
    (same : first ++ separator :: rest = other ++ separator :: rest') :
    first = other ∧ rest = rest' := by
  induction first generalizing other with
  | nil =>
    cases other with
    | nil =>
      cases same
      exact ⟨rfl, rfl⟩
    | cons head other =>
      cases same
      exact absurd List.mem_cons_self clear'
  | cons head first ih =>
    cases other with
    | nil =>
      cases same
      exact absurd List.mem_cons_self clear
    | cons head' other =>
      simp only [List.cons_append, List.cons.injEq] at same
      obtain ⟨rfl, same⟩ := same
      obtain ⟨rfl, rfl⟩ := ih (fun held => clear (List.mem_cons_of_mem _ held))
        (fun held => clear' (List.mem_cons_of_mem _ held)) same
      exact ⟨rfl, rfl⟩

/-- A text that begins with another one has the same first part. -/
theorem append_separator_prefix (clear : separator ∉ first) (clear' : separator ∉ other)
    (begins : first ++ separator :: rest <+: other ++ separator :: rest') :
    first = other ∧ rest <+: rest' := by
  obtain ⟨tail, same⟩ := begins
  rw [List.append_assoc, List.cons_append] at same
  obtain ⟨rfl, rfl⟩ := append_separator_inj clear clear' same
  exact ⟨rfl, List.prefix_append _ _⟩

end FirstSeparator

section SplitLast

variable {α : Type} [DecidableEq α]

/-- The two sides of the last separator, when there is one. -/
def splitLast (separator : α) : List α → Option (List α × List α)
  | [] => none
  | head :: rest =>
    match splitLast separator rest with
    | some (before, after) => some (head :: before, after)
    | none => if head = separator then some ([], rest) else none

/-- The part before the last separator; the whole list without one. -/
def rsplitHead (separator : α) (text : List α) : List α :=
  match splitLast separator text with
  | some (before, _) => before
  | none => text

/-- The part after the last separator; the whole list without one. -/
def rsplitTail (separator : α) (text : List α) : List α :=
  match splitLast separator text with
  | some (_, after) => after
  | none => text

theorem splitLast_eq_none_iff (separator : α) (text : List α) :
    splitLast separator text = none ↔ separator ∉ text := by
  induction text with
  | nil => simp [splitLast]
  | cons head rest ih =>
    simp only [splitLast, List.mem_cons, not_or]
    cases below : splitLast separator rest with
    | some sides =>
      have held : separator ∈ rest := by
        by_contra absent
        simp [ih.mpr absent] at below
      simp [held]
    | none =>
      have absent := ih.mp below
      by_cases same : head = separator
      · simp [same]
      · simp [same, absent, Ne.symm same]

@[simp] theorem splitLast_append {separator : α} {after : List α} (last : separator ∉ after)
    (before : List α) :
    splitLast separator (before ++ separator :: after) = some (before, after) := by
  induction before with
  | nil =>
    have none := (splitLast_eq_none_iff separator after).mpr last
    simp [splitLast, none]
  | cons head before ih => simp [splitLast, ih]

theorem of_splitLast {separator : α} {text before after : List α}
    (split : splitLast separator text = some (before, after)) :
    text = before ++ separator :: after ∧ separator ∉ after := by
  induction text generalizing before with
  | nil => simp [splitLast] at split
  | cons head rest ih =>
    simp only [splitLast] at split
    cases below : splitLast separator rest with
    | some sides =>
      obtain ⟨left, right⟩ := sides
      simp only [below, Option.some.injEq, Prod.mk.injEq] at split
      obtain ⟨rfl, rfl⟩ := split
      obtain ⟨shape, last⟩ := ih below
      exact ⟨by rw [shape]; rfl, last⟩
    | none =>
      simp only [below, Option.ite_none_right_eq_some, Option.some.injEq, Prod.mk.injEq] at split
      obtain ⟨rfl, rfl, rfl⟩ := split
      exact ⟨rfl, (splitLast_eq_none_iff _ _).mp below⟩

@[simp] theorem rsplitTail_append {separator : α} {after : List α} (last : separator ∉ after)
    (before : List α) : rsplitTail separator (before ++ separator :: after) = after := by
  simp [rsplitTail, last]

@[simp] theorem rsplitHead_append {separator : α} {after : List α} (last : separator ∉ after)
    (before : List α) : rsplitHead separator (before ++ separator :: after) = before := by
  simp [rsplitHead, last]

theorem rsplitTail_of_absent {separator : α} {text : List α} (absent : separator ∉ text) :
    rsplitTail separator text = text := by
  simp [rsplitTail, (splitLast_eq_none_iff separator text).mpr absent]

/-- Only what follows a separator decides what follows the last one. -/
theorem rsplitTail_after (separator : α) (before after : List α) :
    rsplitTail separator (before ++ separator :: after) = rsplitTail separator after := by
  cases split : splitLast separator after with
  | none =>
    have last := (splitLast_eq_none_iff separator after).mp split
    rw [rsplitTail_append last, rsplitTail_of_absent last]
  | some sides =>
    obtain ⟨left, right⟩ := sides
    obtain ⟨rfl, last⟩ := of_splitLast split
    have regroup : before ++ separator :: (left ++ separator :: right) =
        (before ++ separator :: left) ++ separator :: right := by simp
    rw [regroup, rsplitTail_append last, rsplitTail_append last]

/-- What precedes the last separator begins the whole. -/
theorem rsplitHead_begins (separator : α) (text : List α) :
    rsplitHead separator text <+: text := by
  cases split : splitLast separator text with
  | none => simp [rsplitHead, split]
  | some sides =>
    obtain ⟨before, after⟩ := sides
    obtain ⟨shape, _⟩ := of_splitLast split
    simp only [rsplitHead, split]
    exact ⟨separator :: after, shape.symm⟩

/-- What has no separator stays behind the last one. -/
theorem rsplitTail_append_clear {separator : α} {after : List α} (clear : separator ∉ after)
    (before : List α) :
    rsplitTail separator (before ++ after) = rsplitTail separator before ++ after := by
  cases split : splitLast separator before with
  | none =>
    have absent := (splitLast_eq_none_iff separator before).mp split
    have free : separator ∉ before ++ after := by
      intro member
      rcases List.mem_append.mp member with first | last
      · exact absent first
      · exact clear last
    rw [rsplitTail_of_absent absent, rsplitTail_of_absent free]
  | some sides =>
    obtain ⟨left, right⟩ := sides
    obtain ⟨rfl, last⟩ := of_splitLast split
    rw [List.append_assoc, List.cons_append, rsplitTail_after, rsplitTail_append last]
    apply rsplitTail_of_absent
    intro member
    rcases List.mem_append.mp member with inside | behind
    · exact last inside
    · exact clear behind

theorem not_mem_rsplitTail (separator : α) (text : List α) :
    separator ∉ rsplitTail separator text := by
  cases split : splitLast separator text with
  | none =>
    have absent := (splitLast_eq_none_iff separator text).mp split
    rwa [rsplitTail_of_absent absent]
  | some sides =>
    obtain ⟨before, after⟩ := sides
    simpa [rsplitTail, split] using (of_splitLast split).2

/-- What follows the last separator is a suffix of the whole. -/
theorem rsplitTail_suffix (separator : α) (text : List α) :
    rsplitTail separator text <:+ text := by
  cases split : splitLast separator text with
  | none => simp [rsplitTail, split]
  | some sides =>
    obtain ⟨before, after⟩ := sides
    obtain ⟨shape, _⟩ := of_splitLast split
    simp only [rsplitTail, split]
    exact ⟨before ++ [separator], by rw [shape]; simp⟩

theorem separator_rsplitTail_suffix {separator : α} {text : List α} (held : separator ∈ text) :
    separator :: rsplitTail separator text <:+ text := by
  cases split : splitLast separator text with
  | none => exact absurd held ((splitLast_eq_none_iff separator text).mp split)
  | some sides =>
    obtain ⟨before, after⟩ := sides
    obtain ⟨shape, _⟩ := of_splitLast split
    simp only [rsplitTail, split]
    exact ⟨before, shape.symm⟩

/-- Where a suffix has no separator, it ends the whole exactly when it ends what
follows the last one. -/
theorem suffix_rsplitTail_iff {separator : α} {suffix : List α} (clear : separator ∉ suffix)
    (text : List α) : suffix <:+ rsplitTail separator text ↔ suffix <:+ text := by
  constructor
  · intro ends
    exact ends.trans (rsplitTail_suffix separator text)
  · intro ends
    by_cases held : separator ∈ text
    · rcases List.suffix_or_suffix_of_suffix ends (separator_rsplitTail_suffix held) with
        inner | outer
      · rcases List.suffix_cons_iff.mp inner with rfl | inside
        · exact absurd List.mem_cons_self clear
        · exact inside
      · exact absurd (outer.subset List.mem_cons_self) clear
    · rwa [rsplitTail_of_absent held]

end SplitLast

section SuffixTable

variable {α β : Type} [DecidableEq α]

/-- The first row of an ordered table whose suffix ends the text. -/
def firstSuffix (table : List (List α × β)) (text : List α) : Option (List α × β) :=
  table.find? fun row => row.1.isSuffixOf text

theorem firstSuffix_mem {table : List (List α × β)} {text : List α} {row : List α × β}
    (found : firstSuffix table text = some row) : row ∈ table ∧ row.1 <:+ text :=
  ⟨List.mem_of_find?_eq_some found,
    List.isSuffixOf_iff_suffix.mp (List.find?_some (p := fun row : List α × β =>
      row.1.isSuffixOf text) found)⟩

theorem firstSuffix_eq_none_iff (table : List (List α × β)) (text : List α) :
    firstSuffix table text = none ↔ ∀ row ∈ table, ¬ row.1 <:+ text := by
  simp [firstSuffix, List.find?_eq_none, List.isSuffixOf_iff_suffix]

/-- No suffix of the table ends that of a later row. -/
def LongestFirst (table : List (List α × β)) : Prop :=
  table.Pairwise fun first later => ¬ first.1 <:+ later.1

instance (table : List (List α × β)) : Decidable (LongestFirst table) :=
  inferInstanceAs (Decidable (List.Pairwise _ table))

/-- In such a table the first row that fits is the one with the longest suffix
that does. -/
theorem firstSuffix_eq_some_iff {table : List (List α × β)} (ordered : LongestFirst table)
    (text : List α) (row : List α × β) :
    firstSuffix table text = some row ↔
      row ∈ table ∧ row.1 <:+ text ∧ ∀ other ∈ table, other.1 <:+ text → other.1 <:+ row.1 := by
  induction table with
  | nil => simp [firstSuffix]
  | cons head rest ih =>
    obtain ⟨below, ordered⟩ := List.pairwise_cons.mp ordered
    by_cases ends : head.1 <:+ text
    · have first : firstSuffix (head :: rest) text = some head := by
        simp [firstSuffix, List.isSuffixOf_iff_suffix, ends]
      rw [first]
      constructor
      · rintro ⟨rfl⟩
        refine ⟨List.mem_cons_self, ends, ?_⟩
        intro other member fits
        rcases List.mem_cons.mp member with rfl | later
        · exact List.suffix_refl _
        · rcases List.suffix_or_suffix_of_suffix fits ends with shorter | longer
          · exact shorter
          · exact absurd longer (below other later)
      · rintro ⟨member, _, longest⟩
        rcases List.mem_cons.mp member with rfl | later
        · rfl
        · exact absurd (longest head List.mem_cons_self ends) (below row later)
    · have passed : firstSuffix (head :: rest) text = firstSuffix rest text := by
        simp [firstSuffix, List.isSuffixOf_iff_suffix, ends]
      rw [passed, ih ordered]
      constructor
      · rintro ⟨member, fits, longest⟩
        refine ⟨List.mem_cons_of_mem _ member, fits, ?_⟩
        intro other held fits'
        rcases List.mem_cons.mp held with rfl | later
        · exact absurd fits' ends
        · exact longest other later fits'
      · rintro ⟨member, fits, longest⟩
        refine ⟨?_, fits, fun other later => longest other (List.mem_cons_of_mem _ later)⟩
        rcases List.mem_cons.mp member with rfl | later
        · exact absurd fits ends
        · exact later

end SuffixTable

end Strings
