import DoclingServeRay.Lib.Crew

/-! What some members of a crew can learn of the rest of it: nothing, if their
moves and what reaches them are the same where the others never came and the
surroundings show only a part of their changes. -/
namespace EventMachine

variable {σ ι μ ν α π ρ ξ β : Type} {rules : Rules σ ι μ ν α π}
  {welcome : ι → ν → Prop} {permitted : π → Prop} {own : σ → ι → Option μ → Prop}

/-! ### Rules put together -/

theorem keeps_and {welcome welcome' : ι → ν → Prop} {permitted : π → Prop}
    {own own' : σ → ι → Option μ → Prop} (keeps : Keeps rules welcome permitted own)
    (keeps' : Keeps rules welcome' permitted own') :
    Keeps rules (fun member input => welcome member input ∧ welcome' member input) permitted
      (fun shared member state => own shared member state ∧ own' shared member state) where
  entered := fun _ _ _ held welcomed =>
    ⟨keeps.entered _ _ _ held.1 welcomed.1, keeps'.entered _ _ _ held.2 welcomed.2⟩
  resumed := fun _ _ _ _ _ _ held moved =>
    ⟨keeps.resumed _ _ _ _ _ _ held.1 moved, keeps'.resumed _ _ _ _ _ _ held.2 moved⟩
  others := fun _ _ _ _ _ _ _ _ held distinct moved =>
    ⟨keeps.others _ _ _ _ _ _ _ _ held.1 distinct moved,
      keeps'.others _ _ _ _ _ _ _ _ held.2 distinct moved⟩
  shifted := fun _ _ _ _ _ held allowed shifts =>
    ⟨keeps.shifted _ _ _ _ _ held.1 allowed shifts, keeps'.shifted _ _ _ _ _ held.2 allowed shifts⟩

/-- The answers are worked out from what is shared. -/
def Rules.answering (rules : Rules σ ι μ ν α π) (answer : σ → μ → β → Option α) :
    Rules σ ι μ ν β π where
  enter := rules.enter
  resume := fun shared member state reply =>
    (answer shared state reply).bind (rules.resume shared member state)
  shift := rules.shift

theorem keeps_answering {answer : σ → μ → β → Option α} (keeps : Keeps rules welcome permitted own) :
    Keeps (rules.answering answer) welcome permitted own where
  entered := keeps.entered
  resumed := by
    intro shared member state reply after next held moved
    obtain ⟨given, _, moved⟩ := Option.bind_eq_some_iff.mp moved
    exact keeps.resumed shared member state given after next held moved
  others := by
    intro shared member state other mate reply after next held distinct moved
    obtain ⟨given, _, moved⟩ := Option.bind_eq_some_iff.mp moved
    exact keeps.others shared member state other mate given after next held distinct moved
  shifted := keeps.shifted

/-- Members that only read what is shared. -/
structure Readers (σ ρ ξ β : Type) where
  enter : ξ → ρ
  resume : σ → ρ → β → Option ρ

def Rules.alongside (rules : Rules σ ι μ ν α π) (readers : Readers σ ρ ξ β) :
    Rules σ ι (μ ⊕ ρ) (ν ⊕ ξ) (α ⊕ β) π where
  enter := Sum.map rules.enter readers.enter
  resume := fun shared member state answer =>
    match state, answer with
    | .inl state, .inl answer =>
      (rules.resume shared member state answer).map fun moved => (moved.1, .inl moved.2)
    | .inr state, .inr answer =>
      (readers.resume shared state answer).map fun next => (shared, .inr next)
    | _, _ => none
  shift := rules.shift

/-- Everything that one move of a member of either kind can be. -/
inductive MoveAlongside (rules : Rules σ ι μ ν α π) (readers : Readers σ ρ ξ β) (shared : σ)
    (member : ι) : μ ⊕ ρ → α ⊕ β → σ → μ ⊕ ρ → Prop where
  | acts (moved : rules.resume shared member state answer = some (after, next)) :
      MoveAlongside rules readers shared member (.inl state) (.inl answer) after (.inl next)
  | reads (moved : readers.resume shared state answer = some next) :
      MoveAlongside rules readers shared member (.inr state) (.inr answer) shared (.inr next)

theorem alongside_move {readers : Readers σ ρ ξ β} {answer : α ⊕ β} {next : μ ⊕ ρ}
    (moves : (rules.alongside readers).resume shared member state answer = some (after, next)) :
    MoveAlongside rules readers shared member state answer after next := by
  cases state with
  | inl state =>
    cases answer with
    | inl answer =>
      obtain ⟨⟨_, _⟩, moved, same⟩ := Option.map_eq_some_iff.mp moves
      cases same
      exact .acts moved
    | inr answer => cases moves
  | inr state =>
    cases answer with
    | inl answer => cases moves
    | inr answer =>
      obtain ⟨_, moved, same⟩ := Option.map_eq_some_iff.mp moves
      cases same
      exact .reads moved

/-- What is known of a member of either kind. -/
def Beside (own : σ → ι → Option μ → Prop) (aside : ι → ρ → Prop) (shared : σ) (member : ι)
    (state : Option (μ ⊕ ρ)) : Prop :=
  own shared member (state.bind Sum.getLeft?) ∧
    ∀ reader, state = some (.inr reader) → aside member reader

theorem keeps_alongside {readers : Readers σ ρ ξ β} {admitted : ι → ξ → Prop} {aside : ι → ρ → Prop}
    (keeps : Keeps rules welcome permitted own)
    (entered : ∀ member input, admitted member input → aside member (readers.enter input))
    (resumed : ∀ shared member state answer next, aside member state →
      readers.resume shared state answer = some next → aside member next) :
    Keeps (rules.alongside readers) (fun member => Sum.elim (welcome member) (admitted member))
      permitted (Beside own aside) where
  entered := by
    rintro shared member input ⟨held, _⟩ welcomed
    cases input with
    | inl input => exact ⟨keeps.entered shared member input held welcomed, nofun⟩
    | inr input =>
      refine ⟨held, ?_⟩
      rintro _ ⟨⟩
      exact entered member input welcomed
  resumed := by
    rintro shared member state answer after next ⟨held, beside⟩ moves
    cases alongside_move moves with
    | acts moved => exact ⟨keeps.resumed _ _ _ _ _ _ held moved, nofun⟩
    | reads moved =>
      refine ⟨held, ?_⟩
      rintro _ ⟨⟩
      exact resumed _ _ _ _ _ (beside _ rfl) moved
  others := by
    rintro shared member state other mate answer after next ⟨held, beside⟩ distinct moves
    cases alongside_move moves with
    | acts moved => exact ⟨keeps.others _ _ _ _ _ _ _ _ held distinct moved, beside⟩
    | reads moved => exact ⟨held, beside⟩
  shifted := by
    rintro shared member state change after ⟨held, beside⟩ allowed shifts
    exact ⟨keeps.shifted _ _ _ _ _ held allowed shifts, beside⟩

/-! ### Unwinding -/

/-- What some members are shown: their own coming and going on, and a part of
every change. -/
def shownTo (mine : ι → Bool) (shown : π → π) :
    CrewEvent ι ν α π → Option (CrewEvent ι ν α π)
  | .enters member input => if mine member then some (.enters member input) else none
  | .resumes member answer => if mine member then some (.resumes member answer) else none
  | .shifts change => some (.shifts (shown change))

/-- Two shared states stay alike for these members: their own moves are the same
in both, others' moves make no difference, and a change does what the part of it
that is shown does. -/
structure Unwinds (rules : Rules σ ι μ ν α π) (mine : ι → Bool) (permitted : π → Prop)
    (own : σ → ι → Option μ → Prop) (shown : π → π) (alike : σ → σ → Prop) : Prop where
  resumed : ∀ shared other member state answer after next, alike shared other →
    mine member = true → own shared member (some state) →
    rules.resume shared member state answer = some (after, next) →
    ∃ after', rules.resume other member state answer = some (after', next) ∧ alike after after'
  others : ∀ shared other member state answer after next, alike shared other →
    mine member = false → rules.resume shared member state answer = some (after, next) →
    alike after other
  shifted : ∀ shared other change after, alike shared other →
    (∀ member, ∃ state, own shared member state) → permitted change →
    rules.shift shared change = some after →
    ∃ after', rules.shift other (shown change) = some after' ∧ alike after after'

variable {mine : ι → Bool} {shown : π → π} {alike : σ → σ → Prop}

theorem unwinds_alongside {readers : Readers σ ρ ξ β} {aside : ι → ρ → Prop}
    (unwinds : Unwinds rules mine permitted own shown alike)
    (reads : ∀ shared other member state answer next, alike shared other → mine member = true →
      aside member state → readers.resume shared state answer = some next →
      readers.resume other state answer = some next) :
    Unwinds (rules.alongside readers) mine permitted (Beside own aside) shown alike where
  resumed := by
    rintro shared other member state answer after next same visible ⟨held, beside⟩ moves
    cases alongside_move moves with
    | acts moved =>
      obtain ⟨after', moved', same'⟩ := unwinds.resumed _ _ _ _ _ _ _ same visible held moved
      refine ⟨after', ?_, same'⟩
      simp [Rules.alongside, moved']
    | reads moved =>
      refine ⟨other, ?_, same⟩
      simp [Rules.alongside, reads _ _ _ _ _ _ same visible (beside _ rfl) moved]
  others := by
    intro shared other member state answer after next same hidden moves
    cases alongside_move moves with
    | acts moved => exact unwinds.others _ _ _ _ _ _ _ same hidden moved
    | reads moved => exact same
  shifted := by
    intro shared other change after same held allowed shifts
    refine unwinds.shifted shared other change after same ?_ allowed shifts
    intro member
    obtain ⟨state, held, _⟩ := held member
    exact ⟨_, held⟩

variable [DecidableEq ι]

/-- Another crew that looks the same to these members. -/
structure SameView (mine : ι → Bool) (alike : σ → σ → Prop) (before alone : Crew σ ι μ) : Prop where
  shared : alike before.shared alone.shared
  members : ∀ member, mine member = true → alone.members.get? member = before.members.get? member

theorem sameView_set {before alone : Crew σ ι μ} (same : SameView mine alike before alone)
    (shared : alike after after') (member : ι) (state : μ) :
    SameView mine alike ⟨after, before.members.set member state⟩
      ⟨after', alone.members.set member state⟩ := by
  refine ⟨shared, fun probe own => ?_⟩
  simp only [OrderedDict.get?_set, same.members probe own]

theorem sameView_set_other {before alone : Crew σ ι μ} (same : SameView mine alike before alone)
    (shared : alike after alone.shared) (state : μ) (hidden : mine member = false) :
    SameView mine alike ⟨after, before.members.set member state⟩ alone := by
  refine ⟨shared, fun probe own => ?_⟩
  have distinct : probe ≠ member := by
    rintro rfl
    cases own.symm.trans hidden
  rw [OrderedDict.get?_set, if_neg distinct, same.members probe own]

/-- One event, or nothing where it is not shown. -/
theorem unwinding_step {before after alone : Crew σ ι μ} {event : CrewEvent ι ν α π} (start : σ)
    (unwinds : Unwinds rules mine permitted own shown alike) (held : before.All own)
    (lawful : event.Lawful welcome permitted) (same : SameView mine alike before alone)
    (stepped : crewStep rules before event = some after) :
    ∃ final, (crew rules start).runFrom alone (shownTo mine shown event).toList = some final ∧
      SameView mine alike after final := by
  cases crew_turn stepped with
  | @entered member input absent =>
    cases visible : mine member with
    | false =>
      refine ⟨alone, ?_, sameView_set_other same same.shared _ visible⟩
      simp [shownTo, visible]
    | true =>
      refine ⟨_, ?_, sameView_set same same.shared _ _⟩
      have absent' : alone.members.get? member = none := (same.members member visible).trans absent
      simp [shownTo, visible, Machine.runFrom, crew, crewStep, absent']
  | @resumed member state answer shared next found moved =>
    cases visible : mine member with
    | false =>
      refine ⟨alone, ?_, sameView_set_other same ?_ _ visible⟩
      · simp [shownTo, visible]
      · exact unwinds.others _ _ _ _ _ _ _ same.shared visible moved
    | true =>
      have known := held member
      rw [found] at known
      obtain ⟨shared', moved', alike'⟩ :=
        unwinds.resumed _ _ _ _ _ _ _ same.shared visible known moved
      refine ⟨_, ?_, sameView_set same alike' _ _⟩
      have found' : alone.members.get? member = some state :=
        (same.members member visible).trans found
      simp [shownTo, visible, Machine.runFrom, crew, crewStep, found', moved']
  | @shifted change shared shifts =>
    obtain ⟨shared', shifts', alike'⟩ := unwinds.shifted _ _ _ _ same.shared
      (fun member => ⟨_, held member⟩) lawful shifts
    refine ⟨⟨shared', alone.members⟩, ?_, alike', same.members⟩
    simp [shownTo, Machine.runFrom, crew, crewStep, shifts']

/-- Whatever happens, the members are where they would be, had nothing happened
but what they are shown. -/
theorem unwinding_run {before after alone : Crew σ ι μ} {events : List (CrewEvent ι ν α π)}
    {start : σ} (keeps : Keeps rules welcome permitted own)
    (unwinds : Unwinds rules mine permitted own shown alike) (held : before.All own)
    (lawful : ∀ event ∈ events, event.Lawful welcome permitted)
    (same : SameView mine alike before alone)
    (ran : (crew rules start).runFrom before events = some after) :
    ∃ final, (crew rules start).runFrom alone (events.filterMap (shownTo mine shown)) = some final ∧
      SameView mine alike after final := by
  induction events generalizing before alone with
  | nil =>
    cases ran
    exact ⟨alone, rfl, same⟩
  | cons event rest ih =>
    obtain ⟨first, later⟩ := List.forall_mem_cons.mp lawful
    obtain ⟨next, stepped, finished⟩ := Machine.runFrom_cons.mp ran
    obtain ⟨middle, reached, same'⟩ := unwinding_step start unwinds held first same stepped
    obtain ⟨final, ended, seen⟩ := ih (keeps_step keeps held first stepped) later same' finished
    refine ⟨final, ?_, seen⟩
    have divided : (event :: rest).filterMap (shownTo mine shown) =
        (shownTo mine shown event).toList ++ rest.filterMap (shownTo mine shown) := by
      rw [List.filterMap_cons]
      cases shownTo mine shown event <;> rfl
    rw [divided]
    exact Machine.runFrom_append.mpr ⟨middle, reached, ended⟩

end EventMachine
