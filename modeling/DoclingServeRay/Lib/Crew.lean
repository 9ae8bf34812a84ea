import DoclingServeRay.Lib.EventMachine
import DoclingServeRay.Lib.OrderedDict

/-! Members that come one by one and share a state. Each is suspended between
its moves, and the surroundings shift what is shared. What a member keeps in its
own moves, and everything else leaves alone, holds of it along every run. -/
namespace EventMachine

structure Crew (σ ι μ : Type) [DecidableEq ι] where
  shared : σ
  members : OrderedDict ι μ

inductive CrewEvent (ι ν α π : Type) where
  | enters (member : ι) (input : ν)
  | resumes (member : ι) (answer : α)
  | shifts (change : π)

/-- How a member begins, how it goes on with an answer, and how the surroundings
change what is shared. -/
structure Rules (σ ι μ ν α π : Type) where
  enter : ν → μ
  resume : σ → ι → μ → α → Option (σ × μ)
  shift : σ → π → Option σ

variable {σ ι μ ν α π : Type} [DecidableEq ι] {rules : Rules σ ι μ ν α π}

def crewStep (rules : Rules σ ι μ ν α π) (crew : Crew σ ι μ) :
    CrewEvent ι ν α π → Option (Crew σ ι μ)
  | .enters member input =>
    if (crew.members.get? member).isSome then none
    else some { crew with members := crew.members.set member (rules.enter input) }
  | .resumes member answer =>
    (crew.members.get? member).bind fun state =>
      (rules.resume crew.shared member state answer).map fun moved =>
        ⟨moved.1, crew.members.set member moved.2⟩
  | .shifts change => (rules.shift crew.shared change).map fun shared =>
    { crew with shared := shared }

def crew (rules : Rules σ ι μ ν α π) (shared : σ) : Machine (Crew σ ι μ) (CrewEvent ι ν α π) :=
  ⟨⟨shared, .empty⟩, crewStep rules⟩

/-- Everything one event can do. -/
inductive CrewTurn (rules : Rules σ ι μ ν α π) (crew : Crew σ ι μ) :
    CrewEvent ι ν α π → Crew σ ι μ → Prop where
  | entered (absent : crew.members.get? member = none) :
      CrewTurn rules crew (.enters member input)
        ⟨crew.shared, crew.members.set member (rules.enter input)⟩
  | resumed (found : crew.members.get? member = some state)
      (moved : rules.resume crew.shared member state answer = some (shared, next)) :
      CrewTurn rules crew (.resumes member answer) ⟨shared, crew.members.set member next⟩
  | shifted (shifts : rules.shift crew.shared change = some shared) :
      CrewTurn rules crew (.shifts change) ⟨shared, crew.members⟩

theorem crew_turn {before after : Crew σ ι μ} {event : CrewEvent ι ν α π}
    (stepped : crewStep rules before event = some after) : CrewTurn rules before event after := by
  cases event with
  | enters member input =>
    simp only [crewStep, Option.ite_none_left_eq_some, Option.some.injEq] at stepped
    obtain ⟨absent, rfl⟩ := stepped
    exact .entered (by simpa using absent)
  | resumes member answer =>
    obtain ⟨state, found, moves⟩ := Option.bind_eq_some_iff.mp stepped
    obtain ⟨⟨shared, next⟩, moved, rfl⟩ := Option.map_eq_some_iff.mp moves
    exact .resumed found moved
  | shifts change =>
    obtain ⟨shared, shifts, rfl⟩ := Option.map_eq_some_iff.mp stepped
    exact .shifted shifts

/-- What holds of each member, present or not, as long as such members enter and
the surroundings make such changes only. -/
structure Keeps (rules : Rules σ ι μ ν α π) (welcome : ι → ν → Prop) (permitted : π → Prop)
    (own : σ → ι → Option μ → Prop) : Prop where
  entered : ∀ shared member input, own shared member none → welcome member input →
    own shared member (some (rules.enter input))
  resumed : ∀ shared member state answer after next, own shared member (some state) →
    rules.resume shared member state answer = some (after, next) → own after member (some next)
  others : ∀ shared member state other mate answer after next, own shared member state →
    other ≠ member → rules.resume shared other mate answer = some (after, next) →
    own after member state
  shifted : ∀ shared member state change after, own shared member state → permitted change →
    rules.shift shared change = some after → own after member state

/-- It holds of every member of a crew. -/
def Crew.All (own : σ → ι → Option μ → Prop) (crew : Crew σ ι μ) : Prop :=
  ∀ member, own crew.shared member (crew.members.get? member)

/-- Such a member enters, or the surroundings make such a change. -/
def CrewEvent.Lawful (welcome : ι → ν → Prop) (permitted : π → Prop) : CrewEvent ι ν α π → Prop
  | .enters member input => welcome member input
  | .resumes _ _ => True
  | .shifts change => permitted change

variable {welcome : ι → ν → Prop} {permitted : π → Prop} {own : σ → ι → Option μ → Prop}

theorem keeps_step {before after : Crew σ ι μ} {event : CrewEvent ι ν α π}
    (keeps : Keeps rules welcome permitted own) (held : before.All own)
    (lawful : event.Lawful welcome permitted)
    (stepped : crewStep rules before event = some after) : after.All own := by
  intro member
  cases crew_turn stepped with
  | @entered other input absent =>
    rw [OrderedDict.get?_set]
    split
    · rename_i same
      subst same
      have fresh := held member
      rw [absent] at fresh
      exact keeps.entered _ _ _ fresh lawful
    · exact held member
  | @resumed other state answer shared next found moved =>
    rw [OrderedDict.get?_set]
    split
    · rename_i same
      subst same
      have there := held member
      rw [found] at there
      exact keeps.resumed _ _ _ _ _ _ there moved
    · rename_i distinct
      exact keeps.others _ _ _ _ _ _ _ _ (held member) (Ne.symm distinct) moved
  | @shifted change shared shifts =>
    exact keeps.shifted _ _ _ _ _ (held member) lawful shifts

/-- The rule for runs, from any crew of which it holds. -/
theorem keeps_run {before after : Crew σ ι μ} {events : List (CrewEvent ι ν α π)} {start : σ}
    (keeps : Keeps rules welcome permitted own) (held : before.All own)
    (lawful : ∀ event ∈ events, event.Lawful welcome permitted)
    (ran : (crew rules start).runFrom before events = some after) : after.All own := by
  induction events generalizing before with
  | nil =>
    cases ran
    exact held
  | cons event rest ih =>
    obtain ⟨first, later⟩ := List.forall_mem_cons.mp lawful
    obtain ⟨next, stepped, finished⟩ := Machine.runFrom_cons.mp ran
    exact ih (keeps_step keeps held first stepped) later finished

end EventMachine
