import Mathlib.Data.List.Induction

/-! Machines driven by one event at a time, and the rules for reasoning about
their runs: invariants that may mention the events so far, statements about
every step a run makes, erasing events that a later state cannot tell apart, maps
between machines, and a measure that makes a machine finish. -/
namespace EventMachine

/-- A machine that starts somewhere and reacts to events. An event the machine
cannot receive in a state has no successor. -/
structure Machine (σ ε : Type) where
  start : σ
  step : σ → ε → Option σ

namespace Machine

variable {σ ε : Type} {machine : Machine σ ε}

/-- Feed a sequence of events to a state. -/
def runFrom (machine : Machine σ ε) (state : σ) : List ε → Option σ
  | [] => some state
  | event :: rest => (machine.step state event).bind fun next => machine.runFrom next rest

def run (machine : Machine σ ε) (events : List ε) : Option σ :=
  machine.runFrom machine.start events

@[simp] theorem runFrom_nil : machine.runFrom state [] = some state := rfl

@[simp] theorem run_nil : machine.run [] = some machine.start := rfl

theorem runFrom_cons :
    machine.runFrom state (event :: rest) = some final ↔
      ∃ next, machine.step state event = some next ∧ machine.runFrom next rest = some final :=
  Option.bind_eq_some_iff

theorem runFrom_append :
    machine.runFrom state (first ++ rest) = some final ↔
      ∃ middle, machine.runFrom state first = some middle ∧
        machine.runFrom middle rest = some final := by
  induction first generalizing state with
  | nil => simp
  | cons event first ih =>
    simp only [List.cons_append, runFrom_cons, ih]
    constructor
    · rintro ⟨next, stepped, middle, reached, finished⟩
      exact ⟨middle, ⟨next, stepped, reached⟩, finished⟩
    · rintro ⟨middle, ⟨next, stepped, reached⟩, finished⟩
      exact ⟨next, stepped, middle, reached, finished⟩

theorem run_append :
    machine.run (first ++ rest) = some final ↔
      ∃ middle, machine.run first = some middle ∧ machine.runFrom middle rest = some final :=
  runFrom_append

theorem run_snoc :
    machine.run (events ++ [event]) = some final ↔
      ∃ state, machine.run events = some state ∧ machine.step state event = some final := by
  rw [run_append]
  exact exists_congr fun state => and_congr Iff.rfl (by simp [runFrom_cons])

/-! ### Invariants of runs -/

/-- What holds at the start and is kept by every step of a run holds at its
end. The property may read the events so far. -/
theorem run_induction {P : List ε → σ → Prop} (initial : P [] machine.start)
    (preserved : ∀ events state event next, machine.run events = some state →
      P events state → machine.step state event = some next → P (events ++ [event]) next)
    (ran : machine.run events = some final) : P events final := by
  induction events using List.reverseRecOn generalizing final with
  | nil =>
    cases ran
    exact initial
  | append_singleton events event ih =>
    obtain ⟨state, before, stepped⟩ := run_snoc.mp ran
    exact preserved events state event final before (ih before) stepped

/-- An invariant of the states alone, from any state that has it. -/
theorem runFrom_invariant {P : σ → Prop}
    (preserved : ∀ state event next, P state → machine.step state event = some next →
      P next)
    (initial : P state) (ran : machine.runFrom state events = some final) : P final := by
  induction events generalizing state with
  | nil =>
    cases ran
    exact initial
  | cons event rest ih =>
    obtain ⟨next, stepped, finished⟩ := runFrom_cons.mp ran
    exact ih (preserved state event next initial stepped) finished

/-! ### The steps of a run -/

/-- The run of these events takes this step on the way. -/
def Occurs (machine : Machine σ ε) (events : List ε) (before : σ) (event : ε) (after : σ) : Prop :=
  ∃ first rest, events = first ++ event :: rest ∧ machine.run first = some before ∧
    machine.step before event = some after

theorem occurs_snoc :
    machine.Occurs (events ++ [last]) before event after ↔
      machine.Occurs events before event after ∨
        (last = event ∧ machine.run events = some before ∧
          machine.step before event = some after) := by
  constructor
  · rintro ⟨first, rest, shape, reached, stepped⟩
    rcases List.eq_nil_or_concat rest with rfl | ⟨init, tail, rfl⟩
    · obtain ⟨rfl, single⟩ := List.append_inj' shape rfl
      cases single
      exact Or.inr ⟨rfl, reached, stepped⟩
    · rw [List.concat_eq_append, ← List.cons_append, ← List.append_assoc] at shape
      obtain ⟨rfl, single⟩ := List.append_inj' shape rfl
      exact Or.inl ⟨first, init, rfl, reached, stepped⟩
  · rintro (⟨first, rest, rfl, reached, stepped⟩ | ⟨rfl, reached, stepped⟩)
    · exact ⟨first, rest ++ [last], by simp, reached, stepped⟩
    · exact ⟨events, [], rfl, reached, stepped⟩

theorem occurs_mem (occurs : machine.Occurs events before event after) : event ∈ events := by
  obtain ⟨first, rest, rfl, _, _⟩ := occurs
  exact List.mem_append_right first List.mem_cons_self

/-- Every step of a run starts in a state the run reaches by a prefix. -/
theorem occurs_reached (occurs : machine.Occurs events before event after) :
    ∃ first, machine.run first = some before ∧ machine.run (first ++ [event]) = some after := by
  obtain ⟨first, _, _, reached, stepped⟩ := occurs
  exact ⟨first, reached, run_snoc.mpr ⟨before, reached, stepped⟩⟩

/-- The run of these events from a state goes through this one, which may be the
first or the last. -/
def Passes (machine : Machine σ ε) (state : σ) (events : List ε) (middle : σ) : Prop :=
  ∃ earlier rest, events = earlier ++ rest ∧ machine.runFrom state earlier = some middle

theorem passes_first : machine.Passes state events state := ⟨[], events, rfl, rfl⟩

theorem passes_last (ran : machine.runFrom state events = some final) :
    machine.Passes state events final := ⟨events, [], (List.append_nil _).symm, ran⟩

theorem passes_append (passes : machine.Passes state events middle) :
    machine.Passes state (events ++ more) middle := by
  obtain ⟨earlier, rest, rfl, reached⟩ := passes
  exact ⟨earlier, rest ++ more, by rw [List.append_assoc], reached⟩

theorem passes_later (stepped : machine.step state event = some next)
    (passes : machine.Passes next events middle) : machine.Passes state (event :: events) middle := by
  obtain ⟨earlier, rest, rfl, reached⟩ := passes
  exact ⟨event :: earlier, rest, rfl, runFrom_cons.mpr ⟨next, stepped, reached⟩⟩

/-! ### Erasing events -/

/-- Drop the events that `keep` rejects. The choice may read the events before
and after the one in question, dropped ones included. -/
def eraseAfter (keep : List ε → ε → List ε → Bool) (past : List ε) : List ε → List ε
  | [] => []
  | event :: rest =>
    if keep past event rest then event :: eraseAfter keep (past ++ [event]) rest
    else eraseAfter keep (past ++ [event]) rest

def erase (keep : List ε → ε → List ε → Bool) (events : List ε) : List ε :=
  eraseAfter keep [] events

/-- When a relation is carried along by taking a kept event on both sides and a
dropped one on the left side only, the erased run goes through and ends in a
related state. -/
theorem eraseAfter_simulates {keep : List ε → ε → List ε → Bool}
    {R : List ε → List ε → σ → σ → Prop}
    (kept : ∀ past event rest left right next, keep past event rest = true →
      machine.run past = some left → R past (event :: rest) left right →
      machine.step left event = some next →
      ∃ other, machine.step right event = some other ∧ R (past ++ [event]) rest next other)
    (dropped : ∀ past event rest left right next, keep past event rest = false →
      machine.run past = some left → R past (event :: rest) left right →
      machine.step left event = some next → R (past ++ [event]) rest next right)
    (reached : machine.run past = some left) (start : R past events left right)
    (ran : machine.runFrom left events = some final) :
    ∃ other, machine.runFrom right (eraseAfter keep past events) = some other ∧
      R (past ++ events) [] final other := by
  induction events generalizing past left right with
  | nil =>
    cases ran
    exact ⟨right, rfl, by simpa using start⟩
  | cons event rest ih =>
    obtain ⟨next, stepped, finished⟩ := runFrom_cons.mp ran
    have onward : machine.run (past ++ [event]) = some next :=
      run_snoc.mpr ⟨left, reached, stepped⟩
    have regroup : past ++ event :: rest = (past ++ [event]) ++ rest := by simp
    cases choice : keep past event rest with
    | true =>
      obtain ⟨mirror, mirrored, held⟩ :=
        kept past event rest left right next choice reached start stepped
      obtain ⟨other, ended, final⟩ := ih onward held finished
      refine ⟨other, ?_, regroup ▸ final⟩
      simp only [eraseAfter, choice, ↓reduceIte]
      exact runFrom_cons.mpr ⟨mirror, mirrored, ended⟩
    | false =>
      have held := dropped past event rest left right next choice reached start stepped
      obtain ⟨other, ended, final⟩ := ih onward held finished
      exact ⟨other, by simpa [eraseAfter, choice] using ended, regroup ▸ final⟩

/-! ### Machines that move together -/

section Together

variable {τ ε' : Type} {other : Machine τ ε'} {R : σ → τ → Prop} {visible : ε → Option ε'}

/-- A machine follows another one when each event it shares with it takes both
on, or neither, and an event of its own leaves the two related. -/
theorem run_related (starts : R machine.start other.start)
    (silent : ∀ left right event, R left right → visible event = none →
      ∃ next, machine.step left event = some next ∧ R next right)
    (shared : ∀ left right event event', R left right → visible event = some event' →
      Option.Rel R (machine.step left event) (other.step right event'))
    (events : List ε) :
    Option.Rel R (machine.run events) (other.run (events.filterMap visible)) := by
  have general : ∀ left right, R left right →
      Option.Rel R (machine.runFrom left events) (other.runFrom right (events.filterMap visible)) := by
    induction events with
    | nil => exact fun left right related => .some related
    | cons event rest ih =>
      intro left right related
      cases seen : visible event with
      | none =>
        obtain ⟨next, stepped, onward⟩ := silent left right event related seen
        rw [List.filterMap_cons_none seen, runFrom, stepped]
        exact ih next right onward
      | some event' =>
        rw [List.filterMap_cons_some seen, runFrom, runFrom]
        have both := shared left right event event' related seen
        generalize machine.step left event = next, other.step right event' = next' at both ⊢
        cases both with
        | none => exact .none
        | some onward => exact ih _ _ onward
  exact general _ _ starts

end Together

/-! ### Progress -/

section Progress

variable {π : Type}

/-- The first `count` events of an infinite sequence. -/
def firstEvents (events : Nat → ε) (count : Nat) : List ε := (List.range count).map events

theorem firstEvents_succ (events : Nat → ε) (count : Nat) :
    firstEvents events (count + 1) = firstEvents events count ++ [events count] := by
  simp [firstEvents, List.range_succ]

theorem firstEvents_add (events : Nat → ε) (count more : Nat) :
    firstEvents events (count + more) =
      firstEvents events count ++ firstEvents (fun index => events (count + index)) more := by
  simp [firstEvents, List.range_add]

/-- Either work was done, or the machine still waits for the same thing. -/
private def Onward (remaining : σ → Nat) (pending : σ → π) (state next : σ) : Prop :=
  remaining next < remaining state ∨
    (remaining next = remaining state ∧ pending next = pending state)

private theorem onward_trans {remaining : σ → Nat} {pending : σ → π}
    (first : Onward remaining pending state middle)
    (second : Onward remaining pending middle final) : Onward remaining pending state final := by
  rcases first with less | ⟨equal, same⟩
  · rcases second with less' | ⟨equal', _⟩
    · exact Or.inl (Nat.lt_trans less' less)
    · exact Or.inl (equal' ▸ less)
  · rcases second with less' | ⟨equal', same'⟩
    · exact Or.inl (equal ▸ less')
    · exact Or.inr ⟨equal'.trans equal, same'.trans same⟩

/-- A machine finishes on an infinite sequence of events it can follow, when
each step uses up some of its remaining work, or is idle and leaves it waiting
for the same thing; and when it does not wait for one thing idly for ever. -/
theorem eventually_finished {finished : σ → Prop} (remaining : σ → Nat) (pending : σ → π)
    (idle : ε → Bool) (events : Nat → ε)
    (works : ∀ n state next, machine.run (firstEvents events n) = some state →
      machine.step state (events n) = some next → remaining next < remaining state ∨
        (idle (events n) = true ∧ remaining next = remaining state ∧ pending next = pending state))
    (follows : ∀ n state, machine.run (firstEvents events n) = some state → ¬ finished state →
      (machine.step state (events n)).isSome)
    (fair : ∀ n state, machine.run (firstEvents events n) = some state → ¬ finished state →
      ∃ m ≥ n, ∀ later, machine.run (firstEvents events m) = some later →
        pending later = pending state → idle (events m) = false) :
    ∃ n state, machine.run (firstEvents events n) = some state ∧ finished state := by
  by_contra unfinished
  have onto : ∀ n state, machine.run (firstEvents events n) = some state →
      ∃ next, machine.run (firstEvents events (n + 1)) = some next ∧
        machine.step state (events n) = some next := by
    intro n state reached
    have active : ¬ finished state := fun done => unfinished ⟨n, state, reached, done⟩
    obtain ⟨next, stepped⟩ := Option.isSome_iff_exists.mp (follows n state reached active)
    exact ⟨next, by rw [firstEvents_succ]; exact run_snoc.mpr ⟨state, reached, stepped⟩, stepped⟩
  have carried : ∀ n state, machine.run (firstEvents events n) = some state → ∀ more,
      ∃ later, machine.run (firstEvents events (n + more)) = some later ∧
        Onward remaining pending state later := by
    intro n state reached more
    induction more with
    | zero => exact ⟨state, reached, Or.inr ⟨rfl, rfl⟩⟩
    | succ more ih =>
      obtain ⟨later, before, onward⟩ := ih
      obtain ⟨next, after, stepped⟩ := onto _ later before
      refine ⟨next, after, onward_trans onward ?_⟩
      rcases works _ later next before stepped with less | ⟨_, equal, same⟩
      · exact Or.inl less
      · exact Or.inr ⟨equal, same⟩
  -- From any point of the sequence the remaining work gets smaller at a later one.
  have shrinks : ∀ work n state, machine.run (firstEvents events n) = some state →
      remaining state = work → False := by
    intro work
    induction work using Nat.strongRecOn with
    | ind work ih =>
      rintro n state reached rfl
      have active : ¬ finished state := fun done => unfinished ⟨n, state, reached, done⟩
      obtain ⟨m, after, served⟩ := fair n state reached active
      obtain ⟨more, rfl⟩ := Nat.exists_eq_add_of_le after
      obtain ⟨later, arrived, onward⟩ := carried n state reached more
      rcases onward with less | ⟨equal, same⟩
      · exact ih _ less _ later arrived rfl
      · obtain ⟨next, left, stepped⟩ := onto _ later arrived
        rcases works _ later next arrived stepped with less | ⟨quiet, _, _⟩
        · exact ih _ (equal ▸ less) _ next left rfl
        · rw [served later arrived same] at quiet
          cases quiet
  exact shrinks _ 0 machine.start rfl rfl

end Progress

end Machine

end EventMachine
