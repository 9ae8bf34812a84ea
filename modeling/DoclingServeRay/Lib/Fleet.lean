import DoclingServeRay.Lib.EventMachine
import Mathlib.Logic.Function.Basic

/-! Machines of one kind side by side, one for each index. An event is for one
of them, and a run of all is nothing but a run of each on its own events. -/
namespace EventMachine
namespace Machine

variable {ι σ ε : Type} [DecidableEq ι]

/-- One member for each index, and each event for the member it is addressed to. -/
def fleet (member : Machine σ ε) (address : ε → ι) : Machine (ι → σ) ε where
  start := fun _ => member.start
  step := fun states event =>
    (member.step (states (address event)) event).map (Function.update states (address event))

/-- The events for one member. -/
def addressed (address : ε → ι) (index : ι) (events : List ε) : List ε :=
  events.filter fun event => address event = index

variable {member : Machine σ ε} {address : ε → ι}

theorem addressed_snoc_self (address : ε → ι) (events : List ε) (event : ε) :
    addressed address (address event) (events ++ [event]) =
      addressed address (address event) events ++ [event] := by
  simp [addressed]

theorem addressed_snoc_other (events : List ε) (other : address event ≠ index) :
    addressed address index (events ++ [event]) = addressed address index events := by
  simp [addressed, other]

theorem fleet_step_iff :
    (fleet member address).step states event = some next ↔
      ∃ after, member.step (states (address event)) event = some after ∧
        next = Function.update states (address event) after := by
  simp only [fleet, Option.map_eq_some_iff, eq_comm]

/-- The members run on their own. -/
theorem fleet_run_iff {events : List ε} {states : ι → σ} :
    (fleet member address).run events = some states ↔
      ∀ index, member.run (addressed address index events) = some (states index) := by
  induction events using List.reverseRecOn generalizing states with
  | nil =>
    constructor
    · rintro ⟨⟩ index
      rfl
    · intro alone
      exact congrArg some (funext fun index => Option.some.inj (alone index))
  | append_singleton events event ih =>
    rw [run_snoc]
    constructor
    · rintro ⟨before, ran, stepped⟩ index
      obtain ⟨after, moved, rfl⟩ := fleet_step_iff.mp stepped
      have alone := ih.mp ran index
      by_cases own : address event = index
      · subst own
        rw [addressed_snoc_self, Function.update_self]
        exact run_snoc.mpr ⟨_, alone, moved⟩
      · rw [addressed_snoc_other events own, Function.update_of_ne (Ne.symm own)]
        exact alone
    · intro alone
      have own := alone (address event)
      rw [addressed_snoc_self] at own
      obtain ⟨last, ran, moved⟩ := run_snoc.mp own
      refine ⟨Function.update states (address event) last, ?_, ?_⟩
      · refine ih.mpr fun index => ?_
        by_cases same : address event = index
        · subst same
          rw [Function.update_self]
          exact ran
        · rw [Function.update_of_ne (Ne.symm same), ← addressed_snoc_other events same]
          exact alone index
      · refine fleet_step_iff.mpr ⟨states (address event), ?_, ?_⟩
        · rw [Function.update_self]
          exact moved
        · rw [Function.update_idem, Function.update_eq_self]

/-- The order of events for different members makes no difference. -/
theorem fleet_reorder {events others : List ε}
    (same : ∀ index, addressed address index events = addressed address index others) :
    (fleet member address).run events = (fleet member address).run others := by
  refine Option.ext fun states => ?_
  rw [fleet_run_iff, fleet_run_iff]
  simp only [same]

end Machine
end EventMachine
