import DoclingServeRay.Lib.Calls

/-! Programs that call two services with a world each. A part that calls only
one of them runs as it would alone, and leaves the other's world as it is. -/
namespace Calls

variable {κ κ' : Type} {ρ : κ → Type} {ρ' : κ' → Type} {ε α σ σ' ω ω' : Type}

/-- Two services side by side. -/
def besides (serve : σ → ω → (request : κ) → Option (Except ε (ρ request) × σ))
    (serve' : σ' → ω' → (request : κ') → Option (Except ε (ρ' request) × σ')) :
    σ × σ' → ω ⊕ ω' → (request : κ ⊕ κ') →
      Option (Except ε (Sum.elim ρ ρ' request) × (σ × σ'))
  | (first, second), .inl outcome, .inl request =>
    (serve first outcome request).map fun served => (served.1, (served.2, second))
  | (first, second), .inr outcome, .inr request =>
    (serve' second outcome request).map fun served => (served.1, (first, served.2))
  | _, _, _ => none

namespace Program

/-- The program, where the service it calls is the first of two. -/
def onFirst : Program κ ρ ε α → Program (κ ⊕ κ') (Sum.elim ρ ρ') ε α
  | done value => done value
  | raise error => raise error
  | call request next => call (.inl request) fun answer => onFirst (next answer)

def onSecond : Program κ' ρ' ε α → Program (κ ⊕ κ') (Sum.elim ρ ρ') ε α
  | done value => done value
  | raise error => raise error
  | call request next => call (.inr request) fun answer => onSecond (next answer)

variable {serve : σ → ω → (request : κ) → Option (Except ε (ρ request) × σ)}
  {serve' : σ' → ω' → (request : κ') → Option (Except ε (ρ' request) × σ')}

theorem run_onFirst {program : Program κ ρ ε α} {first : σ} {second : σ'}
    {outcomes : List (ω ⊕ ω')} :
    run (besides serve serve') (first, second) program.onFirst outcomes = some (result, final) ↔
      ∃ own, outcomes = own.map .inl ∧ run serve first program own = some (result, final.1) ∧
        final.2 = second := by
  induction program generalizing first outcomes with
  | done value =>
    rw [onFirst, run_done]
    constructor
    · rintro ⟨rfl, rfl, rfl⟩
      exact ⟨[], rfl, rfl, rfl⟩
    · rintro ⟨own, rfl, ran, rfl⟩
      obtain ⟨rfl, rfl, same⟩ := run_done.mp ran
      exact ⟨rfl, rfl, Prod.ext same rfl⟩
  | raise error =>
    rw [onFirst, run_raise]
    constructor
    · rintro ⟨rfl, rfl, rfl⟩
      exact ⟨[], rfl, rfl, rfl⟩
    · rintro ⟨own, rfl, ran, rfl⟩
      obtain ⟨rfl, rfl, same⟩ := run_raise.mp ran
      exact ⟨rfl, rfl, Prod.ext same rfl⟩
  | call request next ih =>
    rw [onFirst, run_call]
    constructor
    · rintro ⟨outcome, rest, given, ⟨middle, kept⟩, rfl, served, onward⟩
      cases outcome with
      | inr outcome => cases served
      | inl outcome =>
        obtain ⟨⟨answer, after⟩, answered, same⟩ := Option.map_eq_some_iff.mp served
        cases same
        obtain ⟨others, rfl, ran, last⟩ := (ih answer).mp onward
        exact ⟨outcome :: others, rfl,
          run_call.mpr ⟨outcome, others, answer, after, rfl, answered, ran⟩, last⟩
    · rintro ⟨own, rfl, ran, last⟩
      obtain ⟨outcome, rest, answer, middle, rfl, answered, onward⟩ := run_call.mp ran
      refine ⟨.inl outcome, rest.map .inl, answer, (middle, second), rfl, ?_,
        (ih answer).mpr ⟨rest, rfl, onward, last⟩⟩
      rw [besides, answered]
      rfl

theorem run_onSecond {program : Program κ' ρ' ε α} {first : σ} {second : σ'}
    {outcomes : List (ω ⊕ ω')} :
    run (besides serve serve') (first, second) program.onSecond outcomes = some (result, final) ↔
      ∃ own, outcomes = own.map .inr ∧ run serve' second program own = some (result, final.2) ∧
        final.1 = first := by
  induction program generalizing second outcomes with
  | done value =>
    rw [onSecond, run_done]
    constructor
    · rintro ⟨rfl, rfl, rfl⟩
      exact ⟨[], rfl, rfl, rfl⟩
    · rintro ⟨own, rfl, ran, rfl⟩
      obtain ⟨rfl, rfl, same⟩ := run_done.mp ran
      exact ⟨rfl, rfl, Prod.ext rfl same⟩
  | raise error =>
    rw [onSecond, run_raise]
    constructor
    · rintro ⟨rfl, rfl, rfl⟩
      exact ⟨[], rfl, rfl, rfl⟩
    · rintro ⟨own, rfl, ran, rfl⟩
      obtain ⟨rfl, rfl, same⟩ := run_raise.mp ran
      exact ⟨rfl, rfl, Prod.ext rfl same⟩
  | call request next ih =>
    rw [onSecond, run_call]
    constructor
    · rintro ⟨outcome, rest, given, ⟨kept, middle⟩, rfl, served, onward⟩
      cases outcome with
      | inl outcome => cases served
      | inr outcome =>
        obtain ⟨⟨answer, after⟩, answered, same⟩ := Option.map_eq_some_iff.mp served
        cases same
        obtain ⟨others, rfl, ran, last⟩ := (ih answer).mp onward
        exact ⟨outcome :: others, rfl,
          run_call.mpr ⟨outcome, others, answer, after, rfl, answered, ran⟩, last⟩
    · rintro ⟨own, rfl, ran, last⟩
      obtain ⟨outcome, rest, answer, middle, rfl, answered, onward⟩ := run_call.mp ran
      refine ⟨.inr outcome, rest.map .inr, answer, (first, middle), rfl, ?_,
        (ih answer).mpr ⟨rest, rfl, onward, last⟩⟩
      rw [besides, answered]
      rfl

end Program
end Calls
