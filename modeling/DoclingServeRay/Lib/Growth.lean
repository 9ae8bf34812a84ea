import DoclingServeRay.Lib.Calls
import Mathlib.Order.Defs.PartialOrder

/-! Programs in a world that only grows. What one of them has found stays true,
whatever the others do between its calls, so that it can be reasoned about on
its own and still takes its place among them. What it found a call at, it found
in a state that the world has passed through. -/
namespace Calls
open EventMachine

variable {κ : Type} {ρ : κ → Type} {ε α β σ ω ι τ : Type} [Preorder σ]

/-- No call takes anything back. -/
def Growing (serve : σ → ω → (request : κ) → Option (Except ε (ρ request) × σ)) : Prop :=
  ∀ world outcome request answer after,
    serve world outcome request = some (answer, after) → world ≤ after

namespace Program

variable {serve : σ → ω → (request : κ) → Option (Except ε (ρ request) × σ)}
  {passed : σ → Prop} {post : Except ε α → σ → Prop} {then' : Except ε β → σ → Prop}

/-- However the world has grown before each of its calls and after its end, the
program has ended in this way if it has ended. Its calls are made in states that
the world passes through. -/
def Assured (serve : σ → ω → (request : κ) → Option (Except ε (ρ request) × σ))
    (passed : σ → Prop) (post : Except ε α → σ → Prop) : Program κ ρ ε α → σ → Prop
  | done value, world => ∀ later, world ≤ later → post (.ok value) later
  | raise error, world => ∀ later, world ≤ later → post (.error error) later
  | call request next, world => ∀ later, world ≤ later → passed later → ∀ outcome answer after,
      serve later outcome request = some (answer, after) →
        Assured serve passed post (next answer) after

theorem assured_later {program : Program κ ρ ε α}
    (assured : program.Assured serve passed post world) (grown : world ≤ later) :
    program.Assured serve passed post later := by
  cases program with
  | done value => exact fun last onward => assured last (le_trans grown onward)
  | raise error => exact fun last onward => assured last (le_trans grown onward)
  | call request next => exact fun last onward => assured last (le_trans grown onward)

theorem assured_weaken {program : Program κ ρ ε α} {weaker : Except ε α → σ → Prop}
    (assured : program.Assured serve passed post world)
    (implies : ∀ result later, post result later → weaker result later) :
    program.Assured serve passed weaker world := by
  induction program generalizing world with
  | done value => exact fun later grown => implies _ _ (assured later grown)
  | raise error => exact fun later grown => implies _ _ (assured later grown)
  | call request next ih =>
    intro later grown reached outcome answer after served
    exact ih answer (assured later grown reached outcome answer after served)

/-- What the call brings back is a fact about the world after it, and stays one. -/
theorem assured_perform {request : κ} {post : Except ε (ρ request) → σ → Prop}
    (found : ∀ before outcome answer after, world ≤ before → passed before →
      serve before outcome request = some (answer, after) → ∀ later, after ≤ later →
      post answer later) :
    (perform request).Assured serve passed post world := by
  intro before grown reached outcome answer after served
  cases answer with
  | ok value => exact found before outcome _ after grown reached served
  | error error => exact found before outcome _ after grown reached served

theorem assured_attempt {program : Program κ ρ ε α}
    (assured : program.Assured serve passed post world) :
    program.attempt.Assured serve passed (fun result later => ∃ inner, result = .ok inner ∧
      post inner later) world := by
  induction program generalizing world with
  | done value => exact fun later grown => ⟨_, rfl, assured later grown⟩
  | raise error => exact fun later grown => ⟨_, rfl, assured later grown⟩
  | call request next ih =>
    intro later grown reached outcome answer after served
    exact ih answer (assured later grown reached outcome answer after served)

/-- The second part may count on what the first one has established, and on the
world having grown. -/
theorem assured_bind (grows : Growing serve) {program : Program κ ρ ε α}
    {rest : α → Program κ ρ ε β} (first : program.Assured serve passed post world)
    (returned : ∀ value later, world ≤ later → post (.ok value) later →
      (rest value).Assured serve passed then' later)
    (raised : ∀ error later, world ≤ later → post (.error error) later →
      then' (.error error) later) :
    (program >>= rest).Assured serve passed then' world := by
  induction program generalizing world with
  | done value => exact returned value world le_rfl (first world le_rfl)
  | raise error => exact fun later grown => raised error later grown (first later grown)
  | call request next ih =>
    intro later grown reached outcome answer after served
    have onward : world ≤ after := le_trans grown (grows _ _ _ _ _ served)
    exact ih answer (first later grown reached outcome answer after served)
      (fun value last more => returned value last (le_trans onward more))
      (fun error last more => raised error last (le_trans onward more))

end Program

section Pool

variable {serve : σ → ω → (request : κ) → Option (Except ε (ρ request) × σ)}
  {spawning : Spawning ι τ κ ρ ε α} {post : Except ε α → σ → Prop}
  {pool next final : Pool σ τ κ ρ ε α}

theorem pool_step_grows (grows : Growing serve)
    (stepped : (pooled serve spawning start).step pool event = some next) :
    pool.world ≤ next.world := by
  cases event with
  | enters input =>
    cases stepped
    exact le_rfl
  | moves index outcome =>
    obtain ⟨role, request, rest, answer, after, found, served, rfl⟩ := pool_moves stepped
    exact grows _ _ _ _ _ served

theorem pool_grows (grows : Growing serve)
    (onward : (pooled serve spawning start).runFrom pool events = some final) :
    pool.world ≤ final.world :=
  Machine.runFrom_invariant (P := fun next : Pool σ τ κ ρ ε α => pool.world ≤ next.world)
    (fun _ _ _ held stepped => le_trans held (pool_step_grows grows stepped)) le_rfl onward

/-- The program in one place of a pool, which it keeps. -/
def Settled (serve : σ → ω → (request : κ) → Option (Except ε (ρ request) × σ))
    (passed : σ → Prop) (post : Except ε α → σ → Prop) (place : Nat) (role : τ)
    (pool : Pool σ τ κ ρ ε α) : Prop :=
  ∃ program, pool.programs[place]? = some (role, program) ∧
    program.Assured serve passed post pool.world

theorem settled_step (grows : Growing serve)
    (settled : Settled serve passed post place role pool) (reached : passed pool.world)
    (stepped : (pooled serve spawning start).step pool event = some next) :
    Settled serve passed post place role next := by
  obtain ⟨program, found, assured⟩ := settled
  have inside : place < pool.programs.length := (List.getElem?_eq_some_iff.mp found).1
  cases event with
  | enters input =>
    cases stepped
    exact ⟨program, by rw [List.getElem?_append_left inside, found], assured⟩
  | moves index outcome =>
    obtain ⟨role', request, rest, answer, after, here, served, rfl⟩ := pool_moves stepped
    have within : place < (pool.programs.set index (role', rest answer)).length := by
      rw [List.length_set]
      exact inside
    by_cases same : index = place
    · subst same
      cases found.symm.trans here
      refine ⟨rest answer, ?_, assured _ le_rfl reached _ _ _ served⟩
      rw [List.getElem?_append_left within, List.getElem?_set_self inside]
    · refine ⟨program, ?_, Program.assured_later assured (grows _ _ _ _ _ served)⟩
      rw [List.getElem?_append_left within, List.getElem?_set_ne same, found]

theorem settled_run (grows : Growing serve)
    (settled : Settled serve passed post place role pool)
    (reached : ∀ world, OnTheWay (pooled serve spawning start) pool events world → passed world)
    (onward : (pooled serve spawning start).runFrom pool events = some final) :
    Settled serve passed post place role final := by
  induction events generalizing pool with
  | nil =>
    cases onward
    exact settled
  | cons event events ih =>
    obtain ⟨next, stepped, onward⟩ := Machine.runFrom_cons.mp onward
    have here : passed pool.world := reached _ ⟨pool, Machine.passes_first, rfl⟩
    refine ih (settled_step grows settled here stepped) ?_ onward
    rintro world ⟨middle, passes, same⟩
    exact reached world ⟨middle, Machine.passes_later stepped passes, same⟩

/-- The rule for one program among others: what it is assured of on its own, it
is assured of in every interleaving, with its calls made in worlds on the way. -/
theorem pool_assured {place : Nat} {program : Program κ ρ ε α} {value : α} (grows : Growing serve)
    (found : pool.programs[place]? = some (role, program))
    (assured : program.Assured serve passed post pool.world)
    (reached : ∀ world, OnTheWay (pooled serve spawning start) pool events world → passed world)
    (onward : (pooled serve spawning start).runFrom pool events = some final)
    (ended : final.programs[place]? = some (role', .done value)) :
    post (.ok value) final.world := by
  obtain ⟨last, here, held⟩ := settled_run grows ⟨program, found, assured⟩ reached onward
  cases here.symm.trans ended
  exact held final.world le_rfl

end Pool

end Calls
