import DoclingServeRay.Lib.EventMachine

/-! Programs that make calls to a shared world, what one of them does on its
own, what many of them do interleaved at the granularity of single calls, and
the invariant rule for both. A call either returns or raises; what it does is
the world's business, guided by an outcome that nobody controls. -/
namespace Calls
open EventMachine

/-- A program that makes calls and continues with what each returns or raises. -/
inductive Program (κ : Type) (ρ : κ → Type) (ε α : Type) where
  | done (value : α)
  | raise (error : ε)
  | call (request : κ) (next : Except ε (ρ request) → Program κ ρ ε α)

variable {κ : Type} {ρ : κ → Type} {ε α β σ ω : Type}

namespace Program

def bind : Program κ ρ ε α → (α → Program κ ρ ε β) → Program κ ρ ε β
  | done value, rest => rest value
  | raise error, _ => raise error
  | call request next, rest => call request fun answer => (next answer).bind rest

instance : Monad (Program κ ρ ε) where
  pure := done
  bind := bind

/-- Make one call; what it raises is raised on. -/
def perform (request : κ) : Program κ ρ ε (ρ request) :=
  call request fun answer =>
    match answer with
    | .ok value => done value
    | .error error => raise error

/-- Raise something else in place of what is raised. -/
def mapError (change : ε → ε) : Program κ ρ ε α → Program κ ρ ε α
  | done value => done value
  | raise error => raise (change error)
  | call request next => call request fun answer => (next answer).mapError change

/-- Catch whatever is raised. -/
def attempt : Program κ ρ ε α → Program κ ρ ε (Except ε α)
  | done value => done (.ok value)
  | raise error => done (.error error)
  | call request next => call request fun answer => (next answer).attempt

@[simp] theorem pure_eq (value : α) : (pure value : Program κ ρ ε α) = done value := rfl

@[simp] theorem done_bind (value : α) (rest : α → Program κ ρ ε β) :
    (done value >>= rest) = rest value := rfl

@[simp] theorem call_bind (request : κ) (next : Except ε (ρ request) → Program κ ρ ε α)
    (rest : α → Program κ ρ ε β) :
    (call request next >>= rest) = call request fun answer => next answer >>= rest := rfl

/-! ### Alone -/

section Alone

-- `serve` takes one call in a world to its answer and the world after it, or to
-- `none` for an outcome that the call cannot have.
variable (serve : σ → ω → (request : κ) → Option (Except ε (ρ request) × σ))

/-- A program on its own, with one outcome for each call it makes. -/
def run (world : σ) : Program κ ρ ε α → List ω → Option (Except ε α × σ)
  | done value, [] => some (.ok value, world)
  | raise error, [] => some (.error error, world)
  | call request next, outcome :: rest =>
    (serve world outcome request).bind fun served => run served.2 (next served.1) rest
  | _, _ => none

variable {serve}

theorem run_done {value : α} : run serve world (done value : Program κ ρ ε α) outcomes =
    some (result, final) ↔ outcomes = [] ∧ result = .ok value ∧ final = world := by
  cases outcomes with
  | nil => simp [run, eq_comm]
  | cons outcome outcomes => simp [run]

theorem run_raise {error : ε} : run serve world (raise error : Program κ ρ ε α) outcomes =
    some (result, final) ↔ outcomes = [] ∧ result = .error error ∧ final = world := by
  cases outcomes with
  | nil => simp [run, eq_comm]
  | cons outcome outcomes => simp [run]

/-- A run of a call takes its first outcome for it. -/
theorem run_call {next : Except ε (ρ request) → Program κ ρ ε α} :
    run serve world (call request next) outcomes = some (result, final) ↔
      ∃ outcome rest answer middle, outcomes = outcome :: rest ∧
        serve world outcome request = some (answer, middle) ∧
        run serve middle (next answer) rest = some (result, final) := by
  constructor
  · intro ran
    cases outcomes with
    | nil => cases ran
    | cons outcome outcomes =>
      obtain ⟨⟨answer, middle⟩, served, onward⟩ := Option.bind_eq_some_iff.mp ran
      exact ⟨outcome, outcomes, answer, middle, rfl, served, onward⟩
  · rintro ⟨outcome, rest, answer, middle, rfl, served, onward⟩
    simp only [run, served, Option.bind_some]
    exact onward

/-- A sequence runs as far as its first part does, and then as its second. -/
theorem run_bind {program : Program κ ρ ε α} {rest : α → Program κ ρ ε β} :
    run serve world (program >>= rest) outcomes = some (result, final) ↔
      (∃ error, run serve world program outcomes = some (.error error, final) ∧
        result = .error error) ∨
      ∃ value middle first second, outcomes = first ++ second ∧
        run serve world program first = some (.ok value, middle) ∧
        run serve middle (rest value) second = some (result, final) := by
  induction program generalizing world outcomes with
  | done value =>
    constructor
    · intro ran
      exact Or.inr ⟨value, world, [], outcomes, rfl, rfl, ran⟩
    · rintro (⟨error, ran, _⟩ | ⟨other, middle, first, second, rfl, ran, onward⟩)
      · cases (run_done.mp ran).2.1
      · obtain ⟨rfl, same, rfl⟩ := run_done.mp ran
        cases same
        exact onward
  | raise error =>
    constructor
    · intro ran
      obtain ⟨rfl, rfl, rfl⟩ := run_raise.mp ran
      exact Or.inl ⟨error, rfl, rfl⟩
    · rintro (⟨other, ran, rfl⟩ | ⟨other, middle, first, second, rfl, ran, onward⟩)
      · obtain ⟨rfl, same, rfl⟩ := run_raise.mp ran
        cases same
        rfl
      · cases (run_raise.mp ran).2.1
  | call request next ih =>
    rw [call_bind, run_call]
    constructor
    · rintro ⟨outcome, tail, answer, after, rfl, served, onward⟩
      rcases (ih answer).mp onward with ⟨error, ran, same⟩ | ⟨value, middle, first, second, rfl, ran, ended⟩
      · exact Or.inl ⟨error, run_call.mpr ⟨outcome, tail, answer, after, rfl, served, ran⟩, same⟩
      · exact Or.inr ⟨value, middle, outcome :: first, second, rfl,
          run_call.mpr ⟨outcome, first, answer, after, rfl, served, ran⟩, ended⟩
    · rintro (⟨error, ran, same⟩ | ⟨value, middle, first, second, rfl, ran, ended⟩)
      · obtain ⟨outcome, tail, answer, after, rfl, served, onward⟩ := run_call.mp ran
        exact ⟨outcome, tail, answer, after, rfl, served, (ih answer).mpr (Or.inl ⟨error, onward, same⟩)⟩
      · obtain ⟨outcome, tail, answer, after, rfl, served, onward⟩ := run_call.mp ran
        exact ⟨outcome, tail ++ second, answer, after, rfl, served,
          (ih answer).mpr (Or.inr ⟨value, middle, tail, second, rfl, onward, ended⟩)⟩

theorem run_mapError {change : ε → ε} {program : Program κ ρ ε α} :
    run serve world (program.mapError change) outcomes = some (result, final) ↔
      ∃ inner, run serve world program outcomes = some (inner, final) ∧
        result = inner.mapError change := by
  induction program generalizing world outcomes with
  | done value =>
    constructor
    · intro ran
      obtain ⟨rfl, rfl, rfl⟩ := run_done.mp ran
      exact ⟨_, rfl, rfl⟩
    · rintro ⟨inner, ran, rfl⟩
      obtain ⟨rfl, rfl, rfl⟩ := run_done.mp ran
      rfl
  | raise error =>
    constructor
    · intro ran
      obtain ⟨rfl, rfl, rfl⟩ := run_raise.mp ran
      exact ⟨_, rfl, rfl⟩
    · rintro ⟨inner, ran, rfl⟩
      obtain ⟨rfl, rfl, rfl⟩ := run_raise.mp ran
      rfl
  | call request next ih =>
    constructor
    · intro ran
      obtain ⟨outcome, tail, answer, after, rfl, served, onward⟩ := run_call.mp ran
      obtain ⟨inner, ran, same⟩ := (ih answer).mp onward
      exact ⟨inner, run_call.mpr ⟨outcome, tail, answer, after, rfl, served, ran⟩, same⟩
    · rintro ⟨inner, ran, same⟩
      obtain ⟨outcome, tail, answer, after, rfl, served, onward⟩ := run_call.mp ran
      exact run_call.mpr ⟨outcome, tail, answer, after, rfl, served,
        (ih answer).mpr ⟨inner, onward, same⟩⟩

end Alone

/-! ### In a world that answers every call -/

section Total

variable {handle : σ → (request : κ) → Except ε (ρ request) × σ}

/-- A program in a world that takes every call one way. -/
def eval (handle : σ → (request : κ) → Except ε (ρ request) × σ) :
    Program κ ρ ε α → σ → Except ε α × σ
  | done value, world => (.ok value, world)
  | raise error, world => (.error error, world)
  | call request next, world =>
    (next (handle world request).1).eval handle (handle world request).2

theorem eval_bind_ok {program : Program κ ρ ε α} (rest : α → Program κ ρ ε β)
    (first : program.eval handle world = (.ok value, middle)) :
    (program >>= rest).eval handle world = (rest value).eval handle middle := by
  induction program generalizing world with
  | done value =>
    cases first
    rfl
  | raise error => cases first
  | call request next ih => exact ih _ first

theorem eval_bind_error {program : Program κ ρ ε α} (rest : α → Program κ ρ ε β)
    (first : program.eval handle world = (.error error, middle)) :
    (program >>= rest).eval handle world = (.error error, middle) := by
  induction program generalizing world with
  | done value => cases first
  | raise error =>
    cases first
    rfl
  | call request next ih => exact ih _ first

theorem eval_attempt (program : Program κ ρ ε α) (world : σ) :
    program.attempt.eval handle world =
      (.ok (program.eval handle world).1, (program.eval handle world).2) := by
  induction program generalizing world with
  | done value => rfl
  | raise error => rfl
  | call request next ih => exact ih _ _

theorem eval_perform (handled : handle world request = (.ok value, after)) :
    (perform request : Program κ ρ ε (ρ request)).eval handle world = (.ok value, after) := by
  simp only [perform, eval, handled]

theorem eval_mapError (change : ε → ε) (program : Program κ ρ ε α) (world : σ) :
    (program.mapError change).eval handle world =
      ((program.eval handle world).1.mapError change, (program.eval handle world).2) := by
  induction program generalizing world with
  | done value => rfl
  | raise error => rfl
  | call request next ih => exact ih _ _

end Total

/-! ### The invariant rule -/

section Confinement

-- What every call may count on, what a call may do, and which calls may be made.
variable (inv : σ → Prop)
  (may : σ → (request : κ) → Except ε (ρ request) → σ → Prop) (asks : κ → Prop)

/-- Whatever happens between its calls, as long as the invariant holds when one
is made: only such calls are made, each of them keeps the invariant, and the
value returned is right. -/
def Confined (post : α → Prop) : Program κ ρ ε α → Prop
  | done value => post value
  | raise _ => True
  | call request next => asks request ∧ ∀ world answer after, inv world →
      may world request answer after → inv after ∧ Confined post (next answer)

variable {inv may asks} {post : α → Prop} {then' : β → Prop}

theorem confined_perform (request : κ) (post : ρ request → Prop) (asked : asks request)
    (kept : ∀ world answer after, inv world → may world request answer after →
      inv after ∧ ∀ value, answer = .ok value → post value) :
    Confined inv may asks post (perform request) := by
  refine ⟨asked, ?_⟩
  intro world answer after held does
  obtain ⟨still, returned⟩ := kept world answer after held does
  cases answer with
  | ok value => exact ⟨still, returned value rfl⟩
  | error error => exact ⟨still, trivial⟩

/-- One call goes as well before another program, where that is confined as well. -/
theorem confined_call {request : κ} {next : Except ε (ρ request) → Program κ ρ ε α}
    {next' : Except ε (ρ request) → Program κ ρ ε β}
    (confined : Confined inv may asks post (call request next))
    (onward : ∀ answer, Confined inv may asks post (next answer) →
      Confined inv may asks then' (next' answer)) :
    Confined inv may asks then' (call request next') := by
  refine ⟨confined.1, ?_⟩
  intro world answer after held does
  obtain ⟨still, rest⟩ := confined.2 world answer after held does
  exact ⟨still, onward answer rest⟩

theorem confined_bind {program : Program κ ρ ε α} {rest : α → Program κ ρ ε β}
    (first : Confined inv may asks post program)
    (onward : ∀ value, post value → Confined inv may asks then' (rest value)) :
    Confined inv may asks then' (program >>= rest) := by
  induction program with
  | done value => exact onward value first
  | raise error => trivial
  | call request next ih => exact confined_call first fun answer rest => ih answer rest

theorem confined_mapError {program : Program κ ρ ε α}
    (confined : Confined inv may asks post program) (change : ε → ε) :
    Confined inv may asks post (program.mapError change) := by
  induction program with
  | done value => exact confined
  | raise error => trivial
  | call request next ih => exact confined_call confined fun answer rest => ih answer rest

theorem confined_attempt {program : Program κ ρ ε α}
    (confined : Confined inv may asks post program) :
    Confined inv may asks (fun result => ∀ value, result = .ok value → post value)
      program.attempt := by
  induction program with
  | done value =>
    intro other same
    cases same
    exact confined
  | raise error => nofun
  | call request next ih => exact confined_call confined fun answer rest => ih answer rest

theorem confined_weaken {weaker : α → Prop} {program : Program κ ρ ε α}
    (confined : Confined inv may asks post program)
    (implies : ∀ value, post value → weaker value) : Confined inv may asks weaker program := by
  induction program with
  | done value => exact implies value confined
  | raise error => trivial
  | call request next ih => exact confined_call confined fun answer rest => ih answer rest

/-- The rule for a program on its own. -/
theorem confined_run {serve : σ → ω → (request : κ) → Option (Except ε (ρ request) × σ)}
    (serves : ∀ world outcome request answer after,
      serve world outcome request = some (answer, after) → may world request answer after)
    {program : Program κ ρ ε α} (confined : Confined inv may asks post program) (held : inv world)
    (ran : run serve world program outcomes = some (result, final)) :
    inv final ∧ ∀ value, result = .ok value → post value := by
  induction program generalizing world outcomes with
  | done value =>
    obtain ⟨_, rfl, rfl⟩ := run_done.mp ran
    refine ⟨held, ?_⟩
    intro other same
    cases same
    exact confined
  | raise error =>
    obtain ⟨_, rfl, rfl⟩ := run_raise.mp ran
    refine ⟨held, ?_⟩
    rintro value ⟨⟩
  | call request next ih =>
    obtain ⟨outcome, rest, answer, middle, rfl, served, onward⟩ := run_call.mp ran
    obtain ⟨still, confined⟩ := confined.2 world answer middle held (serves _ _ _ _ _ served)
    exact ih answer confined still onward

end Confinement

section Safety

variable (inv : σ → Prop)
  (may : σ → (request : κ) → Except ε (ρ request) → σ → Prop)

/-- The same for a program that may make any call. -/
def Safe (post : α → Prop) : Program κ ρ ε α → Prop
  | done value => post value
  | raise _ => True
  | call request next => ∀ world answer after, inv world → may world request answer after →
      inv after ∧ Safe post (next answer)

variable {inv may} {post : α → Prop} {then' : β → Prop}

theorem safe_iff_confined {program : Program κ ρ ε α} :
    Safe inv may post program ↔ Confined inv may (fun _ => True) post program := by
  induction program with
  | done value => exact Iff.rfl
  | raise error => exact Iff.rfl
  | call request next ih => simp only [Safe, Confined, true_and, ih]

theorem safe_perform (request : κ) (post : ρ request → Prop)
    (kept : ∀ world answer after, inv world → may world request answer after →
      inv after ∧ ∀ value, answer = .ok value → post value) :
    Safe inv may post (perform request) :=
  safe_iff_confined.mpr (confined_perform request post trivial kept)

theorem safe_bind {program : Program κ ρ ε α} {rest : α → Program κ ρ ε β}
    (first : Safe inv may post program) (onward : ∀ value, post value → Safe inv may then' (rest value)) :
    Safe inv may then' (program >>= rest) :=
  safe_iff_confined.mpr (confined_bind (safe_iff_confined.mp first) fun value held =>
    safe_iff_confined.mp (onward value held))

theorem safe_mapError {program : Program κ ρ ε α} (safe : Safe inv may post program)
    (change : ε → ε) : Safe inv may post (program.mapError change) :=
  safe_iff_confined.mpr (confined_mapError (safe_iff_confined.mp safe) change)

theorem safe_attempt {program : Program κ ρ ε α} (safe : Safe inv may post program) :
    Safe inv may (fun result => ∀ value, result = .ok value → post value) program.attempt :=
  safe_iff_confined.mpr (confined_attempt (safe_iff_confined.mp safe))

theorem safe_weaken {weaker : α → Prop} {program : Program κ ρ ε α}
    (safe : Safe inv may post program) (implies : ∀ value, post value → weaker value) :
    Safe inv may weaker program :=
  safe_iff_confined.mpr (confined_weaken (safe_iff_confined.mp safe) implies)

theorem safe_run {serve : σ → ω → (request : κ) → Option (Except ε (ρ request) × σ)}
    (serves : ∀ world outcome request answer after,
      serve world outcome request = some (answer, after) → may world request answer after)
    {program : Program κ ρ ε α} (safe : Safe inv may post program) (held : inv world)
    (ran : run serve world program outcomes = some (result, final)) :
    inv final ∧ ∀ value, result = .ok value → post value :=
  confined_run serves (safe_iff_confined.mp safe) held ran

end Safety

end Program

/-! ### Interleaved -/

/-- A shared world and the programs at work in it, each with its role. A program
that has ended stays, with what it returned or raised. -/
structure Pool (σ τ : Type) (κ : Type) (ρ : κ → Type) (ε α : Type) where
  world : σ
  programs : List (τ × Program κ ρ ε α)

/-- A program enters the pool, or one makes its next call. -/
inductive PoolEvent (ι ω : Type) where
  | enters (input : ι)
  | moves (index : Nat) (outcome : ω)

/-- How programs come about: on an input from outside, and after another one has
returned. -/
structure Spawning (ι τ : Type) (κ : Type) (ρ : κ → Type) (ε α : Type) where
  entering : ι → τ × Program κ ρ ε α
  following : α → List (τ × Program κ ρ ε α)

section Pool

variable {ι τ : Type} {serve : σ → ω → (request : κ) → Option (Except ε (ρ request) × σ)}
  {spawning : Spawning ι τ κ ρ ε α}

def Spawning.after (spawning : Spawning ι τ κ ρ ε α) :
    Program κ ρ ε α → List (τ × Program κ ρ ε α)
  | .done value => spawning.following value
  | _ => []

def Pool.step (serve : σ → ω → (request : κ) → Option (Except ε (ρ request) × σ))
    (spawning : Spawning ι τ κ ρ ε α) (pool : Pool σ τ κ ρ ε α) :
    PoolEvent ι ω → Option (Pool σ τ κ ρ ε α)
  | .enters input => some { pool with programs := pool.programs ++ [spawning.entering input] }
  | .moves index outcome =>
    match pool.programs[index]? with
    | some (role, .call request next) =>
      (serve pool.world outcome request).map fun served => {
        world := served.2
        programs := pool.programs.set index (role, next served.1) ++
          spawning.after (next served.1) }
    | _ => none

/-- The programs that come about in a world, in any interleaving. -/
def pooled (serve : σ → ω → (request : κ) → Option (Except ε (ρ request) × σ))
    (spawning : Spawning ι τ κ ρ ε α) (world : σ) : Machine (Pool σ τ κ ρ ε α) (PoolEvent ι ω) :=
  ⟨⟨world, []⟩, Pool.step serve spawning⟩

section Step

variable {pool next : Pool σ τ κ ρ ε α}

theorem pool_moves (stepped : (pooled serve spawning world).step pool (.moves index outcome) =
      some next) :
    ∃ role request rest answer after, pool.programs[index]? = some (role, .call request rest) ∧
      serve pool.world outcome request = some (answer, after) ∧
      next = ⟨after, pool.programs.set index (role, rest answer) ++
        spawning.after (rest answer)⟩ := by
  simp only [pooled, Pool.step] at stepped
  split at stepped
  case h_2 => cases stepped
  rename_i role request rest found
  obtain ⟨⟨answer, after⟩, served, rfl⟩ := Option.map_eq_some_iff.mp stepped
  exact ⟨role, request, rest, answer, after, found, served, rfl⟩

/-- Where a program of the next state comes from: it was there, it has entered, it
has made its call, or it comes after the one that has, and has returned. -/
inductive Descends (serve : σ → ω → (request : κ) → Option (Except ε (ρ request) × σ))
    (spawning : Spawning ι τ κ ρ ε α) (pool next : Pool σ τ κ ρ ε α) :
    PoolEvent ι ω → τ × Program κ ρ ε α → Prop where
  | stayed (there : program ∈ pool.programs) : Descends serve spawning pool next event program
  | entered (input : ι) :
      Descends serve spawning pool next (.enters input) (spawning.entering input)
  | moved (found : pool.programs[index]? = some (role, .call request rest))
      (served : serve pool.world outcome request = some (answer, next.world)) :
      Descends serve spawning pool next (.moves index outcome) (role, rest answer)
  | follows (found : pool.programs[index]? = some (role, .call request rest))
      (served : serve pool.world outcome request = some (answer, next.world))
      (returned : rest answer = .done value) (ended : (role, .done value) ∈ next.programs)
      (spawned : program ∈ spawning.following value) :
      Descends serve spawning pool next (.moves index outcome) program

theorem pool_descends (stepped : (pooled serve spawning world).step pool event = some next)
    (member : program ∈ next.programs) : Descends serve spawning pool next event program := by
  cases event with
  | enters input =>
    cases stepped
    rcases List.mem_append.mp member with there | fresh
    · exact .stayed there
    · rw [List.mem_singleton.mp fresh]
      exact .entered input
  | moves index outcome =>
    obtain ⟨role, request, rest, answer, after, found, served, rfl⟩ := pool_moves stepped
    rcases List.mem_append.mp member with same | fresh
    · rcases List.mem_or_eq_of_mem_set same with there | rfl
      · exact .stayed there
      · exact .moved found served
    · cases shape : rest answer with
      | done value =>
        rw [shape] at fresh
        refine .follows found served shape ?_ fresh
        have inside : index < pool.programs.length := (List.getElem?_eq_some_iff.mp found).1
        rw [← shape]
        exact List.mem_append_left _ (List.mem_of_getElem? (List.getElem?_set_self inside))
      | raise error => simp [shape, Spawning.after] at fresh
      | call request next => simp [shape, Spawning.after] at fresh

end Step

/-- The call that an event makes, if it makes one, is permitted to its caller in
this world and with this outcome. -/
def Allows (permits : τ → σ → ω → κ → Prop) (pool : Pool σ τ κ ρ ε α) :
    PoolEvent ι ω → Prop
  | .enters _ => True
  | .moves index outcome => ∀ role request rest,
      pool.programs[index]? = some (role, .call request rest) →
      permits role pool.world outcome request

/-- Every call of the run is permitted. -/
def Respects (serve : σ → ω → (request : κ) → Option (Except ε (ρ request) × σ))
    (spawning : Spawning ι τ κ ρ ε α) (world : σ) (permits : τ → σ → ω → κ → Prop)
    (events : List (PoolEvent ι ω)) : Prop :=
  ∀ pool event next, (pooled serve spawning world).Occurs events pool event next →
    Allows permits pool event

/-- What a call of a program in this role may do. -/
def Permitted (serve : σ → ω → (request : κ) → Option (Except ε (ρ request) × σ))
    (permits : τ → σ → ω → κ → Prop) (role : τ) (world : σ) (request : κ)
    (answer : Except ε (ρ request)) (after : σ) : Prop :=
  ∃ outcome, permits role world outcome request ∧
    serve world outcome request = some (answer, after)

/-- The rule for a pool: when every program that comes about is confined, it
stays so and the invariant holds throughout. -/
theorem pool_confined {asks : τ → κ → Prop} {inv : σ → Prop} {permits : τ → σ → ω → κ → Prop} {post : α → Prop}
    (initial : inv world)
    (entering : ∀ input, ((spawning.entering input).2.Confined inv
      (Permitted serve permits (spawning.entering input).1)
      (asks (spawning.entering input).1) post))
    (following : ∀ value, post value → ∀ program ∈ spawning.following value,
      program.2.Confined inv (Permitted serve permits program.1) (asks program.1) post)
    (respects : Respects serve spawning world permits events)
    (ran : (pooled serve spawning world).run events = some pool) :
    inv pool.world ∧ ∀ program ∈ pool.programs,
      program.2.Confined inv (Permitted serve permits program.1) (asks program.1) post := by
  revert respects
  refine Machine.run_induction (P := fun events (pool : Pool σ τ κ ρ ε α) =>
    Respects serve spawning world permits events → inv pool.world ∧ ∀ program ∈ pool.programs,
      program.2.Confined inv (Permitted serve permits program.1) (asks program.1) post) ?_ ?_ ran
  · intro _
    exact ⟨initial, nofun⟩
  · intro events pool event next reached held stepped respects
    have earlier : Respects serve spawning world permits events := by
      intro before event after occurs
      exact respects before event after (Machine.occurs_snoc.mpr (Or.inl occurs))
    obtain ⟨kept, safe⟩ := held earlier
    have moved : ∀ {index outcome role request rest answer after}, event = .moves index outcome →
        pool.programs[index]? = some (role, .call request rest) →
        serve pool.world outcome request = some (answer, after) → inv after ∧
          (rest answer).Confined inv (Permitted serve permits role) (asks role) post := by
      rintro index outcome role request rest answer after rfl found served
      have permitted := respects pool _ _ (Machine.occurs_snoc.mpr (Or.inr ⟨rfl, reached, stepped⟩))
        role request rest found
      exact (safe _ (List.mem_of_getElem? found)).2 pool.world answer after kept
        ⟨outcome, permitted, served⟩
    constructor
    · cases event with
      | enters input =>
        cases stepped
        exact kept
      | moves index outcome =>
        obtain ⟨_, _, _, _, _, found, served, rfl⟩ := pool_moves stepped
        exact (moved rfl found served).1
    · intro program member
      cases pool_descends stepped member with
      | stayed there => exact safe program there
      | entered input => exact entering input
      | moved found served => exact (moved rfl found served).2
      | follows found served returned ended spawned =>
        have ends := (moved rfl found served).2
        rw [returned] at ends
        exact following _ ends program spawned

/-- The rule for programs that may make any call. -/
theorem pool_safe {inv : σ → Prop} {permits : τ → σ → ω → κ → Prop} {post : α → Prop}
    (initial : inv world)
    (entering : ∀ input, ((spawning.entering input).2.Safe inv
      (Permitted serve permits (spawning.entering input).1) post))
    (following : ∀ value, post value → ∀ program ∈ spawning.following value,
      program.2.Safe inv (Permitted serve permits program.1) post)
    (respects : Respects serve spawning world permits events)
    (ran : (pooled serve spawning world).run events = some pool) :
    inv pool.world ∧ ∀ program ∈ pool.programs,
      program.2.Safe inv (Permitted serve permits program.1) post := by
  obtain ⟨kept, confined⟩ := @pool_confined _ _ _ _ _ _ _ _ serve spawning world events pool (fun _ _ => True) inv permits
    post initial
    (fun input => Program.safe_iff_confined.mp (entering input))
    (fun value held program member =>
      Program.safe_iff_confined.mp (following value held program member)) respects ran
  exact ⟨kept, fun program member => Program.safe_iff_confined.mpr (confined program member)⟩

/-- What a step of a confined pool asks for. -/
theorem pool_asks {asks : τ → κ → Prop} {inv : σ → Prop} {may : τ → σ → (request : κ) →
      Except ε (ρ request) → σ → Prop} {post : α → Prop} {pool : Pool σ τ κ ρ ε α}
    (confined : ∀ program ∈ pool.programs,
      program.2.Confined inv (may program.1) (asks program.1) post)
    (stepped : (pooled serve spawning world).step pool (.moves index outcome) = some next) :
    ∃ role request rest answer, pool.programs[index]? = some (role, .call request rest) ∧
      asks role request ∧ serve pool.world outcome request = some (answer, next.world) := by
  simp only [pooled, Pool.step] at stepped
  split at stepped
  case h_2 => cases stepped
  rename_i role request rest found
  obtain ⟨⟨answer, after⟩, served, rfl⟩ := Option.map_eq_some_iff.mp stepped
  exact ⟨role, request, rest, answer, found, (confined _ (List.mem_of_getElem? found)).1, served⟩

/-- Check a run for a decidable permission, event by event. -/
def respectsFrom (serve : σ → ω → (request : κ) → Option (Except ε (ρ request) × σ))
    (spawning : Spawning ι τ κ ρ ε α) (permits : τ → σ → ω → κ → Bool)
    (pool : Pool σ τ κ ρ ε α) : List (PoolEvent ι ω) → Bool
  | [] => true
  | event :: rest =>
    (match event with
      | .enters _ => true
      | .moves index outcome =>
        match pool.programs[index]? with
        | some (role, .call request _) => permits role pool.world outcome request
        | _ => true) &&
      match Pool.step serve spawning pool event with
      | some next => respectsFrom serve spawning permits next rest
      | none => true

theorem respects_of_check {permits : τ → σ → ω → κ → Bool}
    (checked : respectsFrom serve spawning permits ⟨world, []⟩ events = true) :
    Respects serve spawning world (fun role world outcome request =>
      permits role world outcome request = true) events := by
  rintro pool event next ⟨first, rest, rfl, reached, _⟩
  have general : ∀ start : Pool σ τ κ ρ ε α,
      respectsFrom serve spawning permits start (first ++ event :: rest) = true →
      (pooled serve spawning world).runFrom start first = some pool →
      Allows (fun role world outcome request => permits role world outcome request = true)
        pool event := by
    clear checked reached
    induction first with
    | nil =>
      intro start checked reached
      cases reached
      simp only [List.nil_append, respectsFrom, Bool.and_eq_true] at checked
      cases event with
      | enters input => trivial
      | moves index outcome =>
        intro role request rest found
        simpa [found] using checked.1
    | cons head first ih =>
      intro start checked reached
      obtain ⟨middle, stepped, onward⟩ := Machine.runFrom_cons.mp reached
      have moved : Pool.step serve spawning start head = some middle := stepped
      simp only [List.cons_append, respectsFrom, moved, Bool.and_eq_true] at checked
      exact ih middle checked.2 onward
  exact general _ checked reached

/-! ### Where programs come from -/

section Lineage

/-- A world that these events take the pool through. -/
def OnTheWay (machine : Machine (Pool σ τ κ ρ ε α) (PoolEvent ι ω)) (pool : Pool σ τ κ ρ ε α)
    (events : List (PoolEvent ι ω)) (world : σ) : Prop :=
  ∃ middle, machine.Passes pool events middle ∧ middle.world = world

theorem onTheWay_last {machine : Machine (Pool σ τ κ ρ ε α) (PoolEvent ι ω)}
    {pool final : Pool σ τ κ ρ ε α} (ran : machine.runFrom pool events = some final) :
    OnTheWay machine pool events final.world := ⟨final, Machine.passes_last ran, rfl⟩

theorem onTheWay_append {machine : Machine (Pool σ τ κ ρ ε α) (PoolEvent ι ω)}
    {pool : Pool σ τ κ ρ ε α} (way : OnTheWay machine pool events world) :
    OnTheWay machine pool (events ++ more) world := by
  obtain ⟨middle, passes, same⟩ := way
  exact ⟨middle, Machine.passes_append passes, same⟩

variable {pool next : Pool σ τ κ ρ ε α}

/-- What a program has ended with stays. -/
theorem pool_done_step (stepped : (pooled serve spawning world).step pool event = some next)
    (ended : (role, .done value) ∈ pool.programs) : (role, .done value) ∈ next.programs := by
  cases event with
  | enters input =>
    cases stepped
    exact List.mem_append_left _ ended
  | moves index outcome =>
    obtain ⟨role', request, rest, answer, after, found, _, rfl⟩ := pool_moves stepped
    obtain ⟨place, here⟩ := List.mem_iff_getElem?.mp ended
    have other : index ≠ place := by
      rintro rfl
      cases found.symm.trans here
    refine List.mem_append_left _ (List.mem_of_getElem? (i := place) ?_)
    rw [List.getElem?_set_ne other]
    exact here

theorem pool_done_run
    (onward : (pooled serve spawning world).runFrom pool events = some next)
    (ended : (role, .done value) ∈ pool.programs) : (role, .done value) ∈ next.programs :=
  Machine.runFrom_invariant (P := fun pool : Pool σ τ κ ρ ε α => (role, .done value) ∈ pool.programs)
    (fun _ _ _ held stepped => pool_done_step stepped held) ended onward

/-- A role that is taken stays taken. -/
theorem pool_role_step (stepped : (pooled serve spawning world).step pool event = some next)
    (taken : ∃ program, (role, program) ∈ pool.programs) :
    ∃ program, (role, program) ∈ next.programs := by
  obtain ⟨program, member⟩ := taken
  cases event with
  | enters input =>
    cases stepped
    exact ⟨program, List.mem_append_left _ member⟩
  | moves index outcome =>
    obtain ⟨role', request, rest, answer, after, found, _, rfl⟩ := pool_moves stepped
    obtain ⟨place, here⟩ := List.mem_iff_getElem?.mp member
    by_cases same : index = place
    · subst same
      cases found.symm.trans here
      have inside := (List.getElem?_eq_some_iff.mp found).1
      exact ⟨rest answer, List.mem_append_left _ (List.mem_of_getElem? (i := index)
        (List.getElem?_set_self inside))⟩
    · refine ⟨program, List.mem_append_left _ (List.mem_of_getElem? (i := place) ?_)⟩
      rw [List.getElem?_set_ne same]
      exact here

theorem pool_role_run (onward : (pooled serve spawning world).runFrom pool events = some next)
    (taken : ∃ program, (role, program) ∈ pool.programs) :
    ∃ program, (role, program) ∈ next.programs :=
  Machine.runFrom_invariant (P := fun pool : Pool σ τ κ ρ ε α =>
    ∃ program, (role, program) ∈ pool.programs)
    (fun _ _ _ held stepped => pool_role_step stepped held) taken onward

/-- Each program of a pool has come in from outside, or after one that is there
and has ended; and is still such a program as it was then, after calls in worlds
that the pool has passed through. -/
theorem pool_lineage (entered : τ → Program κ ρ ε α → Prop)
    (caused : α → τ → Program κ ρ ε α → Prop) {passed : σ → Prop}
    (entering : ∀ input, entered (spawning.entering input).1 (spawning.entering input).2)
    (following : ∀ value, ∀ program ∈ spawning.following value, caused value program.1 program.2)
    (entered_on : ∀ role request rest world outcome answer after, passed world →
      entered role (.call request rest) → serve world outcome request = some (answer, after) →
      entered role (rest answer))
    (caused_on : ∀ value role request rest world outcome answer after, passed world →
      caused value role (.call request rest) → serve world outcome request = some (answer, after) →
      caused value role (rest answer))
    (ran : (pooled serve spawning world).run events = some pool)
    (way : ∀ reached, OnTheWay (pooled serve spawning world) ⟨world, []⟩ events reached →
      passed reached) :
    ∀ program ∈ pool.programs, entered program.1 program.2 ∨
      ∃ role value, (role, .done value) ∈ pool.programs ∧ caused value program.1 program.2 := by
  refine Machine.run_induction (P := fun events (pool : Pool σ τ κ ρ ε α) =>
    (∀ reached, OnTheWay (pooled serve spawning world) ⟨world, []⟩ events reached → passed reached) →
    ∀ program ∈ pool.programs, entered program.1 program.2 ∨
      ∃ role value, (role, .done value) ∈ pool.programs ∧ caused value program.1 program.2)
    ?_ ?_ ran way
  · exact fun _ => nofun
  · intro events pool event next before held stepped way program member
    have held := held fun reached earlier => way reached (onTheWay_append earlier)
    have here : passed pool.world := way _ (onTheWay_append (onTheWay_last before))
    have stays : ∀ role value, (role, .done value) ∈ pool.programs →
        (role, .done value) ∈ next.programs := fun _ _ => pool_done_step stepped
    cases pool_descends stepped member with
    | stayed there =>
      rcases held program there with outside | ⟨role, value, ended, cause⟩
      · exact Or.inl outside
      · exact Or.inr ⟨role, value, stays role value ended, cause⟩
    | entered input => exact Or.inl (entering input)
    | moved found served =>
      rcases held _ (List.mem_of_getElem? found) with outside | ⟨parent, value, ended, cause⟩
      · exact Or.inl (entered_on _ _ _ _ _ _ _ here outside served)
      · exact Or.inr ⟨parent, value, stays parent value ended,
          caused_on _ _ _ _ _ _ _ _ here cause served⟩
    | follows found served returned ended spawned =>
      exact Or.inr ⟨_, _, ended, following _ program spawned⟩

end Lineage

end Pool

end Calls
