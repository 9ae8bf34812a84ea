import DoclingServeRay.Lib.Calls

/-! What holds when a program that makes calls has ended, as a condition on the
world it starts in, which calls it makes on the way, and what it returns. -/
namespace Calls
namespace Program

variable {κ : Type} {ρ : κ → Type} {ε α β σ ω : Type}

/-! ### Weakest preconditions -/

section Ends

variable (serve : σ → ω → (request : κ) → Option (Except ε (ρ request) × σ))

/-- However the calls turn out, the program ends in this way if it ends. -/
def Ends (post : Except ε α → σ → Prop) : Program κ ρ ε α → σ → Prop
  | done value, world => post (.ok value) world
  | raise error, world => post (.error error) world
  | call request next, world => ∀ outcome answer after,
      serve world outcome request = some (answer, after) → Ends post (next answer) after

variable {serve} {post weaker : Except ε α → σ → Prop} {then' : Except ε β → σ → Prop}

/-- The condition is exactly what runs show. -/
theorem ends_iff_run {program : Program κ ρ ε α} :
    program.Ends serve post world ↔ ∀ outcomes result after,
      run serve world program outcomes = some (result, after) → post result after := by
  induction program generalizing world with
  | done value =>
    constructor
    · intro held outcomes result after ran
      obtain ⟨_, rfl, rfl⟩ := run_done.mp ran
      exact held
    · intro held
      exact held [] _ _ rfl
  | raise error =>
    constructor
    · intro held outcomes result after ran
      obtain ⟨_, rfl, rfl⟩ := run_raise.mp ran
      exact held
    · intro held
      exact held [] _ _ rfl
  | call request next ih =>
    constructor
    · intro held outcomes result after ran
      obtain ⟨outcome, rest, answer, middle, rfl, served, onward⟩ := run_call.mp ran
      exact (ih answer).mp (held outcome answer middle served) rest result after onward
    · intro held outcome answer middle served
      apply (ih answer).mpr
      intro outcomes result after onward
      exact held (outcome :: outcomes) result after
        (run_call.mpr ⟨outcome, outcomes, answer, middle, rfl, served, onward⟩)

/-- Two calls of one request end alike when what follows them does. -/
theorem ends_call_congr {request : κ} {next : Except ε (ρ request) → Program κ ρ ε α}
    {next' : Except ε (ρ request) → Program κ ρ ε β}
    (same : ∀ answer after, (next answer).Ends serve post after ↔
      (next' answer).Ends serve then' after) :
    (call request next).Ends serve post world ↔ (call request next').Ends serve then' world :=
  forall_congr' fun _ => forall_congr' fun answer => forall_congr' fun after =>
    imp_congr_right fun _ => same answer after

theorem ends_bind (program : Program κ ρ ε α) (rest : α → Program κ ρ ε β) (world : σ) :
    (program >>= rest).Ends serve then' world ↔
      program.Ends serve (fun result after =>
        match result with
        | .ok value => (rest value).Ends serve then' after
        | .error error => then' (.error error) after) world := by
  induction program generalizing world with
  | done value => exact Iff.rfl
  | raise error => exact Iff.rfl
  | call request next ih => exact ends_call_congr fun answer after => ih answer after

/-- What a program ends with is right when it is wherever a first part ends. -/
theorem ends_bind_anywhere {program : Program κ ρ ε α} {rest : α → Program κ ρ ε β}
    (raised : ∀ error world, then' (.error error) world)
    (onward : ∀ value world, (rest value).Ends serve then' world) (world : σ) :
    (program >>= rest).Ends serve then' world := by
  induction program generalizing world with
  | done value => exact onward value world
  | raise error => exact raised error world
  | call request next ih =>
    intro outcome answer after _
    exact ih answer after

theorem ends_mapError (change : ε → ε) (program : Program κ ρ ε α) (world : σ) :
    (program.mapError change).Ends serve post world ↔
      program.Ends serve (fun result after => post (result.mapError change) after) world := by
  induction program generalizing world with
  | done value => exact Iff.rfl
  | raise error => exact Iff.rfl
  | call request next ih => exact ends_call_congr fun answer after => ih answer after

theorem ends_attempt {post : Except ε (Except ε α) → σ → Prop} (program : Program κ ρ ε α)
    (world : σ) :
    program.attempt.Ends serve post world ↔
      program.Ends serve (fun result after => post (.ok result) after) world := by
  induction program generalizing world with
  | done value => exact Iff.rfl
  | raise error => exact Iff.rfl
  | call request next ih => exact ends_call_congr fun answer after => ih answer after

theorem ends_perform {request : κ} {post : Except ε (ρ request) → σ → Prop} (world : σ) :
    (perform request).Ends serve post world ↔ ∀ outcome answer after,
      serve world outcome request = some (answer, after) → post answer after := by
  refine forall_congr' fun outcome => forall_congr' fun answer => forall_congr' fun after =>
    imp_congr_right fun _ => ?_
  cases answer with
  | ok value => exact Iff.rfl
  | error error => exact Iff.rfl

theorem ends_mono {program : Program κ ρ ε α}
    (implies : ∀ result after, post result after → weaker result after)
    (ends : program.Ends serve post world) : program.Ends serve weaker world := by
  induction program generalizing world with
  | done value => exact implies _ _ ends
  | raise error => exact implies _ _ ends
  | call request next ih =>
    intro outcome answer after served
    exact ih answer (ends outcome answer after served)

end Ends

/-! ### The calls of a run -/

section Requests

/-- The calls that a program makes, as far as there are outcomes for them. -/
def requests (serve : σ → ω → (request : κ) → Option (Except ε (ρ request) × σ)) (world : σ) :
    Program κ ρ ε α → List ω → List κ
  | call request next, outcome :: rest =>
    request :: match serve world outcome request with
      | some (answer, after) => requests serve after (next answer) rest
      | none => []
  | _, _ => []

variable {serve : σ → ω → (request : κ) → Option (Except ε (ρ request) × σ)} {asks : κ → Prop}

/-- Whatever it is answered, the program makes such calls only. -/
def AsksOnly (asks : κ → Prop) : Program κ ρ ε α → Prop
  | done _ => True
  | raise _ => True
  | call request next => asks request ∧ ∀ answer, AsksOnly asks (next answer)

theorem asks_perform {request : κ} (asked : asks request) :
    (perform request : Program κ ρ ε (ρ request)).AsksOnly asks := by
  refine ⟨asked, ?_⟩
  intro answer
  cases answer with
  | ok value => trivial
  | error error => trivial

theorem asks_bind {program : Program κ ρ ε α} {rest : α → Program κ ρ ε β}
    (first : program.AsksOnly asks) (onward : ∀ value, (rest value).AsksOnly asks) :
    (program >>= rest).AsksOnly asks := by
  induction program with
  | done value => exact onward value
  | raise error => trivial
  | call request next ih => exact ⟨first.1, fun answer => ih answer (first.2 answer)⟩

theorem asks_mapError {program : Program κ ρ ε α} (asked : program.AsksOnly asks)
    (change : ε → ε) : (program.mapError change).AsksOnly asks := by
  induction program with
  | done value => trivial
  | raise error => trivial
  | call request next ih => exact ⟨asked.1, fun answer => ih answer (asked.2 answer)⟩

theorem asks_requests {program : Program κ ρ ε α} (asked : program.AsksOnly asks)
    (member : request ∈ requests serve world program outcomes) : asks request := by
  induction program generalizing world outcomes with
  | done value => cases outcomes <;> cases member
  | raise error => cases outcomes <;> cases member
  | call first next ih =>
    cases outcomes with
    | nil => cases member
    | cons outcome outcomes =>
      rw [requests] at member
      rcases List.mem_cons.mp member with rfl | later
      · exact asked.1
      · split at later
        · exact ih _ (asked.2 _) later
        · cases later

/-- What such calls keep, a run keeps. -/
theorem asks_run {inv : σ → Prop} {program : Program κ ρ ε α} (asked : program.AsksOnly asks)
    (kept : ∀ world outcome request answer after, asks request →
      serve world outcome request = some (answer, after) → inv world → inv after)
    (held : inv world) (ran : run serve world program outcomes = some (result, final)) :
    inv final := by
  induction program generalizing world outcomes with
  | done value =>
    obtain ⟨_, _, rfl⟩ := run_done.mp ran
    exact held
  | raise error =>
    obtain ⟨_, _, rfl⟩ := run_raise.mp ran
    exact held
  | call request next ih =>
    obtain ⟨outcome, rest, answer, middle, rfl, served, onward⟩ := run_call.mp ran
    exact ih answer (asked.2 answer) (kept _ _ _ _ _ asked.1 served held) onward

theorem asks_confined {inv : σ → Prop} {may : σ → (request : κ) → Except ε (ρ request) → σ → Prop}
    {program : Program κ ρ ε α} (asked : program.AsksOnly asks)
    (kept : ∀ world request answer after, asks request → may world request answer after →
      inv world → inv after) : program.Confined inv may asks (fun _ => True) := by
  induction program with
  | done value => trivial
  | raise error => trivial
  | call request next ih =>
    refine ⟨asked.1, ?_⟩
    intro world answer after held does
    exact ⟨kept world request answer after asked.1 does held, ih answer (asked.2 answer)⟩

end Requests

/-! ### What comes back -/

/-- Where there is nothing to keep, only the last part counts. -/
theorem safe_last {may : σ → (request : κ) → Except ε (ρ request) → σ → Prop} {post : β → Prop}
    {program : Program κ ρ ε α} {rest : α → Program κ ρ ε β}
    (onward : ∀ value, (rest value).Safe (fun _ => True) may post) :
    (program >>= rest).Safe (fun _ => True) may post := by
  induction program with
  | done value => exact onward value
  | raise error => trivial
  | call request next ih => exact fun world answer after _ _ => ⟨trivial, ih answer⟩

end Program

/-- The rule for programs that make such calls only: what these keep holds in
every interleaving. -/
theorem pool_asking {κ ι τ ε α σ ω : Type} {ρ : κ → Type}
    {serve : σ → ω → (request : κ) → Option (Except ε (ρ request) × σ)}
    {spawning : Spawning ι τ κ ρ ε α} {asks : κ → Prop} {inv : σ → Prop}
    {events : List (PoolEvent ι ω)} {world : σ} {pool : Pool σ τ κ ρ ε α} (initial : inv world)
    (entering : ∀ input, (spawning.entering input).2.AsksOnly asks)
    (following : ∀ value, ∀ program ∈ spawning.following value, program.2.AsksOnly asks)
    (kept : ∀ world outcome request answer after, asks request →
      serve world outcome request = some (answer, after) → inv world → inv after)
    (ran : (pooled serve spawning world).run events = some pool) : inv pool.world := by
  have keeps : ∀ role : τ, ∀ world request answer after, asks request →
      Permitted serve (fun _ _ _ _ => True) role world request answer after →
      inv world → inv after := by
    rintro role world request answer after asked ⟨outcome, _, served⟩ held
    exact kept world outcome request answer after asked served held
  have free : Respects serve spawning world (fun _ _ _ _ => True) events := by
    intro pool event next _
    cases event with
    | enters input => trivial
    | moves index outcome => exact fun _ _ _ _ => trivial
  exact (@pool_confined _ _ _ _ _ _ _ _ serve spawning world events pool (fun _ => asks) inv
    (fun _ _ _ _ => True) (fun _ => True) initial
    (fun input => Program.asks_confined (entering input) (keeps _))
    (fun value _ program member => Program.asks_confined (following value program member) (keeps _))
    free ran).1

end Calls
