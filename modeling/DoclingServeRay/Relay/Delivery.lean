import DoclingServeRay.Relay.Callback
import DoclingServeRay.Orchestration.History

/-! The relay between docling and the workflows: requests arrive in any order
and number, `SignalWorkflow` may fail in every way, and workflows start, run and
close meanwhile. Signals reach workflows through the relay alone. -/
namespace DoclingServeRay.Relay
open Strings EventMachine

variable {β : Type} {token : Text} {decoder : Decoder β} {request : Request β}
  {signal : SignalCall → Option SignalError}

/-! ### What one request carries -/

/-- A decoded callback as the workflow's event, where it is a task's terminal
one. -/
def terminal? (received : ProgressCallback) : Option Orchestration.TaskCompleted :=
  if received.progress.kind = kindTaskCompleted ∧ received.taskId ≠ [] then
    (Orchestration.TaskStatus.ofText received.progress.taskStatus).map fun status => {
      taskId := received.taskId
      taskStatus := status
      errorMessage := received.progress.failure.map Failure.message }
  else none

/-- The terminal event in a request with the right token. -/
def carried (token : Text) (decoder : Decoder β) (request : Request β) :
    Option Orchestration.TaskCompleted :=
  if token ≠ [] ∧ request.header tokenHeader = token then
    ((decoder.value request.body).bind decodeCallback).bind terminal?
  else none

/-- How the relay answers a terminal event. -/
def answer : Option SignalError → Reply
  | none => ack
  | some .notFound => ack
  | some .other => httpError "temporal unavailable".toList 503

theorem answer_acknowledges (result : Option SignalError) :
    (answer result).status = 200 ↔ result = none ∨ result = some .notFound := by
  cases result with
  | none => exact ⟨fun _ => Or.inl rfl, fun _ => rfl⟩
  | some error =>
    cases error with
    | notFound => exact ⟨fun _ => Or.inr rfl, fun _ => rfl⟩
    | other => simp [answer, httpError]

theorem terminal_iff (status : Text) :
    (status ≠ statusSuccess ∧ status ≠ statusFailure) ↔
      Orchestration.TaskStatus.ofText status = none := by
  unfold Orchestration.TaskStatus.ofText statusSuccess statusFailure
  split
  · simp_all
  · split <;> simp_all

/-- A request without the right token is refused and signals nothing. -/
theorem callback_unauthorized (wrong : token = [] ∨ request.header tokenHeader ≠ token) :
    callback token decoder signal request =
      (httpError "invalid callback token".toList 401, []) := by
  rw [callback, if_pos wrong]

theorem carried_eq_some (carries : carried token decoder request = some event) :
    (token ≠ [] ∧ request.header tokenHeader = token) ∧
      ∃ received, (decoder.value request.body).bind decodeCallback = some received ∧
        terminal? received = some event := by
  unfold carried at carries
  split at carries
  case isFalse => cases carries
  rename_i right
  exact ⟨right, Option.bind_eq_some_iff.mp carries⟩

theorem terminal_eq_some (terminal : terminal? received = some event) :
    received.progress.kind = kindTaskCompleted ∧
      ¬ (received.taskId = [] ∨ (received.progress.taskStatus ≠ statusSuccess ∧
        received.progress.taskStatus ≠ statusFailure)) ∧
      decodeEvent (encode (terminalEvent received)) = some event := by
  unfold terminal? at terminal
  split at terminal
  case isFalse => cases terminal
  rename_i shape
  obtain ⟨status, known, rfl⟩ := Option.map_eq_some_iff.mp terminal
  refine ⟨shape.1, ?_, ?_⟩
  · rw [terminal_iff, known]
    simpa using shape.2
  · rw [decode_encode]
    simp [terminalEvent, known]

theorem terminal_eq_none (terminal : terminal? received = none) :
    received.progress.kind ≠ kindTaskCompleted ∨ received.taskId = [] ∨
      (received.progress.taskStatus ≠ statusSuccess ∧
        received.progress.taskStatus ≠ statusFailure) := by
  rw [terminal_iff]
  unfold terminal? at terminal
  split at terminal
  · exact Or.inr (Or.inr (Option.map_eq_none_iff.mp terminal))
  · rename_i shape
    rcases not_and_or.mp shape with other | nameless
    · exact Or.inl other
    · exact Or.inr (Or.inl (not_not.mp nameless))

/-- What a request carries is signalled once, under the name and to the workflow
it is meant for, and the answer tells how that went. -/
theorem callback_carried (carries : carried token decoder request = some event) :
    ∃ call, callback token decoder signal request = (answer (signal call), [call]) ∧
      call.workflowId = request.workflowId ∧
      call.signalName = Orchestration.taskCompletedSignal ∧
      decodeEvent (encode call.arg) = some event := by
  obtain ⟨right, received, decoded, terminal⟩ := carried_eq_some carries
  obtain ⟨completes, accepted, arrives⟩ := terminal_eq_some terminal
  have authorized : ¬ (token = [] ∨ request.header tokenHeader ≠ token) := by simpa using right
  refine ⟨⟨request.workflowId, signalName, terminalEvent received⟩, ?_, rfl, rfl, arrives⟩
  rw [callback, if_neg authorized, decoded]
  simp only [completes, ne_eq, not_true_eq_false, ↓reduceIte]
  rw [if_neg accepted]
  split <;> rename_i result <;> rw [result] <;> rfl

/-- A request that carries nothing signals nothing. -/
theorem callback_uncarried (nothing : carried token decoder request = none) :
    (callback token decoder signal request).2 = [] := by
  unfold callback
  split
  · rfl
  rename_i authorized
  have right : token ≠ [] ∧ request.header tokenHeader = token := by simpa using authorized
  cases decoded : (decoder.value request.body).bind decodeCallback with
  | none => rfl
  | some received =>
    rw [carried, if_pos right, decoded] at nothing
    rcases terminal_eq_none nothing with other | refused
    · simp [other]
    · dsimp only
      split
      · rfl
      · rfl

theorem callback_signals_once : (callback token decoder signal request).2.length ≤ 1 := by
  cases carries : carried token decoder request with
  | none =>
    rw [callback_uncarried carries]
    exact Nat.zero_le 1
  | some event =>
    obtain ⟨call, called, _⟩ := @callback_carried _ _ _ _ signal _ carries
    rw [called]
    exact Nat.le_refl 1

/-! ### The relay among the workflows -/

/-- What a call of `SignalWorkflow` came to: whether the signal landed, and what
the caller was told. -/
structure Signaled where
  landed : Bool
  error : Option SignalError
  deriving DecidableEq

/-- A signal lands only on an open workflow, success means that it landed, and
an open workflow that the signal did not reach is never reported as missing. -/
def Signaled.possible (signaled : Signaled) (isOpen : Bool) : Bool :=
  (isOpen || !signaled.landed) &&
    match signaled.error with
    | none => signaled.landed
    | some .notFound => signaled.landed || !isOpen
    | some .other => true

/-- A request that is lost on the way is no traffic, and one that is repeated is
posted again. -/
inductive Traffic (β : Type) where
  /-- A workflow starts under an id that no open one has. -/
  | starts (workflowId : Text) (env : Orchestration.Env)
  /-- A workflow receives anything but a signal. -/
  | proceeds (workflowId : Text) (event : Orchestration.Event)
  /-- A request reaches the relay, and its signal Temporal as told. -/
  | posts (now : Orchestration.Instant) (request : Request β) (signaled : Signaled)

/-- The latest run under a workflow id. -/
structure Execution where
  env : Orchestration.Env
  state : Orchestration.WorkflowState

abbrev Workflows := Text → Option Execution

def isOpen (workflows : Workflows) (workflowId : Text) : Bool :=
  match workflows workflowId with
  | some execution => execution.state.await.outcome?.isNone
  | none => false

def advance (workflows : Workflows) (workflowId : Text) (event : Orchestration.Event) :
    Option Workflows :=
  (workflows workflowId).bind fun execution =>
    (Orchestration.step execution.env execution.state event).map fun next =>
      Function.update workflows workflowId (some { execution with state := next })

/-- Temporal takes a signal to the workflow's handler of that name; an argument
that does not decode is dropped. -/
def deliver (now : Orchestration.Instant) (signaled : Signaled) (workflows : Workflows)
    (call : SignalCall) : Option Workflows :=
  if signaled.possible (isOpen workflows call.workflowId) then
    if signaled.landed ∧ call.signalName = Orchestration.taskCompletedSignal then
      match decodeEvent (encode call.arg) with
      | some event => advance workflows call.workflowId ⟨now, .signal event⟩
      | none => some workflows
    else some workflows
  else none

def relayStep (token : Text) (decoder : Decoder β) (workflows : Workflows) :
    Traffic β → Option Workflows
  | .starts workflowId env =>
    if isOpen workflows workflowId then none
    else some (Function.update workflows workflowId (some ⟨env, Orchestration.start env⟩))
  | .proceeds workflowId event =>
    if event.signal?.isSome then none else advance workflows workflowId event
  | .posts now request signaled =>
    (callback token decoder (fun _ => signaled.error) request).2.foldlM (deliver now signaled)
      workflows

def relayed (token : Text) (decoder : Decoder β) : Machine Workflows (Traffic β) :=
  ⟨fun _ => none, relayStep token decoder⟩

/-! ### What has landed on a workflow -/

/-- The events that landed on the latest run under an id, oldest first. -/
def landedAfter (token : Text) (decoder : Decoder β) (workflowId : Text)
    (before : List Orchestration.TaskCompleted) : Traffic β → List Orchestration.TaskCompleted
  | .starts started _ => if started = workflowId then [] else before
  | .proceeds _ _ => before
  | .posts _ request signaled =>
    if signaled.landed ∧ request.workflowId = workflowId then
      before ++ (carried token decoder request).toList
    else before

def landed (token : Text) (decoder : Decoder β) (traffic : List (Traffic β)) (workflowId : Text) :
    List Orchestration.TaskCompleted :=
  traffic.foldl (landedAfter token decoder workflowId) []

theorem landed_snoc (traffic : List (Traffic β)) (last : Traffic β) (workflowId : Text) :
    landed token decoder (traffic ++ [last]) workflowId =
      landedAfter token decoder workflowId (landed token decoder traffic workflowId) last := by
  simp [landed]

/-! ### Along a run -/

section Steps

variable {workflows next : Workflows} {signaled : Signaled}

theorem advance_eq_some (advanced : advance workflows workflowId event = some next) :
    ∃ execution after, workflows workflowId = some execution ∧
      Orchestration.step execution.env execution.state event = some after ∧
      next = Function.update workflows workflowId (some { execution with state := after }) := by
  obtain ⟨execution, known, stepped⟩ := Option.bind_eq_some_iff.mp advanced
  obtain ⟨after, moved, rfl⟩ := Option.map_eq_some_iff.mp stepped
  exact ⟨execution, after, known, moved, rfl⟩

/-- A request that carries nothing leaves every workflow alone. -/
theorem posts_uncarried (nothing : carried token decoder request = none)
    (stepped : relayStep token decoder workflows (.posts now request signaled) = some next) :
    next = workflows := by
  rw [relayStep, callback_uncarried nothing] at stepped
  exact (Option.some.inj stepped).symm

/-- What a request carries reaches its workflow where the signal lands, and
nothing else changes. -/
theorem posts_carried (carries : carried token decoder request = some event)
    (stepped : relayStep token decoder workflows (.posts now request signaled) = some next) :
    signaled.possible (isOpen workflows request.workflowId) = true ∧
      (signaled.landed = true →
        advance workflows request.workflowId ⟨now, .signal event⟩ = some next) ∧
      (signaled.landed = false → next = workflows) := by
  obtain ⟨call, called, addressed, named, arrives⟩ :=
    @callback_carried _ _ _ _ (fun _ => signaled.error) _ carries
  rw [relayStep, called] at stepped
  have delivered : deliver now signaled workflows call = some next := by
    simpa using stepped
  rw [deliver, addressed, named, arrives] at delivered
  split at delivered
  case isFalse => cases delivered
  rename_i possible
  refine ⟨possible, ?_, ?_⟩
  · intro landed
    simpa [landed] using delivered
  · intro missed
    simpa [missed] using delivered.symm

/-- Every workflow's state is what a run of its own comes to that hears the
signals listed for it. -/
def Hears (heard : Text → List Orchestration.TaskCompleted) (workflows : Workflows) : Prop :=
  ∀ workflowId execution, workflows workflowId = some execution →
    ∃ events, (Orchestration.workflow execution.env).run events = some execution.state ∧
      Orchestration.signals events = heard workflowId

variable {heard after : Text → List Orchestration.TaskCompleted}

theorem hears_start (hears : Hears heard workflows) (env : Orchestration.Env)
    (others : ∀ other ≠ workflowId, after other = heard other) (fresh : after workflowId = []) :
    Hears after
      (Function.update workflows workflowId (some ⟨env, Orchestration.start env⟩)) := by
  intro probe execution known
  by_cases same : probe = workflowId
  · subst same
    rw [Function.update_self] at known
    cases known
    exact ⟨[], rfl, fresh.symm⟩
  · rw [Function.update_of_ne same] at known
    rw [others probe same]
    exact hears probe execution known

theorem hears_advance (hears : Hears heard workflows)
    (advanced : advance workflows workflowId event = some next)
    (others : ∀ other ≠ workflowId, after other = heard other)
    (here : after workflowId = heard workflowId ++ event.signal?.toList) : Hears after next := by
  obtain ⟨execution, moved, known, stepped, rfl⟩ := advance_eq_some advanced
  intro probe found present
  by_cases same : probe = workflowId
  · subst same
    rw [Function.update_self] at present
    cases present
    obtain ⟨events, ran, listed⟩ := hears probe execution known
    refine ⟨events ++ [event], Machine.run_snoc.mpr ⟨execution.state, ran, stepped⟩, ?_⟩
    rw [Orchestration.signals_snoc, listed, here]
  · rw [Function.update_of_ne same] at present
    rw [others probe same]
    exact hears probe found present

/-- One step keeps the workflows level with what has landed. -/
theorem hears_step {traffic : List (Traffic β)} {last : Traffic β}
    (hears : Hears (landed token decoder traffic) workflows)
    (stepped : relayStep token decoder workflows last = some next) :
    Hears (landed token decoder (traffic ++ [last])) next := by
  cases last with
  | starts workflowId env =>
    simp only [relayStep] at stepped
    split at stepped
    · cases stepped
    cases stepped
    refine hears_start hears env ?_ ?_
    · intro other distinct
      rw [landed_snoc, landedAfter, if_neg (Ne.symm distinct)]
    · rw [landed_snoc, landedAfter, if_pos rfl]
  | proceeds workflowId event =>
    simp only [relayStep] at stepped
    split at stepped
    · cases stepped
    rename_i silent
    refine hears_advance hears stepped (fun other _ => landed_snoc ..) ?_
    rw [landed_snoc, landedAfter, Option.not_isSome_iff_eq_none.mp silent]
    simp
  | posts now request signaled =>
    cases carries : carried token decoder request with
    | none =>
      rw [posts_uncarried carries stepped]
      intro workflowId execution known
      rw [landed_snoc, landedAfter, carries]
      simpa using hears workflowId execution known
    | some event =>
      obtain ⟨_, reached, missed⟩ := posts_carried carries stepped
      cases landing : signaled.landed with
      | true =>
        refine hears_advance hears (reached landing) ?_ ?_
        · intro other distinct
          rw [landed_snoc, landedAfter, if_neg fun both => distinct both.2.symm]
        · rw [landed_snoc, landedAfter, if_pos ⟨landing, rfl⟩, carries]
          rfl
      | false =>
        rw [missed landing]
        intro workflowId execution known
        rw [landed_snoc, landedAfter, landing, if_neg fun both => absurd both.1 Bool.false_ne_true]
        exact hears workflowId execution known

end Steps

section Runs

variable {traffic rest : List (Traffic β)} {workflows : Workflows}

theorem hears_run (ran : (relayed token decoder).run traffic = some workflows) :
    Hears (landed token decoder traffic) workflows := by
  refine Machine.run_induction (P := fun traffic workflows =>
    Hears (landed token decoder traffic) workflows) ?_ ?_ ran
  · intro workflowId execution known
    cases known
  · intro traffic workflows last next _ hears stepped
    exact hears_step hears stepped

/-- What landed on a run stays landed until another run starts. -/
theorem landed_persists (current : ∀ env, .starts workflowId env ∉ rest)
    (held : event ∈ landed token decoder traffic workflowId) :
    event ∈ landed token decoder (traffic ++ rest) workflowId := by
  induction rest using List.reverseRecOn with
  | nil => simpa using held
  | append_singleton rest last ih =>
    rw [← List.append_assoc, landed_snoc]
    have before := ih fun env member => current env (by simp [member])
    cases last with
    | starts started env =>
      by_cases same : started = workflowId
      · subst same
        exact absurd (by simp) (current env)
      · rwa [landedAfter, if_neg same]
    | proceeds other happened => exact before
    | posts now request signaled =>
      rw [landedAfter]
      split
      · exact List.mem_append_left _ before
      · exact before

theorem known_step (known : (workflows workflowId).isSome = true)
    (stepped : relayStep token decoder workflows last = some next) :
    (next workflowId).isSome = true := by
  have kept : ∀ changed execution, (Function.update workflows changed (some execution)
      workflowId).isSome = true := by
    intro changed execution
    by_cases same : workflowId = changed
    · simp [same]
    · simpa [same] using known
  have advances : ∀ changed event, advance workflows changed event = some next →
      (next workflowId).isSome = true := by
    intro changed event advanced
    obtain ⟨execution, after, _, _, rfl⟩ := advance_eq_some advanced
    exact kept changed _
  cases last with
  | starts started env =>
    simp only [relayStep] at stepped
    split at stepped
    · cases stepped
    cases stepped
    exact kept started _
  | proceeds changed event =>
    simp only [relayStep] at stepped
    split at stepped
    · cases stepped
    exact advances changed event stepped
  | posts now request signaled =>
    cases carries : carried token decoder request with
    | none => rwa [posts_uncarried carries stepped]
    | some event =>
      obtain ⟨_, reached, missed⟩ := posts_carried carries stepped
      cases landing : signaled.landed with
      | true => exact advances _ _ (reached landing)
      | false => rwa [missed landing]

theorem completed_landed (ran : (relayed token decoder).run traffic = some workflows)
    (known : workflows workflowId = some execution) (taskId : Text) :
    execution.state.completed.get? taskId =
      (landed token decoder traffic workflowId).find? fun event => event.taskId = taskId := by
  obtain ⟨events, ran, listed⟩ := hears_run ran workflowId execution known
  rw [Orchestration.completed_firstSignal ran taskId, ← listed]
  rfl

/-- A signal for an open workflow that was answered with 200 has landed. -/
theorem acknowledged_landed {signaled : Signaled} (possible : signaled.possible true = true)
    (acknowledged : (answer signaled.error).status = 200) : signaled.landed = true := by
  obtain ⟨landed, error⟩ := signaled
  cases error with
  | none => simpa [Signaled.possible] using possible
  | some error =>
    cases error with
    | notFound => simpa [Signaled.possible] using possible
    | other => cases acknowledged

/-- An acknowledged event for an open workflow is in its `_completed`, there and
then and until another run starts. -/
theorem acknowledged_completed
    (ran : (relayed token decoder).run (before ++ .posts now request signaled :: rest) =
      some workflows)
    (carries : carried token decoder request = some event)
    (acknowledged : (answer signaled.error).status = 200)
    (reached : (relayed token decoder).run before = some earlier)
    (opened : isOpen earlier request.workflowId = true)
    (current : ∀ env, .starts request.workflowId env ∉ rest) :
    ∃ execution, workflows request.workflowId = some execution ∧
      (execution.state.completed.get? event.taskId).isSome = true := by
  obtain ⟨middle, first, onward⟩ := Machine.run_append.mp ran
  obtain rfl : earlier = middle := Option.some.inj (reached.symm.trans first)
  obtain ⟨next, moved, finished⟩ := Machine.runFrom_cons.mp onward
  have stepped : relayStep token decoder earlier (.posts now request signaled) = some next := moved
  obtain ⟨possible, _, _⟩ := posts_carried carries stepped
  rw [opened] at possible
  have arrived := acknowledged_landed possible acknowledged
  have known : (earlier request.workflowId).isSome = true := by
    unfold isOpen at opened
    split at opened
    · rename_i execution found
      rw [found]
      rfl
    · cases opened
  have still : (workflows request.workflowId).isSome = true :=
    Machine.runFrom_invariant (P := fun workflows : Workflows =>
      (workflows request.workflowId).isSome = true)
      (fun _ _ _ held took => known_step held took) (known_step known stepped) finished
  obtain ⟨execution, found⟩ := Option.isSome_iff_exists.mp still
  refine ⟨execution, found, ?_⟩
  rw [completed_landed ran found, List.find?_isSome]
  refine ⟨event, ?_, by simp⟩
  have here : event ∈ landed token decoder (before ++ [.posts now request signaled])
      request.workflowId := by
    rw [landed_snoc, landedAfter, if_pos ⟨arrived, rfl⟩, carries]
    simp
  have there := landed_persists current here
  rwa [List.append_assoc, List.singleton_append] at there

end Runs

/-- Whatever docling and others send, and whatever becomes of the signals: a
workflow knows of a task the first event that landed for it; a terminal event is
acknowledged exactly when Temporal took it or has no such workflow, and is then
known to an open one; and one request signals at most once, and without the
right token not at all. -/
theorem callbacks_delivered (token : Text) (decoder : Decoder β) :
    (∀ traffic workflows, (relayed token decoder).run traffic = some workflows →
      ∀ workflowId execution, workflows workflowId = some execution → ∀ taskId,
        execution.state.completed.get? taskId =
          (landed token decoder traffic workflowId).find? fun event => event.taskId = taskId) ∧
    (∀ request event, carried token decoder request = some event →
      ∀ signal : SignalCall → Option SignalError, ∃ call,
        (callback token decoder signal request).2 = [call] ∧
        ((callback token decoder signal request).1.status = 200 ↔
          signal call = none ∨ signal call = some .notFound) ∧
        (signal call = some .other → (callback token decoder signal request).1.status = 503)) ∧
    (∀ before now request signaled rest workflows earlier event,
      (relayed token decoder).run (before ++ .posts now request signaled :: rest) =
        some workflows →
      carried token decoder request = some event →
      (callback token decoder (fun _ => signaled.error) request).1.status = 200 →
      (relayed token decoder).run before = some earlier →
      isOpen earlier request.workflowId = true →
      (∀ env, .starts request.workflowId env ∉ rest) →
      ∃ execution, workflows request.workflowId = some execution ∧
        (execution.state.completed.get? event.taskId).isSome = true) ∧
    ∀ (request : Request β) (signal : SignalCall → Option SignalError),
      (callback token decoder signal request).2.length ≤ 1 ∧
        (token = [] ∨ request.header tokenHeader ≠ token →
          (callback token decoder signal request).1.status = 401 ∧
            (callback token decoder signal request).2 = []) := by
  refine ⟨?_, ?_, ?_, ?_⟩
  · intro traffic workflows ran workflowId execution known taskId
    exact completed_landed ran known taskId
  · intro request event carries signal
    obtain ⟨call, called, _⟩ := @callback_carried _ _ _ _ signal _ carries
    refine ⟨call, ?_⟩
    rw [called]
    exact ⟨rfl, answer_acknowledges _, fun failed => by rw [failed]; rfl⟩
  · intro before now request signaled rest workflows earlier event ran carries acknowledged
      reached opened current
    obtain ⟨call, called, _⟩ := @callback_carried _ _ _ _ (fun _ => signaled.error) _ carries
    rw [called] at acknowledged
    exact acknowledged_completed ran carries acknowledged reached opened current
  · intro request signal
    refine ⟨callback_signals_once, ?_⟩
    intro wrong
    rw [callback_unauthorized wrong]
    exact ⟨rfl, rfl⟩

/-- A terminal callback for a task, posted with or without the token. -/
def postedFor (headers : OrderedDict Text Text) (taskId status : Text) (signaled : Signaled) :
    Traffic Json :=
  .posts 0 ⟨"w".toList, headers,
    payload ⟨taskId, ⟨kindTaskCompleted, status, some ⟨"late".toList⟩⟩⟩⟩ signaled

/-- A forged callback, a genuine one whose signal lands although the call fails,
and the retry, which says something else. -/
def retried : List (Traffic Json) :=
  let genuine := OrderedDict.empty.set tokenHeader "secret".toList
  [.starts "w".toList (Orchestration.plainEnv 300 600),
    .proceeds "w".toList (Orchestration.accepted "t".toList),
    postedFor .empty "t".toList statusFailure ⟨true, none⟩,
    postedFor genuine "t".toList statusSuccess ⟨true, some .other⟩,
    postedFor genuine "t".toList statusFailure ⟨true, none⟩]

def plainDecoder : Decoder Json := ⟨some, fun _ => []⟩

theorem callbacks_delivered_retried :
    ∃ workflows execution, (relayed "secret".toList plainDecoder).run retried = some workflows ∧
      workflows "w".toList = some execution ∧
      execution.state.completed.get? "t".toList =
        some ⟨"t".toList, .success, some "late".toList⟩ := by
  have goes : ((relayed "secret".toList plainDecoder).run retried).any
      (fun workflows => (workflows "w".toList).isSome) = true := by decide +kernel
  obtain ⟨workflows, ran, known⟩ := (Option.any_eq_true _ _).mp goes
  obtain ⟨execution, found⟩ := Option.isSome_iff_exists.mp known
  refine ⟨workflows, execution, ran, found, ?_⟩
  rw [(callbacks_delivered "secret".toList plainDecoder).1 retried workflows ran _ _ found]
  decide

end DoclingServeRay.Relay
