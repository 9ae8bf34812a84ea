import DoclingServeRay.Orchestration.Verdict

/-! All the runs of one document, one after the other, beside the docling tasks
they submit. Every task writes under the document's one output prefix and what
it writes stays there, so a listing may show what an earlier task left, or a task
that no run knows of, or a document whose own prefix lies below. A run returns on
the strength of its own task's counts, or, once these have expired, on the
strength of the listing alone. -/
namespace DoclingServeRay.Orchestration
open Strings EventMachine

/-- What docling-serve and S3 hold about the document. -/
structure Docling where
  /-- The accepted tasks, with the formats asked of each. -/
  tasks : OrderedDict Text (List Text)
  /-- The results of the tasks that have ended. -/
  results : OrderedDict Text ResultBody
  /-- The keys under the document's output prefix, each with the task that wrote
  it, or with none if something else did. -/
  written : List (Option Text × Text)

/-- The task itself wrote a key that ends in `.json`. -/
def Docling.WroteJson (docling : Docling) (taskId : Text) : Prop :=
  ∃ entry ∈ docling.written, entry.1 = some taskId ∧ jsonSuffix <:+ entry.2

instance (docling : Docling) (taskId : Text) : Decidable (docling.WroteJson taskId) :=
  inferInstanceAs (Decidable
    (∃ entry ∈ docling.written, entry.1 = some taskId ∧ jsonSuffix <:+ entry.2))

structure World where
  docling : Docling
  current : Option (Env × WorkflowState)

inductive Occurrence where
  /-- A run of the document's workflow starts; there is one at a time. -/
  | starts (env : Env)
  | reaches (event : Event)
  /-- A key comes to be under the prefix. Its author need not be known here: a
  submit that timed out may still have been accepted. -/
  | writes (author : Option Text) (key : Text)
  | finishes (taskId : Text) (result : ResultBody)

def Attempt.response? : Attempt ρ → Option ρ
  | .answered response => some response
  | _ => none

/-- The formats that the body of a submit asks for. -/
def submittedFormats (inp : ConvertInput) : List Text :=
  match (submitInput inp).options.get? "to_formats".toList with
  | some (.texts formats) => formats
  | _ => []

def ResultBody.outcome (taskId : Text) (result : ResultBody) : TaskOutcome :=
  ⟨taskId, result.numSucceeded, result.numPartiallySucceeded, result.numFailed⟩

/-- A result is truthful: it has counts, and a task that converted something has
written the JSON it was asked for. -/
def truthful (docling : Docling) (taskId : Text) (result : ResultBody) : Bool :=
  result.numSucceeded.isSome &&
    (requiredFormat ∉ (docling.tasks.get? taskId).getD [] ||
      (result.outcome taskId).produced = some 0 || docling.WroteJson taskId)

/-- What docling-serve and S3 answer: a new task id, the counts of an ended task
or a 404 (or an error), and the keys that are there. -/
def answers (docling : Docling) (state : WorkflowState) (event : Event) : Bool :=
  match event.happening, state.await with
  | .submitResolved _, _ => event.submittedId?.all fun taskId => taskId ∉ docling.tasks.keys
  | .outcomeResolved attempts, .fetchOutcome taskId =>
    (attempts.filterMap Attempt.response?).all fun response =>
      response.statusCode = notFound || response.isError || response.body = none ||
        response.body = docling.results.get? taskId
  | .outputsResolved attempts, _ =>
    (attempts.filterMap Attempt.response?).all fun pages =>
      listKeys pages ⊆ docling.written.map Prod.snd ∧ docling.written.map Prod.snd ⊆ listKeys pages
  | _, _ => true

/-- A task that was accepted is known from then on. -/
def accept (docling : Docling) (env : Env) (event : Event) : Docling :=
  match event.submittedId? with
  | some taskId => { docling with tasks := docling.tasks.set taskId (submittedFormats env.inp) }
  | none => docling

/-- No run is under way. -/
def free (world : World) : Bool :=
  match world.current with
  | some (_, state) => state.await.outcome?.isSome
  | none => true

/-- The runs of one document. Every run has the deployment's settings and the
document's input; tasks write and end whenever they do. -/
def worldStep (settings : Settings) (bucket key : Text) (world : World) :
    Occurrence → Option World
  | .starts env =>
    if free world ∧ env.settings = settings ∧ env.inp.bucket = bucket ∧ env.inp.key = key then
      some { world with current := some (env, start env) }
    else none
  | .reaches event =>
    match world.current with
    | none => none
    | some (env, state) =>
      if answers world.docling state event then
        (step env state event).map fun next =>
          { docling := accept world.docling env event, current := some (env, next) }
      else none
  | .writes author written =>
    if convertOutputPrefix settings bucket key <+: written then
      some { world with docling := { world.docling with
        written := world.docling.written ++ [(author, written)] } }
    else none
  | .finishes taskId result =>
    if taskId ∈ world.docling.tasks.keys ∧ world.docling.results.get? taskId = none ∧
        truthful world.docling taskId result then
      some { world with docling := { world.docling with
        results := world.docling.results.set taskId result } }
    else none

def document (settings : Settings) (bucket key : Text) : Machine World Occurrence :=
  ⟨⟨⟨.empty, .empty, []⟩, none⟩, worldStep settings bucket key⟩

/-! ### What a run returns on -/

variable {settings : Settings} {bucket key : Text} {world next : World}
  {history : List Occurrence} {occurrence : Occurrence} {docling : Docling} {env : Env}

/-- The task's result had expired when the run fetched it. -/
def Expired (settings : Settings) (bucket key : Text) (history : List Occurrence) (taskId : Text) :
    Prop :=
  ∃ before after now attempts response env state,
    (document settings bucket key).Occurs history before
      (.reaches ⟨now, .outcomeResolved attempts⟩) after ∧
    before.current = some (env, state) ∧ state.await = .fetchOutcome taskId ∧
    attempts.getLast? = some (.answered response) ∧ response.statusCode = notFound

/-- What speaks for a run that goes on to its listing. -/
def Vouched (settings : Settings) (bucket key : Text) (history : List Occurrence)
    (docling : Docling) (taskId : Text) : Prop :=
  docling.WroteJson taskId ∨ Expired settings bucket key history taskId

theorem expired_snoc (expired : Expired settings bucket key history taskId) :
    Expired settings bucket key (history ++ [occurrence]) taskId := by
  obtain ⟨before, after, now, attempts, response, env, state, occurs, rest⟩ := expired
  exact ⟨before, after, now, attempts, response, env, state, Machine.occurs_snoc.mpr (Or.inl occurs),
    rest⟩

/-- The JSON was requested whatever the caller asked for. -/
theorem submittedFormats_required (inp : ConvertInput) : requiredFormat ∈ submittedFormats inp := by
  have asked : submittedFormats inp = requestedFormats inp := by
    simp [submittedFormats, submitInput, OrderedDict.get?_set]
  rw [asked, requestedFormats, OrderedDict.mem_keys_fromKeys]
  exact List.mem_cons_self

/-- An outcome is either that of an expired result or what the answer says. -/
theorem fetchOutcome_ok (fetched : fetchOutcome taskId response = .ok outcome) :
    response.statusCode = notFound ∨
      (response.isError = false ∧ ∃ body, response.body = some body ∧
        outcome = body.outcome taskId) := by
  by_cases gone : response.statusCode = notFound
  · exact Or.inl gone
  · right
    rw [fetchOutcome, if_neg gone] at fetched
    cases failed : response.isError with
    | true =>
      obtain ⟨error, raised, _⟩ :=
        raiseForUpstreamStatus_error response "result fetch".toList failed
      rw [raised] at fetched
      cases fetched
    | false =>
      rw [raiseForUpstreamStatus_ok _ _ failed] at fetched
      refine ⟨rfl, ?_⟩
      cases read : response.body with
      | none =>
        simp only [readBody, read, bind, Except.bind] at fetched
        cases fetched
      | some body =>
        simp only [readBody, read, bind, Except.bind] at fetched
        cases fetched
        exact ⟨body, rfl, rfl⟩

section Workflow

variable {state after : WorkflowState} {event : Event}

theorem afterWait_await (taskId : Text) (report : TaskCompleted) :
    (afterWait env state taskId report).await = .fetchOutcome taskId ∨
      (afterWait env state taskId report).await.task? = none := by
  unfold afterWait
  split
  · exact Or.inr (raise_task _)
  · exact Or.inl rfl

/-- Only an outcome that does not say that nothing was produced leads on to the
listing. -/
theorem step_collecting (stepped : step env state event = some after)
    (pending : after.await = .collectOutputs taskId) :
    state.await = .collectOutputs taskId ∨
      (state.await = .fetchOutcome taskId ∧ ∃ now attempts outcome,
        event = ⟨now, .outcomeResolved attempts⟩ ∧
        resolve defaultRetry (fetchOutcome taskId) attempts = some (.ok outcome) ∧
        outcome.produced ≠ some 0) := by
  have fetched : ∀ about polled, Onward env (received state event) about polled after →
      state.await = .fetchOutcome taskId := by
    intro about polled onward
    cases onward with
    | left draws report source =>
      rcases afterWait_await about report with fetching | closed
      · rw [fetching] at pending
        cases pending
      · rw [pending] at closed
        cases closed
    | collecting fetching command =>
      cases pending
      rwa [received_await] at fetching
    | raised | resubmitted | polling | slept | returned => cases pending
  cases step_moved stepped with
  | stayed given asleep => exact Or.inl (received_await.symm.trans pending)
  | refused given error => cases pending
  | submitted given onward =>
    have fetching := fetched _ _ onward
    rw [submittedId_pending stepped given] at fetching
    cases fetching
  | moved given named onward =>
    have fetching := fetched _ _ onward
    refine Or.inr ⟨fetching, ?_⟩
    cases step_turn stepped with
    | signal running =>
      rcases wake_cases env (taskCompleted state _) with ⟨same, _⟩ | ⟨_, _, _, _, waiting, _⟩
      · rw [same] at pending
        cases fetching.symm.trans pending
      · cases fetching.symm.trans waiting
    | @fetched about attempts result now awaiting resolved =>
      cases awaiting.symm.trans fetching
      cases result with
      | error error => cases pending
      | ok outcome =>
        refine ⟨now, attempts, outcome, rfl, resolved, fun nothing => ?_⟩
        simp only [outcomeReturned, nothing, ↓reduceIte] at pending
        cases pending
    | cancelled running fresh =>
      rw [cancelled_fetch env _ fetching] at pending
      cases pending
    | timer waiting => cases waiting.symm.trans fetching
    | submitted awaiting => cases awaiting.symm.trans fetching
    | checked awaiting => cases awaiting.symm.trans fetching
    | collected awaiting => cases awaiting.symm.trans fetching

/-- A run returns what its listing showed, with the required format in it. -/
theorem step_returned (stepped : step env state event = some after)
    (ended : after.await = .closed (.returned result)) :
    state.await = .collectOutputs result.taskId ∧ ∃ now attempts collected,
      event = ⟨now, .outputsResolved attempts⟩ ∧
      resolve defaultRetry (fun pages => .ok (collectOutputs env.settings pages)) attempts =
        some (.ok collected) ∧
      requiredFormat ∈ collected.outputs.keys ∧ result.outputs = collected.outputs := by
  have unraised : ∀ {base : WorkflowState} {error}, (raise base error).await ≠
      .closed (.returned result) := by
    intro base error closed
    have task := @raise_task base error
    rw [closed] at task
    cases task
  have collecting : ∀ about polled, Onward env (received state event) about polled after →
      state.await = .collectOutputs result.taskId := by
    intro about polled onward
    cases onward with
    | raised error => exact absurd ended unraised
    | left draws report source =>
      rcases afterWait_await about report with fetching | closed
      · rw [fetching] at ended
        cases ended
      · rw [ended] at closed
        cases closed
    | returned collecting result' named =>
      cases ended
      rw [received_await, ← named] at collecting
      exact collecting
    | resubmitted | polling | slept | collecting => cases ended
  cases step_moved stepped with
  | stayed given asleep =>
    rw [received_await] at ended
    rw [step_closed ended] at stepped
    cases stepped
  | refused given error => exact absurd ended unraised
  | submitted given onward =>
    have pending := collecting _ _ onward
    rw [submittedId_pending stepped given] at pending
    cases pending
  | moved given named onward =>
    have pending := collecting _ _ onward
    refine ⟨pending, ?_⟩
    cases step_turn stepped with
    | signal running =>
      rcases wake_cases env (taskCompleted state _) with ⟨same, _⟩ | ⟨_, _, _, _, waiting, _⟩
      · rw [same] at ended
        cases pending.symm.trans ended
      · cases pending.symm.trans waiting
    | @collected about attempts outcome now awaiting resolved =>
      cases outcome with
      | error error => exact absurd ended unraised
      | ok collected =>
        simp only [outputsReturned] at ended
        split at ended
        · exact absurd ended unraised
        · rename_i present
          cases ended
          exact ⟨now, attempts, collected, rfl, resolved, Decidable.not_not.mp present, rfl⟩
    | cancelled running fresh =>
      rw [cancelled_collect env _ pending] at ended
      exact absurd ended unraised
    | timer waiting => cases waiting.symm.trans pending
    | submitted awaiting => cases awaiting.symm.trans pending
    | checked awaiting => cases awaiting.symm.trans pending
    | fetched awaiting => cases awaiting.symm.trans pending

end Workflow

/-! ### Whole histories -/

/-- The run's own task wrote one of the JSON keys of its result, unless the task's
result had expired. -/
def Credible (settings : Settings) (bucket key : Text) (history : List Occurrence)
    (docling : Docling) (result : ConvertResult) : Prop :=
  ∃ keys, result.outputs.get? requiredFormat = some keys ∧
    ((∃ written ∈ keys, jsonSuffix <:+ written ∧ (some result.taskId, written) ∈ docling.written) ∨
      Expired settings bucket key history result.taskId)

/-- What holds of docling's records and of the run under way. -/
structure Kept (settings : Settings) (bucket key : Text) (history : List Occurrence)
    (world : World) : Prop where
  ran : ∀ env state, world.current = some (env, state) →
    ∃ events, (workflow env).run events = some state
  asked : ∀ taskId formats, world.docling.tasks.get? taskId = some formats →
    requiredFormat ∈ formats
  counted : ∀ taskId result, world.docling.results.get? taskId = some result →
    (result.outcome taskId).produced = some 0 ∨ world.docling.WroteJson taskId
  vouched : ∀ env state taskId, world.current = some (env, state) →
    state.await = .collectOutputs taskId →
    Vouched settings bucket key history world.docling taskId
  returned : ∀ env state result, world.current = some (env, state) →
    state.await = .closed (.returned result) →
    Credible settings bucket key history world.docling result

/-- What is written stays. -/
def Grows (docling later : Docling) : Prop := docling.written ⊆ later.written

theorem Grows.wroteJson (grows : Grows docling later) (wrote : docling.WroteJson taskId) :
    later.WroteJson taskId := by
  obtain ⟨entry, member, rest⟩ := wrote
  exact ⟨entry, grows member, rest⟩

theorem Vouched.snoc (vouched : Vouched settings bucket key history docling taskId)
    (grows : Grows docling later) :
    Vouched settings bucket key (history ++ [occurrence]) later taskId :=
  vouched.imp grows.wroteJson expired_snoc

theorem Credible.snoc (credible : Credible settings bucket key history docling result)
    (grows : Grows docling later) :
    Credible settings bucket key (history ++ [occurrence]) later result := by
  obtain ⟨keys, held, own⟩ := credible
  refine ⟨keys, held, own.imp ?_ expired_snoc⟩
  rintro ⟨written, member, json, wrote⟩
  exact ⟨written, member, json, grows wrote⟩

theorem accept_grows (docling : Docling) (env : Env) (event : Event) :
    Grows docling (accept docling env event) := by
  unfold accept
  cases event.submittedId? with
  | none => exact List.Subset.refl _
  | some taskId => exact List.Subset.refl _

/-- The counts that a run goes on with are those of its task, or have expired. -/
theorem fetched_vouched (kept : Kept settings bucket key history world)
    (ran : (document settings bucket key).run history = some world)
    (running : world.current = some (env, state)) (pending : state.await = .fetchOutcome taskId)
    (answered : answers world.docling state ⟨now, .outcomeResolved attempts⟩ = true)
    (resolved : resolve defaultRetry (fetchOutcome taskId) attempts = some (.ok outcome))
    (produced : outcome.produced ≠ some 0)
    (stepped : (document settings bucket key).step world (.reaches ⟨now, .outcomeResolved attempts⟩) =
      some next) :
    Vouched settings bucket key (history ++ [.reaches ⟨now, .outcomeResolved attempts⟩])
      world.docling taskId := by
  obtain ⟨earlier, last, rfl, same⟩ := resolve_last resolved
  cases last with
  | raised => cases same
  | timedOut => cases same
  | answered response =>
    have fetched : fetchOutcome taskId response = .ok outcome := by
      simp only [Attempt.outcome] at same
      cases read : fetchOutcome taskId response with
      | ok value =>
        rw [read] at same
        cases same
        rfl
      | error error =>
        rw [read] at same
        cases same
    have expired : response.statusCode = notFound → Vouched settings bucket key
        (history ++ [.reaches ⟨now, .outcomeResolved (earlier ++ [.answered response])⟩])
        world.docling taskId := by
      intro gone
      refine Or.inr ⟨world, next, now, earlier ++ [.answered response], response, env, state, ?_,
        running, pending, List.getLast?_concat, gone⟩
      exact Machine.occurs_snoc.mpr (Or.inr ⟨rfl, ran, stepped⟩)
    rcases fetchOutcome_ok fetched with gone | ⟨fine, body, read, rfl⟩
    · exact expired gone
    · have told : response.statusCode = notFound ∨ response.isError = true ∨
          response.body = none ∨ response.body = world.docling.results.get? taskId := by
        simp only [answers, pending, List.all_eq_true] at answered
        have honest := answered response (by simp [Attempt.response?])
        simpa [or_assoc] using honest
      rcases told with gone | failed | unread | recorded
      · exact expired gone
      · rw [fine] at failed
        cases failed
      · rw [read] at unread
        cases unread
      · have counts := kept.counted taskId body (recorded.symm.trans read)
        exact Or.inl (counts.resolve_left produced)

/-- A listing shows all that is written, so also what the run's own task wrote. -/
theorem collected_credible
    (vouched : Vouched settings bucket key history world.docling result.taskId)
    (answered : answers world.docling state ⟨now, .outputsResolved attempts⟩ = true)
    (resolved : resolve defaultRetry (fun pages => .ok (collectOutputs env.settings pages)) attempts =
      some (.ok collected))
    (present : requiredFormat ∈ collected.outputs.keys)
    (outputs : result.outputs = collected.outputs) :
    Credible settings bucket key history world.docling result := by
  obtain ⟨earlier, last, rfl, same⟩ := resolve_last resolved
  cases last with
  | raised => cases same
  | timedOut => cases same
  | answered pages =>
    cases same
    have complete : listKeys pages ⊆ world.docling.written.map Prod.snd ∧
        world.docling.written.map Prod.snd ⊆ listKeys pages := by
      simp only [answers, List.all_eq_true] at answered
      simpa using answered pages (by simp [Attempt.response?])
    obtain ⟨keys, held⟩ := (OrderedDict.mem_keys_iff _ _).mp present
    have grouped : ∀ written, written ∈ keys ↔ written ∈ listKeys pages ∧ jsonSuffix <:+ written := by
      intro written
      simp only [collectOutputs, groupByFormat, OrderedDict.get?_groupBy] at held
      split at held
      · cases held
      · cases held
        simp [formatOf_required_iff]
    refine ⟨keys, outputs ▸ held, vouched.imp_left ?_⟩
    rintro ⟨⟨author, written⟩, wrote, rfl, json⟩
    have listed := complete.2 (List.mem_map.mpr ⟨_, wrote, rfl⟩)
    exact ⟨written, (grouped written).mpr ⟨listed, json⟩, json, wrote⟩

theorem kept_start : Kept settings bucket key [] (document settings bucket key).start where
  ran env state running := absurd running nofun
  asked taskId formats held := by
    have absent : (OrderedDict.empty : OrderedDict Text (List Text)).get? taskId = some formats := held
    rw [OrderedDict.get?_empty] at absent
    cases absent
  counted taskId result held := by
    have absent : (OrderedDict.empty : OrderedDict Text ResultBody).get? taskId = some result := held
    rw [OrderedDict.get?_empty] at absent
    cases absent
  vouched env state taskId running := absurd running nofun
  returned env state result running := absurd running nofun

theorem reaches_step
    (stepped : worldStep settings bucket key world (.reaches event) = some next) :
    ∃ env state after, world.current = some (env, state) ∧
      answers world.docling state event = true ∧ step env state event = some after ∧
      next = { docling := accept world.docling env event, current := some (env, after) } := by
  cases running : world.current with
  | none => simp [worldStep, running] at stepped
  | some run =>
    obtain ⟨env, state⟩ := run
    simp only [worldStep, running, Option.ite_none_right_eq_some, Option.map_eq_some_iff] at stepped
    obtain ⟨answered, after, went, rfl⟩ := stepped
    exact ⟨env, state, after, rfl, answered, went, rfl⟩

/-- An event of the run adds at most a task to docling's records. -/
theorem accept_kept (kept : Kept settings bucket key history world) (env : Env) (event : Event) :
    (∀ taskId formats, (accept world.docling env event).tasks.get? taskId = some formats →
      requiredFormat ∈ formats) ∧
    ∀ taskId result, (accept world.docling env event).results.get? taskId = some result →
      (result.outcome taskId).produced = some 0 ∨
        (accept world.docling env event).WroteJson taskId := by
  have grows := accept_grows world.docling env event
  constructor
  · intro taskId formats held
    unfold accept at held
    split at held
    · rename_i given _
      rw [OrderedDict.get?_set] at held
      split at held
      · cases held
        exact submittedFormats_required env.inp
      · exact kept.asked taskId formats held
    · exact kept.asked taskId formats held
  · intro taskId result held
    have before : world.docling.results.get? taskId = some result := by
      unfold accept at held
      split at held <;> exact held
    exact (kept.counted taskId result before).imp_right grows.wroteJson

theorem kept_reaches (kept : Kept settings bucket key history world)
    (ran : (document settings bucket key).run history = some world)
    (stepped : worldStep settings bucket key world (.reaches event) = some next) :
    Kept settings bucket key (history ++ [.reaches event]) next := by
  obtain ⟨env, state, after, running, answered, went, rfl⟩ := reaches_step stepped
  obtain ⟨asked, counted⟩ := accept_kept kept env event
  have grows := accept_grows world.docling env event
  have vouched : ∀ taskId, after.await = .collectOutputs taskId →
      Vouched settings bucket key (history ++ [.reaches event])
        (accept world.docling env event) taskId := by
    intro taskId pending
    rcases step_collecting went pending with before | ⟨fetching, now, attempts, outcome, rfl, resolved, produced⟩
    · exact (kept.vouched env state taskId running before).snoc grows
    · exact (fetched_vouched kept ran running fetching answered resolved produced stepped).imp_left
        grows.wroteJson
  refine ⟨?_, asked, counted, ?_, ?_⟩
  · rintro _ _ ⟨rfl⟩
    obtain ⟨events, reached⟩ := kept.ran env state running
    exact ⟨events ++ [event], Machine.run_snoc.mpr ⟨state, reached, went⟩⟩
  · rintro _ _ taskId ⟨rfl⟩ pending
    exact vouched taskId pending
  · rintro _ _ result ⟨rfl⟩ ended
    obtain ⟨collecting, now, attempts, collected, rfl, resolved, present, outputs⟩ :=
      step_returned went ended
    have before := kept.vouched env state result.taskId running collecting
    exact (collected_credible before answered resolved present outputs).snoc grows

/-- What docling and S3 come to hold besides takes nothing from the run. -/
theorem Kept.grown (kept : Kept settings bucket key history world)
    (grows : Grows world.docling later)
    (asked : ∀ taskId formats, later.tasks.get? taskId = some formats → requiredFormat ∈ formats)
    (counted : ∀ taskId result, later.results.get? taskId = some result →
      (result.outcome taskId).produced = some 0 ∨ later.WroteJson taskId) :
    Kept settings bucket key (history ++ [occurrence]) { world with docling := later } where
  ran := kept.ran
  asked := asked
  counted := counted
  vouched env state taskId running pending :=
    (kept.vouched env state taskId running pending).snoc grows
  returned env state result running ended :=
    (kept.returned env state result running ended).snoc grows

theorem kept_step (kept : Kept settings bucket key history world)
    (ran : (document settings bucket key).run history = some world)
    (stepped : (document settings bucket key).step world occurrence = some next) :
    Kept settings bucket key (history ++ [occurrence]) next := by
  cases occurrence with
  | reaches event => exact kept_reaches kept ran stepped
  | starts env =>
    have started : worldStep settings bucket key world (.starts env) = some next := stepped
    simp only [worldStep, Option.ite_none_right_eq_some, Option.some.injEq] at started
    obtain ⟨_, rfl⟩ := started
    exact ⟨by rintro _ _ ⟨rfl⟩; exact ⟨[], rfl⟩, kept.asked, kept.counted,
      by rintro _ _ _ ⟨rfl⟩ ⟨⟩, by rintro _ _ _ ⟨rfl⟩ ⟨⟩⟩
  | writes author written =>
    have wrote : worldStep settings bucket key world (.writes author written) = some next := stepped
    simp only [worldStep, Option.ite_none_right_eq_some, Option.some.injEq] at wrote
    obtain ⟨_, rfl⟩ := wrote
    have grows : Grows world.docling { world.docling with
        written := world.docling.written ++ [(author, written)] } :=
      List.subset_append_left _ _
    exact kept.grown grows kept.asked fun taskId result held =>
      (kept.counted taskId result held).imp_right grows.wroteJson
  | finishes taskId result =>
    have finished : worldStep settings bucket key world (.finishes taskId result) = some next := stepped
    simp only [worldStep, Option.ite_none_right_eq_some, Option.some.injEq] at finished
    obtain ⟨⟨known, _, honest⟩, rfl⟩ := finished
    have grows : Grows world.docling { world.docling with
        results := world.docling.results.set taskId result } :=
      List.Subset.refl _
    refine kept.grown grows kept.asked fun other counts held => ?_
    rw [OrderedDict.get?_set] at held
    split at held
    · rename_i same
      cases held
      subst same
      obtain ⟨formats, asked⟩ := (OrderedDict.mem_keys_iff _ _).mp known
      have required := kept.asked other formats asked
      simp only [truthful, asked, Option.getD_some, required, not_true_eq_false, decide_false,
        Bool.false_or, Bool.and_eq_true, Bool.or_eq_true, decide_eq_true_eq] at honest
      exact honest.2
    · exact kept.counted other counts held

theorem history_kept (ran : (document settings bucket key).run history = some world) :
    Kept settings bucket key history world :=
  Machine.run_induction (P := Kept settings bucket key) kept_start
    (fun _ _ _ _ reached kept stepped => kept_step kept reached stepped) ran

/-! ### The verdict of a run -/

/-- The document was rejected: `ConversionFailed` or `MissingOutputs`. -/
def Outcome.isRejection : Outcome → Bool
  | .failed (.application error) =>
    error.type = some .conversionFailed || error.type = some .missingOutputs
  | _ => false

/-- An activity failed for good, or the run was cancelled. -/
def Outcome.isInterruption : Outcome → Bool
  | .failed (.activity _) => true
  | .cancelled => true
  | _ => false

/-- How a run ends whose wait has returned. -/
def Settled (outcome : Outcome) (taskId : Text) : Prop :=
  (∃ result, outcome = .returned result ∧ result.taskId = taskId) ∨
    outcome.isRejection = true ∨ outcome.isInterruption = true

section Workflow

variable {state after : WorkflowState} {event : Event} {events : List Event}

theorem raise_rejection (ended : (raise state (.application error)).await = .closed outcome)
    (kind : error.type = some .conversionFailed ∨ error.type = some .missingOutputs) :
    Settled outcome taskId := by
  simp only [raise, Raised.isCancellation, Bool.and_false, Bool.false_eq_true, ↓reduceIte] at ended
  cases ended
  exact Or.inr (Or.inl (by simpa [Outcome.isRejection] using kind))

theorem raise_interruption (ended : (raise state (.activity error)).await = .closed outcome) :
    Settled outcome taskId := by
  simp only [raise] at ended
  split at ended
  · cases ended
    exact Or.inr (Or.inr rfl)
  · cases ended
    exact Or.inr (Or.inr rfl)

theorem settled_step (named : state.await.task? = some taskId)
    (out : state.await.isWaiting = false) (stepped : step env state event = some after)
    (ended : after.await = .closed outcome) : Settled outcome taskId := by
  cases step_turn stepped with
  | signal running =>
    rcases wake_cases env (taskCompleted state _) with ⟨same, _⟩ | ⟨_, _, _, _, waiting, _⟩
    · rw [same] at ended
      exact absurd ended (running outcome)
    · have asleep : state.await = _ := waiting
      simp [asleep, Await.isWaiting] at out
  | timer waiting => simp [waiting, Await.isWaiting] at out
  | submitted pending => simp [pending, Await.isWaiting] at out
  | checked pending => simp [pending, Await.isWaiting] at out
  | @fetched about attempts result now pending resolved =>
    cases result with
    | error error => exact raise_interruption ended
    | ok counts =>
      simp only [outcomeReturned] at ended
      split at ended
      · exact raise_rejection ended (Or.inl rfl)
      · cases ended
  | @collected about attempts result now pending resolved =>
    rw [pending] at named
    cases named
    cases result with
    | error error => exact raise_interruption ended
    | ok collected =>
      simp only [outputsReturned] at ended
      split at ended
      · exact raise_rejection ended (Or.inr rfl)
      · cases ended
        exact Or.inl ⟨_, rfl, rfl⟩
  | @cancelled now running fresh =>
    cases pending : state.await with
    | fetchOutcome about =>
      rw [cancelled_fetch env now pending] at ended
      exact raise_interruption ended
    | collectOutputs about =>
      rw [cancelled_collect env now pending] at ended
      exact raise_interruption ended
    | submitConversion | waitCondition | checkTask => simp [pending, Await.isWaiting] at out
    | closed other => exact absurd pending (running other)

/-- A run whose wait has returned ends with its task's result, with a rejection
or by an interruption. -/
theorem settled_outcome (ran : (workflow env).run events = some state)
    (waited : state.terminal = some report) (ended : state.await = .closed outcome) :
    Settled outcome report.taskId := by
  rcases List.eq_nil_or_concat events with rfl | ⟨earlier, event, rfl⟩
  · cases ran
    cases ended
  rw [List.concat_eq_append, Machine.run_snoc] at ran
  obtain ⟨before, reached, stepped⟩ := ran
  cases waiting : before.await.isWaiting with
  | false =>
    obtain ⟨-, same, -⟩ := step_unwaiting stepped waiting
    have credited := (terminal_credited reached (same.symm.trans waited)).1
    have named : ∃ taskId, before.await.task? = some taskId := by
      cases pending : before.await with
      | fetchOutcome taskId => exact ⟨taskId, rfl⟩
      | collectOutputs taskId => exact ⟨taskId, rfl⟩
      | submitConversion | waitCondition | checkTask => simp [pending, Await.isWaiting] at waiting
      | closed other =>
        rw [show (workflow env).step before event = none from step_closed pending] at stepped
        cases stepped
    obtain ⟨taskId, named⟩ := named
    obtain rfl := Option.some.inj ((awaits_last reached named).symm.trans credited)
    exact settled_step named waiting stepped ended
  | true =>
    have unended : (received before event).terminal = none :=
      received_terminal.trans (waiting_unended reached waiting)
    have left : ∀ about polled, Onward env (received before event) about polled state →
        Settled outcome report.taskId := by
      intro about polled onward
      cases onward with
      | left draws other source =>
        unfold afterWait at ended
        split at ended
        · exact raise_rejection ended (Or.inl rfl)
        · cases ended
      | _ => simp [unended] at waited
    cases step_moved stepped with
    | stayed given asleep => simp [unended] at waited
    | refused given error => simp [unended] at waited
    | moved given named onward => exact left _ _ onward
    | submitted given onward => exact left _ _ onward

end Workflow

/-- What a returned result says about its document, after any history of earlier
runs and of other writers. Its own task wrote some of the JSON it reports, unless
docling no longer knew the task's result; and a run whose own task wrote no JSON
is rejected as long as its result is known. -/
theorem returned_result_credible (settings : Settings) (bucket key : Text)
    (history : List Occurrence) (world : World) (env : Env) (state : WorkflowState)
    (ran : (document settings bucket key).run history = some world)
    (running : world.current = some (env, state)) :
    (∀ result, state.await = .closed (.returned result) →
      ∃ keys, result.outputs.get? requiredFormat = some keys ∧
        ((∃ written ∈ keys, (some result.taskId, written) ∈ world.docling.written) ∨
          Expired settings bucket key history result.taskId)) ∧
    ∀ report outcome, state.terminal = some report → state.await = .closed outcome →
      ¬ world.docling.WroteJson report.taskId →
      ¬ Expired settings bucket key history report.taskId →
      outcome.isInterruption = false → outcome.isRejection = true := by
  have kept := history_kept ran
  have credible := fun result => kept.returned env state result running
  refine ⟨?_, ?_⟩
  · intro result ended
    obtain ⟨keys, held, own⟩ := credible result ended
    refine ⟨keys, held, own.imp_left ?_⟩
    rintro ⟨written, member, _, wrote⟩
    exact ⟨written, member, wrote⟩
  intro report outcome waited ended unwritten unexpired uninterrupted
  obtain ⟨events, reached⟩ := kept.ran env state running
  rcases settled_outcome reached waited ended with ⟨result, rfl, named⟩ | rejected | interrupted
  · obtain ⟨keys, _, own⟩ := credible result ended
    rw [named] at own
    rcases own with ⟨written, _, json, wrote⟩ | expired
    · exact absurd ⟨_, wrote, rfl, json⟩ unwritten
    · exact absurd expired unexpired
  · exact rejected
  · rw [uninterrupted] at interrupted
    cases interrupted

def Outcome.result? : Outcome → Option ConvertResult
  | .returned result => some result
  | _ => none

/-- What the last run has returned, if it has. -/
def World.result? (world : World) : Option ConvertResult :=
  world.current.bind fun run => run.2.await.outcome?.bind Outcome.result?

theorem World.of_result (returned : world.result? = some result) :
    ∃ env state, world.current = some (env, state) ∧ state.await = .closed (.returned result) := by
  obtain ⟨⟨env, state⟩, running, ended⟩ := Option.bind_eq_some_iff.mp returned
  obtain ⟨outcome, closed, shape⟩ := Option.bind_eq_some_iff.mp ended
  refine ⟨env, state, running, ?_⟩
  cases outcome with
  | returned other =>
    cases shape
    exact outcome_eq_some closed
  | _ => cases shape

/-- Keys under the document's output prefix with the default settings. -/
def sampleKey : Text := "temporal/docs/a.pdf/convert/0/a.json".toList

def orphanKey : Text := "temporal/docs/a.pdf/convert/1/a.json".toList

def laterKey : Text := "temporal/docs/a.pdf/convert/2/a.json".toList

def converted : List Occurrence :=
  [.starts (plainEnv 300 1), .reaches (accepted "first".toList),
    .writes (some "first".toList) sampleKey, .finishes "first".toList ⟨some 1, none, some 0⟩,
    .reaches (signalled "first".toList .success), .reaches (outcomeCounted 1 0),
    .reaches (listed [sampleKey])]

/-- A second run of the same document, beside a task that was submitted and never
heard of. -/
def reconverted : List Occurrence :=
  converted ++
    [.starts (plainEnv 300 1), .writes (some "orphan".toList) orphanKey,
      .reaches (accepted "second".toList), .writes (some "second".toList) laterKey,
      .finishes "second".toList ⟨some 1, none, some 0⟩,
      .reaches (signalled "second".toList .success), .reaches (outcomeCounted 1 0),
      .reaches (listed [sampleKey, orphanKey, laterKey])]

theorem returned_result_credible_again :
    ∃ world result, (document {} "docs".toList "a.pdf".toList).run reconverted = some world ∧
      world.result? = some result ∧ ∃ keys, result.outputs.get? requiredFormat = some keys ∧
        ((∃ written ∈ keys, (some result.taskId, written) ∈ world.docling.written) ∨
          Expired {} "docs".toList "a.pdf".toList reconverted result.taskId) := by
  have returns : ((document {} "docs".toList "a.pdf".toList).run reconverted).any
      (·.result?.isSome) = true := by
    decide +kernel
  obtain ⟨world, ran, returned⟩ := (Option.any_eq_true _ _).mp returns
  obtain ⟨result, returned⟩ := Option.isSome_iff_exists.mp returned
  obtain ⟨env, state, running, ended⟩ := World.of_result returned
  exact ⟨world, result, ran, returned,
    (returned_result_credible _ _ _ _ world env state ran running).1 result ended⟩

/-- A second run whose task converts nothing: its result has expired when it is
fetched, and the listing shows what the first run left. -/
def hollow : List Occurrence :=
  converted ++
    [.starts (plainEnv 300 1), .reaches (accepted "second".toList),
      .finishes "second".toList ⟨some 0, none, some 1⟩,
      .reaches (signalled "second".toList .success), .reaches outcomeExpired,
      .reaches (listed [sampleKey])]

theorem expired_result_returns_leftovers :
    ∃ world result, (document {} "docs".toList "a.pdf".toList).run hollow = some world ∧
      world.result? = some result ∧
      ¬ ∃ keys written, result.outputs.get? requiredFormat = some keys ∧ written ∈ keys ∧
        (some result.taskId, written) ∈ world.docling.written := by
  have facts : ((document {} "docs".toList "a.pdf".toList).run hollow).map (fun world =>
      (world.result?.map (·.taskId), world.docling.written)) =
      some (some "second".toList, [(some "first".toList, sampleKey)]) := by
    decide +kernel
  obtain ⟨world, ran, facts⟩ := Option.map_eq_some_iff.mp facts
  simp only [Prod.mk.injEq, Option.map_eq_some_iff] at facts
  obtain ⟨⟨result, returned, named⟩, written⟩ := facts
  refine ⟨world, result, ran, returned, ?_⟩
  rintro ⟨keys, key, _, _, wrote⟩
  rw [named, written, List.mem_singleton, Prod.mk.injEq] at wrote
  exact absurd wrote.1 (by decide)

end DoclingServeRay.Orchestration
