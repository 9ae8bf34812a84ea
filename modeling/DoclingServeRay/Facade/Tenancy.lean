import DoclingServeRay.Facade.Options

/-! Tenants at the facade and at docling-serve. The record of a task is found by
its id alone: what keeps one tenant from another's task is that docling-serve is
asked first (`app.py`), with the header of the one who asks. -/
namespace DoclingServeRay.Facade
open Strings Calls

/-! ### docling-serve -/

/-- docling-serve's tasks, with the metadata they were enqueued with. -/
abbrev Tasks := OrderedDict Text (OrderedDict Text Text)

/-- `tenant_id_header or 'default'` -/
def getTenantIdFromHeader (tenantIdHeader : Option Text) : Text :=
  match tenantIdHeader with
  | some tenant => if tenant = [] then "default".toList else tenant
  | none => "default".toList

/-- The metadata that a task is enqueued with. -/
def taskMetadata (tenantId : Text) : OrderedDict Text Text :=
  if tenantId = [] then .empty else OrderedDict.empty.set "tenant_id".toList tenantId

def taskTenantId (metadata : OrderedDict Text Text) : Text :=
  getTenantIdFromHeader (metadata.get? "tenant_id".toList)

/-- The header by its name, which both services are configured with. -/
def tenantHeader (settings : Settings) (headers : Headers) : Option Text :=
  (headers.find? fun header => header.1 = settings.tenantIdHeader).map Prod.snd

/-- `HTTPException(404, 'Task not found.')` -/
def taskNotFound : HttpResponse where
  statusCode := 404
  content := "\x7b\"detail\":\"Task not found.\"\x7d".toList.map fun char => char.toNat.toUInt8
  contentType := some "application/json".toList
  text := "\x7b\"detail\":\"Task not found.\"\x7d".toList
  json := some (.object [("detail".toList, .text "Task not found.".toList)])

/-- `task_result`, where it would go on to answer `own`. -/
def taskResult (settings : Settings) (tasks : Tasks) (taskId : Text) (headers : Headers)
    (own : HttpResponse) : HttpResponse :=
  match tasks.get? taskId with
  | none => taskNotFound
  | some metadata =>
    -- `_assert_task_tenant`
    if taskTenantId metadata ≠ getTenantIdFromHeader (tenantHeader settings headers)
    then taskNotFound else own

/-- `process_source_batch`: an accepted task has the tenant of its header. -/
def enqueued (settings : Settings) (tasks : Tasks) (headers : Headers) (response : HttpResponse) :
    Tasks :=
  match (response.json.bind fun task => task.get? "task_id".toList).bind text? with
  | some taskId =>
    if response.statusCode < 400
    then tasks.set taskId (taskMetadata (getTenantIdFromHeader (tenantHeader settings headers)))
    else tasks
  | none => tasks

/-! ### Both services -/

structure Services where
  world : World
  tasks : Tasks

/-- A call at the facade's storage or at docling-serve, whose answers are now
docling-serve's own. -/
def serveServices (settings : Settings) (services : Services) (outcome : Outcome) :
    (call : Call) → Option (Except Raised call.Answer × Services)
  | .convertBatch body headers =>
    (serve services.world outcome (.convertBatch body headers)).map fun served =>
      (served.1, ⟨served.2, match served.1 with
        | .ok response => enqueued settings services.tasks headers response
        | .error _ => services.tasks⟩)
  | .getResult taskId headers =>
    (serve services.world outcome (.getResult taskId headers)).map fun served =>
      (served.1.map (taskResult settings services.tasks taskId headers),
        ⟨served.2, services.tasks⟩)
  | call => (serve services.world outcome call).map fun served =>
    (served.1, ⟨served.2, services.tasks⟩)

/-- No task changes hands; it may be forgotten, and others may be enqueued. -/
def Retains (before after : Tasks) : Prop :=
  ∀ taskId metadata, before.get? taskId = some metadata →
    after.get? taskId = none ∨ after.get? taskId = some metadata

/-- A task that docling-serve denies a tenant. -/
def Denied (tasks : Tasks) (taskId : Text) (tenantId : Option Text) : Prop :=
  ∀ metadata, tasks.get? taskId = some metadata →
    taskTenantId metadata ≠ getTenantIdFromHeader tenantId

/-! ### Headers -/

/-- The header that the facade builds says the same as the client's. -/
theorem header_tenant (settings : Settings) (tenantId : Option Text) :
    getTenantIdFromHeader (tenantHeader settings (tenantHeaders settings tenantId)) =
      getTenantIdFromHeader tenantId := by
  cases tenantId with
  | none => rfl
  | some tenant =>
    by_cases empty : tenant = []
    · subst empty
      rfl
    · simp [tenantHeaders, tenantHeader, empty]

theorem getTenantIdFromHeader_ne_nil (tenantIdHeader : Option Text) :
    getTenantIdFromHeader tenantIdHeader ≠ [] := by
  unfold getTenantIdFromHeader
  split
  · split
    · decide
    · assumption
  · decide

/-- A task has the tenant it was enqueued for. -/
theorem taskTenantId_taskMetadata {tenantId : Text} (named : tenantId ≠ []) :
    taskTenantId (taskMetadata tenantId) = tenantId := by
  rw [taskTenantId, taskMetadata, if_neg named, OrderedDict.get?_set, if_pos rfl]
  exact if_neg named

/-- Another tenant is answered as if there were no such task. -/
theorem taskResult_denied (denied : Denied tasks taskId tenantId) (own : HttpResponse) :
    taskResult settings tasks taskId (tenantHeaders settings tenantId) own = taskNotFound := by
  unfold taskResult
  cases found : tasks.get? taskId with
  | none => rfl
  | some metadata =>
    rw [header_tenant]
    exact if_pos (denied metadata found)

/-! ### A request by another tenant -/

/-- What `_translate_transport_errors` raises in place of an error. -/
def translated : Raised → Raised
  | .transport text => .http 502 ("Upstream unavailable: ".toList ++ text)
  | error => error

theorem translate_run {program : Operation α} :
    translateTransportErrors program = program.mapError translated := by
  apply congrArg fun change => program.mapError change
  funext error
  cases error <;> rfl

section Denied

variable {settings : Settings} {services : Services} {taskId : Text} {tenantId : Option Text}

/-- How the request for a denied task ends: what fails is what is reported, and
otherwise there is no such task. -/
inductive AnswersDenied : List Outcome → Except Raised Resolution → Prop where
  | unread (error : Raised) : AnswersDenied [.failed error] (.error (translated error))
  | unasked (error : Raised) : AnswersDenied [.served, .failed error] (.error (translated error))
  | notFound (own : HttpResponse) :
    AnswersDenied [.served, .responded own] (.ok ⟨.passthrough taskNotFound, none⟩)

/-- docling-serve's answer is passed on, if it comes. -/
theorem denied_asked (denied : Denied services.tasks taskId tenantId)
    {rest : HttpResponse → Operation Resolution}
    (passes : rest taskNotFound = .done ⟨.passthrough taskNotFound, none⟩) :
    Program.run (serveServices settings) services
        ((Program.perform (Call.getResult taskId (tenantHeaders settings tenantId)) >>=
          rest).mapError translated) outcomes = some (result, final) ↔
      final = services ∧ AnswersDenied (.served :: outcomes) result := by
  constructor
  · intro ran
    obtain ⟨outcome, later, answer, middle, rfl, served, onward⟩ := Program.run_call.mp ran
    cases outcome with
    | responded own =>
      cases served
      have passed : Program.run (serveServices settings) services
          ((rest taskNotFound).mapError translated) later = some (result, final) := by
        have asked : taskResult settings services.tasks taskId (tenantHeaders settings tenantId)
          own = taskNotFound := taskResult_denied denied own
        rw [← asked]
        exact onward
      rw [passes] at passed
      obtain ⟨rfl, rfl, rfl⟩ := Program.run_done.mp passed
      exact ⟨rfl, .notFound own⟩
    | failed error =>
      cases served
      obtain ⟨rfl, rfl, rfl⟩ := Program.run_raise.mp onward
      exact ⟨rfl, .unasked error⟩
    | served => cases served
    | deleted keys error => cases served
  · rintro ⟨rfl, answers⟩
    cases answers with
    | unasked error => exact Program.run_call.mpr ⟨.failed error, [], _, _, rfl, rfl, rfl⟩
    | notFound own =>
      refine Program.run_call.mpr ⟨.responded own, [], _, _, rfl, rfl, ?_⟩
      show Program.run (serveServices settings) final ((rest (taskResult settings final.tasks taskId
        (tenantHeaders settings tenantId) own)).mapError translated) [] = _
      rw [taskResult_denied denied own, passes]
      rfl

/-- A denied request ends in the same ways whatever is stored, and stores
nothing. -/
theorem denied_resolution (codec : Codec) (denied : Denied services.tasks taskId tenantId) :
    Program.run (serveServices settings) services (resolveResult codec settings taskId tenantId)
        outcomes = some (result, final) ↔
      final = services ∧ AnswersDenied outcomes result := by
  rw [resolveResult, translate_run]
  constructor
  · intro ran
    obtain ⟨outcome, later, answer, middle, rfl, served, onward⟩ := Program.run_call.mp ran
    cases outcome with
    | served =>
      cases served
      cases found : services.world.records.get? (recordKey taskId) with
      | none =>
        rw [found] at onward
        exact (denied_asked denied rfl).mp onward
      | some record =>
        rw [found] at onward
        exact (denied_asked denied rfl).mp onward
    | failed error =>
      cases served
      obtain ⟨rfl, rfl, rfl⟩ := Program.run_raise.mp onward
      exact ⟨rfl, .unread error⟩
    | responded own => cases served
    | deleted keys error => cases served
  · rintro ⟨rfl, answers⟩
    have first : (∃ error, outcomes = [.failed error] ∧ result = .error (translated error)) ∨
        ∃ later, outcomes = .served :: later := by
      cases answers with
      | unread error => exact Or.inl ⟨error, rfl, rfl⟩
      | unasked error => exact Or.inr ⟨_, rfl⟩
      | notFound own => exact Or.inr ⟨_, rfl⟩
    rcases first with ⟨error, rfl, rfl⟩ | ⟨later, rfl⟩
    · exact Program.run_call.mpr ⟨.failed error, [], _, _, rfl, rfl, rfl⟩
    · refine Program.run_call.mpr ⟨.served, later, _, _, rfl, rfl, ?_⟩
      -- With a record or without, docling-serve is asked next.
      cases final.world.records.get? (recordKey taskId) with
      | none => exact (denied_asked denied rfl).mpr ⟨rfl, answers⟩
      | some record => exact (denied_asked denied rfl).mpr ⟨rfl, answers⟩

end Denied

/-! ### The task of a submission -/

/-- The task belongs to the tenant that submitted it. -/
def Owned (tasks : Tasks) (taskId : Text) (tenantId : Option Text) : Prop :=
  ∃ metadata, tasks.get? taskId = some metadata ∧
    taskTenantId metadata = getTenantIdFromHeader tenantId

theorem enqueued_owned {response : HttpResponse} (accepted : ¬ 400 ≤ response.statusCode)
    (given : response.json = some task)
    (named : task.get? "task_id".toList = some (.text taskId)) (settings : Settings)
    (tasks : Tasks) (tenantId : Option Text) :
    Owned (enqueued settings tasks (tenantHeaders settings tenantId) response) taskId tenantId := by
  refine ⟨taskMetadata (getTenantIdFromHeader tenantId), ?_, ?_⟩
  · simp only [enqueued, given, Option.bind_some, named, text?, Nat.lt_of_not_le accepted,
      ↓reduceIte, header_tenant, OrderedDict.get?_set]
  · exact taskTenantId_taskMetadata (getTenantIdFromHeader_ne_nil tenantId)

theorem submit_owned (codec : Codec) (settings : Settings) (requestId : Text)
    (files : List UploadFile) (options : OrderedDict Text FormValue) (zipped : Bool)
    (tenantId : Option Text) (services : Services) :
    (submitFileUpload codec settings requestId files options zipped tenantId).Ends
      (serveServices settings) (fun result after => ∀ status, result = .ok status →
        Owned after.tasks status.taskId tenantId) services := by
  have refused : ∀ (error : Raised) (after : Services) status,
      (.error error : Except Raised TaskStatusResponse) = .ok status →
        Owned after.tasks status.taskId tenantId := by
    rintro error after status ⟨⟩
  rw [submitFileUpload, translate_run, Program.ends_mapError]
  apply Program.ends_bind_anywhere
  · exact fun error world => refused _ world
  intro _ before
  apply (Program.ends_bind _ _ _).mpr
  apply (Program.ends_perform _).mpr
  intro outcome answer after served
  cases answer with
  | error error => exact refused _ after
  | ok response =>
    obtain ⟨⟨reply, world⟩, _, same⟩ := Option.map_eq_some_iff.mp served
    cases same
    simp only
    split
    · exact refused _ _
    rename_i accepted
    cases given : response.json with
    | none => exact refused _ _
    | some task =>
      simp only [orRaise, Program.done_bind]
      cases named : task.get? "task_id".toList with
      | none => exact refused _ _
      | some taskId =>
        simp only [Program.done_bind]
        apply (Program.ends_bind _ _ _).mpr
        apply (Program.ends_perform _).mpr
        intro outcome answer after served
        -- The record is stored at the facade: the tasks stay as they are.
        obtain ⟨⟨reply, world⟩, _, same⟩ := Option.map_eq_some_iff.mp served
        cases same
        cases reply with
        | error error => exact refused _ _
        | ok done =>
          cases read : taskStatus? codec task with
          | none => exact refused _ _
          | some status =>
            intro other same
            cases same
            exact enqueued_owned accepted given (taskStatus_taskId read) settings _ tenantId

/-- An owned task is denied to every other tenant, for as long as it is kept. -/
theorem denied_of_owned (owned : Owned before taskId tenantId) (retained : Retains before after)
    (other : getTenantIdFromHeader stranger ≠ getTenantIdFromHeader tenantId) :
    Denied after taskId stranger := by
  obtain ⟨metadata, enqueued, owner⟩ := owned
  intro held found same
  rcases retained taskId metadata enqueued with forgotten | kept
  · cases forgotten.symm.trans found
  · cases kept.symm.trans found
    exact other (same.symm.trans owner)

/-- Whatever is stored, another tenant who asks for a submitted task is told by
docling-serve that there is none, schedules nothing and changes nothing; a call
that fails is reported. The same answer comes from any other storage. -/
theorem tenants_isolated {start after services : Services}
    (submitted : Program.run (serveServices settings) start (submitFileUpload codec settings
      requestId files options zipped tenantId) uploads = some (.ok status, after))
    (retained : Retains after.tasks services.tasks)
    (other : getTenantIdFromHeader stranger ≠ getTenantIdFromHeader tenantId) :
    (∀ own, Program.run (serveServices settings) services
      (resolveResult codec settings status.taskId stranger) [.served, .responded own] =
        some (.ok ⟨.passthrough taskNotFound, none⟩, services)) ∧
    ∀ outcomes result final, Program.run (serveServices settings) services
        (resolveResult codec settings status.taskId stranger) outcomes = some (result, final) →
      final = services ∧
      (result = .ok ⟨.passthrough taskNotFound, none⟩ ∨
        ∃ error, .failed error ∈ outcomes ∧ result = .error (translated error)) ∧
      ∀ world, Program.run (serveServices settings) ⟨world, services.tasks⟩
        (resolveResult codec settings status.taskId stranger) outcomes =
          some (result, ⟨world, services.tasks⟩) := by
  have owned := Program.ends_iff_run.mp (submit_owned codec settings requestId files options zipped
    tenantId start) uploads _ _ submitted status rfl
  have denied := denied_of_owned owned retained other
  refine ⟨fun own => (denied_resolution codec denied).mpr ⟨rfl, .notFound own⟩, ?_⟩
  intro outcomes result final ran
  obtain ⟨rfl, answers⟩ := (denied_resolution codec denied).mp ran
  refine ⟨rfl, ?_, ?_⟩
  · cases answers with
    | unread error => exact Or.inr ⟨error, by simp, rfl⟩
    | unasked error => exact Or.inr ⟨error, by simp, rfl⟩
    | notFound own => exact Or.inl rfl
  · intro world
    have elsewhere : Denied (Services.mk world final.tasks).tasks status.taskId stranger := denied
    exact (denied_resolution codec elsewhere).mpr ⟨rfl, answers⟩

/-- docling-serve accepts a task under the id `t`. -/
def accepts : HttpResponse := ⟨200, [], none, [], some (.object [
  ("task_id".toList, .text "t".toList), ("task_type".toList, .text "convert".toList),
  ("task_status".toList, .text "pending".toList)])⟩

/-- A client without a tenant asks for a task of `acme`, right after it was
submitted. -/
theorem tenants_isolated_default :
    ∃ after, Program.run (serveServices {}) ⟨⟨.empty, .empty⟩, .empty⟩ (submitFileUpload asciiCodec
        {} "r".toList [⟨some "a.pdf".toList, [1]⟩] .empty false (some "acme".toList))
        [.served, .responded accepts, .served] =
        some (.ok ⟨"t".toList, "convert".toList, "pending".toList, none, none, none, none⟩, after) ∧
      Program.run (serveServices {}) after (resolveResult asciiCodec {} "t".toList none)
        [.served, .responded accepts] = some (.ok ⟨.passthrough taskNotFound, none⟩, after) := by
  obtain ⟨after, submitted⟩ : ∃ after, Program.run (serveServices {}) ⟨⟨.empty, .empty⟩, .empty⟩
      (submitFileUpload asciiCodec {} "r".toList [⟨some "a.pdf".toList, [1]⟩] .empty false
        (some "acme".toList)) [.served, .responded accepts, .served] =
      some (.ok ⟨"t".toList, "convert".toList, "pending".toList, none, none, none, none⟩, after) :=
    ⟨_, rfl⟩
  refine ⟨after, submitted, (tenants_isolated submitted ?_ ?_).1 accepts⟩
  · intro taskId metadata kept
    exact Or.inr kept
  · decide

end DoclingServeRay.Facade
