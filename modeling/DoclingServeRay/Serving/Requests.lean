import DoclingServeRay.Lib.Unwinding
import DoclingServeRay.Serving.StatusSocket

/-! Everything a client can ask docling-serve about a task: the status websocket,
and the requests for its status (`task_status_poll`) and for its result
(`task_result`), of an orchestrator that is true to the tasks it knows. -/
namespace DoclingServeRay.Serving
open Strings EventMachine
open Facade (TaskStatusResponse getTenantIdFromHeader taskTenantId)

/-! ### The orchestrator -/

/-- What `task_outcome` has of a task that ended; a bare result is one of an
older kind. -/
inductive StoredOutcome where
  | failure (failure : Json)
  | success (result : Json)
  | bare (result : Json)

/-- How an await ends: a task that is asked for is answered with, if there is
one, or the call fails. -/
inductive Reply where
  | served
  | position (position : Option Int)
  | outcome (outcome : Option StoredOutcome)
  | prepared (response : Json)
  | failed (error : Raised)

/-- A `task_status`. -/
def Await.isLookup : Await → Bool
  | .taskStatus => true
  | .refresh => true
  | _ => false

/-- `task_status` raises `TaskNotFoundError` for the tasks that the orchestrator
does not know, and for no others. -/
def answered (known : Option Task) (lookup : Bool) : Reply → Option Answer
  | .served => some (if lookup && known.isNone then .raised .taskNotFound else .returned)
  | .position position => some (.position position)
  | .outcome _ => none
  | .prepared _ => none
  | .failed error => if lookup && error = .taskNotFound then none else some (.raised error)

def orchestrated {κ : Type} (hub : Hub κ) (socket : Socket) : Reply → Option Answer :=
  answered (hub.tasks.get? socket.connection.taskId) socket.await.isLookup

/-! ### Requests -/

inductive Endpoint where
  | taskStatusPoll
  | taskResult
  deriving DecidableEq

/-- A request that has passed `require_auth`, with the tenant of its header. -/
structure Query where
  endpoint : Endpoint
  taskId : Text
  tenantId : Option Text := none

def Query.tenant (query : Query) : Text := getTenantIdFromHeader query.tenantId

inductive Response where
  | status (status : TaskStatusResponse)
  /-- `TaskFailureResult` -/
  | failure (failure : Json)
  | prepared (response : Json)
  | http (statusCode : Nat) (detail : Text)
  | raised (error : Raised)

/-- The except clause of both endpoints, and the application's handlers. -/
def failing : Raised → Response
  | .http statusCode detail => .http statusCode detail
  | .taskNotFound => .http 404 noTask
  | .redisBackpressure => .http 503 serverBusy
  | error => .raised error

def noResult : Text := "Task result not found. Please wait for a completion status.".toList

/-- Where the request is suspended. -/
inductive Asking where
  | taskStatus
  | queuePosition (task : Task)
  | taskOutcome
  | prepareResponse (result : Json)
  | responded (response : Response)

structure Request where
  query : Query
  asking : Asking

/-- After `_assert_task_tenant`. -/
def Endpoint.goesOn (task : Task) : Endpoint → Asking
  | .taskStatusPoll => .queuePosition task
  | .taskResult => .taskOutcome

/-- The first `task_status`, and `_assert_task_tenant`. -/
def looked (known : Option Task) (query : Query) : Asking :=
  match known with
  | none => .responded (failing .taskNotFound)
  | some task =>
    match assertTaskTenant task query.tenant with
    | .ok () => query.endpoint.goesOn task
    | .error error => .responded (failing error)

/-- `task_status_poll` and `task_result` from one await to the next. -/
def asked (known : Option Task) (query : Query) : Asking → Reply → Option Asking
  | .taskStatus, .served => some (looked known query)
  | .taskStatus, .failed error =>
    if error = .taskNotFound then none else some (.responded (failing error))
  | .queuePosition task, .position position =>
    some (.responded (.status (taskResponse task position)))
  | .queuePosition _, .failed error => some (.responded (failing error))
  | .taskOutcome, .outcome none => some (.responded (.http 404 noResult))
  | .taskOutcome, .outcome (some (.failure failure)) => some (.responded (.failure failure))
  | .taskOutcome, .outcome (some (.success result)) => some (.prepareResponse result)
  | .taskOutcome, .outcome (some (.bare result)) => some (.prepareResponse result)
  | .taskOutcome, .failed error => some (.responded (failing error))
  | .prepareResponse _, .prepared response => some (.responded (.prepared response))
  | .prepareResponse _, .failed error => some (.responded (failing error))
  | _, _ => none

def requests (κ : Type) : Readers (Hub κ) Request Query Reply where
  enter := fun query => ⟨query, .taskStatus⟩
  resume := fun hub request reply =>
    (asked (hub.tasks.get? request.query.taskId) request.query request.asking reply).map fun asking =>
      ⟨request.query, asking⟩

/-- What the facade takes docling-serve's tasks to be is their metadata. -/
def Reflects (metadata : Facade.Tasks) (tasks : OrderedDict Text Task) : Prop :=
  ∀ taskId, metadata.get? taskId = (tasks.get? taskId).map Task.metadata

/-- A request for a result goes on where the facade takes docling-serve to give
its own answer, and is refused where it takes it to refuse. -/
theorem looked_taskResult {settings : Facade.Settings} {headers : Facade.Headers}
    (reflects : Reflects metadata tasks) (taskId : Text) (own : Facade.HttpResponse) :
    (looked (tasks.get? taskId) ⟨.taskResult, taskId, Facade.tenantHeader settings headers⟩ =
        .taskOutcome ∧ Facade.taskResult settings metadata taskId headers own = own) ∨
      (looked (tasks.get? taskId) ⟨.taskResult, taskId, Facade.tenantHeader settings headers⟩ =
        .responded (.http 404 noTask) ∧
        Facade.taskResult settings metadata taskId headers own = Facade.taskNotFound) := by
  unfold Facade.taskResult
  rw [reflects taskId]
  cases tasks.get? taskId with
  | none => exact Or.inr ⟨rfl, rfl⟩
  | some task =>
    by_cases same : taskTenantId task.metadata =
        getTenantIdFromHeader (Facade.tenantHeader settings headers)
    · exact Or.inl (by simp [looked, assertTaskTenant, Query.tenant, Endpoint.goesOn, same])
    · exact Or.inr (by simp [looked, assertTaskTenant, Query.tenant, failing, same])

/-! ### Sockets and requests -/

abbrev Client := Connection ⊕ Query

def Client.tenant : Client → Text := Sum.elim Connection.tenant Query.tenant

abbrev ClientEvent (ι : Type) := CrewEvent ι Client (Reply ⊕ Reply) Change

def clients {ι : Type} [DecidableEq ι] (notifier : Notifier ι) (settings : Settings) :
    Rules (Hub ι) ι (Socket ⊕ Request) Client (Reply ⊕ Reply) Change :=
  ((sockets notifier settings).answering orchestrated).alongside (requests ι)

def service {ι : Type} [DecidableEq ι] (notifier : Notifier ι) (settings : Settings) :
    Machine (Crew (Hub ι) ι (Socket ⊕ Request)) (ClientEvent ι) :=
  crew (clients notifier settings) ⟨.empty, .empty, []⟩

end DoclingServeRay.Serving
