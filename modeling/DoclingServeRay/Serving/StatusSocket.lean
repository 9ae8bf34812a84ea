import DoclingServeRay.Lib.Crew
import DoclingServeRay.Facade.Tenancy
import Mathlib.Data.Finset.Basic

/-! docling-serve's status websocket (`task_status_ws`, `app.py`): one coroutine
for each open socket, the notifier's subscribers that they all share, and the
orchestrator's tasks, which change around them. -/
namespace DoclingServeRay.Serving
open Strings EventMachine
open Facade (TaskStatusResponse getTenantIdFromHeader taskTenantId)

/-! ### Messages -/

/-- A task as the orchestrator knows it; `isCompleted` is what it says of its
own status. -/
structure Task where
  taskId : Text
  taskType : Text
  taskStatus : Text
  processingMeta : Option Json := none
  errorMessage : Option Text := none
  failure : Option Json := none
  metadata : OrderedDict Text Text := .empty
  isCompleted : Bool

def taskResponse (task : Task) (position : Option Int) : TaskStatusResponse where
  taskId := task.taskId
  taskType := task.taskType
  taskStatus := task.taskStatus
  taskPosition := position
  taskMeta := task.processingMeta
  errorMessage := task.errorMessage
  failure := task.failure

inductive MessageKind where
  | connection
  | update
  | error
  deriving DecidableEq

structure WebsocketMessage where
  message : MessageKind
  task : Option TaskStatusResponse := none
  error : Option Text := none

def greeting (task : Task) (position : Option Int) : WebsocketMessage where
  message := .connection
  task := some (taskResponse task position)

def updating (task : Task) (position : Option Int) : WebsocketMessage where
  message := .update
  task := some (taskResponse task position)

def refusal (error : Text) : WebsocketMessage where
  message := .error
  error := some error

def serverBusy : Text := "Server is busy, please try again shortly.".toList

def noTask : Text := "Task not found.".toList

/-! ### The coroutine -/

structure Settings where
  apiKey : Text := []

/-- The task id of the socket's path and its query. -/
structure Connection where
  taskId : Text
  apiKey : Text := []
  tenantId : Option Text := none

/-- `tenant_id or 'default'` -/
def Connection.tenant (connection : Connection) : Text := getTenantIdFromHeader connection.tenantId

inductive Raised where
  | http (statusCode : Nat) (detail : Text)
  | taskNotFound
  | redisBackpressure
  /-- `WebSocketDisconnect`. -/
  | disconnect
  /-- `asyncio.CancelledError`, which is no `Exception`. -/
  | cancelled
  | other
  deriving DecidableEq

/-- Where the coroutine is suspended, with the locals that are still in use. -/
inductive Await where
  | accept
  /-- The first `task_status`. -/
  | taskStatus
  | sendRefusal (error : Text)
  | closeRefused
  | queuePosition (task : Task)
  | sendGreeting (task : Task) (position : Option Int)
  /-- The `task_status` of a turn of the loop. -/
  | refresh
  | refreshPosition (task : Task)
  | sendUpdate (task : Task) (position : Option Int)
  | closeCompleted
  | receiveText
  /-- The task was removed while streaming. -/
  | closeRemoved
  | sendBusy
  | closeBusy
  | ended (error : Option Raised)

/-- The socket is in the `try` whose `finally` discards it. -/
def Await.isStreaming : Await → Bool
  | .accept => false
  | .taskStatus => false
  | .sendRefusal _ => false
  | .closeRefused => false
  | .ended _ => false
  | _ => true

/-- What is sent at this await. -/
def Await.message? : Await → Option WebsocketMessage
  | .sendRefusal error => some (refusal error)
  | .sendGreeting task position => some (greeting task position)
  | .sendUpdate task position => some (updating task position)
  | .sendBusy => some (refusal serverBusy)
  | _ => none

/-- How an await ends: it returns, with a queue position where that is asked
for, or it raises. A task that is asked for is the one the orchestrator knows. -/
inductive Answer where
  | returned
  | position (position : Option Int)
  | raised (error : Raised)
  deriving DecidableEq

def assertTaskTenant (task : Task) (tenantId : Text) : Except Raised Unit :=
  if taskTenantId task.metadata ≠ tenantId then .error .taskNotFound else .ok ()

/-- The except clauses of the first `try`. -/
def lookupRaised : Raised → Await
  | .redisBackpressure => .sendRefusal serverBusy
  | .taskNotFound => .sendRefusal noTask
  | error => .ended (some error)

/-- The except clauses of the `try` around the stream. -/
def streamRaised : Raised → Await
  | .taskNotFound => .closeRemoved
  | .redisBackpressure => .sendBusy
  | .disconnect => .ended none
  | error => .ended (some error)

/-- `except Exception: pass` -/
def swallowed : Raised → Await
  | .cancelled => .ended (some .cancelled)
  | _ => .ended none

/-- `task_status_ws` up to its first await. -/
def taskStatusWs (settings : Settings) (connection : Connection) : Await :=
  if settings.apiKey ≠ [] ∧ connection.apiKey ≠ settings.apiKey then
    .ended (some (.http 401 "Api key is required as the ?api_key=SECRET query parameter.".toList))
  else .accept

/-- `task_status_ws` from one await to the next. -/
def resumed (tasks : OrderedDict Text Task) (connection : Connection) : Await → Answer → Option Await
  | .accept, .returned => some .taskStatus
  | .accept, .raised error => some (.ended (some error))
  | .taskStatus, .returned =>
    (tasks.get? connection.taskId).map fun task =>
      match assertTaskTenant task connection.tenant with
      | .ok () => .queuePosition task
      | .error error => lookupRaised error
  | .taskStatus, .raised error => some (lookupRaised error)
  | .sendRefusal _, .returned => some .closeRefused
  | .sendRefusal _, .raised error => some (.ended (some error))
  | .closeRefused, .returned => some (.ended none)
  | .closeRefused, .raised error => some (.ended (some error))
  | .queuePosition task, .position position => some (.sendGreeting task position)
  | .queuePosition _, .raised error => some (streamRaised error)
  | .sendGreeting _ _, .returned => some .refresh
  | .sendGreeting _ _, .raised error => some (streamRaised error)
  | .refresh, .returned => (tasks.get? connection.taskId).map .refreshPosition
  | .refresh, .raised error => some (streamRaised error)
  | .refreshPosition task, .position position => some (.sendUpdate task position)
  | .refreshPosition _, .raised error => some (streamRaised error)
  | .sendUpdate task _, .returned => some (if task.isCompleted then .closeCompleted else .receiveText)
  | .sendUpdate _ _, .raised error => some (streamRaised error)
  | .closeCompleted, .returned => some (.ended none)
  | .closeCompleted, .raised error => some (streamRaised error)
  | .receiveText, .returned => some .refresh
  | .receiveText, .raised error => some (streamRaised error)
  | .closeRemoved, .returned => some (.ended none)
  | .closeRemoved, .raised error => some (swallowed error)
  | .sendBusy, .returned => some .closeBusy
  | .sendBusy, .raised error => some (swallowed error)
  | .closeBusy, .returned => some (.ended none)
  | .closeBusy, .raised error => some (swallowed error)
  | _, _ => none

/-- One socket, what its coroutine has sent, and how often it has heard its
client. -/
structure Socket where
  connection : Connection
  await : Await
  sent : List WebsocketMessage
  heard : Nat

def Socket.enter (socket : Socket) (await : Await) : Socket where
  connection := socket.connection
  await := await
  sent := socket.sent ++ await.message?.toList
  heard := match socket.await, await with
    | .receiveText, .refresh => socket.heard + 1
    | _, _ => socket.heard

def opened (settings : Settings) (connection : Connection) : Socket :=
  ⟨connection, taskStatusWs settings connection, [], 0⟩

/-! ### What the sockets share -/

variable {ι : Type} [DecidableEq ι]

/-- A message of the notifier to all that are subscribed to a task. -/
structure Push (ι : Type) where
  receivers : Finset ι
  message : WebsocketMessage

structure Hub (ι : Type) where
  tasks : OrderedDict Text Task
  /-- `orchestrator.notifier.task_subscribers`. -/
  taskSubscribers : OrderedDict Text (Finset ι)
  /-- What the notifier has sent, oldest first. -/
  pushes : List (Push ι)

namespace Hub

def subscribers (hub : Hub ι) (taskId : Text) : Finset ι :=
  (hub.taskSubscribers.get? taskId).getD ∅

/-- `task_subscribers.setdefault(task_id, set()).add(websocket)` -/
def subscribe (hub : Hub ι) (taskId : Text) (socket : ι) : Hub ι :=
  { hub with taskSubscribers :=
      hub.taskSubscribers.upsert taskId fun held => insert socket (held.getD ∅) }

/-- `subs = task_subscribers.get(task_id)`, and `if subs: subs.discard(websocket)`. -/
def unsubscribe (hub : Hub ι) (taskId : Text) (socket : ι) : Hub ι :=
  match hub.taskSubscribers.get? taskId with
  | some subs =>
    if subs = ∅ then hub
    else { hub with taskSubscribers := hub.taskSubscribers.set taskId (subs.erase socket) }
  | none => hub

/-- The sockets are subscribed where the stream begins, and discarded where it
is left. -/
def moved (hub : Hub ι) (socket : ι) (taskId : Text) (before after : Await) : Hub ι :=
  if before.isStreaming = after.isStreaming then hub
  else if after.isStreaming then hub.subscribe taskId socket
  else hub.unsubscribe taskId socket

end Hub

/-- The `WebsocketNotifier` that the orchestrator is bound to: what it sends when
a task has changed, and the subscribers that are left when it gives up a task. -/
structure Notifier (ι : Type) where
  pushes (hub : Hub ι) (taskId : Text) (position : Option Int) : List (Push ι)
  remaining (hub : Hub ι) (taskId : Text) : OrderedDict Text (Finset ι)

def messagesTo (name : ι) (pushes : List (Push ι)) : List WebsocketMessage :=
  (pushes.filter fun push => name ∈ push.receivers).map Push.message

def Hub.notify (hub : Hub ι) (notifier : Notifier ι) (taskId : Text) (position : Option Int) :
    Hub ι :=
  { hub with pushes := hub.pushes ++ notifier.pushes hub taskId position }

def Hub.forget (hub : Hub ι) (notifier : Notifier ι) (taskId : Text) : Hub ι :=
  { hub with taskSubscribers := notifier.remaining hub taskId }

/-- What is relied on: the notifier sends the state of a task, as the orchestrator
knows it, to subscribers of that task and to each the same whoever else there is,
and gives up no subscribers but those of the task in question. -/
structure Notifier.Lawful (notifier : Notifier ι) : Prop where
  addressed : ∀ hub taskId position, ∀ push ∈ notifier.pushes hub taskId position,
    push.receivers ⊆ hub.subscribers taskId
  about : ∀ hub taskId position, ∀ push ∈ notifier.pushes hub taskId position,
    ∀ response, push.message.task = some response →
      ∃ task, hub.tasks.get? taskId = some task ∧ response.taskId = task.taskId
  alike : ∀ hub other taskId position name, other.tasks.get? taskId = hub.tasks.get? taskId →
    name ∈ hub.subscribers taskId → name ∈ other.subscribers taskId →
    messagesTo name (notifier.pushes other taskId position) =
      messagesTo name (notifier.pushes hub taskId position)
  remains : ∀ (hub : Hub ι) taskId probe name, name ∈ (hub.forget notifier taskId).subscribers probe ↔
    name ∈ hub.subscribers probe ∧ probe ≠ taskId

/-- One that sends each update once, of a task that the orchestrator knows. -/
def plainNotifier (ι : Type) : Notifier ι where
  pushes hub taskId position :=
    ((hub.tasks.get? taskId).map fun task =>
      ⟨hub.subscribers taskId, updating task position⟩).toList
  remaining hub taskId := hub.taskSubscribers.filterKeys (· ≠ taskId)

theorem plainNotifier_lawful : (plainNotifier ι).Lawful where
  addressed := by
    intro hub taskId position push member
    obtain ⟨task, _, rfl⟩ := Option.map_eq_some_iff.mp (Option.mem_toList.mp member)
    exact Finset.Subset.refl _
  about := by
    intro hub taskId position push member response told
    obtain ⟨task, found, rfl⟩ := Option.map_eq_some_iff.mp (Option.mem_toList.mp member)
    cases told
    exact ⟨task, found, rfl⟩
  alike := by
    intro hub other taskId position name same here there
    simp only [plainNotifier, same]
    cases hub.tasks.get? taskId with
    | none => rfl
    | some task => simp [messagesTo, here, there]
  remains := by
    intro hub taskId probe name
    simp only [Hub.forget, plainNotifier, Hub.subscribers, OrderedDict.get?_filterKeys]
    by_cases same : probe = taskId <;> simp [same]

/-- What happens around the coroutines: the orchestrator's tasks change, or the
notifier sends the state of a task to its subscribers, or forgets them. -/
inductive Change where
  | tasks (tasks : OrderedDict Text Task)
  | notifies (taskId : Text) (position : Option Int)
  | forgets (taskId : Text)

def sockets (notifier : Notifier ι) (settings : Settings) :
    Rules (Hub ι) ι Socket Connection Answer Change where
  enter := opened settings
  resume := fun hub name socket answer =>
    (resumed hub.tasks socket.connection socket.await answer).map fun await =>
      (hub.moved name socket.connection.taskId socket.await await, socket.enter await)
  shift := fun hub change =>
    match change with
    | .tasks tasks => some { hub with tasks := tasks }
    | .notifies taskId position => some (hub.notify notifier taskId position)
    | .forgets taskId => some (hub.forget notifier taskId)

def server (notifier : Notifier ι) (settings : Settings) :
    Machine (Crew (Hub ι) ι Socket) (CrewEvent ι Connection Answer Change) :=
  crew (sockets notifier settings) ⟨.empty, .empty, []⟩

/-- A task of the tenant `acme`. -/
def acmeTask (isCompleted : Bool) : Task where
  taskId := "t".toList
  taskType := "convert".toList
  taskStatus := if isCompleted then "success".toList else "started".toList
  metadata := OrderedDict.empty.set "tenant_id".toList "acme".toList
  isCompleted := isCompleted

def acmeTasks (isCompleted : Bool) : OrderedDict Text Task :=
  OrderedDict.empty.set "t".toList (acmeTask isCompleted)

/-! ### The moves of a coroutine -/

/-- In the body of the `try` around the stream. -/
def Await.isTalking : Await → Bool
  | .queuePosition _ => true
  | .sendGreeting _ _ => true
  | .refresh => true
  | .refreshPosition _ => true
  | .sendUpdate _ _ => true
  | .closeCompleted => true
  | .receiveText => true
  | _ => false

/-- Everything a coroutine can do in one move. -/
inductive Move (tasks : OrderedDict Text Task) (connection : Connection) : Await → Await → Prop where
  | accepted : Move tasks connection .accept .taskStatus
  | refused (error : Text) : Move tasks connection .taskStatus (.sendRefusal error)
  | joined (found : tasks.get? connection.taskId = some task)
      (own : taskTenantId task.metadata = connection.tenant) :
      Move tasks connection .taskStatus (.queuePosition task)
  | turnedAway (error : Text) : Move tasks connection (.sendRefusal error) .closeRefused
  | placed (task : Task) (position : Option Int) :
      Move tasks connection (.queuePosition task) (.sendGreeting task position)
  | greeted (task : Task) (position : Option Int) :
      Move tasks connection (.sendGreeting task position) .refresh
  | refreshed (found : tasks.get? connection.taskId = some task) :
      Move tasks connection .refresh (.refreshPosition task)
  | replaced (task : Task) (position : Option Int) :
      Move tasks connection (.refreshPosition task) (.sendUpdate task position)
  | completed (position : Option Int) (ended : task.isCompleted = true) :
      Move tasks connection (.sendUpdate task position) .closeCompleted
  | updated (position : Option Int) (running : task.isCompleted = false) :
      Move tasks connection (.sendUpdate task position) .receiveText
  | heard : Move tasks connection .receiveText .refresh
  | removed (talking : before.isTalking = true) : Move tasks connection before .closeRemoved
  | busy (talking : before.isTalking = true) : Move tasks connection before .sendBusy
  | apologized : Move tasks connection .sendBusy .closeBusy
  | ended (before : Await) (error : Option Raised) : Move tasks connection before (.ended error)

variable {tasks : OrderedDict Text Task} {connection : Connection} {before after : Await}

theorem streamRaised_move (talking : before.isTalking = true) (error : Raised) :
    Move tasks connection before (streamRaised error) := by
  cases error with
  | taskNotFound => exact .removed talking
  | redisBackpressure => exact .busy talking
  | http | disconnect | cancelled | other => exact .ended before _

theorem lookupRaised_move (error : Raised) :
    Move tasks connection .taskStatus (lookupRaised error) := by
  cases error with
  | taskNotFound | redisBackpressure => exact .refused _
  | http | disconnect | cancelled | other => exact .ended _ _

theorem swallowed_move (error : Raised) : Move tasks connection before (swallowed error) := by
  cases error <;> exact .ended before _

theorem resumed_move (moves : resumed tasks connection before answer = some after) :
    Move tasks connection before after := by
  cases answer with
  | returned =>
    cases before with
    | taskStatus =>
      obtain ⟨task, found, rfl⟩ := Option.map_eq_some_iff.mp moves
      by_cases own : taskTenantId task.metadata = connection.tenant
      · simp only [assertTaskTenant, own, ne_eq, not_true_eq_false, ↓reduceIte]
        exact .joined found own
      · simp only [assertTaskTenant, own, ne_eq, not_false_eq_true, ↓reduceIte]
        exact lookupRaised_move _
    | refresh =>
      obtain ⟨task, found, rfl⟩ := Option.map_eq_some_iff.mp moves
      exact .refreshed found
    | sendUpdate task position =>
      cases moves
      cases ended : task.isCompleted with
      | true => exact .completed position ended
      | false => exact .updated position ended
    | accept => cases moves; exact .accepted
    | sendRefusal error => cases moves; exact .turnedAway error
    | sendGreeting task position => cases moves; exact .greeted task position
    | receiveText => cases moves; exact .heard
    | sendBusy => cases moves; exact .apologized
    | closeRefused | closeCompleted | closeRemoved | closeBusy => cases moves; exact .ended _ _
    | queuePosition | refreshPosition | ended => cases moves
  | position position =>
    cases before with
    | queuePosition task => cases moves; exact .placed task position
    | refreshPosition task => cases moves; exact .replaced task position
    | _ => cases moves
  | raised error =>
    cases before with
    | taskStatus => cases moves; exact lookupRaised_move error
    | accept | sendRefusal | closeRefused => cases moves; exact .ended _ _
    | closeRemoved | sendBusy | closeBusy => cases moves; exact swallowed_move error
    | ended => cases moves
    | _ => cases moves; exact streamRaised_move rfl error

/-! ### Frames -/

variable {hub : Hub ι}

@[simp] theorem moved_tasks (name : ι) (taskId : Text) :
    (hub.moved name taskId before after).tasks = hub.tasks := by
  unfold Hub.moved Hub.unsubscribe
  split
  · rfl
  · split
    · rfl
    · split
      · split <;> rfl
      · rfl

@[simp] theorem moved_pushes (name : ι) (taskId : Text) :
    (hub.moved name taskId before after).pushes = hub.pushes := by
  unfold Hub.moved Hub.unsubscribe
  split
  · rfl
  · split
    · rfl
    · split
      · split <;> rfl
      · rfl

end DoclingServeRay.Serving
