import DoclingServeRay.Serving.StatusSocket

/-! Who is told about a task: the subscribers of a task are the sockets that are
streaming it, and no socket is told about a task of another tenant. -/
namespace DoclingServeRay.Serving
open Strings EventMachine
open Facade (TaskStatusResponse taskTenantId)

variable {ι : Type} [DecidableEq ι] {notifier : Notifier ι} {settings : Settings} {hub : Hub ι}
  {before after : Await}

/-! ### The subscribers -/

theorem mem_subscribe (taskId probe : Text) (name other : ι) :
    other ∈ (hub.subscribe taskId name).subscribers probe ↔
      other ∈ hub.subscribers probe ∨ (probe = taskId ∧ other = name) := by
  simp only [Hub.subscribe, Hub.subscribers, OrderedDict.get?_upsert]
  by_cases same : probe = taskId
  · subst same
    simp [or_comm]
  · simp [same]

theorem mem_unsubscribe (taskId probe : Text) (name other : ι) :
    other ∈ (hub.unsubscribe taskId name).subscribers probe ↔
      other ∈ hub.subscribers probe ∧ ¬ (probe = taskId ∧ other = name) := by
  unfold Hub.unsubscribe
  cases held : hub.taskSubscribers.get? taskId with
  | none =>
    refine ⟨fun member => ⟨member, ?_⟩, And.left⟩
    rintro ⟨rfl, _⟩
    simp [Hub.subscribers, held] at member
  | some subs =>
    dsimp only
    split
    · rename_i nobody
      refine ⟨fun member => ⟨member, ?_⟩, And.left⟩
      rintro ⟨rfl, _⟩
      simp [Hub.subscribers, held, nobody] at member
    · simp only [Hub.subscribers, OrderedDict.get?_set]
      by_cases same : probe = taskId
      · subst same
        simp [held, and_comm]
      · simp [same]

/-- A move concerns the subscription of the one who makes it. -/
theorem mem_moved_other (taskId probe : Text) (distinct : other ≠ name) :
    other ∈ (hub.moved name taskId before after).subscribers probe ↔
      other ∈ hub.subscribers probe := by
  unfold Hub.moved
  split
  · exact Iff.rfl
  · split
    · rw [mem_subscribe]
      simp [distinct]
    · rw [mem_unsubscribe]
      simp [distinct]

theorem mem_moved_self (taskId probe : Text)
    (held : name ∈ hub.subscribers probe → before.isStreaming = true ∧ taskId = probe)
    (member : name ∈ (hub.moved name taskId before after).subscribers probe) :
    after.isStreaming = true ∧ taskId = probe := by
  unfold Hub.moved at member
  split at member
  · rename_i same
    rw [← same]
    exact held member
  · rename_i crossing
    split at member
    · rename_i streaming
      rcases (mem_subscribe taskId probe name name).mp member with earlier | ⟨rfl, _⟩
      · exact absurd ((held earlier).1.trans streaming.symm) crossing
      · exact ⟨streaming, rfl⟩
    · obtain ⟨earlier, elsewhere⟩ := (mem_unsubscribe taskId probe name name).mp member
      exact absurd ⟨(held earlier).2.symm, rfl⟩ elsewhere

theorem moved_mem_self (taskId : Text)
    (held : before.isStreaming = true → name ∈ hub.subscribers taskId)
    (streaming : after.isStreaming = true) :
    name ∈ (hub.moved name taskId before after).subscribers taskId := by
  unfold Hub.moved
  split
  · rename_i same
    exact held (same.trans streaming)
  · rw [mem_subscribe]
    exact Or.inr ⟨rfl, rfl⟩

/-! ### Tenants -/

/-- The orchestrator knows each task under its id, and each id belongs to one
tenant. -/
def OwnedBy (owner : Text → Text) (tasks : OrderedDict Text Task) : Prop :=
  ∀ taskId task, tasks.get? taskId = some task →
    task.taskId = taskId ∧ taskTenantId task.metadata = owner taskId

/-- Such changes of the orchestrator's tasks only. -/
def Change.Owned (owner : Text → Text) : Change → Prop
  | .tasks known => OwnedBy owner known
  | .notifies _ _ => True
  | .forgets _ => True

/-- The task that a coroutine has in hand. -/
def Await.task? : Await → Option Task
  | .queuePosition task => some task
  | .sendGreeting task _ => some task
  | .refreshPosition task => some task
  | .sendUpdate task _ => some task
  | _ => none

/-- The socket has neither joined nor been turned away. -/
def Await.isEarly : Await → Bool
  | .accept => true
  | .taskStatus => true
  | _ => false

/-- Who may be told about the task of its connection. -/
structure Entitled (settings : Settings) (owner : Text → Text) (connection : Connection) : Prop where
  key : settings.apiKey ≠ [] → connection.apiKey = settings.apiKey
  tenant : owner connection.taskId = connection.tenant

/-- A message about a task is for one who may be told about it. -/
def Proper (settings : Settings) (owner : Text → Text) (connection : Connection)
    (message : WebsocketMessage) : Prop :=
  ∀ response, message.task = some response →
    response.taskId = connection.taskId ∧ Entitled settings owner connection

/-- What is known of one socket. -/
structure Confined (settings : Settings) (owner : Text → Text) (socket : Socket) : Prop where
  keyed : socket.await.isEarly = true →
    settings.apiKey ≠ [] → socket.connection.apiKey = settings.apiKey
  entitled : socket.await.isStreaming = true → Entitled settings owner socket.connection
  named : ∀ task, socket.await.task? = some task → task.taskId = socket.connection.taskId
  proper : ∀ message ∈ socket.sent, Proper settings owner socket.connection message

theorem opened_confined (connection : Connection) :
    Confined settings owner (opened settings connection) := by
  have unnamed : (taskStatusWs settings connection).task? = none ∧
      (taskStatusWs settings connection).isStreaming = false := by
    unfold taskStatusWs
    split <;> exact ⟨rfl, rfl⟩
  refine ⟨?_, ?_, ?_, ?_⟩
  · intro early required
    by_contra wrong
    have barred : taskStatusWs settings connection = _ := if_pos ⟨required, wrong⟩
    rw [opened, barred] at early
    cases early
  · intro streaming
    cases unnamed.2.symm.trans streaming
  · intro task held
    cases unnamed.1.symm.trans held
  · intro message said
    cases said

/-- A coroutine that goes on is confined if what it goes on with is. -/
theorem enter_confined {socket : Socket} (confined : Confined settings owner socket)
    (keyed : after.isEarly = false ∨ socket.await.isEarly = true)
    (entitled : after.isStreaming = false ∨ Entitled settings owner socket.connection)
    (named : after.task? = none ∨
      ∃ task, after.task? = some task ∧ task.taskId = socket.connection.taskId)
    (spoken : after.message? = none ∨
      ∃ message, after.message? = some message ∧
        Proper settings owner socket.connection message) :
    Confined settings owner (socket.enter after) := by
  refine ⟨?_, ?_, ?_, ?_⟩
  · intro early
    rcases keyed with late | early'
    · cases late.symm.trans early
    · exact confined.keyed early'
  · intro streaming
    rcases entitled with idle | entitled
    · cases idle.symm.trans streaming
    · exact entitled
  · intro task held
    rcases named with nothing | ⟨other, held', named⟩
    · cases nothing.symm.trans held
    · cases held'.symm.trans held
      exact named
  · intro message said
    rcases List.mem_append.mp said with earlier | fresh
    · exact confined.proper message earlier
    · rcases spoken with silent | ⟨other, said', proper⟩
      · cases silent.symm.trans (Option.mem_toList.mp fresh)
      · cases said'.symm.trans (Option.mem_toList.mp fresh)
        exact proper

theorem talking_streams (talking : before.isTalking = true) : before.isStreaming = true := by
  cases before <;> first | rfl | cases talking

theorem refusal_proper (error : Text) (connection : Connection) :
    Proper settings owner connection (refusal error) := by
  intro response told
  cases told

theorem move_confined {socket : Socket} (owned : OwnedBy owner tasks)
    (confined : Confined settings owner socket)
    (move : Move tasks socket.connection socket.await after) :
    Confined settings owner (socket.enter after) := by
  obtain ⟨connection, await, sent, heard⟩ := socket
  -- What a coroutine says of its task, it says while streaming.
  have telling : ∀ (task : Task) (position : Option Int) message,
      await.isStreaming = true → await.task? = some task →
      message.task = some (taskResponse task position) → Proper settings owner connection message := by
    intro task position message streaming held told response answered
    cases told.symm.trans answered
    exact ⟨confined.named task held, confined.entitled streaming⟩
  cases move with
  | accepted => exact enter_confined confined (Or.inr rfl) (Or.inl rfl) (Or.inl rfl) (Or.inl rfl)
  | refused error =>
    apply enter_confined confined (Or.inl rfl) (Or.inl rfl) (Or.inl rfl)
    exact Or.inr ⟨_, rfl, refusal_proper error connection⟩
  | @joined task found own =>
    obtain ⟨named, tenant⟩ := owned _ _ found
    have entitled : Entitled settings owner connection :=
      ⟨confined.keyed rfl, tenant.symm.trans own⟩
    exact enter_confined confined (Or.inl rfl) (Or.inr entitled) (Or.inr ⟨task, rfl, named⟩)
      (Or.inl rfl)
  | placed task position =>
    have entitled := confined.entitled rfl
    exact enter_confined confined (Or.inl rfl) (Or.inr entitled)
      (Or.inr ⟨task, rfl, confined.named task rfl⟩)
      (Or.inr ⟨_, rfl, telling task position _ rfl rfl rfl⟩)
  | @refreshed task found =>
    have entitled := confined.entitled rfl
    exact enter_confined confined (Or.inl rfl) (Or.inr entitled)
      (Or.inr ⟨task, rfl, (owned _ _ found).1⟩) (Or.inl rfl)
  | replaced task position =>
    have entitled := confined.entitled rfl
    exact enter_confined confined (Or.inl rfl) (Or.inr entitled)
      (Or.inr ⟨task, rfl, confined.named task rfl⟩)
      (Or.inr ⟨_, rfl, telling task position _ rfl rfl rfl⟩)
  | greeted | completed | updated | heard | apologized =>
    have entitled := confined.entitled rfl
    exact enter_confined confined (Or.inl rfl) (Or.inr entitled) (Or.inl rfl) (Or.inl rfl)
  | removed talking =>
    have entitled := confined.entitled (talking_streams talking)
    exact enter_confined confined (Or.inl rfl) (Or.inr entitled) (Or.inl rfl) (Or.inl rfl)
  | busy talking =>
    have entitled := confined.entitled (talking_streams talking)
    exact enter_confined confined (Or.inl rfl) (Or.inr entitled) (Or.inl rfl)
      (Or.inr ⟨_, rfl, refusal_proper serverBusy connection⟩)
  | turnedAway | ended =>
    exact enter_confined confined (Or.inl rfl) (Or.inl rfl) (Or.inl rfl) (Or.inl rfl)

/-! ### The server -/

/-- What is known of a socket that may be open or not: it is subscribed to
nothing but the task that it is streaming, and what it is sent is for it. -/
structure Told (settings : Settings) (owner : Text → Text) (hub : Hub ι) (name : ι)
    (socket : Option Socket) : Prop where
  owned : OwnedBy owner hub.tasks
  subscribed : ∀ taskId, name ∈ hub.subscribers taskId →
    ∃ open', socket = some open' ∧ open'.await.isStreaming = true ∧
      open'.connection.taskId = taskId
  confined : ∀ open', socket = some open' → Confined settings owner open'
  pushed : ∀ push ∈ hub.pushes, name ∈ push.receivers →
    ∃ open', socket = some open' ∧ Proper settings owner open'.connection push.message

theorem told_kept (lawful : notifier.Lawful) (settings : Settings) (owner : Text → Text) :
    Keeps (sockets notifier settings) (fun _ _ => True) (Change.Owned owner)
      (Told settings owner) where
  entered := by
    intro hub name connection told _
    have unheard : ∀ taskId, name ∉ hub.subscribers taskId := by
      intro taskId member
      obtain ⟨_, absent, _⟩ := told.subscribed taskId member
      cases absent
    refine ⟨told.owned, ?_, ?_, ?_⟩
    · intro taskId member
      exact absurd member (unheard taskId)
    · rintro _ ⟨⟩
      exact opened_confined connection
    · intro push member received
      obtain ⟨_, absent, _⟩ := told.pushed push member received
      cases absent
  resumed := by
    intro hub name socket answer after next told moves
    obtain ⟨await, resumes, same⟩ := Option.map_eq_some_iff.mp moves
    cases same
    have move := resumed_move resumes
    refine ⟨by rw [moved_tasks]; exact told.owned, ?_, ?_, ?_⟩
    · intro taskId member
      refine ⟨_, rfl, mem_moved_self _ taskId ?_ member⟩
      intro earlier
      obtain ⟨_, ⟨⟩, streaming, about⟩ := told.subscribed taskId earlier
      exact ⟨streaming, about⟩
    · rintro _ ⟨⟩
      exact move_confined told.owned (told.confined socket rfl) move
    · intro push member received
      rw [moved_pushes] at member
      obtain ⟨_, ⟨⟩, proper⟩ := told.pushed push member received
      exact ⟨_, rfl, proper⟩
  others := by
    intro hub name socket other mate answer after next told distinct moves
    obtain ⟨await, resumes, same⟩ := Option.map_eq_some_iff.mp moves
    cases same
    refine ⟨by rw [moved_tasks]; exact told.owned, ?_, told.confined, ?_⟩
    · intro taskId member
      rw [mem_moved_other _ taskId (Ne.symm distinct)] at member
      exact told.subscribed taskId member
    · intro push member received
      rw [moved_pushes] at member
      exact told.pushed push member received
  shifted := by
    intro hub name socket change after told owned shifts
    cases change with
    | tasks known =>
      cases shifts
      exact ⟨owned, told.subscribed, told.confined, told.pushed⟩
    | notifies taskId position =>
      cases shifts
      refine ⟨told.owned, told.subscribed, told.confined, ?_⟩
      intro push member received
      rcases List.mem_append.mp member with earlier | fresh
      · exact told.pushed push earlier received
      · have subscribed := lawful.addressed hub taskId position push fresh received
        obtain ⟨open', there, streaming, rfl⟩ := told.subscribed taskId subscribed
        refine ⟨open', there, ?_⟩
        intro response answered
        obtain ⟨task, found, same⟩ := lawful.about hub _ position push fresh response answered
        exact ⟨same.trans (told.owned _ _ found).1, (told.confined open' there).entitled streaming⟩
    | forgets forgotten =>
      cases shifts
      refine ⟨told.owned, ?_, told.confined, told.pushed⟩
      intro taskId member
      exact told.subscribed taskId ((lawful.remains hub forgotten taskId name).mp member).1

/-- A socket that is streaming the task is subscribed to it. -/
def Reached (taskId : Text) (hub : Hub ι) (name : ι) (socket : Option Socket) : Prop :=
  ∀ open', socket = some open' → open'.connection.taskId = taskId →
    open'.await.isStreaming = true → name ∈ hub.subscribers taskId

theorem reached_kept (lawful : notifier.Lawful) (settings : Settings) (taskId : Text) :
    Keeps (sockets notifier settings) (fun _ _ => True) (fun change => change ≠ .forgets taskId)
      (Reached taskId) where
  entered := by
    rintro hub name connection _ _ _ ⟨⟩ _ streaming
    have waiting : (opened settings connection).await.isStreaming = false := by
      simp only [opened, taskStatusWs]
      split <;> rfl
    cases waiting.symm.trans streaming
  resumed := by
    intro hub name socket answer after next reached moves open' same about streaming
    obtain ⟨await, resumes, moved⟩ := Option.map_eq_some_iff.mp moves
    cases moved
    cases same
    subst about
    exact moved_mem_self _ (reached socket rfl rfl) streaming
  others := by
    intro hub name socket other mate answer after next reached distinct moves open' there about
      streaming
    obtain ⟨await, resumes, moved⟩ := Option.map_eq_some_iff.mp moves
    cases moved
    rw [mem_moved_other _ taskId (Ne.symm distinct)]
    exact reached open' there about streaming
  shifted := by
    intro hub name socket change after reached remembered shifts open' there about streaming
    have subscribed := reached open' there about streaming
    cases change with
    | tasks known =>
      cases shifts
      exact subscribed
    | notifies about position =>
      cases shifts
      exact subscribed
    | forgets forgotten =>
      cases shifts
      refine (lawful.remains hub forgotten taskId name).mpr ⟨subscribed, ?_⟩
      rintro rfl
      exact remembered rfl

theorem told_nobody {κ : Type} (settings : Settings) (owner : Text → Text) (name : κ) :
    Told settings owner ⟨.empty, .empty, []⟩ name none := by
  refine ⟨?_, ?_, ?_, ?_⟩
  · intro taskId task held
    cases held
  · intro taskId member
    exact absurd member (Finset.notMem_empty name)
  · intro socket absent
    cases absent
  · intro push member
    cases member

/-- What the notifier has sent to a socket. -/
def Hub.pushedTo (hub : Hub ι) (name : ι) : List WebsocketMessage := messagesTo name hub.pushes

/-- However sockets open, go on, fail and end while tasks change and the
notifier sends and forgets, a subscriber of a task is a socket that is streaming
it, every such socket is one unless the notifier forgot it, and whatever a socket
has been sent about a task, by its own coroutine or by the notifier, is about the
task it asked for, which belongs to the tenant it named, and was sent to one with
the key. -/
theorem sockets_confined {events : List (CrewEvent ι Connection Answer Change)}
    {crew : Crew (Hub ι) ι Socket} {owner : Text → Text} (notifying : notifier.Lawful)
    (owned : ∀ tasks, .shifts (.tasks tasks) ∈ events → OwnedBy owner tasks)
    (ran : (server notifier settings).run events = some crew) :
    (∀ name taskId, name ∈ crew.shared.subscribers taskId →
      ∃ socket, crew.members.get? name = some socket ∧ socket.await.isStreaming = true ∧
        socket.connection.taskId = taskId) ∧
    (∀ taskId, .shifts (.forgets taskId) ∉ events → ∀ name socket,
      crew.members.get? name = some socket → socket.connection.taskId = taskId →
        socket.await.isStreaming = true → name ∈ crew.shared.subscribers taskId) ∧
    ∀ name socket, crew.members.get? name = some socket →
      ∀ message ∈ socket.sent ++ crew.shared.pushedTo name,
        ∀ response, message.task = some response →
          response.taskId = socket.connection.taskId ∧
            owner response.taskId = socket.connection.tenant ∧
            (settings.apiKey ≠ [] → socket.connection.apiKey = settings.apiKey) := by
  have begins : (server notifier settings).start.All (Told settings owner) :=
    told_nobody settings owner
  have lawful : ∀ event ∈ events, event.Lawful (fun _ _ => True) (Change.Owned owner) := by
    intro event member
    cases event with
    | enters | resumes => trivial
    | shifts change =>
      cases change with
      | tasks known => exact owned known member
      | notifies | forgets => trivial
  have told := keeps_run (told_kept notifying settings owner) begins lawful ran
  refine ⟨fun name => (told name).subscribed, ?_, ?_⟩
  · intro taskId remembered name socket found about streaming
    have nobody : (server notifier settings).start.All (Reached taskId) := by
      intro _ open' absent
      cases absent
    have lawful' : ∀ event ∈ events,
        event.Lawful (fun _ _ => True) fun change => change ≠ .forgets taskId := by
      intro event member
      cases event with
      | enters | resumes => trivial
      | shifts change =>
        rintro rfl
        exact remembered member
    have reached := keeps_run (reached_kept notifying settings taskId) nobody lawful' ran
    exact reached name socket found about streaming
  intro name socket found message said response answered
  have proper : Proper settings owner socket.connection message := by
    rcases List.mem_append.mp said with own | pushed
    · exact ((told name).confined socket found).proper message own
    · obtain ⟨push, member, rfl⟩ := List.mem_map.mp pushed
      obtain ⟨sent, received⟩ := List.mem_filter.mp member
      obtain ⟨other, there, proper⟩ := (told name).pushed push sent (by simpa using received)
      cases found.symm.trans there
      exact proper
  obtain ⟨named, entitled⟩ := proper response answered
  exact ⟨named, named ▸ entitled.tenant, entitled.key⟩

theorem acmeTasks_owned (isCompleted : Bool) :
    OwnedBy (fun _ => "acme".toList) (acmeTasks isCompleted) := by
  have tenant : taskTenantId (acmeTask isCompleted).metadata = "acme".toList := by
    cases isCompleted <;> decide
  intro taskId task held
  rw [acmeTasks, OrderedDict.get?_set] at held
  split at held
  · rename_i same
    cases held
    exact ⟨same.symm, tenant⟩
  · cases held

/-- A client of the task's tenant and one of no tenant ask for the task, and the
notifier sends its state. -/
def twoClients : List (CrewEvent Nat Connection Answer Change) :=
  [.shifts (.tasks (acmeTasks false)),
    .enters 0 ⟨"t".toList, [], some "acme".toList⟩, .enters 1 ⟨"t".toList, [], none⟩,
    .resumes 0 .returned, .resumes 1 .returned, .resumes 0 .returned, .resumes 1 .returned,
    .shifts (.notifies "t".toList none)]

theorem sockets_confined_acme :
    ∃ crew socket, (server (plainNotifier Nat) {}).run twoClients = some crew ∧
      crew.members.get? 1 = some socket ∧ 1 ∉ crew.shared.subscribers "t".toList ∧
      ∀ message ∈ socket.sent ++ crew.shared.pushedTo 1, message.task = none := by
  have goes : ((server (plainNotifier Nat) {}).run twoClients).any
      (fun crew => (crew.members.get? 1).any fun socket =>
        !socket.await.isStreaming && socket.connection.tenantId = none) = true := by
    decide +kernel
  obtain ⟨crew, ran, shown⟩ := (Option.any_eq_true _ _).mp goes
  obtain ⟨socket, found, holds⟩ := (Option.any_eq_true _ _).mp shown
  obtain ⟨idle, nobody⟩ := Bool.and_eq_true_iff.mp holds
  have owned : ∀ tasks, .shifts (.tasks tasks) ∈ twoClients →
      OwnedBy (fun _ => "acme".toList) tasks := by
    intro tasks member
    simp only [twoClients, List.mem_cons, CrewEvent.shifts.injEq, Change.tasks.injEq,
      List.not_mem_nil, reduceCtorEq, or_false] at member
    subst member
    exact acmeTasks_owned false
  obtain ⟨subscribed, _, confined⟩ := sockets_confined plainNotifier_lawful owned ran
  refine ⟨crew, socket, ran, found, ?_, ?_⟩
  · intro member
    obtain ⟨other, there, streaming, _⟩ := subscribed 1 "t".toList member
    cases found.symm.trans there
    simp [streaming] at idle
  · intro message said
    cases told : message.task with
    | none => rfl
    | some response =>
      obtain ⟨_, tenant, _⟩ := confined 1 socket found message said response told
      rw [Connection.tenant, of_decide_eq_true nobody] at tenant
      exact absurd tenant (by decide)

end DoclingServeRay.Serving
