import DoclingServeRay.Serving.Requests
import DoclingServeRay.Serving.Subscribers

/-! What a tenant can find out about the tasks of others: nothing, not even
whether there are any. Its sockets and requests go as they would if docling-serve
knew no task but its own and had no client but it. -/
namespace DoclingServeRay.Serving
open Strings EventMachine
open Facade (taskTenantId)

variable {ι : Type} {settings : Settings} {tenant : Text} {mine : ι → Bool}
  {owner : Text → Text}

/-! ### One tenant's part -/

/-- The task is the tenant's. -/
def Task.isOf (tenant : Text) (task : Task) : Bool := taskTenantId task.metadata = tenant

def ownTasks (tenant : Text) (tasks : OrderedDict Text Task) : OrderedDict Text Task :=
  tasks.filterKeys fun taskId => (tasks.get? taskId).any (Task.isOf tenant)

theorem get?_ownTasks (tenant : Text) (tasks : OrderedDict Text Task) (taskId : Text) :
    (ownTasks tenant tasks).get? taskId = (tasks.get? taskId).filter (Task.isOf tenant) := by
  rw [ownTasks, OrderedDict.get?_filterKeys]
  cases tasks.get? taskId with
  | none => rfl
  | some task => simp [Option.filter]

/-- What happens around the coroutines, as far as the tenant's tasks go. -/
def Change.only (tenant : Text) : Change → Change
  | .tasks known => .tasks (ownTasks tenant known)
  | .notifies taskId position => .notifies taskId position
  | .forgets taskId => .forgets taskId

/-! ### Lookups -/

variable {connection : Connection} {await : Await} {tasks others : OrderedDict Text Task}

theorem resumed_elsewhere (elsewhere : await.isLookup = false) (answer : Answer) :
    resumed others connection await answer = resumed tasks connection await answer := by
  cases await with
  | taskStatus | refresh => cases elsewhere
  | _ => cases answer <;> rfl

theorem unserved_alike {known known' : Option Task} {lookup : Bool} {reply : Reply}
    (unserved : reply ≠ .served) :
    (answered known lookup reply).bind (resumed others connection await) =
      (answered known' lookup reply).bind (resumed tasks connection await) := by
  cases reply with
  | served => exact absurd rfl unserved
  | position position => cases await <;> rfl
  | outcome | prepared => rfl
  | failed error =>
    simp only [answered]
    split
    · rfl
    · cases await <;> rfl

/-- Whether a task is not there or of another tenant, the first lookup ends in the
same way. -/
theorem taskStatus_foreign (foreign : ∀ task, tasks.get? connection.taskId = some task →
      task.isOf connection.tenant = false) :
    (answered (tasks.get? connection.taskId) true .served).bind
      (resumed tasks connection .taskStatus) = some (.sendRefusal noTask) := by
  cases found : tasks.get? connection.taskId with
  | none => rfl
  | some task =>
    have other : taskTenantId task.metadata ≠ connection.tenant := by
      simpa [Task.isOf] using foreign task found
    simp [answered, resumed, found, assertTaskTenant, other, lookupRaised]

/-- In a stream the task is the tenant's own, if there is one. -/
theorem answer_alike {reply : Reply}
    (same : others.get? connection.taskId =
      (tasks.get? connection.taskId).filter (Task.isOf connection.tenant))
    (own : await.isStreaming = true → ∀ task, tasks.get? connection.taskId = some task →
      task.isOf connection.tenant = true) :
    (answered (others.get? connection.taskId) await.isLookup reply).bind
        (resumed others connection await) =
      (answered (tasks.get? connection.taskId) await.isLookup reply).bind
        (resumed tasks connection await) := by
  by_cases served : reply = .served
  case neg => exact unserved_alike served
  subst served
  cases lookup : await.isLookup with
  | false =>
    rw [funext (resumed_elsewhere lookup)]
    rfl
  | true =>
    by_cases shared : others.get? connection.taskId = tasks.get? connection.taskId
    · cases await with
      | taskStatus | refresh => simp [answered, resumed, shared]
      | _ => cases lookup
    · -- A task of another tenant.
      have foreign : ∀ task, tasks.get? connection.taskId = some task →
          task.isOf connection.tenant = false := by
        intro task found
        by_contra known
        rw [same, found] at shared
        simp [Option.filter, known] at shared
      have absent : ∀ task, others.get? connection.taskId = some task →
          task.isOf connection.tenant = false := by
        intro task found
        rw [same, Option.filter_eq_some_iff] at found
        exact foreign task found.1
      cases await with
      | taskStatus => rw [taskStatus_foreign foreign, taskStatus_foreign absent]
      | refresh =>
        cases found : tasks.get? connection.taskId with
        | none => exact absurd (by rw [same, found]; rfl) shared
        | some task => cases (foreign task found).symm.trans (own rfl task found)
      | _ => cases lookup

theorem asked_alike {query : Query} {asking : Asking} {reply : Reply}
    (same : others.get? query.taskId = (tasks.get? query.taskId).filter (Task.isOf query.tenant)) :
    asked (others.get? query.taskId) query asking reply =
      asked (tasks.get? query.taskId) query asking reply := by
  cases asking with
  | taskStatus =>
    cases reply with
    | served =>
      cases found : tasks.get? query.taskId with
      | none => rw [same, found]; rfl
      | some task =>
        rw [same, found]
        by_cases known : taskTenantId task.metadata = query.tenant
        · simp [Option.filter, Task.isOf, known]
        · simp [Option.filter, Task.isOf, known, asked, looked, assertTaskTenant]
    | position | outcome | prepared | failed => rfl
  | taskOutcome =>
    cases reply with
    | outcome stored => rcases stored with _ | (_ | _ | _) <;> rfl
    | served | position | prepared | failed => rfl
  | queuePosition | prepareResponse | responded => cases reply <;> rfl

/-! ### The tenant's sockets -/

variable {hub other : Hub ι}

/-- The tenant's sockets name the tenant. -/
def Named (tenant : Text) (mine : ι → Bool) (_ : Hub ι) (name : ι) (socket : Option Socket) : Prop :=
  mine name = true → ∀ open', socket = some open' → open'.connection.tenant = tenant

/-- What is known of a socket. -/
abbrev Known (settings : Settings) (owner : Text → Text) (tenant : Text) (mine : ι → Bool)
    (hub : Hub ι) (name : ι) (socket : Option Socket) : Prop :=
  Told settings owner hub name socket ∧ Named tenant mine hub name socket

/-- The tenant's sockets stream the tenant's tasks. -/
theorem known_own {name : ι} {socket : Socket} {task : Task}
    (known : Known settings owner tenant mine hub name (some socket)) (visible : mine name = true)
    (streaming : socket.await.isStreaming = true)
    (found : hub.tasks.get? socket.connection.taskId = some task) : task.isOf tenant = true := by
  obtain ⟨told, named⟩ := known
  have entitled := (told.confined socket rfl).entitled streaming
  have owned := (told.owned _ _ found).2
  rw [Task.isOf, decide_eq_true_iff, owned, entitled.tenant]
  exact named visible socket rfl

/-! ### Hubs that are alike -/

variable [DecidableEq ι] {notifier : Notifier ι}

/-- Two hubs are alike for the tenant's sockets and requests; the second knows
the tenant's tasks only. -/
structure Alike (tenant : Text) (mine : ι → Bool) (hub other : Hub ι) : Prop where
  tasks : ∀ taskId, other.tasks.get? taskId = (hub.tasks.get? taskId).filter (Task.isOf tenant)
  subscribers : ∀ name, mine name = true → ∀ taskId,
    name ∈ other.subscribers taskId ↔ name ∈ hub.subscribers taskId
  pushed : ∀ name, mine name = true → other.pushedTo name = hub.pushedTo name

theorem alike_moved (same : Alike tenant mine hub other) (name : ι) (taskId : Text)
    (before after : Await) :
    Alike tenant mine (hub.moved name taskId before after)
      (other.moved name taskId before after) where
  tasks := by
    rw [moved_tasks, moved_tasks]
    exact same.tasks
  subscribers := by
    intro probe own about
    unfold Hub.moved
    split
    · exact same.subscribers probe own about
    · split
      · rw [mem_subscribe, mem_subscribe, same.subscribers probe own]
      · rw [mem_unsubscribe, mem_unsubscribe, same.subscribers probe own]
  pushed := by
    simp only [Hub.pushedTo, moved_pushes]
    exact same.pushed

/-- The moves of others make no difference. -/
theorem alike_moved_other (same : Alike tenant mine hub other) (hidden : mine name = false)
    (taskId : Text) (before after : Await) :
    Alike tenant mine (hub.moved name taskId before after) other where
  tasks := by
    rw [moved_tasks]
    exact same.tasks
  subscribers := by
    intro probe own about
    have distinct : probe ≠ name := by
      rintro rfl
      cases own.symm.trans hidden
    rw [mem_moved_other taskId about distinct]
    exact same.subscribers probe own about
  pushed := by
    simp only [Hub.pushedTo, moved_pushes]
    exact same.pushed

theorem messagesTo_append (name : ι) (first rest : List (Push ι)) :
    messagesTo name (first ++ rest) = messagesTo name first ++ messagesTo name rest := by
  simp [messagesTo]

/-- Nothing is sent about a task to one that is not subscribed to it. -/
theorem messagesTo_unsubscribed (lawful : notifier.Lawful) (position : Option Int)
    (unsubscribed : name ∉ hub.subscribers taskId) :
    messagesTo name (notifier.pushes hub taskId position) = [] := by
  refine List.map_eq_nil_iff.mpr (List.filter_eq_nil_iff.mpr ?_)
  intro push member received
  exact unsubscribed (lawful.addressed hub taskId position push member (of_decide_eq_true received))

theorem alike_notify (lawful : notifier.Lawful) (same : Alike tenant mine hub other) (taskId : Text)
    (position : Option Int)
    (own : ∀ name, mine name = true → name ∈ hub.subscribers taskId → ∀ task,
      hub.tasks.get? taskId = some task → task.isOf tenant = true) :
    Alike tenant mine (hub.notify notifier taskId position)
      (other.notify notifier taskId position) where
  tasks := same.tasks
  subscribers := same.subscribers
  pushed := by
    intro name visible
    have earlier := same.pushed name visible
    simp only [Hub.pushedTo, Hub.notify, messagesTo_append] at earlier ⊢
    rw [earlier]
    congr 1
    by_cases subscribed : name ∈ hub.subscribers taskId
    · have known : other.tasks.get? taskId = hub.tasks.get? taskId := by
        rw [same.tasks]
        cases found : hub.tasks.get? taskId with
        | none => rfl
        | some task => simp [Option.filter, own name visible subscribed task found]
      exact lawful.alike hub other taskId position name known subscribed
        ((same.subscribers name visible taskId).mpr subscribed)
    · have unsubscribed : name ∉ other.subscribers taskId :=
        fun there => subscribed ((same.subscribers name visible taskId).mp there)
      rw [messagesTo_unsubscribed lawful position subscribed,
        messagesTo_unsubscribed lawful position unsubscribed]

theorem alike_forget (lawful : notifier.Lawful) (same : Alike tenant mine hub other)
    (taskId : Text) :
    Alike tenant mine (hub.forget notifier taskId) (other.forget notifier taskId) where
  tasks := same.tasks
  subscribers := by
    intro name own about
    rw [lawful.remains, lawful.remains, same.subscribers name own]
  pushed := same.pushed

/-! ### Moves -/

theorem named_kept (notifier : Notifier ι) (settings : Settings) (tenant : Text) (mine : ι → Bool)
    (permitted : Change → Prop) :
    Keeps (sockets notifier settings) (fun name connection => mine name = true → connection.tenant = tenant)
      permitted (Named tenant mine) where
  entered := by
    rintro hub name connection _ theirs own _ ⟨⟩
    exact theirs own
  resumed := by
    intro hub name socket answer after next named moves own open' there
    obtain ⟨await, resumes, moved⟩ := Option.map_eq_some_iff.mp moves
    cases moved
    cases there
    exact named own socket rfl
  others := fun _ _ _ _ _ _ _ _ named _ _ => named
  shifted := fun _ _ _ _ _ named _ _ => named

theorem sockets_unwind (notifying : notifier.Lawful) (settings : Settings) (owner : Text → Text)
    (tenant : Text) (mine : ι → Bool) :
    Unwinds ((sockets notifier settings).answering orchestrated) mine (Change.Owned owner)
      (Known settings owner tenant mine) (Change.only tenant) (Alike tenant mine) where
  resumed := by
    intro hub other name socket reply after next same visible known moves
    obtain ⟨answer, given, moves⟩ := Option.bind_eq_some_iff.mp moves
    obtain ⟨await, resumes, moved⟩ := Option.map_eq_some_iff.mp moves
    cases moved
    have theirs : socket.connection.tenant = tenant := known.2 visible socket rfl
    have goes := Option.bind_eq_some_iff.mpr ⟨answer, given, resumes⟩
    rw [orchestrated, ← answer_alike (theirs ▸ same.tasks _)
      (fun streaming task found => theirs ▸ known_own known visible streaming found)] at goes
    obtain ⟨answer', given', resumes'⟩ := Option.bind_eq_some_iff.mp goes
    refine ⟨_, ?_, alike_moved same name socket.connection.taskId socket.await await⟩
    exact Option.bind_eq_some_iff.mpr
      ⟨answer', given', Option.map_eq_some_iff.mpr ⟨await, resumes', rfl⟩⟩
  others := by
    intro hub other name socket reply after next same hidden moves
    obtain ⟨answer, given, moves⟩ := Option.bind_eq_some_iff.mp moves
    obtain ⟨await, resumes, moved⟩ := Option.map_eq_some_iff.mp moves
    cases moved
    exact alike_moved_other same hidden _ _ _
  shifted := by
    intro hub other change after same known owned shifts
    cases change with
    | tasks tasks =>
      cases shifts
      exact ⟨_, rfl, get?_ownTasks tenant tasks, same.subscribers, same.pushed⟩
    | notifies taskId position =>
      cases shifts
      refine ⟨_, rfl, alike_notify notifying same taskId position ?_⟩
      intro name visible subscribed task found
      obtain ⟨socket, told, named⟩ := known name
      obtain ⟨open', rfl, streaming, rfl⟩ := told.subscribed taskId subscribed
      exact known_own ⟨told, named⟩ visible streaming found
    | forgets taskId =>
      cases shifts
      exact ⟨_, rfl, alike_forget notifying same taskId⟩

theorem requests_same {request next : Request} {reply : Reply} (same : Alike tenant mine hub other)
    (theirs : request.query.tenant = tenant)
    (moved : (requests ι).resume hub request reply = some next) :
    (requests ι).resume other request reply = some next := by
  obtain ⟨asking, goes, rfl⟩ := Option.map_eq_some_iff.mp moved
  rw [← asked_alike (theirs ▸ same.tasks _)] at goes
  exact Option.map_eq_some_iff.mpr ⟨asking, goes, rfl⟩

/-- The tenant's requests name the tenant. -/
def Asks (tenant : Text) (mine : ι → Bool) (name : ι) (request : Request) : Prop :=
  mine name = true → request.query.tenant = tenant

theorem clients_kept (notifying : notifier.Lawful) (settings : Settings) (owner : Text → Text)
    (tenant : Text) (mine : ι → Bool) :
    Keeps (clients notifier settings) (fun name =>
        Sum.elim (fun connection => True ∧ (mine name = true → connection.tenant = tenant))
          fun query => mine name = true → query.tenant = tenant)
      (Change.Owned owner) (Beside (Known settings owner tenant mine) (Asks tenant mine)) := by
  apply keeps_alongside
  · exact keeps_answering (keeps_and (told_kept notifying settings owner)
      (named_kept notifier settings tenant mine _))
  · exact fun _ _ theirs => theirs
  · intro hub name request reply next asks moved visible
    obtain ⟨asking, _, rfl⟩ := Option.map_eq_some_iff.mp moved
    exact asks visible

theorem clients_unwind (notifying : notifier.Lawful) (settings : Settings) (owner : Text → Text)
    (tenant : Text) (mine : ι → Bool) :
    Unwinds (clients notifier settings) mine (Change.Owned owner)
      (Beside (Known settings owner tenant mine) (Asks tenant mine)) (Change.only tenant)
      (Alike tenant mine) :=
  unwinds_alongside (sockets_unwind notifying settings owner tenant mine)
    fun _ _ _ _ _ _ same visible asks moved => requests_same same (asks visible) moved

/-! ### The service -/

/-- However clients open sockets and ask for tasks and results, and however the
tasks of all tenants change meanwhile, what becomes of a tenant's sockets and
requests, with all that they are sent, is what becomes of them where docling-serve
has no other clients and knows no other tasks. -/
theorem strangers_unseen {events : List (ClientEvent ι)} {crew : Crew (Hub ι) ι (Socket ⊕ Request)}
    (notifying : notifier.Lawful)
    (owned : ∀ tasks, .shifts (.tasks tasks) ∈ events → OwnedBy owner tasks)
    (theirs : ∀ name client, .enters name client ∈ events → mine name = true →
      Client.tenant client = tenant)
    (ran : (service notifier settings).run events = some crew) :
    ∃ alone, (service notifier settings).run (events.filterMap (shownTo mine (Change.only tenant))) =
        some alone ∧
      ∀ name, mine name = true → alone.members.get? name = crew.members.get? name ∧
        alone.shared.pushedTo name = crew.shared.pushedTo name := by
  have begins : (service notifier settings).start.All
      (Beside (Known settings owner tenant mine) (Asks tenant mine)) :=
    fun name => ⟨⟨told_nobody settings owner name, nofun⟩, nofun⟩
  have lawful : ∀ event ∈ events, event.Lawful (fun name =>
      Sum.elim (fun connection => True ∧ (mine name = true → connection.tenant = tenant))
        fun query => mine name = true → query.tenant = tenant) (Change.Owned owner) := by
    intro event member
    cases event with
    | enters name client =>
      cases client with
      | inl connection => exact ⟨trivial, theirs name _ member⟩
      | inr query => exact theirs name _ member
    | resumes => trivial
    | shifts change =>
      cases change with
      | tasks known => exact owned known member
      | notifies | forgets => trivial
  have same : SameView mine (Alike tenant mine) (service notifier settings).start
      (service notifier settings).start :=
    ⟨⟨fun _ => rfl, fun _ _ _ => Iff.rfl, fun _ _ => rfl⟩, fun _ _ => rfl⟩
  obtain ⟨alone, ran', seen⟩ := unwinding_run (clients_kept notifying settings owner tenant mine)
    (clients_unwind notifying settings owner tenant mine) begins lawful same ran
  exact ⟨alone, ran', fun name visible =>
    ⟨seen.members name visible, seen.shared.pushed name visible⟩⟩

/-- While a client of `acme` streams its task, one of no tenant asks for the task
by a socket and by a request. -/
def strangersAsk : List (ClientEvent Nat) :=
  [.shifts (.tasks (acmeTasks false)),
    .enters 0 (.inl ⟨"t".toList, [], some "acme".toList⟩), .resumes 0 (.inl .served),
    .resumes 0 (.inl .served), .enters 1 (.inl ⟨"t".toList, [], none⟩),
    .enters 2 (.inr ⟨.taskStatusPoll, "t".toList, none⟩), .resumes 1 (.inl .served),
    .resumes 1 (.inl .served), .resumes 2 (.inr .served), .shifts (.notifies "t".toList none)]

theorem strangers_unseen_default :
    ∃ crew alone, (service (plainNotifier Nat) {}).run strangersAsk = some crew ∧
      (crew.shared.tasks.get? "t".toList).isSome = true ∧
      (service (plainNotifier Nat) {}).run (strangersAsk.filterMap
        (shownTo (fun name => name ≠ 0) (Change.only "default".toList))) = some alone ∧
      alone.members.get? 1 = crew.members.get? 1 ∧ alone.members.get? 2 = crew.members.get? 2 := by
  have goes : ((service (plainNotifier Nat) {}).run strangersAsk).any
      (fun crew => (crew.shared.tasks.get? "t".toList).isSome) = true := by
    decide +kernel
  obtain ⟨crew, ran, known⟩ := (Option.any_eq_true _ _).mp goes
  have owned : ∀ tasks, .shifts (.tasks tasks) ∈ strangersAsk →
      OwnedBy (fun _ => "acme".toList) tasks := by
    intro tasks member
    simp only [strangersAsk, List.mem_cons, CrewEvent.shifts.injEq, Change.tasks.injEq,
      List.not_mem_nil, reduceCtorEq, or_false] at member
    subst member
    exact acmeTasks_owned false
  have theirs : ∀ name client, .enters name client ∈ strangersAsk →
      decide (name ≠ 0) = true → Client.tenant client = "default".toList := by
    intro name client member other
    simp only [strangersAsk, List.mem_cons, CrewEvent.enters.injEq, List.not_mem_nil, reduceCtorEq,
      or_false, false_or] at member
    rcases member with ⟨rfl, _⟩ | ⟨_, rfl⟩ | ⟨_, rfl⟩
    · cases other
    · rfl
    · rfl
  obtain ⟨alone, ran', same⟩ := strangers_unseen plainNotifier_lawful owned theirs ran
  exact ⟨crew, alone, ran, known, ran', (same 1 rfl).1, (same 2 rfl).1⟩

end DoclingServeRay.Serving
