import DoclingServeRay.Serving.StatusSocket

/-! What a client hears on a status socket: a greeting, an update at once and
one for each of its messages, and after an update of a completed task nothing
but the end. -/
namespace DoclingServeRay.Serving
open Strings EventMachine

variable {ι : Type} [DecidableEq ι] {notifier : Notifier ι} {settings : Settings}
  {tasks : OrderedDict Text Task} {connection : Connection} {before after : Await}

/-! ### Transcripts -/

/-- A task as it was found, and its place in the queue. -/
abbrev Status := Task × Option Int

/-- A greeting and the updates after it. -/
def spoken (first : Status) (updates : List Status) : List WebsocketMessage :=
  greeting first.1 first.2 :: updates.map fun status => updating status.1 status.2

def Unfinished (updates : List Status) : Prop := ∀ status ∈ updates, status.1.isCompleted = false

/-- The coroutine has said nothing yet, or has ended without saying anything. -/
def Await.isQuiet : Await → Bool
  | .accept => true
  | .taskStatus => true
  | .queuePosition _ => true
  | .closeRemoved => true
  | .ended _ => true
  | _ => false

/-- The coroutine has apologized. -/
def Await.isSorry : Await → Bool
  | .sendRefusal _ => true
  | .closeRefused => true
  | .sendBusy => true
  | .closeBusy => true
  | .ended _ => true
  | _ => false

/-- The client is not spoken to any more. -/
def Await.isOver : Await → Bool
  | .closeRemoved => true
  | .ended _ => true
  | _ => false

/-- What has been sent when the coroutine is suspended at an await and has heard
its client so often. -/
inductive Transcript : Await → Nat → List WebsocketMessage → Prop where
  | silent (quiet : await.isQuiet = true) : Transcript await 0 []
  | refused (apology : await.isSorry = true) (error : Text) : Transcript await 0 [refusal error]
  | greeting (task : Task) (position : Option Int) :
      Transcript (.sendGreeting task position) 0 (spoken (task, position) [])
  | refreshing (first : Status) (unfinished : Unfinished updates) :
      Transcript .refresh updates.length (spoken first updates)
  | placing (first : Status) (task : Task) (unfinished : Unfinished updates) :
      Transcript (.refreshPosition task) updates.length (spoken first updates)
  | telling (first : Status) (task : Task) (position : Option Int) (unfinished : Unfinished updates) :
      Transcript (.sendUpdate task position) updates.length
        (spoken first (updates ++ [(task, position)]))
  | listening (first : Status) (unfinished : Unfinished updates)
      (answered : updates.length = heard + 1) : Transcript .receiveText heard (spoken first updates)
  | completing (first last : Status) (unfinished : Unfinished updates)
      (completed : last.1.isCompleted = true) :
      Transcript .closeCompleted updates.length (spoken first (updates ++ [last]))
  | parted (out : await.isOver = true) (first : Status) (unfinished : Unfinished updates.dropLast)
      (asked : heard ≤ updates.length) (answered : updates.length ≤ heard + 1) :
      Transcript await heard (spoken first updates)
  | busy (apology : await.isSorry = true) (first : Status) (unfinished : Unfinished updates.dropLast)
      (asked : heard ≤ updates.length) (answered : updates.length ≤ heard + 1) :
      Transcript await heard (spoken first updates ++ [refusal serverBusy])

theorem unfinished_dropLast {updates : List Status} (unfinished : Unfinished updates) :
    Unfinished updates.dropLast := by
  intro status member
  exact unfinished status (List.dropLast_subset updates member)

theorem talking_without_apology (talking : before.isTalking = true) : before.isSorry = false := by
  cases before <;> first | rfl | cases talking

/-- What a coroutine has said when it leaves the stream. -/
theorem transcript_left (transcript : Transcript before heard sent)
    (talking : before.isTalking = true) :
    (heard = 0 ∧ sent = []) ∨ ∃ first updates, sent = spoken first updates ∧
      Unfinished updates.dropLast ∧ heard ≤ updates.length ∧ updates.length ≤ heard + 1 := by
  cases transcript with
  | silent quiet => exact Or.inl ⟨rfl, rfl⟩
  | refused apology error => cases (talking_without_apology talking).symm.trans apology
  | greeting task position => exact Or.inr ⟨_, [], rfl, nofun, le_rfl, Nat.zero_le _⟩
  | refreshing first unfinished =>
    exact Or.inr ⟨first, _, rfl, unfinished_dropLast unfinished, le_rfl, Nat.le_succ _⟩
  | placing first task unfinished =>
    exact Or.inr ⟨first, _, rfl, unfinished_dropLast unfinished, le_rfl, Nat.le_succ _⟩
  | telling first task position unfinished =>
    refine Or.inr ⟨first, _, rfl, ?_, ?_, ?_⟩
    · rw [List.dropLast_concat]
      exact unfinished
    · simp
    · simp
  | listening first unfinished answered =>
    exact Or.inr ⟨first, _, rfl, unfinished_dropLast unfinished, by omega, by omega⟩
  | completing first last unfinished completed =>
    refine Or.inr ⟨first, _, rfl, ?_, ?_, ?_⟩
    · rw [List.dropLast_concat]
      exact unfinished
    · simp
    · simp
  | parted out first unfinished asked answered =>
    exact Or.inr ⟨first, _, rfl, unfinished, asked, answered⟩
  | busy apology first unfinished asked answered =>
    cases (talking_without_apology talking).symm.trans apology

theorem transcript_ended (transcript : Transcript before heard sent) (error : Option Raised) :
    Transcript (.ended error) heard sent := by
  cases talking : before.isTalking with
  | true =>
    rcases transcript_left transcript talking with
      ⟨rfl, rfl⟩ | ⟨first, updates, rfl, unfinished, asked, answered⟩
    · exact .silent rfl
    · exact .parted rfl first unfinished asked answered
  | false =>
    cases transcript with
    | silent quiet => exact .silent rfl
    | refused apology text => exact .refused rfl text
    | parted out first unfinished asked answered => exact .parted rfl first unfinished asked answered
    | busy apology first unfinished asked answered => exact .busy rfl first unfinished asked answered
    | greeting | refreshing | placing | telling | listening | completing => cases talking

/-- How often a client has been heard after a move. -/
def heardAfter (before after : Await) (heard : Nat) : Nat :=
  match before, after with
  | .receiveText, .refresh => heard + 1
  | _, _ => heard

theorem unsaid (sent : List WebsocketMessage) (silent : after.message? = none) :
    sent ++ after.message?.toList = sent := by
  rw [silent, Option.toList_none, List.append_nil]

theorem transcript_move (transcript : Transcript before heard sent)
    (move : Move tasks connection before after) :
    Transcript after (heardAfter before after heard) (sent ++ after.message?.toList) := by
  cases move with
  | accepted =>
    cases transcript with
    | silent quiet => exact .silent rfl
    | refused elsewhere | parted elsewhere | busy elsewhere => cases elsewhere
  | refused error =>
    cases transcript with
    | silent quiet => exact .refused rfl error
    | refused elsewhere | parted elsewhere | busy elsewhere => cases elsewhere
  | joined found own =>
    cases transcript with
    | silent quiet => exact .silent rfl
    | refused elsewhere | parted elsewhere | busy elsewhere => cases elsewhere
  | turnedAway error =>
    cases transcript with
    | silent elsewhere | parted elsewhere => cases elsewhere
    | refused apology text => exact .refused rfl text
    | busy apology first unfinished asked answered =>
      rw [unsaid _ rfl]
      exact .busy rfl first unfinished asked answered
  | placed task position =>
    cases transcript with
    | silent quiet => exact .greeting task position
    | refused elsewhere | parted elsewhere | busy elsewhere => cases elsewhere
  | greeted task position =>
    cases transcript with
    | silent elsewhere | refused elsewhere | parted elsewhere | busy elsewhere => cases elsewhere
    | greeting => exact @Transcript.refreshing [] (task, position) nofun
  | refreshed found =>
    cases transcript with
    | silent elsewhere | refused elsewhere | parted elsewhere | busy elsewhere => cases elsewhere
    | refreshing first unfinished =>
      rw [unsaid _ rfl]
      exact .placing first _ unfinished
  | replaced task position =>
    cases transcript with
    | silent elsewhere | refused elsewhere | parted elsewhere | busy elsewhere => cases elsewhere
    | placing first _ unfinished =>
      have said : ∀ updates, spoken first updates ++ [updating task position] =
          spoken first (updates ++ [(task, position)]) := by simp [spoken]
      rw [Await.message?, Option.toList_some, said]
      exact .telling first task position unfinished
  | completed position ended =>
    cases transcript with
    | silent elsewhere | refused elsewhere | parted elsewhere | busy elsewhere => cases elsewhere
    | telling first task position unfinished =>
      rw [unsaid _ rfl]
      exact .completing first (_, position) unfinished ended
  | updated position running =>
    cases transcript with
    | silent elsewhere | refused elsewhere | parted elsewhere | busy elsewhere => cases elsewhere
    | @telling updates first task position unfinished =>
      rw [unsaid _ rfl]
      refine .listening first ?_ (by simp [heardAfter])
      intro status member
      rcases List.mem_append.mp member with earlier | last
      · exact unfinished status earlier
      · rw [List.mem_singleton.mp last]
        exact running
  | heard =>
    cases transcript with
    | silent elsewhere | refused elsewhere | parted elsewhere | busy elsewhere => cases elsewhere
    | listening first unfinished answered =>
      rw [unsaid _ rfl, heardAfter, ← answered]
      exact .refreshing first unfinished
  | removed talking =>
    have kept : heardAfter before .closeRemoved heard = heard := by cases before <;> rfl
    rw [kept, unsaid _ rfl]
    rcases transcript_left transcript talking with
      ⟨rfl, rfl⟩ | ⟨first, updates, rfl, unfinished, asked, answered⟩
    · exact .silent rfl
    · exact .parted rfl first unfinished asked answered
  | busy talking =>
    have kept : heardAfter before .sendBusy heard = heard := by cases before <;> rfl
    rw [kept, Await.message?, Option.toList_some]
    rcases transcript_left transcript talking with
      ⟨rfl, rfl⟩ | ⟨first, updates, rfl, unfinished, asked, answered⟩
    · exact .refused rfl serverBusy
    · exact .busy rfl first unfinished asked answered
  | apologized =>
    rw [unsaid _ rfl]
    cases transcript with
    | silent elsewhere | parted elsewhere => cases elsewhere
    | refused apology text => exact .refused rfl text
    | busy apology first unfinished asked answered => exact .busy rfl first unfinished asked answered
  | ended _ error =>
    have kept : heardAfter before (.ended error) heard = heard := by cases before <;> rfl
    rw [kept, unsaid _ rfl]
    exact transcript_ended transcript error

theorem begins_quiet (settings : Settings) (connection : Connection) :
    (taskStatusWs settings connection).isQuiet = true := by
  unfold taskStatusWs
  split <;> rfl

/-- What is known of a socket by itself. -/
def Transcribed (_ : Hub ι) (_ : ι) (socket : Option Socket) : Prop :=
  ∀ held, socket = some held → Transcript held.await held.heard held.sent

theorem transcribed_kept (notifier : Notifier ι) (settings : Settings) :
    Keeps (sockets notifier settings) (fun _ _ => True) (fun _ => True) Transcribed where
  entered := by
    rintro _ _ connection _ _ _ ⟨⟩
    exact .silent (begins_quiet settings connection)
  resumed := by
    intro hub name socket answer after next transcribed moves held same
    obtain ⟨await, resumes, moved⟩ := Option.map_eq_some_iff.mp moves
    cases moved
    cases same
    exact transcript_move (transcribed socket rfl) (resumed_move resumes)
  others := fun _ _ _ _ _ _ _ _ transcribed _ _ => transcribed
  shifted := fun _ _ _ _ _ transcribed _ _ => transcribed

/-- Whatever happens, what a socket has been sent by its coroutine is a
transcript of what its client asked for. -/
theorem messages_answered {events : List (CrewEvent ι Connection Answer Change)}
    {crew : Crew (Hub ι) ι Socket} (ran : (server notifier settings).run events = some crew)
    (found : crew.members.get? name = some socket) :
    Transcript socket.await socket.heard socket.sent := by
  have begins : (server notifier settings).start.All Transcribed := by
    rintro _ _ ⟨⟩
  have lawful : ∀ event ∈ events, event.Lawful (fun _ _ => True) fun _ => True := by
    intro event _
    cases event <;> trivial
  exact keeps_run (transcribed_kept notifier settings) begins lawful ran name socket found

/-- A client is greeted and told that its task is running. -/
def greetedClient : List (CrewEvent Nat Connection Answer Change) :=
  [.shifts (.tasks (acmeTasks false)), .enters 0 ⟨"t".toList, [], some "acme".toList⟩,
    .resumes 0 .returned, .resumes 0 .returned, .resumes 0 (.position none), .resumes 0 .returned,
    .resumes 0 .returned, .resumes 0 (.position none), .resumes 0 .returned]

/-- The task completes, the client asks once more, and the socket is closed. -/
def askedAgain : List (CrewEvent Nat Connection Answer Change) :=
  [.resumes 0 .returned, .resumes 0 .returned, .resumes 0 (.position none), .resumes 0 .returned,
    .resumes 0 .returned]

theorem messages_answered_completed :
    ∃ crew socket, (server (plainNotifier Nat) {}).run
        (greetedClient ++ .shifts (.tasks (acmeTasks true)) :: askedAgain) = some crew ∧
      crew.members.get? 0 = some socket ∧ socket.heard = 1 ∧ socket.sent.length = 3 ∧
      Transcript socket.await socket.heard socket.sent := by
  have goes : ((server (plainNotifier Nat) {}).run
      (greetedClient ++ .shifts (.tasks (acmeTasks true)) :: askedAgain)).any
      (fun crew => (crew.members.get? 0).any fun socket =>
        socket.heard = 1 && socket.sent.length = 3) = true := by
    decide +kernel
  obtain ⟨crew, ran, shown⟩ := (Option.any_eq_true _ _).mp goes
  obtain ⟨socket, found, holds⟩ := (Option.any_eq_true _ _).mp shown
  obtain ⟨once, three⟩ := Bool.and_eq_true_iff.mp holds
  exact ⟨crew, socket, ran, found, of_decide_eq_true once, of_decide_eq_true three,
    messages_answered ran found⟩

/-! ### The end of a task -/

/-- The coroutine is not going to listen to its client again, if the task that
it has in hand or asks for is completed. -/
def Await.isClosing : Await → Bool
  | .refresh => true
  | .refreshPosition task => task.isCompleted
  | .sendUpdate task _ => task.isCompleted
  | .closeCompleted => true
  | .closeRemoved => true
  | .sendBusy => true
  | .closeBusy => true
  | .ended _ => true
  | _ => false

/-- Whenever the orchestrator knows the task, it is completed. -/
def Completed (taskId : Text) (tasks : OrderedDict Text Task) : Prop :=
  ∀ task, tasks.get? taskId = some task → task.isCompleted = true

theorem move_closing (completed : Completed connection.taskId tasks)
    (closing : before.isClosing = true) (move : Move tasks connection before after) :
    after.isClosing = true := by
  cases move with
  | accepted | refused | joined | turnedAway | placed | greeted | heard => cases closing
  | refreshed found => exact completed _ found
  | replaced task position => exact closing
  | updated position running => exact absurd closing (by simp [Await.isClosing, running])
  | completed | removed | busy | apologized | ended => rfl

/-- The socket has heard its client at most once since it had heard it so
often, and then is closing. -/
def LastHeard (heard : Nat) (socket : Socket) : Prop :=
  socket.heard ≤ heard ∨ (socket.heard = heard + 1 ∧ socket.await.isClosing = true)

theorem enter_heard (socket : Socket) (await : Await) :
    (socket.enter await).heard = heardAfter socket.await await socket.heard := rfl

theorem heardAfter_cases (before after : Await) (heard : Nat) :
    heardAfter before after heard = heard ∨
      (before = .receiveText ∧ after = .refresh ∧ heardAfter before after heard = heard + 1) := by
  cases before with
  | receiveText =>
    cases after with
    | refresh => exact Or.inr ⟨rfl, rfl, rfl⟩
    | _ => exact Or.inl rfl
  | _ => exact Or.inl rfl

theorem lastHeard_move {socket : Socket} (completed : Completed socket.connection.taskId tasks)
    (last : LastHeard heard socket) (move : Move tasks socket.connection socket.await after) :
    LastHeard heard (socket.enter after) := by
  rw [LastHeard, enter_heard]
  rcases heardAfter_cases socket.await after socket.heard with same | ⟨listening, rfl, more⟩
  · rw [same]
    rcases last with few | ⟨enough, closing⟩
    · exact Or.inl few
    · exact Or.inr ⟨enough, move_closing completed closing move⟩
  · rw [more]
    rcases last with few | ⟨_, closing⟩
    · rcases Nat.lt_or_eq_of_le few with fewer | rfl
      · exact Or.inl fewer
      · exact Or.inr ⟨rfl, rfl⟩
    · rw [listening] at closing
      cases closing

/-- A socket is open to a completed task. -/
def Ending (taskId : Text) (name : ι) (heard : Nat) (hub : Hub ι) (other : ι)
    (socket : Option Socket) : Prop :=
  Completed taskId hub.tasks ∧ (other = name →
    ∃ held, socket = some held ∧ held.connection.taskId = taskId ∧ LastHeard heard held)

def Change.Completes (taskId : Text) : Change → Prop
  | .tasks known => Completed taskId known
  | .notifies _ _ => True
  | .forgets _ => True

theorem ending_kept (notifier : Notifier ι) (settings : Settings) (taskId : Text) (name : ι)
    (heard : Nat) :
    Keeps (sockets notifier settings) (fun _ _ => True) (Change.Completes taskId)
      (Ending taskId name heard) where
  entered := by
    rintro hub other connection ⟨completed, own⟩ _
    refine ⟨completed, fun same => ?_⟩
    obtain ⟨_, absent, _⟩ := own same
    cases absent
  resumed := by
    rintro hub other socket answer after next ⟨completed, own⟩ moves
    obtain ⟨await, resumes, moved⟩ := Option.map_eq_some_iff.mp moves
    cases moved
    refine ⟨by rw [moved_tasks]; exact completed, fun same => ?_⟩
    obtain ⟨_, ⟨⟩, rfl, last⟩ := own same
    exact ⟨_, rfl, rfl, lastHeard_move completed last (resumed_move resumes)⟩
  others := by
    rintro hub other socket mover mate answer after next ⟨completed, own⟩ _ moves
    obtain ⟨await, resumes, moved⟩ := Option.map_eq_some_iff.mp moves
    cases moved
    exact ⟨by rw [moved_tasks]; exact completed, own⟩
  shifted := by
    rintro hub other socket change after ⟨completed, own⟩ completes shifts
    cases change with
    | tasks known =>
      cases shifts
      exact ⟨completes, own⟩
    | notifies about position =>
      cases shifts
      exact ⟨completed, own⟩
    | forgets about =>
      cases shifts
      exact ⟨completed, own⟩

/-- Once its task has completed, a socket listens to its client at most once
more, whatever the notifier did or missed: a client that has spoken since is not
waited for again. -/
theorem completion_closes {rest : List (CrewEvent ι Connection Answer Change)}
    {crew later : Crew (Hub ι) ι Socket} (found : crew.members.get? name = some socket)
    (completed : Completed socket.connection.taskId crew.shared.tasks)
    (stays : ∀ tasks, .shifts (.tasks tasks) ∈ rest → Completed socket.connection.taskId tasks)
    (ran : (server notifier settings).runFrom crew rest = some later)
    (there : later.members.get? name = some next) :
    next.heard ≤ socket.heard + 1 ∧
      (next.heard = socket.heard + 1 → next.await ≠ .receiveText) := by
  have begins : crew.All (Ending socket.connection.taskId name socket.heard) := by
    refine fun other => ⟨completed, ?_⟩
    rintro rfl
    exact ⟨socket, found, rfl, Or.inl le_rfl⟩
  have lawful : ∀ event ∈ rest, event.Lawful (fun _ _ => True)
      (Change.Completes socket.connection.taskId) := by
    intro event member
    cases event with
    | enters | resumes => trivial
    | shifts change =>
      cases change with
      | tasks known => exact stays known member
      | notifies | forgets => trivial
  obtain ⟨held, same, _, last⟩ :=
    (keeps_run (ending_kept notifier settings _ name _) begins lawful ran name).2 rfl
  cases there.symm.trans same
  rcases last with few | ⟨enough, closing⟩
  · exact ⟨Nat.le_succ_of_le few, fun more => absurd more (by omega)⟩
  · refine ⟨enough.le, fun _ listening => ?_⟩
    rw [listening] at closing
    cases closing

theorem completion_closes_asked :
    ∃ crew later next, (server (plainNotifier Nat) {}).runFrom crew askedAgain = some later ∧
      later.members.get? 0 = some next ∧ next.heard = 1 ∧ next.await ≠ .receiveText := by
  have goes : ((server (plainNotifier Nat) {}).run (greetedClient ++ [.shifts (.tasks (acmeTasks true))])).any
      (fun crew => (crew.members.get? 0).any (fun socket => socket.heard = 0 &&
          socket.connection.taskId = "t".toList) &&
        (crew.shared.tasks.get? "t".toList).any (·.isCompleted) &&
        ((server (plainNotifier Nat) {}).runFrom crew askedAgain).any fun later =>
          (later.members.get? 0).any fun next => next.heard = 1) = true := by
    decide +kernel
  obtain ⟨crew, _, shown⟩ := (Option.any_eq_true _ _).mp goes
  obtain ⟨before, after⟩ := Bool.and_eq_true_iff.mp shown
  obtain ⟨opens, known⟩ := Bool.and_eq_true_iff.mp before
  obtain ⟨socket, found, asks⟩ := (Option.any_eq_true _ _).mp opens
  obtain ⟨unheard, about⟩ := Bool.and_eq_true_iff.mp asks
  obtain ⟨task, held, done'⟩ := (Option.any_eq_true _ _).mp known
  obtain ⟨later, ran, ends⟩ := (Option.any_eq_true _ _).mp after
  obtain ⟨next, there, once⟩ := (Option.any_eq_true _ _).mp ends
  have completed : Completed socket.connection.taskId crew.shared.tasks := by
    intro other found'
    rw [of_decide_eq_true about, held] at found'
    cases found'
    exact done'
  have stays : ∀ tasks, .shifts (.tasks tasks) ∈ askedAgain →
      Completed socket.connection.taskId tasks := by
    intro tasks member
    simp [askedAgain] at member
  have more : next.heard = socket.heard + 1 := by
    rw [of_decide_eq_true once, of_decide_eq_true unheard]
  exact ⟨crew, later, next, ran, there, of_decide_eq_true once,
    (completion_closes found completed stays ran there).2 more⟩

end DoclingServeRay.Serving
