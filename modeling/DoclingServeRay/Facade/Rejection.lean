import DoclingServeRay.Facade.Options

/-! What a submission that ends in an exception leaves behind. The uploads come
first, and only a stored record ever leads to a cleanup. -/
namespace DoclingServeRay.Facade
open Strings Calls

/-- What becomes of a call, or that it takes effect and its answer is lost. -/
inductive Fate where
  | outcome (outcome : Outcome)
  | lost (error : Raised)

def serveLossy (world : World) : Fate → (call : Call) → Option (Except Raised call.Answer × World)
  | .outcome outcome, call => serve world outcome call
  | .lost error, call => (serve world .served call).map fun served => (.error error, served.2)

/-- The call fails, and has no effect. -/
def Fate.Ineffective (fate : Fate) : Prop := ∃ error, fate = .outcome (.failed error)

/-- The input bucket and Redis are as they were. -/
structure Untouched (settings : Settings) (before after : World) : Prop where
  objects : ∀ key, after.objects.get? (settings.s3InputBucket, key) =
    before.objects.get? (settings.s3InputBucket, key)
  records : ∀ key, after.records.get? key = before.records.get? key

/-- Nothing has the id of a new request, a `uuid4`, yet. -/
structure FreshRequest (settings : Settings) (requestId : Text) (world : World) : Prop where
  objects : ∀ name, world.objects.get?
    (settings.s3InputBucket, inputPrefix settings requestId ++ name) = none
  records : ∀ key record, world.records.get? key = some record → record.requestId ≠ requestId

/-- The position of the first call that writes: the first upload, or without
files the record, after the POST. -/
def firstWrite (files : List UploadFile) : Nat := if files.isEmpty then 1 else 0

/-- The first call that writes is not reached, or it fails without effect. -/
def NothingWritten (files : List UploadFile) (fates : List Fate) : Prop :=
  ∀ fate, fates[firstWrite files]? = some fate → fate.Ineffective

/-! ### What stays -/

/-- Calls of a submission: they write, and never delete. -/
def Call.writes : Call → Bool
  | .uploadFileobj _ _ _ => true
  | .redisSet _ _ _ => true
  | .convertBatch _ _ => true
  | _ => false

theorem submit_writes (codec : Codec) (settings : Settings) (requestId : Text)
    (files : List UploadFile) (options : OrderedDict Text FormValue) (zipped : Bool)
    (tenantId : Option Text) :
    (submitFileUpload codec settings requestId files options zipped tenantId).AsksOnly
      fun call => call.writes = true :=
  submit_asks_only (fun _ _ _ => rfl) (fun _ _ _ => rfl) (fun _ _ _ _ => rfl) codec settings
    requestId files zipped tenantId

theorem set_present {dict : OrderedDict κ α} [DecidableEq κ] {key probe : κ} {value : α}
    (present : dict.get? probe ≠ none) : (dict.set key value).get? probe ≠ none := by
  rw [OrderedDict.get?_set]
  split
  · exact Option.some_ne_none value
  · exact present

/-- A write either fails without effect or takes effect, whatever is answered. -/
theorem fate_cases {call : Call} {answer done : Except Raised call.Answer}
    (effect : serve world .served call = some (done, changed))
    (responds : ∀ response, serve world (.responded response) call = none)
    (deletes : ∀ keys error, serve world (.deleted keys error) call = none)
    (served : serveLossy world fate call = some (answer, after)) :
    (∃ error, fate = .outcome (.failed error) ∧ answer = .error error ∧ after = world) ∨
      (¬ fate.Ineffective ∧ after = changed) := by
  cases fate with
  | outcome outcome =>
    cases outcome with
    | served =>
      cases effect.symm.trans served
      refine Or.inr ⟨?_, rfl⟩
      rintro ⟨error, ⟨⟩⟩
    | responded response => cases (responds response).symm.trans served
    | deleted keys error => cases (deletes keys error).symm.trans served
    | failed error =>
      have failed : serve world (.failed error) call = some (.error error, world) := by
        cases call <;> rfl
      cases failed.symm.trans served
      exact Or.inl ⟨error, rfl, rfl, rfl⟩
  | lost error =>
    obtain ⟨reply, did, same⟩ := Option.map_eq_some_iff.mp served
    cases effect.symm.trans did
    cases same
    refine Or.inr ⟨?_, rfl⟩
    rintro ⟨error, ⟨⟩⟩

/-- A POST does not touch the storage, whatever comes of it. -/
theorem convertBatch_served {answer : Except Raised HttpResponse}
    (served : serveLossy world fate (.convertBatch body headers) = some (answer, after)) :
    after = world := by
  cases fate with
  | outcome outcome => exact serve_convertBatch served
  | lost error => cases served

/-- An object that is there stays there while a submission goes on. -/
theorem serveLossy_present {call : Call} {answer : Except Raised call.Answer}
    (writes : call.writes = true) (served : serveLossy world fate call = some (answer, after))
    (present : world.objects.get? object ≠ none) : after.objects.get? object ≠ none := by
  cases call with
  | uploadFileobj bucket key file =>
    rcases fate_cases rfl (fun _ => rfl) (fun _ _ => rfl) served with ⟨_, _, _, rfl⟩ | ⟨_, rfl⟩
    · exact present
    · exact set_present present
  | redisSet key record ttlSeconds =>
    rcases fate_cases rfl (fun _ => rfl) (fun _ _ => rfl) served with ⟨_, _, _, rfl⟩ | ⟨_, rfl⟩
    · exact present
    · exact present
  | convertBatch body headers =>
    rw [convertBatch_served served]
    exact present
  | _ => cases writes

/-! ### Where a submission ends -/

section Runs

variable {codec : Codec} {settings : Settings} {requestId : Text}
  {options : OrderedDict Text FormValue} {zipped : Bool} {tenantId : Option Text}

theorem untouched_refl : Untouched settings world world := ⟨fun _ => rfl, fun _ => rfl⟩

theorem run_refused (ran : Program.run serveLossy world (.raise error : Operation α) fates =
    some (result, after)) : fates = [] ∧ after = world := by
  obtain ⟨none, _, same⟩ := Program.run_raise.mp ran
  exact ⟨none, same⟩

theorem run_orRaise {value : Option α} {change : Raised → Raised}
    (ran : Program.run serveLossy world ((orRaise value).mapError change) fates =
      some (result, after)) : after = world := by
  cases value with
  | none => exact (Program.run_raise.mp ran).2.2
  | some value => exact (Program.run_done.mp ran).2.2

/-- With files, the first upload decides. -/
theorem rejected_with_files (fresh : FreshRequest settings requestId world)
    (ran : Program.run serveLossy world (submitFileUpload codec settings requestId (file :: files)
      options zipped tenantId) fates = some (.error raised, after)) :
    Untouched settings world after ↔ NothingWritten (file :: files) fates := by
  have writes := submit_writes codec settings requestId (file :: files) options zipped tenantId
  obtain ⟨fate, rest, answer, middle, rfl, served, onward⟩ := Program.run_call.mp ran
  have absent := fresh.objects (uploadName file)
  have kept : middle.objects.get? (settings.s3InputBucket,
      inputPrefix settings requestId ++ uploadName file) ≠ none →
      ¬ Untouched settings world after := by
    intro written untouched
    have present := Program.asks_run (writes.2 answer)
      (fun _ _ _ _ _ asked served => serveLossy_present asked served) written onward
    exact present ((untouched.objects _).trans absent)
  rcases fate_cases rfl (fun _ => rfl) (fun _ _ => rfl) served with
    ⟨error, rfl, rfl, rfl⟩ | ⟨effective, rfl⟩
  · obtain ⟨_, _, rfl⟩ := Program.run_raise.mp onward
    refine iff_of_true untouched_refl ?_
    intro other first
    cases first
    exact ⟨error, rfl⟩
  · -- Whatever comes later, this object stays.
    refine iff_of_false (kept ?_) fun nothing => effective (nothing fate rfl)
    rw [OrderedDict.get?_set, if_pos rfl]
    exact Option.some_ne_none _

/-- Once docling-serve has answered, at most the record is written. -/
theorem run_answered {response : HttpResponse}
    (ran : Program.run serveLossy world
      ((if 400 ≤ response.statusCode then .raise (.http response.statusCode response.text)
        else do
          let task ← orRaise response.json
          let taskId ← orRaise (task.get? "task_id".toList)
          Program.perform (Call.redisSet (recordKey (formatted codec taskId)) record ttlSeconds)
          orRaise (taskStatus? codec task) : Operation TaskStatusResponse).mapError change) fates =
      some (result, after)) :
    (fates = [] ∧ after = world) ∨ ∃ key fate rest set,
      fates = fate :: rest ∧
        serveLossy world fate (.redisSet key record ttlSeconds) = some (set, after) := by
  split at ran
  · exact Or.inl (run_refused ran)
  cases read : response.json with
  | none =>
    rw [read] at ran
    exact Or.inl (run_refused ran)
  | some task =>
    rw [read] at ran
    cases given : task.get? "task_id".toList with
    | none =>
      simp only [orRaise, Program.done_bind, given] at ran
      exact Or.inl (run_refused ran)
    | some taskId =>
      simp only [orRaise, Program.done_bind, given] at ran
      obtain ⟨fate, rest, set, middle, rfl, served, onward⟩ := Program.run_call.mp ran
      refine Or.inr ⟨_, fate, rest, set, rfl, ?_⟩
      cases set with
      | error error =>
        obtain ⟨_, _, rfl⟩ := Program.run_raise.mp onward
        exact served
      | ok done =>
        obtain rfl := run_orRaise onward
        exact served

/-- Without files, the record decides. -/
theorem rejected_without_files (fresh : FreshRequest settings requestId world)
    (ran : Program.run serveLossy world (submitFileUpload codec settings requestId []
      options zipped tenantId) fates = some (.error raised, after)) :
    Untouched settings world after ↔ NothingWritten [] fates := by
  obtain ⟨post, rest, answer, middle, rfl, served, onward⟩ := Program.run_call.mp ran
  obtain rfl := convertBatch_served served
  have ended : (rest = [] ∧ after = middle) ∨ ∃ key fate later set, rest = fate :: later ∧
      serveLossy middle fate (.redisSet key {
        requestId := requestId
        tenantId := tenantId
        filenames := []
        toFormats := toFormats options
        asZip := zipped } settings.recordTtlSeconds) = some (set, after) := by
    cases answer with
    | error error => exact Or.inl (run_refused onward)
    | ok response => exact run_answered onward
  rcases ended with ⟨rfl, rfl⟩ | ⟨key, fate, rest, set, rfl, served⟩
  · refine ⟨fun _ fate second => ?_, fun _ => untouched_refl⟩
    cases second
  rcases fate_cases rfl (fun _ => rfl) (fun _ _ => rfl) served with
    ⟨error, rfl, rfl, rfl⟩ | ⟨effective, rfl⟩
  · refine iff_of_true untouched_refl ?_
    intro other second
    cases second
    exact ⟨error, rfl⟩
  · refine iff_of_false (fun untouched => ?_) fun nothing => effective (nothing fate rfl)
    have written := (untouched.records key).symm
    rw [OrderedDict.get?_set, if_pos rfl] at written
    exact fresh.records key _ written rfl

/-- A submission that ends in an exception leaves the storage as it was exactly
when its first write was not reached or failed without effect. -/
theorem rejected_upload_untouched_iff (fresh : FreshRequest settings requestId world)
    (ran : Program.run serveLossy world (submitFileUpload codec settings requestId files options
      zipped tenantId) fates = some (.error raised, after)) :
    Untouched settings world after ↔ NothingWritten files fates := by
  cases files with
  | nil => exact rejected_without_files fresh ran
  | cons file files => exact rejected_with_files fresh ran

end Runs

/-! ### A full queue -/

theorem empty_fresh (settings : Settings) (requestId : Text) :
    FreshRequest settings requestId ⟨.empty, .empty⟩ := by
  refine ⟨fun _ => rfl, ?_⟩
  intro key record present
  cases present

def queueFull : HttpResponse := ⟨429, [], none, "Too many requests".toList, none⟩

/-- A first upload that fails leaves nothing. -/
theorem rejected_upload_untouched_unreachable :
    ∃ after, Program.run serveLossy ⟨.empty, .empty⟩ (submitFileUpload asciiCodec {} "r".toList
        [⟨some "a.pdf".toList, [1]⟩] .empty false none)
        [.outcome (.failed (.transport "refused".toList))] =
        some (.error (.http 502 "Upstream unavailable: refused".toList), after) ∧
      Untouched {} ⟨.empty, .empty⟩ after := by
  obtain ⟨after, ran⟩ : ∃ after, Program.run serveLossy ⟨.empty, .empty⟩ (submitFileUpload
      asciiCodec {} "r".toList [⟨some "a.pdf".toList, [1]⟩] .empty false none)
      [.outcome (.failed (.transport "refused".toList))] =
      some (.error (.http 502 "Upstream unavailable: refused".toList), after) := ⟨_, rfl⟩
  refine ⟨after, ran, (rejected_upload_untouched_iff (empty_fresh {} "r".toList) ran).mpr ?_⟩
  intro fate first
  cases first
  exact ⟨_, rfl⟩

/-- An upload that docling-serve turns down stays in the bucket. -/
theorem rejected_by_full_queue_stays :
    ¬ ∀ codec settings requestId files options zipped tenantId world fates raised after,
      FreshRequest settings requestId world →
      Program.run serveLossy world (submitFileUpload codec settings requestId files options zipped
        tenantId) fates = some (.error raised, after) →
      Untouched settings world after := by
  intro untouched
  obtain ⟨after, ran⟩ : ∃ after, Program.run serveLossy ⟨.empty, .empty⟩ (submitFileUpload
      asciiCodec {} "r".toList [⟨some "a.pdf".toList, [1]⟩] .empty false none)
      [.outcome .served, .outcome (.responded queueFull)] =
      some (.error (.http 429 queueFull.text), after) := ⟨_, rfl⟩
  have fresh := empty_fresh {} "r".toList
  have clean := untouched _ _ _ _ _ _ _ _ _ _ _ fresh ran
  obtain ⟨error, same⟩ := (rejected_with_files fresh ran).mp clean (.outcome .served) rfl
  cases same

end DoclingServeRay.Facade
