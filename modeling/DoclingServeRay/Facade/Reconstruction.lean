import DoclingServeRay.Facade.Service

/-! What `resolve_result` can return while the world around it changes, and
which of the objects it read its answer carries. -/
namespace DoclingServeRay.Facade
open Strings Calls

/-! ### Listings -/

section Listings

variable {world original : World} {bucket keyPrefix : Text}

theorem mem_list (key : Text) :
    key ∈ world.list bucket keyPrefix ↔
      (∃ body, world.objects.get? (bucket, key) = some body) ∧ keyPrefix <+: key := by
  simp only [World.list, List.mem_insertionSort, List.mem_map, List.mem_filter, Prod.exists,
    OrderedDict.mem_keys_iff, Bool.and_eq_true, decide_eq_true_eq, List.isPrefixOf_iff_prefix]
  constructor
  · rintro ⟨held, other, ⟨present, rfl, below⟩, rfl⟩
    exact ⟨present, below⟩
  · rintro ⟨present, below⟩
    exact ⟨bucket, key, ⟨present, rfl, below⟩, rfl⟩

theorem list_ordered : (world.list bucket keyPrefix).Pairwise (· < ·) := by
  have sorted : (world.list bucket keyPrefix).Pairwise (· ≤ ·) := List.pairwise_insertionSort _ _
  have distinct : (world.list bucket keyPrefix).Nodup := by
    refine (List.perm_insertionSort _ _).nodup_iff.mpr ?_
    refine List.Nodup.map_on ?_ (world.objects.distinct.filter _)
    rintro ⟨held, key⟩ first ⟨other, key'⟩ second same
    simp only [List.mem_filter, Bool.and_eq_true, decide_eq_true_eq] at first second
    obtain ⟨_, rfl, _⟩ := first
    obtain ⟨_, rfl, _⟩ := second
    exact Prod.ext rfl same
  refine (sorted.and distinct).imp ?_
  rintro first second ⟨le, ne⟩
  exact lt_of_le_of_ne le ne

/-- A listing depends only on which keys are there. -/
theorem list_congr (same : ∀ key, key ∈ world.list bucket keyPrefix ↔
    key ∈ original.list bucket keyPrefix) :
    world.list bucket keyPrefix = original.list bucket keyPrefix := by
  have perm : (world.list bucket keyPrefix).Perm (original.list bucket keyPrefix) :=
    (List.perm_ext_iff_of_nodup (list_ordered.imp fun less => less.ne)
      (list_ordered.imp fun less => less.ne)).mpr same
  exact perm.eq_of_pairwise' list_ordered list_ordered

/-- The objects below a prefix, in the order they are listed. -/
def World.below (world : World) (bucket keyPrefix : Text) : List (Text × Bytes) :=
  (world.list bucket keyPrefix).map fun key =>
    (key, (world.objects.get? (bucket, key)).getD [])

theorem mem_below (key : Text) (body : Bytes) :
    (key, body) ∈ world.below bucket keyPrefix ↔
      world.objects.get? (bucket, key) = some body ∧ keyPrefix <+: key := by
  simp only [World.below, List.mem_map, mem_list, Prod.mk.injEq]
  constructor
  · rintro ⟨held, ⟨⟨content, present⟩, below⟩, rfl, rfl⟩
    rw [present]
    exact ⟨rfl, below⟩
  · rintro ⟨present, below⟩
    exact ⟨key, ⟨⟨body, present⟩, below⟩, rfl, by rw [present]; rfl⟩

theorem below_ordered :
    (world.below bucket keyPrefix).Pairwise fun first second => first.1 < second.1 :=
  List.pairwise_map.mpr list_ordered

end Listings

/-! ### What a reader can return -/

/-- The calls that leave the world as it is. -/
def Call.reads : Call → Bool
  | .redisGet _ => true
  | .listArtifacts _ _ => true
  | .getObject _ _ => true
  | .getResult _ _ => true
  | _ => false

theorem serve_reads {call : Call} {answer : Except Raised call.Answer} (reads : call.reads = true)
    (served : serve world outcome call = some (answer, after)) : after = world := by
  cases call with
  | redisGet key | listArtifacts bucket keyPrefix | getResult taskId headers =>
    cases outcome <;> first | cases served; rfl | cases served
  | getObject bucket key =>
    cases outcome with
    | served =>
      simp only [serve] at served
      split at served <;> cases served <;> rfl
    | failed error =>
      cases served
      rfl
    | responded response => cases served
    | deleted keys error => cases served
  | _ => cases reads

/-- A fetched object is one of the world's. -/
theorem serve_getObject
    (served : serve world outcome (.getObject bucket key) = some (.ok content, after)) :
    world.objects.get? (bucket, key) = some content := by
  cases outcome with
  | served =>
    simp only [serve] at served
    split at served
    · rename_i held present
      cases served
      exact present
    · cases served
  | _ => cases served

theorem serve_redisGet
    (served : serve world outcome (.redisGet key) = some (.ok raw, after)) :
    world.records.get? key = raw := by
  cases outcome with
  | served =>
    cases served
    rfl
  | _ => cases served

section Readers

variable {inv : World → Prop} {may : World → (call : Call) → Except Raised call.Answer → World → Prop}
  {codec : Codec} {settings : Settings} {taskId : Text}

/-- The call has been answered like this, in a world that was as it may be. -/
def Answered (inv : World → Prop)
    (may : World → (call : Call) → Except Raised call.Answer → World → Prop) (call : Call)
    (value : call.Answer) : Prop :=
  ∃ world after, inv world ∧ may world call (.ok value) after

/-- Every key with what was read under it, as far as its name says what it is. -/
structure Read (inv : World → Prop)
    (may : World → (call : Call) → Except Raised call.Answer → World → Prop)
    (bucket keyPrefix : Text) (keys : List Text) (objects : List (Text × Bytes)) : Prop where
  keys : objects.map Prod.fst = keys
  contents : ∀ object ∈ objects, parseArtifactKey keyPrefix object.1 ≠ none →
    Answered inv may (.getObject bucket object.1) object.2

/-- What `resolve_result` makes of the answers to its calls. -/
inductive ResolvedFrom (inv : World → Prop)
    (may : World → (call : Call) → Except Raised call.Answer → World → Prop) (codec : Codec)
    (settings : Settings) (taskId : Text) : Resolution → Prop where
  | passedOn (asked : Answered inv may (.getResult taskId headers) response) :
      ResolvedFrom inv may codec settings taskId ⟨.passthrough response, none⟩
  | rebuilt (recorded : Answered inv may (.redisGet (recordKey taskId)) (some record))
      (asked : Answered inv may (.getResult taskId headers) native)
      (answered : native.statusCode < 400)
      (parsed : native.json.bind object? = some nativeResult)
      (converted : countsNothing nativeResult = false)
      (listed : Answered inv may
        (.listArtifacts settings.s3OutputBucket (outputPrefix settings record.requestId)) keys)
      (read : Read inv may settings.s3OutputBucket (outputPrefix settings record.requestId) keys objects)
      (built : reconstruct codec record nativeResult
        (groupArtifacts (outputPrefix settings record.requestId) .empty objects) = some result) :
      ResolvedFrom inv may codec settings taskId ⟨result, some record⟩

section Calling

variable (kept : ∀ world call answer after, call.reads = true → inv world →
  may world call answer after → inv after)
include kept

theorem answered_safe (call : Call) (reads : call.reads = true) :
    (Program.perform call : Operation call.Answer).Safe inv may (Answered inv may call) := by
  refine Program.safe_perform call _ ?_
  intro world answer after held does
  refine ⟨kept world call answer after reads held does, ?_⟩
  rintro value rfl
  exact ⟨world, after, held, does⟩

theorem fetchArtifacts_read (bucket keyPrefix : Text) (grouped : Grouped) (keys : List Text) :
    (fetchArtifacts bucket keyPrefix grouped keys).Safe inv may fun result =>
      ∃ objects, Read inv may bucket keyPrefix keys objects ∧
        result = groupArtifacts keyPrefix grouped objects := by
  induction keys generalizing grouped with
  | nil => exact ⟨[], ⟨rfl, nofun⟩, rfl⟩
  | cons key keys ih =>
    unfold fetchArtifacts
    split
    · rename_i unread
      refine Program.safe_weaken (ih grouped) ?_
      rintro result ⟨objects, read, rfl⟩
      refine ⟨(key, []) :: objects, ⟨congrArg _ read.keys, ?_⟩, ?_⟩
      · intro object member parses
        rcases List.mem_cons.mp member with rfl | later
        · exact absurd unread parses
        · exact read.contents object later parses
      · simp only [groupArtifacts, List.foldl_cons, unread]
    · rename_i parsed named
      refine Program.safe_bind (answered_safe kept (Call.getObject bucket key) rfl) ?_
      intro content answered
      refine Program.safe_weaken (ih (addArtifact grouped parsed content)) ?_
      rintro result ⟨objects, read, rfl⟩
      refine ⟨(key, content) :: objects, ⟨congrArg _ read.keys, ?_⟩, ?_⟩
      · intro object member parses
        rcases List.mem_cons.mp member with rfl | later
        · exact answered
        · exact read.contents object later parses
      · simp only [groupArtifacts, List.foldl_cons, named]

theorem fetchArtifactsByStem_read (bucket keyPrefix : Text) :
    (fetchArtifactsByStem bucket keyPrefix).Safe inv may fun grouped =>
      ∃ keys objects, Answered inv may (.listArtifacts bucket keyPrefix) keys ∧
        Read inv may bucket keyPrefix keys objects ∧
        grouped = groupArtifacts keyPrefix .empty objects := by
  refine Program.safe_bind (answered_safe kept (Call.listArtifacts bucket keyPrefix) rfl) ?_
  intro keys listed
  refine Program.safe_weaken (fetchArtifacts_read kept bucket keyPrefix .empty keys) ?_
  rintro grouped ⟨objects, read, same⟩
  exact ⟨keys, objects, listed, read, same⟩

/-- What `resolve_result` returns is docling-serve's answer, or rebuilt from the
answers to its calls. -/
theorem resolveResult_from (codec : Codec) (settings : Settings) (taskId : Text)
    (tenantId : Option Text) :
    (resolveResult codec settings taskId tenantId).Safe inv may
      (ResolvedFrom inv may codec settings taskId) := by
  refine Program.safe_mapError ?_ _
  refine Program.safe_bind (answered_safe kept (Call.redisGet (recordKey taskId)) rfl) ?_
  intro raw recorded
  cases raw with
  | none =>
    refine Program.safe_bind (answered_safe kept (Call.getResult taskId _) rfl) ?_
    exact fun native asked => .passedOn asked
  | some record =>
    refine Program.safe_bind (answered_safe kept (Call.getResult taskId _) rfl) ?_
    intro native asked
    split
    · exact .passedOn asked
    rename_i answered
    cases parsed : HttpResponse.json native |>.bind object? with
    | none => trivial
    | some nativeResult =>
      simp only [orRaise, Program.done_bind]
      split
      · exact .passedOn asked
      rename_i converted
      refine Program.safe_bind (fetchArtifactsByStem_read kept _ _) ?_
      rintro grouped ⟨keys, objects, listed, read, rfl⟩
      cases built : reconstruct codec record nativeResult (groupArtifacts _ .empty objects) with
      | none => trivial
      | some result =>
        exact .rebuilt recorded asked (not_le.mp answered) parsed (Bool.eq_false_iff.mpr converted)
          listed read built

end Calling

/-! ### What an attentive reader can return -/

variable {original : World} {docling : HttpResponse → Prop} {record : TaskRecord}

/-- What a reader can rely on: objects are the original ones where they are
there, the task's record is this one if there is any, and a listing of the
task's outputs is the original one. -/
structure Attentive (original : World) (docling : HttpResponse → Prop) (settings : Settings)
    (taskId : Text) (record : TaskRecord) (inv : World → Prop)
    (may : World → (call : Call) → Except Raised call.Answer → World → Prop) : Prop where
  served : ∀ world call answer after, may world call answer after →
    ∃ outcome, serve world outcome call = some (answer, after)
  unchanged : ∀ world, inv world → ∀ key body, world.objects.get? key = some body →
    original.objects.get? key = some body
  recorded : ∀ world, inv world → ∀ other, world.records.get? (recordKey taskId) = some other →
    other = record
  listed : ∀ world, inv world → ∀ keys after,
    may world (.listArtifacts settings.s3OutputBucket (outputPrefix settings record.requestId))
      (.ok keys) after →
    keys = original.list settings.s3OutputBucket (outputPrefix settings record.requestId)
  asked : ∀ world headers response after, may world (.getResult taskId headers) (.ok response) after →
    docling response

theorem attentive_reads (attentive : Attentive original docling settings taskId record inv may)
    (world : World) (call : Call) (answer : Except Raised call.Answer) (after : World)
    (reads : call.reads = true) (held : inv world) (does : may world call answer after) :
    inv after := by
  obtain ⟨outcome, served⟩ := attentive.served world call answer after does
  rwa [serve_reads reads served]

/-- What is read is what was there, whenever it is read. -/
theorem read_original (attentive : Attentive original docling settings taskId record inv may)
    (read : Read inv may bucket keyPrefix keys objects) (grouped : Grouped) :
    groupArtifacts keyPrefix grouped objects = groupArtifacts keyPrefix grouped
      (keys.map fun key => (key, (original.objects.get? (bucket, key)).getD [])) := by
  obtain ⟨rfl, contents⟩ := read
  induction objects generalizing grouped with
  | nil => rfl
  | cons object objects ih =>
    have rest := fun grouped => ih grouped fun other member => contents other (.tail _ member)
    simp only [groupArtifacts, List.map_cons, List.foldl_cons] at rest ⊢
    cases named : parseArtifactKey keyPrefix object.1 with
    | none => exact rest grouped
    | some parsed =>
      obtain ⟨world, after, held, does⟩ :=
        contents object List.mem_cons_self (named ▸ Option.some_ne_none parsed)
      obtain ⟨outcome, served⟩ := attentive.served _ _ _ _ does
      have present := attentive.unchanged world held _ _ (serve_getObject served)
      simp only [present, Option.getD_some]
      exact rest _

/-- What `resolve_result` returns is docling-serve's answer, or the
reconstruction from all the objects that were below the prefix. -/
theorem resolveResult_safe (attentive : Attentive original docling settings taskId record inv may)
    (codec : Codec) (tenantId : Option Text) :
    (resolveResult codec settings taskId tenantId).Safe inv may fun resolution =>
      (∃ response, docling response ∧ resolution = ⟨.passthrough response, none⟩) ∨
      ∃ nativeResult result, reconstruct codec record nativeResult
          (groupArtifacts (outputPrefix settings record.requestId) .empty
            (original.below settings.s3OutputBucket
              (outputPrefix settings record.requestId))) = some result ∧
        resolution = ⟨result, some record⟩ := by
  refine Program.safe_weaken
    (resolveResult_from (attentive_reads attentive) codec settings taskId tenantId) ?_
  rintro resolution (⟨asked⟩ | ⟨recorded, asked, answered, parsed, converted, listed, read, built⟩)
  · obtain ⟨world, after, held, does⟩ := asked
    exact Or.inl ⟨_, attentive.asked _ _ _ _ does, rfl⟩
  · obtain ⟨world, after, held, does⟩ := recorded
    obtain ⟨outcome, served⟩ := attentive.served _ _ _ _ does
    obtain rfl := attentive.recorded world held _ (serve_redisGet served)
    obtain ⟨world, after, held, does⟩ := listed
    have original := attentive.listed world held _ after does
    rw [read_original attentive read, original] at built
    exact Or.inr ⟨_, _, built, rfl⟩

end Readers

/-! ### A fetch that nothing disturbs -/

section Undisturbed

variable {handle : World → (call : Call) → Except Raised call.Answer × World} {world : World}
  {native : HttpResponse} {codec : Codec} {settings : Settings} {taskId : Text}
  {tenantId : Option Text} {record : TaskRecord}

/-- Redis and S3 answer from this world, and docling-serve with `native`. -/
structure Answers (handle : World → (call : Call) → Except Raised call.Answer × World)
    (world : World) (native : HttpResponse) : Prop where
  redisGet : ∀ key, handle world (.redisGet key) = (.ok (world.records.get? key), world)
  getResult : ∀ taskId headers, handle world (.getResult taskId headers) = (.ok native, world)
  listArtifacts : ∀ bucket keyPrefix, handle world (.listArtifacts bucket keyPrefix) =
    (.ok (world.list bucket keyPrefix), world)
  getObject : ∀ bucket key body, world.objects.get? (bucket, key) = some body →
    handle world (.getObject bucket key) = (.ok body, world)

theorem fetchArtifacts_eval (answers : Answers handle world native) (bucket keyPrefix : Text)
    (grouped : Grouped) {keys : List Text}
    (present : ∀ key ∈ keys, ∃ body, world.objects.get? (bucket, key) = some body) :
    (fetchArtifacts bucket keyPrefix grouped keys).eval handle world =
      (.ok (groupArtifacts keyPrefix grouped (keys.map fun key =>
        (key, (world.objects.get? (bucket, key)).getD []))), world) := by
  induction keys generalizing grouped with
  | nil => rfl
  | cons key keys ih =>
    obtain ⟨body, held⟩ := present key List.mem_cons_self
    have onward := fun grouped => ih grouped fun other member =>
      present other (List.mem_cons_of_mem _ member)
    unfold fetchArtifacts
    split
    · rename_i unread
      simp only [groupArtifacts, List.map_cons, List.foldl_cons, unread]
      exact onward grouped
    · rename_i parsed read
      have got := answers.getObject bucket key body held
      rw [Program.eval_bind_ok _ (Program.eval_perform got), onward]
      simp [groupArtifacts, read, held]

theorem fetchArtifactsByStem_eval (answers : Answers handle world native)
    (bucket keyPrefix : Text) :
    (fetchArtifactsByStem bucket keyPrefix).eval handle world =
      (.ok (groupArtifacts keyPrefix .empty (world.below bucket keyPrefix)), world) := by
  rw [fetchArtifactsByStem,
    Program.eval_bind_ok _ (Program.eval_perform (answers.listArtifacts bucket keyPrefix)),
    fetchArtifacts_eval answers _ _ _ fun key member => ((mem_list key).mp member).1]
  rfl

/-- What a fetch returns from the answer to its second call on. -/
theorem resolve_eval_bind (answers : Answers handle world native)
    (recorded : world.records.get? (recordKey taskId) = some record)
    (answered : native.statusCode < 400)
    (parsed : native.json.bind object? = some nativeResult) :
    (resolveResult codec settings taskId tenantId).eval handle world =
      (translateTransportErrors (if countsNothing nativeResult then
          pure ⟨.passthrough native, none⟩
        else do
          let grouped ← fetchArtifactsByStem settings.s3OutputBucket
            (outputPrefix settings record.requestId)
          let result ← orRaise (reconstruct codec record nativeResult grouped)
          pure ⟨result, some record⟩)).eval handle world := by
  have read := answers.redisGet (recordKey taskId)
  rw [recorded] at read
  rw [resolveResult, translateTransportErrors, translateTransportErrors, Program.eval_mapError,
    Program.eval_mapError, Program.eval_bind_ok _ (Program.eval_perform read)]
  dsimp only
  rw [Program.eval_bind_ok _ (Program.eval_perform (answers.getResult taskId _)),
    if_neg (Nat.not_le.mpr answered), parsed]
  rfl

/-- Bare counts are passed through. -/
theorem resolve_eval_passed (answers : Answers handle world native)
    (recorded : world.records.get? (recordKey taskId) = some record)
    (answered : native.statusCode < 400)
    (parsed : native.json.bind object? = some nativeResult)
    (nothing : countsNothing nativeResult = true) :
    (resolveResult codec settings taskId tenantId).eval handle world =
      (.ok ⟨.passthrough native, none⟩, world) := by
  rw [resolve_eval_bind answers recorded answered parsed, if_pos nothing]
  rfl

/-- Otherwise the answer is the reconstruction, or an exception that is none of
ours where there is no such thing. -/
theorem resolve_eval_reconstructed (answers : Answers handle world native)
    (recorded : world.records.get? (recordKey taskId) = some record)
    (answered : native.statusCode < 400)
    (parsed : native.json.bind object? = some nativeResult)
    (counted : countsNothing nativeResult = false) :
    (resolveResult codec settings taskId tenantId).eval handle world =
      ((reconstruct codec record nativeResult (groupArtifacts
        (outputPrefix settings record.requestId) .empty (world.below settings.s3OutputBucket
          (outputPrefix settings record.requestId)))).elim (.error .other)
        fun result => .ok ⟨result, some record⟩, world) := by
  have fetched := fetchArtifactsByStem_eval answers settings.s3OutputBucket
    (outputPrefix settings record.requestId)
  rw [resolve_eval_bind answers recorded answered parsed, counted, if_neg Bool.false_ne_true,
    translateTransportErrors, Program.eval_mapError, Program.eval_bind_ok _ fetched]
  cases reconstruct codec record nativeResult _ <;> rfl

end Undisturbed

end DoclingServeRay.Facade
