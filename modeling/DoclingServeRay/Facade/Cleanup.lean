import DoclingServeRay.Lib.Contracts
import DoclingServeRay.Facade.Reconstruction

/-! Whether a cleanup is complete, where S3 takes a limited number of keys in one
delete request and tells in a successful response which of them it kept. -/
namespace DoclingServeRay.Facade
open Strings Calls

/-- The keys that one `DeleteObjects` request may have. -/
def deleteLimit : Nat := 1000

/-- `MalformedXML`, as botocore words it. -/
def malformedRequest : Raised := .transport
  ("An error occurred (MalformedXML) when calling the DeleteObjects operation: ".toList ++
    "The XML you provided was not well-formed or did not validate against our published schema".toList)

/-- S3 with a limit and with objects that it does not delete. A success deletes
all others; each object is asked for once, so that a set of refused ones is as
good as a choice for each request. -/
def serveDeletes (refuses : Text × Text → Bool) (world : World) :
    Outcome → (call : Call) → Option (Except Raised call.Answer × World)
  | .served, .deleteObjects bucket keys =>
    if deleteLimit < keys.length then some (.error malformedRequest, world)
    else some (.ok (), world.deleteKeys bucket (keys.filter fun key => !refuses (bucket, key)))
  | .deleted some' (some raised), .deleteObjects bucket keys =>
    if deleteLimit < keys.length then some (.error malformedRequest, world)
    else some (.error raised, world.deleteKeys bucket
      (keys.filter fun key => key ∈ some' && !refuses (bucket, key)))
  | .deleted _ none, .deleteObjects _ _ => none
  | outcome, call => serve world outcome call

theorem serveDeletes_other {call : Call} (other : ∀ bucket keys, call ≠ .deleteObjects bucket keys)
    (refuses : Text × Text → Bool) (world : World) (outcome : Outcome) :
    serveDeletes refuses world outcome call = serve world outcome call := by
  unfold serveDeletes
  split
  · exact absurd rfl (other _ _)
  · exact absurd rfl (other _ _)
  · exact absurd rfl (other _ _)
  · rfl

/-- No call fails in transport. -/
def serveCalmly (refuses : Text × Text → Bool) (world : World) (call : Call) :
    Except Raised call.Answer × World :=
  (serveDeletes refuses world .served call).getD (.error .other, world)

/-- No object is left below either prefix of the request. -/
structure NothingLeft (settings : Settings) (requestId : Text) (world : World) : Prop where
  uploads : world.list settings.s3InputBucket (inputPrefix settings requestId) = []
  outputs : world.list settings.s3OutputBucket (outputPrefix settings requestId) = []

/-- A cleanup is complete: when nothing fails in transport, nothing is left and
the record is gone; and whatever fails, the record is only deleted when nothing
is left. -/
structure CleansUp (refuses : Text × Text → Bool) (settings : Settings) (taskId : Text)
    (record : TaskRecord) (world : World) : Prop where
  calm : ∀ after, ((cleanupTaskStorage settings taskId record).eval (serveCalmly refuses)
      world).2 = after →
    NothingLeft settings record.requestId after ∧ after.records.get? (recordKey taskId) = none
  last : ∀ outcomes result after, Program.run (serveDeletes refuses) world
      (cleanupTaskStorage settings taskId record) outcomes = some (result, after) →
    world.records.get? (recordKey taskId) ≠ none → after.records.get? (recordKey taskId) = none →
    NothingLeft settings record.requestId after

/-- S3 deletes everything below a prefix in one request. -/
structure Deletable (refuses : Text × Text → Bool) (world : World) (bucket keyPrefix : Text) :
    Prop where
  few : (world.list bucket keyPrefix).length ≤ deleteLimit
  free : ∀ key ∈ world.list bucket keyPrefix, refuses (bucket, key) = false

/-- The world without the objects below a prefix. -/
def World.without (world : World) (bucket keyPrefix : Text) : World :=
  world.deleteKeys bucket (world.list bucket keyPrefix)

/-! ### What is listed after a deletion -/

theorem deleteKeys_nil (world : World) (bucket : Text) : world.deleteKeys bucket [] = world := by
  have all : world.objects.filterKeys (fun key => !(key.1 = bucket && key.2 ∈ ([] : List Text))) =
      world.objects := by
    unfold OrderedDict.filterKeys
    simp
  rw [World.deleteKeys, all]

theorem mem_list_deleteKeys (world : World) (bucket : Text) (keys : List Text)
    (other keyPrefix key : Text) :
    key ∈ (world.deleteKeys bucket keys).list other keyPrefix ↔
      key ∈ world.list other keyPrefix ∧ ¬ (other = bucket ∧ key ∈ keys) := by
  simp only [mem_list, get?_deleteKeys]
  by_cases listed : other = bucket ∧ key ∈ keys
  · simp [listed]
  · simp [listed]

/-! ### One prefix -/

section Prefix

variable {refuses : Text × Text → Bool} {world : World} {bucket keyPrefix : Text}

/-- The world after a successful request for all that is below a prefix. -/
def World.deletedBelow (refuses : Text × Text → Bool) (world : World) (bucket keyPrefix : Text) :
    World :=
  world.deleteKeys bucket
    ((world.list bucket keyPrefix).filter fun key => !refuses (bucket, key))

theorem eval_deleteBelow (refuses : Text × Text → Bool) (world : World) (bucket keyPrefix : Text) :
    (deleteBelow bucket keyPrefix).eval (serveCalmly refuses) world =
      if deleteLimit < (world.list bucket keyPrefix).length then (.error malformedRequest, world)
      else (.ok (), world.deletedBelow refuses bucket keyPrefix) := by
  have listed : (Program.perform (Call.listArtifacts bucket keyPrefix) : Operation _).eval
      (serveCalmly refuses) world = (.ok (world.list bucket keyPrefix), world) :=
    Program.eval_perform rfl
  rw [deleteBelow, Program.eval_bind_ok _ listed]
  by_cases nothing : world.list bucket keyPrefix = []
  · rw [if_neg (not_not.mpr nothing), World.deletedBelow, nothing, if_neg (by simp),
      List.filter_nil, deleteKeys_nil]
    rfl
  · rw [if_pos nothing]
    by_cases many : deleteLimit < (world.list bucket keyPrefix).length
    · rw [if_pos many]
      simp only [Program.perform, Program.eval, serveCalmly, serveDeletes, if_pos many,
        Option.getD_some]
    · rw [if_neg many]
      simp only [Program.perform, Program.eval, serveCalmly, serveDeletes, if_neg many,
        Option.getD_some, World.deletedBelow]

/-- However the calls turn out, records are left alone, and what returns has
deleted all that S3 does not refuse. -/
theorem ends_deleteBelow (refuses : Text × Text → Bool) (world : World) (bucket keyPrefix : Text) :
    (deleteBelow bucket keyPrefix).Ends (serveDeletes refuses) (fun result after =>
      after.records = world.records ∧
        (result = .ok () → after = world.deletedBelow refuses bucket keyPrefix)) world := by
  apply (Program.ends_bind _ _ _).mpr
  apply (Program.ends_perform _).mpr
  intro outcome answer after served
  rw [serveDeletes_other (by rintro _ _ ⟨⟩)] at served
  obtain rfl := serve_reads rfl served
  cases answer with
  | error error => exact ⟨rfl, nofun⟩
  | ok keys =>
    have listed : keys = after.list bucket keyPrefix := by
      cases outcome <;> cases served
      rfl
    subst listed
    by_cases nothing : after.list bucket keyPrefix = []
    · simp only [nothing, ne_eq, not_true_eq_false, ↓reduceIte]
      refine ⟨rfl, fun _ => ?_⟩
      rw [World.deletedBelow, nothing, List.filter_nil, deleteKeys_nil]
    · simp only [ne_eq, nothing, not_false_eq_true, ↓reduceIte]
      apply (Program.ends_perform _).mpr
      intro outcome answer final served
      cases outcome with
      | served =>
        simp only [serveDeletes] at served
        split at served
        · cases served
          exact ⟨rfl, nofun⟩
        · cases served
          exact ⟨rfl, fun _ => rfl⟩
      | deleted some' error =>
        cases error with
        | none => cases served
        | some raised =>
          simp only [serveDeletes] at served
          split at served <;> cases served <;> exact ⟨rfl, nofun⟩
      | failed error =>
        cases served
        exact ⟨rfl, nofun⟩
      | responded response => cases served

theorem deletedBelow_of_deletable (deletable : Deletable refuses world bucket keyPrefix) :
    world.deletedBelow refuses bucket keyPrefix = world.without bucket keyPrefix := by
  rw [World.deletedBelow, World.without, List.filter_eq_self.mpr]
  intro key member
  rw [deletable.free key member]
  rfl

/-- A prefix is cleared only where S3 takes one request for all of it. -/
theorem deletable_of_cleared {after : World}
    (few : ¬ deleteLimit < (world.list bucket keyPrefix).length)
    (stays : ∀ key, key ∈ (world.deletedBelow refuses bucket keyPrefix).list bucket keyPrefix →
      refuses (bucket, key) = true → key ∈ after.list bucket keyPrefix)
    (cleared : after.list bucket keyPrefix = []) : Deletable refuses world bucket keyPrefix := by
  refine ⟨Nat.le_of_not_lt few, ?_⟩
  intro key member
  cases refused : refuses (bucket, key) with
  | false => rfl
  | true =>
    have kept : key ∈ (world.deletedBelow refuses bucket keyPrefix).list bucket keyPrefix := by
      rw [World.deletedBelow, mem_list_deleteKeys]
      refine ⟨member, ?_⟩
      rintro ⟨_, deleted⟩
      have free := (List.mem_filter.mp deleted).2
      rw [refused] at free
      cases free
    have left := stays key kept refused
    rw [cleared] at left
    cases left

end Prefix

/-! ### A whole cleanup -/

section Cleanup

variable {refuses : Text × Text → Bool} {settings : Settings} {taskId : Text}
  {record : TaskRecord} {world : World}

/-- What a cleanup leaves where no call fails in transport: it stops at a
request that is too large. -/
theorem eval_cleanup (refuses : Text × Text → Bool) (settings : Settings) (taskId : Text)
    (record : TaskRecord) (world : World) :
    ((cleanupTaskStorage settings taskId record).eval (serveCalmly refuses) world).2 =
      if deleteLimit < (world.list settings.s3InputBucket
          (inputPrefix settings record.requestId)).length then world
      else if deleteLimit < ((world.deletedBelow refuses settings.s3InputBucket
          (inputPrefix settings record.requestId)).list settings.s3OutputBucket
          (outputPrefix settings record.requestId)).length then
        world.deletedBelow refuses settings.s3InputBucket (inputPrefix settings record.requestId)
      else ((world.deletedBelow refuses settings.s3InputBucket
          (inputPrefix settings record.requestId)).deletedBelow refuses settings.s3OutputBucket
          (outputPrefix settings record.requestId)).deleteRecord (recordKey taskId) := by
  have swallowed : ∀ program : Operation Unit, (program.attempt >>= fun _ => pure ()).eval
      (serveCalmly refuses) world = (.ok (), (program.eval (serveCalmly refuses) world).2) := by
    intro program
    rw [Program.eval_bind_ok _ (Program.eval_attempt program world)]
    rfl
  rw [cleanupTaskStorage, swallowed]
  have uploads := eval_deleteBelow refuses world settings.s3InputBucket
    (inputPrefix settings record.requestId)
  by_cases many : deleteLimit < (world.list settings.s3InputBucket
      (inputPrefix settings record.requestId)).length
  · rw [if_pos many] at uploads ⊢
    rw [Program.eval_bind_error _ uploads]
  rw [if_neg many] at uploads ⊢
  rw [Program.eval_bind_ok _ uploads]
  have outputs := eval_deleteBelow refuses (world.deletedBelow refuses settings.s3InputBucket
    (inputPrefix settings record.requestId)) settings.s3OutputBucket
    (outputPrefix settings record.requestId)
  split
  · rename_i many'
    rw [if_pos many'] at outputs
    rw [Program.eval_bind_error _ outputs]
  · rename_i few
    rw [if_neg few] at outputs
    rw [Program.eval_bind_ok _ outputs]
    rfl

/-- Both deletions together leave nothing. -/
theorem without_nothingLeft (settings : Settings) (requestId : Text) (world : World) :
    NothingLeft settings requestId
      ((world.without settings.s3InputBucket (inputPrefix settings requestId)).without
        settings.s3OutputBucket (outputPrefix settings requestId)) := by
  constructor
  · apply List.eq_nil_iff_forall_not_mem.mpr
    intro key member
    have earlier := ((mem_list_deleteKeys _ _ _ _ _ key).mp member).1
    obtain ⟨listed, undeleted⟩ := (mem_list_deleteKeys _ _ _ _ _ key).mp earlier
    exact undeleted ⟨rfl, listed⟩
  · apply List.eq_nil_iff_forall_not_mem.mpr
    intro key member
    obtain ⟨listed, undeleted⟩ := (mem_list_deleteKeys _ _ _ _ _ key).mp member
    exact undeleted ⟨rfl, listed⟩

/-- What S3 refuses is still there in the end. -/
theorem refused_stays {middle : World} (key : Text)
    (member : key ∈ middle.list settings.s3InputBucket keyPrefix)
    (refused : refuses (settings.s3InputBucket, key) = true) :
    key ∈ ((middle.deletedBelow refuses settings.s3OutputBucket outputs).deleteRecord
      record').list settings.s3InputBucket keyPrefix := by
  have kept : key ∈ (middle.deletedBelow refuses settings.s3OutputBucket outputs).list
      settings.s3InputBucket keyPrefix := by
    rw [World.deletedBelow, mem_list_deleteKeys]
    refine ⟨member, ?_⟩
    rintro ⟨same, deleted⟩
    have free := (List.mem_filter.mp deleted).2
    rw [← same, refused] at free
    cases free
  exact kept

/-- A complete cleanup has no more to delete than one request takes, and nothing
that is refused. -/
theorem deletable_of_cleansUp (cleans : CleansUp refuses settings taskId record world) :
    Deletable refuses world settings.s3InputBucket (inputPrefix settings record.requestId) ∧
      Deletable refuses (world.without settings.s3InputBucket
        (inputPrefix settings record.requestId)) settings.s3OutputBucket
        (outputPrefix settings record.requestId) := by
  obtain ⟨⟨uploads, outputs⟩, _⟩ := cleans.calm _ rfl
  rw [eval_cleanup] at uploads outputs
  by_cases many : deleteLimit < (world.list settings.s3InputBucket
      (inputPrefix settings record.requestId)).length
  · rw [if_pos many] at uploads
    rw [uploads, List.length_nil] at many
    omega
  rw [if_neg many] at uploads outputs
  by_cases many' : deleteLimit < ((world.deletedBelow refuses settings.s3InputBucket
      (inputPrefix settings record.requestId)).list settings.s3OutputBucket
      (outputPrefix settings record.requestId)).length
  · rw [if_pos many'] at outputs
    rw [outputs, List.length_nil] at many'
    omega
  rw [if_neg many'] at uploads outputs
  have first : Deletable refuses world settings.s3InputBucket
      (inputPrefix settings record.requestId) :=
    deletable_of_cleared many (fun key member refused => refused_stays key member refused) uploads
  refine ⟨first, ?_⟩
  rw [deletedBelow_of_deletable first] at many' outputs
  exact deletable_of_cleared many' (fun key member _ => member) outputs

/-- Whatever fails, the record goes last. -/
theorem cleanup_last
    (first : Deletable refuses world settings.s3InputBucket (inputPrefix settings record.requestId))
    (second : Deletable refuses (world.without settings.s3InputBucket
      (inputPrefix settings record.requestId)) settings.s3OutputBucket
      (outputPrefix settings record.requestId)) :
    (cleanupTaskStorage settings taskId record).Ends (serveDeletes refuses) (fun _ after =>
      world.records.get? (recordKey taskId) ≠ none →
        after.records.get? (recordKey taskId) = none →
        NothingLeft settings record.requestId after) world := by
  have nothing := without_nothingLeft settings record.requestId world
  apply (Program.ends_bind _ _ _).mpr
  apply (Program.ends_attempt _ _).mpr
  apply (Program.ends_bind _ _ _).mpr
  refine Program.ends_mono ?_ (ends_deleteBelow refuses world _ _)
  rintro uploads middle ⟨records, deleted⟩
  cases uploads with
  | error error =>
    intro present gone
    exact absurd (records ▸ gone) present
  | ok done =>
    obtain rfl := deleted rfl
    rw [deletedBelow_of_deletable first]
    apply (Program.ends_bind _ _ _).mpr
    refine Program.ends_mono ?_ (ends_deleteBelow refuses _ _ _)
    rintro outputs final ⟨records', deleted'⟩
    cases outputs with
    | error error =>
      intro present gone
      rw [records'] at gone
      exact absurd gone present
    | ok done' =>
      obtain rfl := deleted' rfl
      rw [deletedBelow_of_deletable second]
      apply (Program.ends_perform _).mpr
      intro outcome answer after served
      rw [serveDeletes_other (by rintro _ _ ⟨⟩)] at served
      have objects : NothingLeft settings record.requestId after := by
        cases outcome with
        | served | failed error =>
          cases served
          exact ⟨nothing.uploads, nothing.outputs⟩
        | deleted keys error =>
          cases error <;> cases served
          exact ⟨nothing.uploads, nothing.outputs⟩
        | responded response => cases served
      cases answer with
      | error error => exact fun _ _ => objects
      | ok done => exact fun _ _ => objects

/-- A cleanup is complete exactly when S3 takes one request for each prefix and
refuses nothing below them. -/
theorem cleanup_complete_iff :
    CleansUp refuses settings taskId record world ↔
      Deletable refuses world settings.s3InputBucket (inputPrefix settings record.requestId) ∧
        Deletable refuses (world.without settings.s3InputBucket
          (inputPrefix settings record.requestId)) settings.s3OutputBucket
          (outputPrefix settings record.requestId) := by
  refine ⟨deletable_of_cleansUp, ?_⟩
  rintro ⟨first, second⟩
  have nothing := without_nothingLeft settings record.requestId world
  constructor
  · rintro after rfl
    rw [eval_cleanup, if_neg (Nat.not_lt.mpr first.few), deletedBelow_of_deletable first,
      if_neg (Nat.not_lt.mpr second.few), deletedBelow_of_deletable second]
    refine ⟨⟨nothing.uploads, nothing.outputs⟩, ?_⟩
    rw [get?_deleteRecord, if_pos rfl]
  · intro outcomes result after ran present gone
    exact Program.ends_iff_run.mp (cleanup_last first second) outcomes result after ran present gone

end Cleanup

/-! ### An object under a lock -/

/-- S3 refuses to delete anything. -/
def refusesAll (_ : Text × Text) : Bool := true

def lockedRecord : TaskRecord := ⟨"r".toList, none, ["a.pdf".toList], ["md".toList], false⟩

def lockedWorld : World := taskWorld lockedRecord [("a.md", [109])]

theorem locked_listed : "facade-results/r/a.md".toList ∈
    (lockedWorld.without "docling-input".toList "facade-uploads/r/".toList).list
      "docling-output".toList "facade-results/r/".toList := by
  decide +kernel

/-- A cleanup leaves what S3 refuses to delete. -/
theorem refused_object_left :
    ¬ ∀ refuses settings taskId record world, CleansUp refuses settings taskId record world := by
  intro cleans
  have second := (deletable_of_cleansUp
    (cleans refusesAll {} "t".toList lockedRecord lockedWorld)).2
  cases second.free _ locked_listed

end DoclingServeRay.Facade
