import DoclingServeRay.Lib.Contracts
import DoclingServeRay.Facade.Service

/-! What the facade makes of a multipart form (`main.py`, `utils.py`): the files
it uploads itself, and the options it forwards without knowing what they mean. -/
namespace DoclingServeRay.Facade
open Strings Calls

/-- A value of the form: a text, or a part that was sent with a file name. -/
inductive FormItem where
  | text (value : Text)
  | file (upload : UploadFile)
  deriving DecidableEq

/-- Starlette's `FormData`: names and values, in the order they were sent. -/
abbrev Form := List (Text × FormItem)

def getlist (form : Form) (key : Text) : List FormItem :=
  (form.filter fun field => field.1 = key).map Prod.snd

/-- `dict.fromkeys(form.keys())` -/
def formKeys (form : Form) : List Text :=
  (OrderedDict.fromKeys (form.map Prod.fst)).keys

def interceptedFields : List Text := ["files".toList, "target_type".toList]

def arrayFields : List Text :=
  ["from_formats".toList, "to_formats".toList, "ocr_lang".toList, "page_range".toList]

/-- A value of `convert_options` before it is sent: a list, or a bare value. -/
inductive OptionValue where
  | one (item : FormItem)
  | many (items : List FormItem)

def optionValue (key : Text) (values : List FormItem) : OptionValue :=
  if key ∈ arrayFields || 1 < values.length then .many values
  else match values with
    | value :: _ => .one value
    -- Not for a key of the form.
    | [] => .many []

def buildConvertOptions (form : Form) : OrderedDict Text OptionValue :=
  OrderedDict.empty.setAll (((formKeys form).filter fun key => key ∉ interceptedFields).map
    fun key => (key, optionValue key (getlist form key)))

/-- The `files` of `_parse_submission`. -/
def formFiles (form : Form) : List UploadFile :=
  (getlist form "files".toList).filterMap fun item =>
    match item with
    | .file upload => some upload
    | .text _ => none

/-- `form.get('target_type', 'inbody') == 'zip'`; of several values the last one. -/
def asZip (form : Form) : Bool :=
  (getlist form "target_type".toList).getLast? = some (.text "zip".toList)

/-- A value as JSON; there is none for an upload. -/
def FormItem.json? : FormItem → Option Text
  | .text value => some value
  | .file _ => none

def OptionValue.json? : OptionValue → Option FormValue
  | .one item => item.json?.map .one
  | .many items => (items.mapM FormItem.json?).map .many

/-- The options as they are sent; `none` where `json=body` raises. -/
def jsonOptions (options : OrderedDict Text OptionValue) : Option (OrderedDict Text FormValue) :=
  options.traverse fun _ value => value.json?

/-- `convert_file_async`; `convert_file_sync` submits the same way. -/
def convertFileAsync (codec : Codec) (settings : Settings) (requestId : Text) (form : Form)
    (tenantId : Option Text) : Operation TaskStatusResponse :=
  if formFiles form = [] then .raise (.http 422 "No files provided.".toList)
  else match jsonOptions (buildConvertOptions form) with
    | some options =>
      submitFileUpload codec settings requestId (formFiles form) options (asZip form) tenantId
    -- The body is serialized after the uploads, before anything is posted.
    | none => translateTransportErrors do
      uploadFiles settings requestId (formFiles form)
      .raise .other

/-! ### The options of a form -/

theorem mem_formKeys (form : Form) (key : Text) : key ∈ formKeys form ↔ key ∈ form.map Prod.fst :=
  OrderedDict.mem_keys_fromKeys _ key

/-- A name of the form is one that has a value. -/
theorem mem_names_iff (form : Form) (key : Text) :
    key ∈ form.map Prod.fst ↔ getlist form key ≠ [] := by
  induction form with
  | nil => simp [getlist]
  | cons field form ih =>
    by_cases same : field.1 = key
    · simp [getlist, same]
    · have other : ¬ key = field.1 := fun equal => same equal.symm
      simp only [List.map_cons, List.mem_cons, other, false_or, ih]
      simp [getlist, same]

theorem get?_buildConvertOptions (form : Form) (key : Text) :
    (buildConvertOptions form).get? key =
      if getlist form key ≠ [] ∧ key ∉ interceptedFields
      then some (optionValue key (getlist form key)) else none := by
  have listed : ∀ value,
      (key, value) ∈ (((formKeys form).filter fun key => key ∉ interceptedFields).map
        fun key => (key, optionValue key (getlist form key))) ↔
      (getlist form key ≠ [] ∧ key ∉ interceptedFields) ∧
        optionValue key (getlist form key) = value := by
    intro value
    rw [List.mem_map]
    constructor
    · rintro ⟨other, member, same⟩
      cases same
      obtain ⟨named, kept⟩ := List.mem_filter.mp member
      exact ⟨⟨(mem_names_iff form key).mp ((mem_formKeys form key).mp named),
        of_decide_eq_true kept⟩, rfl⟩
    · rintro ⟨⟨named, kept⟩, same⟩
      refine ⟨key, List.mem_filter.mpr ⟨?_, decide_eq_true kept⟩, by rw [same]⟩
      exact (mem_formKeys form key).mpr ((mem_names_iff form key).mpr named)
  rcases OrderedDict.get?_setAll OrderedDict.empty _ key with ⟨value, member, held⟩ | ⟨absent, held⟩
  · obtain ⟨present, same⟩ := (listed value).mp member
    rw [buildConvertOptions, held, if_pos present, same]
  · rw [buildConvertOptions, held]
    by_cases present : getlist form key ≠ [] ∧ key ∉ interceptedFields
    · exact absurd ((listed _).mpr ⟨present, rfl⟩) (absent _)
    · rw [if_neg present, OrderedDict.get?_empty]

/-! ### As JSON -/

theorem json_items {items : List FormItem} (sent : items.mapM FormItem.json? = some texts) :
    texts.map FormItem.text = items := by
  induction items generalizing texts with
  | nil =>
    cases sent
    rfl
  | cons item items ih =>
    rw [List.mapM_cons] at sent
    obtain ⟨text, first, onward⟩ := Option.bind_eq_some_iff.mp sent
    obtain ⟨rest, below, same⟩ := Option.bind_eq_some_iff.mp onward
    cases same
    cases item with
    | file upload => cases first
    | text value =>
      cases first
      rw [List.map_cons, ih below]

theorem json_items_iff (items : List FormItem) :
    (∃ texts, items.mapM FormItem.json? = some texts) ↔
      ∀ item ∈ items, ∃ text, item = .text text := by
  constructor
  · rintro ⟨texts, sent⟩ item member
    rw [← json_items sent] at member
    obtain ⟨text, _, same⟩ := List.mem_map.mp member
    exact ⟨text, same.symm⟩
  · intro texts
    induction items with
    | nil => exact ⟨[], rfl⟩
    | cons item items ih =>
      obtain ⟨text, rfl⟩ := texts item List.mem_cons_self
      obtain ⟨rest, sent⟩ := ih fun item member => texts item (List.mem_cons_of_mem _ member)
      exact ⟨text :: rest, by rw [List.mapM_cons, sent]; rfl⟩

/-- An option read as a list. -/
def FormValue.toList : FormValue → List Text
  | .one value => [value]
  | .many values => values

/-- The scalar or list rule, for values there are. -/
theorem optionValue_cases {values : List FormItem} (present : values ≠ []) :
    (optionValue key values = .many values ∧ ¬ (values.length = 1 ∧ key ∉ arrayFields)) ∨
      ∃ item, values = [item] ∧ key ∉ arrayFields ∧ optionValue key values = .one item := by
  unfold optionValue
  split
  · rename_i listed
    refine Or.inl ⟨rfl, ?_⟩
    rintro ⟨single, scalar⟩
    simp [single, scalar] at listed
  · rename_i bare
    simp only [Bool.or_eq_true, decide_eq_true_eq, not_or, not_lt] at bare
    cases values with
    | nil => exact absurd rfl present
    | cons item items =>
      have short := bare.2
      rw [List.length_cons] at short
      have alone : items = [] := List.length_eq_zero_iff.mp (by omega)
      subst alone
      exact Or.inr ⟨item, rfl, bare.1, rfl⟩

/-- What an option becomes as JSON says all about the values it was made of. -/
theorem json_optionValue {values : List FormItem} (present : values ≠ [])
    (sent : (optionValue key values).json? = some value) :
    value.toList.map FormItem.text = values ∧
      ((∃ text, value = .one text) ↔ values.length = 1 ∧ key ∉ arrayFields) := by
  rcases @optionValue_cases key _ present with ⟨listed, several⟩ | ⟨item, rfl, scalar, bare⟩
  · rw [listed] at sent
    obtain ⟨texts, read, rfl⟩ := Option.map_eq_some_iff.mp sent
    refine ⟨json_items read, ?_, fun single => absurd single several⟩
    rintro ⟨text, same⟩
    cases same
  · rw [bare] at sent
    cases item with
    | file upload => cases sent
    | text value =>
      cases sent
      exact ⟨rfl, fun _ => ⟨rfl, scalar⟩, fun _ => ⟨_, rfl⟩⟩

theorem json_optionValue_iff {values : List FormItem} (present : values ≠ []) :
    (∃ value, (optionValue key values).json? = some value) ↔
      ∀ item ∈ values, ∃ text, item = .text text := by
  rcases @optionValue_cases key _ present with ⟨listed, _⟩ | ⟨item, rfl, _, bare⟩
  · rw [listed, ← json_items_iff]
    constructor
    · rintro ⟨value, sent⟩
      obtain ⟨texts, read, _⟩ := Option.map_eq_some_iff.mp sent
      exact ⟨texts, read⟩
    · rintro ⟨texts, read⟩
      exact ⟨.many texts, Option.map_eq_some_iff.mpr ⟨texts, read, rfl⟩⟩
  · rw [bare]
    cases item <;> simp [OptionValue.json?, FormItem.json?]

/-- The options say of every name of the form what was sent under it. -/
structure Forwarded (form : Form) (options : OrderedDict Text FormValue) : Prop where
  keys : ∀ key, key ∈ options.keys ↔ key ∈ form.map Prod.fst ∧ key ∉ interceptedFields
  values : ∀ key value, options.get? key = some value →
    value.toList.map FormItem.text = getlist form key
  bare : ∀ key value, options.get? key = some value →
    ((∃ text, value = .one text) ↔ (getlist form key).length = 1 ∧ key ∉ arrayFields)

theorem get?_jsonOptions (sent : jsonOptions (buildConvertOptions form) = some options)
    (key : Text) :
    options.get? key =
      if getlist form key ≠ [] ∧ key ∉ interceptedFields
      then (optionValue key (getlist form key)).json? else none := by
  rw [OrderedDict.get?_traverse sent key, get?_buildConvertOptions]
  split <;> rfl

/-- The options hang together with the form through its lists of values alone. -/
theorem options_of_values (sent : jsonOptions (buildConvertOptions form) = some options)
    (sent' : jsonOptions (buildConvertOptions other) = some options')
    (same : ∀ key, getlist form key = getlist other key) (key : Text) :
    options.get? key = options'.get? key := by
  rw [get?_jsonOptions sent, get?_jsonOptions sent', same key]

theorem jsonOptions_forwarded (sent : jsonOptions (buildConvertOptions form) = some options) :
    Forwarded form options := by
  have read : ∀ key value, options.get? key = some value →
      (getlist form key ≠ [] ∧ key ∉ interceptedFields) ∧
        (optionValue key (getlist form key)).json? = some value := by
    intro key value held
    rw [get?_jsonOptions sent] at held
    split at held
    · rename_i present
      exact ⟨present, held⟩
    · cases held
  constructor
  · intro key
    rw [OrderedDict.mem_keys_iff, mem_names_iff]
    constructor
    · intro held
      obtain ⟨value, found⟩ := held
      exact (read key value found).1
    · intro present
      have built : (buildConvertOptions form).get? key =
          some (optionValue key (getlist form key)) := by
        rw [get?_buildConvertOptions, if_pos present]
      obtain ⟨value, json⟩ := OrderedDict.image_of_traverse sent built
      exact ⟨value, by rw [get?_jsonOptions sent, if_pos present, json]⟩
  · intro key value held
    obtain ⟨present, json⟩ := read key value held
    exact (json_optionValue present.1 json).1
  · intro key value held
    obtain ⟨present, json⟩ := read key value held
    exact (json_optionValue present.1 json).2

/-- The record's formats: those of the form, or the default. -/
theorem toFormats_forwarded (sent : jsonOptions (buildConvertOptions form) = some options) :
    if getlist form "to_formats".toList = [] then toFormats options = ["md".toList]
    else (toFormats options).map FormItem.text = getlist form "to_formats".toList := by
  have forwarded := jsonOptions_forwarded sent
  have scalar : "to_formats".toList ∉ interceptedFields := by decide
  have listed : "to_formats".toList ∈ arrayFields := by decide
  unfold toFormats
  cases held : options.get? "to_formats".toList with
  | none =>
    have absent : getlist form "to_formats".toList = [] := by
      by_contra present
      have named := (forwarded.keys _).mpr ⟨(mem_names_iff form _).mpr present, scalar⟩
      obtain ⟨value, found⟩ := (OrderedDict.mem_keys_iff options _).mp named
      cases held.symm.trans found
    rw [if_pos absent]
    rfl
  | some value =>
    have present : getlist form "to_formats".toList ≠ [] := by
      apply (mem_names_iff form _).mp
      exact ((forwarded.keys _).mp ((OrderedDict.mem_keys_iff options _).mpr ⟨value, held⟩)).1
    rw [if_neg present]
    cases value with
    | many texts => exact forwarded.values _ _ held
    -- A bare text would have been taken apart here.
    | one text => exact absurd listed ((forwarded.bare _ _ held).mp ⟨text, rfl⟩).2

/-! ### What is sent and stored -/

/-- The id that the client is told is the one docling-serve gave. -/
theorem taskStatus_taskId (read : taskStatus? codec task = some status) :
    task.get? "task_id".toList = some (.text status.taskId) := by
  unfold taskStatus? at read
  obtain ⟨taskId, given, read⟩ := Option.bind_eq_some_iff.mp read
  obtain ⟨_, _, read⟩ := Option.bind_eq_some_iff.mp read
  obtain ⟨_, _, read⟩ := Option.bind_eq_some_iff.mp read
  obtain ⟨_, _, read⟩ := Option.bind_eq_some_iff.mp read
  obtain ⟨_, _, read⟩ := Option.bind_eq_some_iff.mp read
  obtain ⟨_, _, read⟩ := Option.bind_eq_some_iff.mp read
  obtain ⟨_, _, read⟩ := Option.bind_eq_some_iff.mp read
  cases read
  obtain ⟨json, held, text⟩ := Option.bind_eq_some_iff.mp given
  cases json with
  | text value =>
    cases text
    exact held
  | _ => cases text

/-- The options that are posted and the formats that are recorded. -/
def Submits (options : OrderedDict Text FormValue) : Call → Prop
  | .convertBatch body _ => body.options = options
  | .redisSet _ record _ => record.toFormats = toFormats options
  | _ => True

theorem uploads_ask {asks : Call → Prop}
    (uploads : ∀ bucket key file, asks (.uploadFileobj bucket key file)) (settings : Settings)
    (requestId : Text) (files : List UploadFile) :
    (uploadFiles settings requestId files).AsksOnly asks := by
  induction files with
  | nil => trivial
  | cons file files ih =>
    exact Program.asks_bind (Program.asks_perform (uploads _ _ _)) fun _ => ih

theorem asks_orRaise (asks : Call → Prop) (value : Option α) :
    (orRaise value).AsksOnly asks := by
  cases value <;> trivial

/-- A submission uploads, posts its options, and records itself. -/
theorem submit_asks_only {asks : Call → Prop}
    (uploads : ∀ bucket key file, asks (.uploadFileobj bucket key file))
    (posts : ∀ body headers, body.options = options → asks (.convertBatch body headers))
    (records : ∀ key record ttlSeconds, record.toFormats = toFormats options →
      asks (.redisSet key record ttlSeconds)) (codec : Codec) (settings : Settings)
    (requestId : Text) (files : List UploadFile) (zipped : Bool) (tenantId : Option Text) :
    (submitFileUpload codec settings requestId files options zipped tenantId).AsksOnly asks := by
  apply Program.asks_mapError
  refine Program.asks_bind (uploads_ask uploads settings requestId files) ?_
  intro _
  refine Program.asks_bind (Program.asks_perform (posts _ _ rfl)) ?_
  intro response
  split
  · trivial
  · refine Program.asks_bind (asks_orRaise asks _) fun task => ?_
    refine Program.asks_bind (asks_orRaise asks _) fun taskId => ?_
    refine Program.asks_bind (Program.asks_perform (records _ _ _ rfl)) fun _ => ?_
    exact asks_orRaise asks _

/-- Some run of a submission of this form makes the call. -/
def Submitting (form : Form) (call : Call) : Prop :=
  ∃ codec settings requestId tenantId world outcomes,
    call ∈ Program.requests serve world (convertFileAsync codec settings requestId form tenantId)
      outcomes

/-- These options are posted. -/
def Posted (form : Form) (options : OrderedDict Text FormValue) : Prop :=
  ∃ body headers, Submitting form (.convertBatch body headers) ∧ body.options = options

/-- These formats are recorded. -/
def Recorded (form : Form) (formats : List Text) : Prop :=
  ∃ key record ttlSeconds, Submitting form (.redisSet key record ttlSeconds) ∧
    record.toFormats = formats

/-- What is posted and what is recorded comes of the options of the form. -/
theorem submitting_options (submitting : Submitting form call)
    (wanted : ∀ bucket key file, call ≠ .uploadFileobj bucket key file) :
    ∃ options, jsonOptions (buildConvertOptions form) = some options ∧ Submits options call := by
  obtain ⟨codec, settings, requestId, tenantId, world, outcomes, member⟩ := submitting
  unfold convertFileAsync at member
  split at member
  · cases outcomes <;> cases member
  · split at member
    · rename_i options sent
      refine ⟨options, sent, ?_⟩
      refine Program.asks_requests (submit_asks_only ?_ ?_ ?_ codec settings requestId _ _
        tenantId) member
      · exact fun _ _ _ => trivial
      · exact fun _ _ posted => posted
      · exact fun _ _ _ recorded => recorded
    · have uploads : (translateTransportErrors do
            uploadFiles settings requestId (formFiles form)
            .raise .other : Operation TaskStatusResponse).AsksOnly
          (fun call => ∃ bucket key file, call = .uploadFileobj bucket key file) := by
        apply Program.asks_mapError
        refine Program.asks_bind (uploads_ask ?_ settings requestId _) fun _ => trivial
        exact fun bucket key file => ⟨bucket, key, file, rfl⟩
      obtain ⟨bucket, key, file, same⟩ := Program.asks_requests uploads member
      exact absurd same (wanted bucket key file)

/-- What follows the uploads is asked for where they go through. -/
theorem requests_after_uploads (settings : Settings) (requestId : Text) (files : List UploadFile)
    {rest : Unit → Operation α} {change : Raised → Raised}
    (asked : ∀ world, ∃ outcomes,
      call ∈ Program.requests serve world ((rest ()).mapError change) outcomes) (world : World) :
    ∃ outcomes, call ∈ Program.requests serve world
      ((uploadFiles settings requestId files >>= rest).mapError change) outcomes := by
  induction files generalizing world with
  | nil => exact asked world
  | cons file files ih =>
    obtain ⟨outcomes, member⟩ := ih { world with
      objects := world.objects.set (settings.s3InputBucket,
        inputPrefix settings requestId ++ uploadName file) file.file }
    exact ⟨.served :: outcomes, List.mem_cons_of_mem _ member⟩

/-- A form is posted exactly when it has a file and its options can be sent. -/
theorem posted_iff (form : Form) (options : OrderedDict Text FormValue) :
    Posted form options ↔
      formFiles form ≠ [] ∧ jsonOptions (buildConvertOptions form) = some options := by
  constructor
  · rintro ⟨body, headers, submitting, rfl⟩
    obtain ⟨options, sent, same⟩ := submitting_options submitting (by
      intro _ _ _ same
      cases same)
    refine ⟨?_, by rw [sent, same]⟩
    intro none
    obtain ⟨codec, settings, requestId, tenantId, world, outcomes, member⟩ := submitting
    rw [convertFileAsync, if_pos none] at member
    cases outcomes <;> cases member
  · rintro ⟨some', sent⟩
    refine ⟨batchBody {} [] options, [], ⟨asciiCodec, {}, [], none, ⟨.empty, .empty⟩, ?_⟩, rfl⟩
    rw [convertFileAsync, if_neg some', sent]
    apply requests_after_uploads
    exact fun world => ⟨[.failed .other], List.mem_cons_self⟩

/-- The options of a form can be sent where no upload is among them. -/
theorem jsonOptions_iff (form : Form) :
    (∃ options, jsonOptions (buildConvertOptions form) = some options) ↔
      ∀ key, key ∉ interceptedFields → ∀ item ∈ getlist form key, ∃ text, item = .text text := by
  constructor
  · rintro ⟨options, sent⟩ key kept item member
    have present : getlist form key ≠ [] := List.ne_nil_of_mem member
    have built : (buildConvertOptions form).get? key =
        some (optionValue key (getlist form key)) := by
      rw [get?_buildConvertOptions, if_pos ⟨present, kept⟩]
    have image := OrderedDict.image_of_traverse sent built
    exact (json_optionValue_iff present).mp image item member
  · intro texts
    apply OrderedDict.traverse_of_images
    intro key value held
    rw [get?_buildConvertOptions] at held
    split at held
    · rename_i present
      cases held
      exact (json_optionValue_iff present.1).mpr (texts key present.2)
    · cases held

/-- The options posted for a form hold every name but the two that the facade
keeps to itself, with all its values in order, bare where a scalar was sent
once; the record's formats are those of the form; and how the fields of a form
are interleaved makes no difference. A form is posted exactly when it has a file
and no upload among its options. -/
theorem form_options_forwarded (form : Form) :
    ((∃ options, Posted form options) ↔ formFiles form ≠ [] ∧
      ∀ key, key ∉ interceptedFields → ∀ item ∈ getlist form key, ∃ text, item = .text text) ∧
    (∀ options, Posted form options → Forwarded form options) ∧
    (∀ formats, Recorded form formats →
      if getlist form "to_formats".toList = [] then formats = ["md".toList]
      else formats.map FormItem.text = getlist form "to_formats".toList) ∧
    ∀ other options options', (∀ key, getlist form key = getlist other key) →
      Posted form options → Posted other options' →
      ∀ key, options.get? key = options'.get? key := by
  refine ⟨?_, ?_, ?_, ?_⟩
  · simp only [posted_iff, exists_and_left, jsonOptions_iff]
  · intro options posted
    exact jsonOptions_forwarded ((posted_iff form options).mp posted).2
  · rintro formats ⟨key, record, ttlSeconds, submitting, rfl⟩
    obtain ⟨options, sent, same⟩ := submitting_options submitting (by
      intro _ _ _ same
      cases same)
    rw [show record.toFormats = toFormats options from same]
    exact toFormats_forwarded sent
  · intro other options options' same posted posted'
    exact options_of_values ((posted_iff form options).mp posted).2
      ((posted_iff other options').mp posted').2 same

end DoclingServeRay.Facade
