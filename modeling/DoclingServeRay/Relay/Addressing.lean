import DoclingServeRay.Lib.PercentEncoding
import DoclingServeRay.Lib.EventMachine
import DoclingServeRay.Orchestration.Activities
import DoclingServeRay.Relay.Callback
import Mathlib.Data.List.TakeWhile

/-! Which workflow a callback reaches: the URL that `callback_specs` builds, the
value that the relay's route binds when it is posted to, and the id under which
`start_conversion` starts a document's workflow (`dispatch.py`). -/
namespace DoclingServeRay.Relay
open Strings EventMachine
open PercentEncoding (Escaped decode hexValue? encode_escaped encode_append)
open Orchestration (Settings ConvertInput callbackSpecs callbackTokenHeader stripSlashes quote
  isUnreserved workflowIdForConvert)

/-! ### URLs -/

/-- What ends the authority of a URL. -/
def delimiters : List Char := ['/', '?', '#']

/-- A callback base URL without trailing slashes: `scheme://host[:port]`. -/
structure Origin where
  scheme : Text
  host : Text
  port : Option Nat
  schemed : ':' ∉ scheme
  named : host ≠ []
  hosted : ∀ char ∈ host, char ∉ delimiters

def Origin.authority (origin : Origin) : Text :=
  origin.host ++ match origin.port with
    | some port => ':' :: Nat.toDigits 10 port
    | none => []

def Origin.url (origin : Origin) : Text := origin.scheme ++ "://".toList ++ origin.authority

/-- The path that a client requests: what follows the authority, up to a query
or a fragment. -/
def requestPath (url : Text) : Text :=
  (((url.dropWhile (· ≠ ':')).drop 3).dropWhile (· ∉ delimiters)).takeWhile fun char =>
    char ≠ '?' && char ≠ '#'

/-- What the route `/v1/callbacks/{workflowID}` binds. The mux looks at the
escaped path, redirects one with empty or dot segments, and unescapes the
segment that it binds. -/
def pathValue (path : Text) : Option Text :=
  match path.splitOn '/' with
  | [[], version, callbacks, segment] =>
    if version = "v1".toList ∧ callbacks = "callbacks".toList ∧
        segment ∉ [[], ".".toList, "..".toList] then decode segment
    else none
  | _ => none

/-- A POST to this URL, as the handler gets it. -/
def arrived (url : Text) (headers : OrderedDict Text Text) (body : β) : Option (Request β) :=
  (pathValue (requestPath url)).map fun workflowId => ⟨workflowId, headers, body⟩

/-- One path segment of unreserved characters and escapes, and no dot segment. -/
structure IsSegment (segment : Text) : Prop where
  escaped : Escaped isUnreserved segment
  single : ∀ char ∈ segment, char ∉ delimiters
  proper : segment ∉ [[], ".".toList, "..".toList]

section Origins

variable (origin : Origin)

theorem authority_clear : ∀ char ∈ origin.authority, char ∉ delimiters := by
  intro char member
  rcases List.mem_append.mp member with host | port
  · exact origin.hosted char host
  · cases ported : origin.port with
    | none =>
      rw [ported] at port
      cases port
    | some number =>
      rw [ported] at port
      rcases List.mem_cons.mp port with rfl | digit
      · decide
      · have decimal := Nat.isDigit_of_mem_toDigits (by decide) (by decide) digit
        intro delimits
        simp only [delimiters, List.mem_cons, List.not_mem_nil, or_false] at delimits
        rcases delimits with rfl | rfl | rfl <;> cases decimal

theorem authority_ne_nil : origin.authority ≠ [] := by
  simp [Origin.authority, origin.named]

/-- `rstrip` takes off the trailing slashes and nothing more. -/
theorem stripSlashes_url (slashes : Nat) :
    stripSlashes (origin.url ++ List.replicate slashes '/') = origin.url := by
  obtain ⟨start, last, shape⟩ := List.eq_nil_or_concat origin.authority |>.resolve_left
    (authority_ne_nil origin)
  rw [List.concat_eq_append] at shape
  have solid : last ≠ '/' := by
    rintro rfl
    exact authority_clear origin '/' (by simp [shape]) (by decide)
  have trailing : ∀ rest : Text, (List.replicate slashes '/' ++ rest).dropWhile (· = '/') =
      rest.dropWhile (· = '/') := by
    intro rest
    induction slashes with
    | zero => rfl
    | succ slashes ih => simp [List.replicate_succ, ih]
  have reversed : (origin.url).reverse =
      last :: (origin.scheme ++ "://".toList ++ start).reverse := by
    simp [Origin.url, shape]
  rw [stripSlashes, List.reverse_append, List.reverse_replicate, trailing, reversed,
    List.dropWhile_cons_of_neg (by simpa using solid), ← reversed, List.reverse_reverse]

theorem requestPath_url (path : Text) (clear : ∀ char ∈ path, char ≠ '?' ∧ char ≠ '#') :
    requestPath (origin.url ++ '/' :: path) = '/' :: path := by
  have scheme : (origin.url ++ '/' :: path).dropWhile (· ≠ ':') =
      "://".toList ++ (origin.authority ++ '/' :: path) := by
    have passed : ∀ char ∈ origin.scheme, decide (char ≠ ':') = true := by
      intro char member
      simpa using fun same : char = ':' => origin.schemed (same ▸ member)
    rw [Origin.url, List.append_assoc, List.append_assoc, List.dropWhile_append_of_pos passed]
    rfl
  have authority : (origin.authority ++ '/' :: path).dropWhile (· ∉ delimiters) =
      '/' :: path := by
    have passed : ∀ char ∈ origin.authority, decide (char ∉ delimiters) = true := by
      intro char member
      simpa using authority_clear origin char member
    rw [List.dropWhile_append_of_pos passed]
    rfl
  have whole : ('/' :: path).takeWhile (fun char => char ≠ '?' && char ≠ '#') = '/' :: path := by
    rw [List.takeWhile_eq_self_iff]
    intro char member
    rcases List.mem_cons.mp member with rfl | later
    · rfl
    · simpa using clear char later
  rw [requestPath, scheme]
  change ((origin.authority ++ '/' :: path).dropWhile (· ∉ delimiters)).takeWhile _ = _
  rw [authority, whole]

end Origins

theorem pathValue_segment (segment : IsSegment text) :
    pathValue ("/v1/callbacks/".toList ++ text) = decode text := by
  have split : ("/v1/callbacks/".toList ++ text).splitOn '/' =
      [[], "v1".toList, "callbacks".toList, text] := by
    have joined : "/v1/callbacks/".toList ++ text =
        ['/'].intercalate [[], "v1".toList, "callbacks".toList, text] := by
      simp [List.intercalate]
    rw [joined, List.splitOn_intercalate]
    · intro part member
      simp only [List.mem_cons, List.not_mem_nil, or_false] at member
      rcases member with rfl | rfl | rfl | rfl
      · decide
      · decide
      · decide
      · exact fun held => segment.single '/' held (by decide)
    · simp
  rw [pathValue, split]
  exact if_pos ⟨rfl, rfl, segment.proper⟩

/-! ### Escaped workflow ids -/

theorem hexDigit_reads : ∀ value < 16,
    hexValue? (Orchestration.hexDigit value) = some value := by decide

theorem quote_eq (text : Text) :
    quote text = PercentEncoding.encode Orchestration.hexDigit isUnreserved text := rfl

theorem decode_quote (text : Text) : decode (quote text) = some text :=
  PercentEncoding.decode_encode hexDigit_reads rfl text

theorem quote_workflowId (bucket key : Text) :
    quote (workflowIdForConvert bucket key) =
      "convert%3A".toList ++ quote (bucket ++ '/' :: key) := by
  have scheme : quote "convert:".toList = "convert%3A".toList := by decide +kernel
  unfold workflowIdForConvert
  rw [List.append_assoc, quote_eq, encode_append, ← quote_eq, scheme, ← quote_eq]

theorem quote_segment (bucket key : Text) : IsSegment (quote (workflowIdForConvert bucket key)) := by
  have escaped : Escaped isUnreserved (quote (workflowIdForConvert bucket key)) :=
    encode_escaped hexDigit_reads _
  refine ⟨escaped, ?_, ?_⟩
  · intro char member delimits
    simp only [delimiters, List.mem_cons, List.not_mem_nil, or_false] at delimits
    have written := escaped.mem member
    rcases delimits with rfl | rfl | rfl <;> revert written <;> decide
  · rw [quote_workflowId]
    simp

theorem workflowId_injective (clear : '/' ∉ bucket) (clear' : '/' ∉ bucket')
    (same : workflowIdForConvert bucket key = workflowIdForConvert bucket' key') :
    bucket = bucket' ∧ key = key' := by
  unfold workflowIdForConvert at same
  rw [List.append_assoc, List.append_assoc] at same
  have documents := List.append_cancel_left same
  exact append_separator_inj clear clear' documents

/-! ### Callbacks -/

/-- The one spec of a document's callback. -/
theorem callbackSpecs_url (origin : Origin) (slashes : Nat) (settings : Settings)
    (configured : settings.callbackBaseUrl = some (origin.url ++ List.replicate slashes '/'))
    (bucket key : Text) :
    callbackSpecs settings (some (workflowIdForConvert bucket key)) = [{
      url := origin.url ++ "/v1/callbacks/".toList ++ quote (workflowIdForConvert bucket key)
      headers := OrderedDict.empty.set callbackTokenHeader settings.callbackToken }] := by
  have based : origin.url ++ List.replicate slashes '/' ≠ [] := by
    simp [Origin.url]
  have named : workflowIdForConvert bucket key ≠ [] :=
    List.append_ne_nil_of_right_ne_nil _ (List.cons_ne_nil _ _)
  simp only [callbackSpecs, configured, based, named, or_self, ↓reduceIte, stripSlashes_url]

/-- Documents in S3 buckets, whose names have no slash, have ids and URLs of
their own. -/
theorem callbackSpecs_distinct (origin : Origin) (slashes : Nat) (settings : Settings)
    (configured : settings.callbackBaseUrl = some (origin.url ++ List.replicate slashes '/'))
    (clear : '/' ∉ bucket) (clear' : '/' ∉ bucket') (other : (bucket, key) ≠ (bucket', key')) :
    workflowIdForConvert bucket key ≠ workflowIdForConvert bucket' key' ∧
      ∀ spec ∈ callbackSpecs settings (some (workflowIdForConvert bucket key)),
        ∀ spec' ∈ callbackSpecs settings (some (workflowIdForConvert bucket' key')),
          spec.url ≠ spec'.url := by
  have distinct : workflowIdForConvert bucket key ≠ workflowIdForConvert bucket' key' := by
    intro same
    obtain ⟨rfl, rfl⟩ := workflowId_injective clear clear' same
    exact other rfl
  refine ⟨distinct, ?_⟩
  rw [callbackSpecs_url origin slashes settings configured,
    callbackSpecs_url origin slashes settings configured]
  intro spec member spec' member' same
  rw [List.mem_singleton.mp member, List.mem_singleton.mp member'] at same
  have segments := List.append_cancel_left same
  exact distinct (PercentEncoding.encode_injective hexDigit_reads rfl segments)

/-- The relay binds exactly the workflow's id. -/
theorem pathValue_callback (origin : Origin) (bucket key : Text) :
    pathValue (requestPath (origin.url ++ "/v1/callbacks/".toList ++
      quote (workflowIdForConvert bucket key))) = some (workflowIdForConvert bucket key) := by
  have segment := quote_segment bucket key
  have path : "/v1/callbacks/".toList ++ quote (workflowIdForConvert bucket key) =
      '/' :: ("v1/callbacks/".toList ++ quote (workflowIdForConvert bucket key)) := rfl
  have clear : ∀ char ∈ "v1/callbacks/".toList ++ quote (workflowIdForConvert bucket key),
      char ≠ '?' ∧ char ≠ '#' := by
    intro char member
    rcases List.mem_append.mp member with literal | escaped
    · have table : ("v1/callbacks/".toList.all fun char => decide (char ≠ '?' ∧ char ≠ '#')) =
          true := by decide
      exact of_decide_eq_true (List.all_eq_true.mp table char literal)
    · have other := segment.single char escaped
      simp only [delimiters, List.mem_cons, List.not_mem_nil, or_false, not_or] at other
      exact other.2
  rw [List.append_assoc, path, requestPath_url origin _ clear, ← path, pathValue_segment segment,
    decode_quote]

/-- Every signal goes to the workflow of the request. -/
theorem callback_workflowId {signal : SignalCall → Option SignalError} {request : Request β}
    (member : call ∈ (callback token decoder signal request).2) :
    call.workflowId = request.workflowId := by
  unfold callback at member
  split at member
  · cases member
  · split at member
    · cases member
    · rename_i received _
      split at member
      · cases member
      · split at member
        · cases member
        · dsimp only at member
          split at member <;>
          · rw [List.mem_singleton.mp member]

/-- A callback posted to a document's URL signals that document's workflow
and no other one. -/
theorem callback_reaches (origin : Origin) (slashes : Nat) (settings : Settings)
    (configured : settings.callbackBaseUrl = some (origin.url ++ List.replicate slashes '/'))
    (clear : '/' ∉ bucket)
    (member : spec ∈ callbackSpecs settings (some (workflowIdForConvert bucket key)))
    (headers : OrderedDict Text Text) (body : β) :
    ∃ request, arrived spec.url headers body = some request ∧
      ∀ token decoder signal, ∀ call ∈ (callback token decoder signal request).2,
        ∀ bucket' key', '/' ∉ bucket' →
          (call.workflowId = workflowIdForConvert bucket' key' ↔ bucket = bucket' ∧ key = key') := by
  rw [callbackSpecs_url origin slashes settings configured] at member
  rw [List.mem_singleton.mp member]
  refine ⟨⟨workflowIdForConvert bucket key, headers, body⟩, ?_, ?_⟩
  · rw [arrived, pathValue_callback, Option.map_some]
  · intro token decoder signal call signalled bucket' key' clear'
    rw [callback_workflowId signalled]
    constructor
    · exact workflowId_injective clear clear'
    · rintro ⟨rfl, rfl⟩
      rfl

/-! ### Starting conversions -/

/-- `start_conversion`: Temporal rejects the id of a run that has not closed
(`WorkflowAlreadyStartedError`). -/
def startConversion (running : OrderedDict Text ConvertInput) (inp : ConvertInput) :
    Option (OrderedDict Text ConvertInput) :=
  let workflowId := workflowIdForConvert inp.bucket inp.key
  if workflowId ∈ running.keys then none else some (running.set workflowId inp)

inductive ConversionEvent where
  | starts (inp : ConvertInput)
  | closes (workflowId : Text)

/-- The runs that are open, by their id. A rejected start changes nothing. -/
def conversions : Machine (OrderedDict Text ConvertInput) ConversionEvent where
  start := .empty
  step running
    | .starts inp => some ((startConversion running inp).getD running)
    | .closes workflowId => some (running.filterKeys fun other => other ≠ workflowId)

/-- A run is open under its own document's id, and was started. -/
theorem conversions_named (ran : conversions.run events = some running)
    (held : running.get? workflowId = some inp) :
    workflowId = workflowIdForConvert inp.bucket inp.key ∧ .starts inp ∈ events := by
  revert workflowId inp
  refine Machine.run_induction (P := fun events (running : OrderedDict Text ConvertInput) =>
    ∀ {workflowId inp}, running.get? workflowId = some inp →
      workflowId = workflowIdForConvert inp.bucket inp.key ∧ .starts inp ∈ events) ?_ ?_ ran
  · intro workflowId inp held
    cases held
  · intro events running event next _ named stepped workflowId inp held
    cases event with
    | closes closed =>
      cases stepped
      rw [OrderedDict.get?_filterKeys] at held
      split at held
      · obtain ⟨same, started⟩ := named held
        exact ⟨same, List.mem_append_left _ started⟩
      · cases held
    | starts other =>
      cases stepped
      by_cases taken : workflowIdForConvert other.bucket other.key ∈ running.keys
      · rw [startConversion, if_pos taken] at held
        obtain ⟨same, started⟩ := named held
        exact ⟨same, List.mem_append_left _ started⟩
      · rw [startConversion, if_neg taken] at held
        rw [Option.getD_some, OrderedDict.get?_set] at held
        split at held
        · rename_i same
          cases held
          exact ⟨same, List.mem_append_right _ (List.mem_singleton_self _)⟩
        · obtain ⟨same, started⟩ := named held
          exact ⟨same, List.mem_append_left _ started⟩

theorem startConversion_conflicts (ran : conversions.run events = some running)
    (buckets : ∀ other, .starts other ∈ events → '/' ∉ other.bucket) (clear : '/' ∉ inp.bucket) :
    startConversion running inp = none ↔ ∃ workflowId other,
      running.get? workflowId = some other ∧ other.bucket = inp.bucket ∧ other.key = inp.key := by
  have rejects : startConversion running inp = none ↔
      workflowIdForConvert inp.bucket inp.key ∈ running.keys := by
    unfold startConversion
    dsimp only
    split
    · rename_i taken
      exact ⟨fun _ => taken, fun _ => rfl⟩
    · rename_i free
      exact ⟨nofun, fun taken => absurd taken free⟩
  rw [rejects, OrderedDict.mem_keys_iff]
  constructor
  · rintro ⟨other, held⟩
    obtain ⟨named, started⟩ := conversions_named ran held
    obtain ⟨bucket, key⟩ := workflowId_injective clear (buckets other started) named
    exact ⟨_, other, held, bucket.symm, key.symm⟩
  · rintro ⟨workflowId, other, held, bucket, key⟩
    obtain ⟨rfl, _⟩ := conversions_named ran held
    rw [bucket, key] at held
    exact ⟨other, held⟩

/-! ### One document, one workflow -/

/-- A callback URL is the base and one escaped segment that decodes to the
workflow's id. Distinct documents have distinct ids and URLs, so that a callback
reaches the workflow that asked for it, and a start conflicts only with a run of
the same document. -/
theorem callback_url_addresses (origin : Origin) (slashes : Nat) (settings : Settings)
    (configured : settings.callbackBaseUrl = some (origin.url ++ List.replicate slashes '/')) :
    (∀ bucket key, ∃ segment headers,
      callbackSpecs settings (some (workflowIdForConvert bucket key)) =
        [⟨origin.url ++ "/v1/callbacks/".toList ++ segment, headers⟩] ∧
      IsSegment segment ∧ decode segment = some (workflowIdForConvert bucket key)) ∧
    (∀ bucket key bucket' key', '/' ∉ bucket → '/' ∉ bucket' → (bucket, key) ≠ (bucket', key') →
      workflowIdForConvert bucket key ≠ workflowIdForConvert bucket' key' ∧
      ∀ spec ∈ callbackSpecs settings (some (workflowIdForConvert bucket key)),
        ∀ spec' ∈ callbackSpecs settings (some (workflowIdForConvert bucket' key')),
          spec.url ≠ spec'.url) ∧
    (∀ bucket key, '/' ∉ bucket →
      ∀ spec ∈ callbackSpecs settings (some (workflowIdForConvert bucket key)),
        ∀ headers (body : β), ∃ request, arrived spec.url headers body = some request ∧
          ∀ token decoder signal, ∀ call ∈ (callback token decoder signal request).2,
            ∀ bucket' key', '/' ∉ bucket' →
              (call.workflowId = workflowIdForConvert bucket' key' ↔
                bucket = bucket' ∧ key = key')) ∧
    ∀ events running, conversions.run events = some running →
      (∀ other, .starts other ∈ events → '/' ∉ other.bucket) → ∀ inp, '/' ∉ inp.bucket →
        (startConversion running inp = none ↔ ∃ workflowId other,
          running.get? workflowId = some other ∧
            other.bucket = inp.bucket ∧ other.key = inp.key) := by
  refine ⟨?_, ?_, ?_, ?_⟩
  · intro bucket key
    exact ⟨_, _, callbackSpecs_url origin slashes settings configured bucket key,
      quote_segment bucket key, decode_quote _⟩
  · intro bucket key bucket' key' clear clear' other
    exact callbackSpecs_distinct origin slashes settings configured clear clear' other
  · intro bucket key clear spec member headers body
    exact callback_reaches origin slashes settings configured clear member headers body
  · intro events running ran buckets inp clear
    exact startConversion_conflicts ran buckets clear

/-- `http://relay:8080`. -/
def relayOrigin : Origin where
  scheme := "http".toList
  host := "relay".toList
  port := some 8080
  schemed := by decide
  named := by decide
  hosted := by
    have table : ("relay".toList.all fun char => decide (char ∉ delimiters)) = true := by decide
    intro char member
    exact of_decide_eq_true (List.all_eq_true.mp table char member)

theorem callback_url_addresses_relay :
    ∃ segment headers, callbackSpecs
        { callbackBaseUrl := some (relayOrigin.url ++ List.replicate 2 '/') }
        (some (workflowIdForConvert "docs".toList "a b/%2F.pdf".toList)) =
          [⟨relayOrigin.url ++ "/v1/callbacks/".toList ++ segment, headers⟩] ∧
      IsSegment segment ∧
      decode segment = some (workflowIdForConvert "docs".toList "a b/%2F.pdf".toList) :=
  (@callback_url_addresses Unit relayOrigin 2
    { callbackBaseUrl := some (relayOrigin.url ++ List.replicate 2 '/') } rfl).1 _ _

end DoclingServeRay.Relay
