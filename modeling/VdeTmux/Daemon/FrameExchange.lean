import VdeTmux.Daemon.Framing
import VdeTmux.Foundation.Json
import VdeTmux.Pane.TaskContextRuns

/-!
# Frames survive the socket

Whatever portions the socket takes and whatever pieces the reader gets, the frames that were
written are the frames that are read; the limits of writers and readers agree, and a connection
that ends inside a frame is an error. A message is read as what its JSON holds of it, and the
private input of a task context is not in the JSON.
-/

open Foundation VdeTmux.Pane
namespace VdeTmux.Daemon

def JsonFormat.OneLine {M : Type} (json : JsonFormat M) : Prop :=
  ∀ message text, json.toVec message = .ok text → newline ∉ text

theorem writeAll_delivered {ε : Type} {closed : ε} {frame : List UInt8} {portions : List ℕ}
    (h : (writeAll closed frame portions).done = true) :
    (writeAll closed frame portions).delivered = frame := by
  induction portions generalizing frame with
  | nil =>
    by_cases hempty : frame = []
    · exact hempty.symm
    · simp only [writeAll, if_neg hempty] at h
      exact Bool.noConfusion h
  | cons portion portions ih =>
    by_cases hempty : frame = []
    · simp only [writeAll, if_pos hempty]
      exact hempty.symm
    by_cases hzero : portion = 0
    · simp only [writeAll, if_neg hempty, if_pos hzero] at h
      exact Bool.noConfusion h
    · simp only [writeAll, if_neg hempty, if_neg hzero] at h ⊢
      rw [ih h, List.take_append_drop]

theorem writeAll_done {ε : Type} {closed : ε} {frame : List UInt8} {portions : List ℕ}
    (hpos : ∀ portion ∈ portions, 0 < portion) (hlength : frame.length ≤ portions.length) :
    (writeAll closed frame portions).done = true := by
  induction portions generalizing frame with
  | nil =>
    have hempty : frame = [] := List.eq_nil_of_length_eq_zero (Nat.le_zero.mp hlength)
    simp only [writeAll, if_pos hempty]
    rfl
  | cons portion portions ih =>
    by_cases hempty : frame = []
    · simp only [writeAll, if_pos hempty]
      rfl
    have hportion := hpos portion List.mem_cons_self
    simp only [writeAll, if_neg hempty, if_neg (Nat.ne_of_gt hportion)]
    refine ih (fun portion hmem => hpos portion (List.mem_cons_of_mem _ hmem)) ?_
    simp only [List.length_drop, List.length_cons] at hlength ⊢
    omega

/-- One message after the other on the same socket, until a writer does not end well. -/
def sendEach {M ε : Type} (write : M → List ℕ → Sent ε) : List M → List ℕ → Sent ε
  | [], portions => ⟨[], portions, some (.ok ())⟩
  | message :: messages, portions =>
    let sent := write message portions
    if sent.done then
      let later := sendEach write messages sent.portions
      { later with delivered := sent.delivered ++ later.delivered }
    else sent

theorem sendEach_delivered {M ε : Type} {write : M → List ℕ → Sent ε}
    {text : M → List UInt8} {messages : List M} {portions : List ℕ}
    (hwrite : ∀ message portions, (write message portions).done = true →
      (write message portions).delivered = text message ++ [newline])
    (h : (sendEach write messages portions).done = true) :
    (sendEach write messages portions).delivered = framed newline (messages.map text) := by
  induction messages generalizing portions with
  | nil => rfl
  | cons message messages ih =>
    simp only [sendEach] at h ⊢
    split_ifs at h ⊢ with hdone
    · have hsent : (write message portions).done = true := by
        revert hdone
        cases (write message portions).outcome with
        | none => simp
        | some result => cases result <;> simp
      simp only [ih h, hwrite message portions hsent, framed, List.map_cons, List.flatMap_cons]
    · exact absurd h (by simpa using hdone)

/-- The JSON of a message, as far as it can be serialized. -/
def JsonFormat.text {M : Type} (json : JsonFormat M) (message : M) : List UInt8 :=
  match json.toVec message with
  | .ok text => text
  | .error _ => []

def JsonFormat.decoded {M : Type} (json : JsonFormat M) (message : M) : Except String M :=
  json.fromSlice (json.text message ++ [newline])

section
variable {M : Type} {json : JsonFormat M} {message : M} {portions : List ℕ}

theorem writeClientMessage_eq {text : List UInt8} (h : json.toVec message = .ok text) :
    writeClientMessage json message portions =
      if maxRequestFrameBytes < text.length then
        ⟨[], portions, some (.error "request frame exceeds 1 MiB")⟩
      else
        writeAll "daemon closed the connection while reading the request" (text ++ [newline])
          portions := by
  simp only [writeClientMessage, h]

theorem encodeResponseFrame_eq {text : List UInt8} (h : json.toVec message = .ok text) :
    encodeResponseFrame json message =
      if maxResponseFrameBytes < text.length then
        .error ⟨.frameTooLarge, "response frame exceeds 16 MiB"⟩
      else .ok (text ++ [newline]) := by
  simp only [encodeResponseFrame, h]

theorem JsonFormat.text_eq {text : List UInt8} (h : json.toVec message = .ok text) :
    json.text message = text := by
  simp only [JsonFormat.text, h]

theorem writeClientMessage_done (h : (writeClientMessage json message portions).done = true) :
    (writeClientMessage json message portions).delivered = json.text message ++ [newline] ∧
      json.toVec message = .ok (json.text message) ∧
      (json.text message).length ≤ maxRequestFrameBytes := by
  cases htext : json.toVec message with
  | error error =>
    simp only [writeClientMessage, htext] at h
    exact Bool.noConfusion h
  | ok text =>
    rw [writeClientMessage_eq htext, JsonFormat.text_eq htext] at *
    by_cases hlarge : maxRequestFrameBytes < text.length
    · rw [if_pos hlarge] at h
      exact Bool.noConfusion h
    · rw [if_neg hlarge] at h ⊢
      exact ⟨writeAll_delivered h, rfl, Nat.not_lt.mp hlarge⟩

end

/-- The server's way to answer: encode the response, then write its frame. -/
def writeEncoded {M : Type} (json : JsonFormat M) (message : M) (portions : List ℕ) :
    Sent FrameError :=
  match encodeResponseFrame json message with
  | .ok frame => writeV2Frame frame portions
  | .error error => ⟨[], portions, some (.error error)⟩

theorem writeEncoded_done {M : Type} {json : JsonFormat M} {message : M} {portions : List ℕ}
    (h : (writeEncoded json message portions).done = true) :
    (writeEncoded json message portions).delivered = json.text message ++ [newline] ∧
      json.toVec message = .ok (json.text message) ∧
      (json.text message).length ≤ maxResponseFrameBytes := by
  cases htext : json.toVec message with
  | error error =>
    simp only [writeEncoded, encodeResponseFrame, htext] at h
    exact Bool.noConfusion h
  | ok text =>
    unfold writeEncoded at h ⊢
    rw [encodeResponseFrame_eq htext] at h ⊢
    rw [JsonFormat.text_eq htext]
    by_cases hlarge : maxResponseFrameBytes < text.length
    · rw [if_pos hlarge] at h
      exact Bool.noConfusion h
    · rw [if_neg hlarge] at h ⊢
      exact ⟨writeAll_delivered h, rfl, Nat.not_lt.mp hlarge⟩

theorem sendEach_done {M ε : Type} {write : M → List ℕ → Sent ε} {messages : List M}
    {portions : List ℕ} (h : (sendEach write messages portions).done = true) :
    ∀ message ∈ messages, ∃ portions, (write message portions).done = true := by
  induction messages generalizing portions with
  | nil => simp
  | cons message messages ih =>
    simp only [sendEach] at h
    split_ifs at h with hdone
    · intro other hother
      rcases List.mem_cons.mp hother with rfl | hother
      · exact ⟨portions, hdone⟩
      · exact ih h other hother
    · exact absurd h hdone

theorem readV2RequestFrame_frame {reader : Buffered UInt8} {body rest : List UInt8}
    (hbody : newline ∉ body) (h : reader.content = body ++ newline :: rest) :
    (readV2RequestFrame reader).1 =
        (if body.length ≤ maxRequestFrameBytes then .ok body
        else .error ⟨.frameTooLarge, "request frame exceeds 1 MiB"⟩) ∧
      (body.length ≤ maxRequestFrameBytes → (readV2RequestFrame reader).2.content = rest) := by
  obtain ⟨hfits, hlarge⟩ := readRequestFrom_frame [] reader hbody h
  simp only [List.length_nil, Nat.zero_add, List.nil_append] at hfits hlarge
  refine ⟨?_, fun hle => (hfits hle).2⟩
  by_cases hle : body.length ≤ maxRequestFrameBytes
  · rw [if_pos hle]
    exact (hfits hle).1
  · rw [if_neg hle]
    exact hlarge (Nat.not_le.mp hle)

theorem readServerMessageStreamed_frame {M : Type} (json : JsonFormat M)
    {reader : Buffered UInt8} {body rest : List UInt8}
    (hbody : newline ∉ body) (h : reader.content = body ++ newline :: rest) :
    (readServerMessageStreamed json reader).1 =
        (if body.length ≤ maxResponseFrameBytes then
          (json.fromSlice (body ++ [newline])).map some
        else .error "daemon response exceeds 16 MiB") ∧
      (body.length ≤ maxResponseFrameBytes →
        (readServerMessageStreamed json reader).2.content = rest) := by
  obtain ⟨hfits, hlarge⟩ := readLineFrom_frame [] reader hbody h
  simp only [List.length_nil, Nat.zero_add, List.nil_append] at hfits hlarge
  by_cases hle : body.length ≤ maxResponseFrameBytes
  · obtain ⟨hline, hrest⟩ := hfits hle
    simp only [readServerMessageStreamed, hline, if_pos hle]
    exact ⟨trivial, fun _ => hrest⟩
  · simp only [readServerMessageStreamed, hlarge (Nat.not_le.mp hle), if_neg hle]
    exact ⟨trivial, fun hle' => absurd hle' hle⟩

/-- The frames of both directions survive the socket, the limits agree, and a connection that
ends inside a frame is an error. -/
structure FramesSurvive {C S : Type} (client : JsonFormat C) (server : JsonFormat S) : Prop where
  /-- What clients wrote is what successive calls read, and what follows stays. -/
  requests : ∀ messages portions reader tail,
    (sendEach (writeClientMessage client) messages portions).done = true →
    reader.content = (sendEach (writeClientMessage client) messages portions).delivered ++ tail →
    (readTimes readV2RequestFrame messages.length reader).1 =
        messages.map (fun message => .ok (client.text message)) ∧
      (readTimes readV2RequestFrame messages.length reader).2.content = tail
  responses : ∀ messages portions reader tail,
    (sendEach (writeEncoded server) messages portions).done = true →
    reader.content = (sendEach (writeEncoded server) messages portions).delivered ++ tail →
    (readTimes (readServerMessageStreamed server) messages.length reader).1 =
        messages.map (fun message => (server.decoded message).map some) ∧
      (readTimes (readServerMessageStreamed server) messages.length reader).2.content = tail
  /-- Messages that are all in their JSON come back themselves. -/
  messages : ∀ messages portions reader tail,
    (∀ message ∈ messages, server.decoded message = .ok message) →
    (sendEach (writeEncoded server) messages portions).done = true →
    reader.content = (sendEach (writeEncoded server) messages portions).delivered ++ tail →
    (readTimes (readServerMessageStreamed server) messages.length reader).1 =
      messages.map fun message => .ok (some message)
  /-- A message of at most the limit is written whole by a socket that keeps taking bytes. -/
  requestWritten : ∀ message text portions, client.toVec message = .ok text →
    text.length ≤ maxRequestFrameBytes → (∀ portion ∈ portions, 0 < portion) →
    text.length < portions.length → (writeClientMessage client message portions).done = true
  requestRefused : ∀ message text portions, client.toVec message = .ok text →
    maxRequestFrameBytes < text.length → writeClientMessage client message portions =
      ⟨[], portions, some (.error "request frame exceeds 1 MiB")⟩
  requestRead : ∀ body rest reader, newline ∉ body → reader.content = body ++ newline :: rest →
    (readV2RequestFrame reader).1 =
      if body.length ≤ maxRequestFrameBytes then .ok body
      else .error ⟨.frameTooLarge, "request frame exceeds 1 MiB"⟩
  requestDecoded : ∀ body, decodeRequestFrame client body =
      .error ⟨.frameTooLarge, "request frame exceeds 1 MiB"⟩ ↔ maxRequestFrameBytes < body.length
  responseWritten : ∀ message text portions, server.toVec message = .ok text →
    text.length ≤ maxResponseFrameBytes → (∀ portion ∈ portions, 0 < portion) →
    text.length < portions.length → (writeEncoded server message portions).done = true
  responseRefused : ∀ message text, server.toVec message = .ok text →
    maxResponseFrameBytes < text.length → encodeResponseFrame server message =
      .error ⟨.frameTooLarge, "response frame exceeds 16 MiB"⟩
  responseRead : ∀ body rest reader, newline ∉ body → reader.content = body ++ newline :: rest →
    (readServerMessageStreamed server reader).1 =
      if body.length ≤ maxResponseFrameBytes then
        (server.fromSlice (body ++ [newline])).map some
      else .error "daemon response exceeds 16 MiB"
  requestCut : ∀ reader : Buffered UInt8, newline ∉ reader.content →
    ∃ e, (readV2RequestFrame reader).1 = .error e
  responseCut : ∀ reader : Buffered UInt8, newline ∉ reader.content → reader.content ≠ [] →
    ∃ e, (readServerMessageStreamed server reader).1 = .error e
  /-- The end between two responses is an error for the caller that waits for one. -/
  responseEnd : ∀ reader : Buffered UInt8, reader.content = [] →
    (readServerMessageStreamed server reader).1 = .ok none ∧
      (readServerMessage server reader).1 =
        .error "daemon closed the connection before responding"
  /-- In place of a response that is too large its error is written. -/
  responseReplaced : ∀ (ofError : FrameError → S) message text portions,
    server.toVec message = .ok text → maxResponseFrameBytes < text.length →
    writeV2Response server ofError message portions = writeEncoded server
      (ofError ⟨.frameTooLarge, "response frame exceeds 16 MiB"⟩) portions

theorem readLineFrom_end {reader : Buffered UInt8} (h : reader.content = []) :
    (readLineFrom [] reader).1 = .ok none := by
  rw [readLineFrom]
  simp only [Buffered.fill_buffer_eq_nil.mpr h, if_true]

theorem decodeRequestFrame_large {M : Type} (json : JsonFormat M) (body : List UInt8) :
    decodeRequestFrame json body = .error ⟨.frameTooLarge, "request frame exceeds 1 MiB"⟩ ↔
      maxRequestFrameBytes < body.length := by
  unfold decodeRequestFrame
  split_ifs with hlarge hproto
  · exact iff_of_true rfl hlarge
  · refine iff_of_false (fun h => ?_) hlarge
    simp at h
  · refine iff_of_false (fun h => ?_) hlarge
    obtain ⟨error, -, herror⟩ := mapError_eq_error.mp h
    simp at herror

theorem requests_survive {M : Type} {json : JsonFormat M} (hline : json.OneLine)
    {messages : List M} {portions : List ℕ} {reader : Buffered UInt8} {tail : List UInt8}
    (hsent : (sendEach (writeClientMessage json) messages portions).done = true)
    (h : reader.content = (sendEach (writeClientMessage json) messages portions).delivered ++ tail) :
    (readTimes readV2RequestFrame messages.length reader).1 =
        messages.map (fun message => .ok (json.text message)) ∧
      (readTimes readV2RequestFrame messages.length reader).2.content = tail := by
  have hdelivered : (sendEach (writeClientMessage json) messages portions).delivered =
      framed newline (messages.map json.text) :=
    sendEach_delivered (fun _ _ hdone => (writeClientMessage_done hdone).1) hsent
  rw [hdelivered] at h
  have hread : ∀ body ∈ messages.map json.text, ∀ rest r, r.content = body ++ newline :: rest →
      (readV2RequestFrame r).1 = .ok body ∧ (readV2RequestFrame r).2.content = rest := by
    intro body hbody rest r hcontent
    obtain ⟨message, hmessage, rfl⟩ := List.mem_map.mp hbody
    obtain ⟨_, hdone⟩ := sendEach_done hsent message hmessage
    obtain ⟨-, htext, hfits⟩ := writeClientMessage_done hdone
    obtain ⟨hresult, hrest⟩ := readV2RequestFrame_frame (hline message _ htext) hcontent
    rw [if_pos hfits] at hresult
    exact ⟨hresult, hrest hfits⟩
  obtain ⟨hresults, htail⟩ := readTimes_framed hread h
  rw [List.length_map] at hresults htail
  rw [List.map_map] at hresults
  exact ⟨hresults, htail⟩

theorem responses_survive {M : Type} {json : JsonFormat M} (hline : json.OneLine)
    {messages : List M} {portions : List ℕ} {reader : Buffered UInt8} {tail : List UInt8}
    (hsent : (sendEach (writeEncoded json) messages portions).done = true)
    (h : reader.content = (sendEach (writeEncoded json) messages portions).delivered ++ tail) :
    (readTimes (readServerMessageStreamed json) messages.length reader).1 =
        messages.map (fun message => (json.decoded message).map some) ∧
      (readTimes (readServerMessageStreamed json) messages.length reader).2.content = tail := by
  have hdelivered : (sendEach (writeEncoded json) messages portions).delivered =
      framed newline (messages.map json.text) :=
    sendEach_delivered (fun _ _ hdone => (writeEncoded_done hdone).1) hsent
  rw [hdelivered] at h
  have hread : ∀ body ∈ messages.map json.text, ∀ rest r, r.content = body ++ newline :: rest →
      (readServerMessageStreamed json r).1 = (json.fromSlice (body ++ [newline])).map some ∧
        (readServerMessageStreamed json r).2.content = rest := by
    intro body hbody rest r hcontent
    obtain ⟨message, hmessage, rfl⟩ := List.mem_map.mp hbody
    obtain ⟨_, hdone⟩ := sendEach_done hsent message hmessage
    obtain ⟨-, htext, hfits⟩ := writeEncoded_done hdone
    obtain ⟨hresult, hrest⟩ := readServerMessageStreamed_frame json (hline message _ htext) hcontent
    rw [if_pos hfits] at hresult
    exact ⟨hresult, hrest hfits⟩
  obtain ⟨hresults, htail⟩ := readTimes_framed hread h
  rw [List.length_map] at hresults htail
  refine ⟨hresults.trans ?_, htail⟩
  rw [List.map_map]
  rfl

/-- Messages whose JSON is one line survive as what their JSON holds of them. -/
theorem frames_survive {C S : Type} {client : JsonFormat C} {server : JsonFormat S}
    (hclient : client.OneLine) (hserver : server.OneLine) : FramesSurvive client server where
  requests _ _ _ _ hsent h := requests_survive hclient hsent h
  responses _ _ _ _ hsent h := responses_survive hserver hsent h
  messages messages _ _ _ hread hsent h := by
    rw [(responses_survive hserver hsent h).1]
    refine List.map_congr_left fun message hmessage => ?_
    rw [hread message hmessage]
    rfl
  requestWritten message text portions htext hfits hpos hlength := by
    rw [writeClientMessage_eq htext, if_neg (Nat.not_lt.mpr hfits)]
    refine writeAll_done hpos ?_
    rw [List.length_append, List.length_singleton]
    exact hlength
  requestRefused message text portions htext hlarge := by
    rw [writeClientMessage_eq htext, if_pos hlarge]
  requestRead body rest reader hbody h := (readV2RequestFrame_frame hbody h).1
  requestDecoded := decodeRequestFrame_large client
  responseWritten message text portions htext hfits hpos hlength := by
    simp only [writeEncoded, encodeResponseFrame_eq htext, if_neg (Nat.not_lt.mpr hfits)]
    refine writeAll_done hpos ?_
    rw [List.length_append, List.length_singleton]
    exact hlength
  responseRefused message text htext hlarge := by
    rw [encodeResponseFrame_eq htext, if_pos hlarge]
  responseRead body rest reader hbody h := (readServerMessageStreamed_frame server hbody h).1
  requestCut reader hopen := by
    rw [readV2RequestFrame, readRequestFrom_open [] reader hopen]
    split_ifs
    · exact ⟨_, rfl⟩
    · exact ⟨_, rfl⟩
  responseCut reader hopen hsome := by
    obtain ⟨e, he⟩ := readLineFrom_open [] reader hopen (Or.inr hsome)
    simp only [readServerMessageStreamed, he]
    exact ⟨e, rfl⟩
  responseEnd reader h := by
    simp only [readServerMessage, readServerMessageStreamed, readLineFrom_end h]
    exact ⟨trivial, trivial⟩
  responseReplaced ofError message text portions htext hlarge := by
    cases hreplaced : encodeResponseFrame server
        (ofError ⟨.frameTooLarge, "response frame exceeds 16 MiB"⟩) with
    | error error =>
      simp only [writeV2Response, encodeResponseFrame_eq htext, if_pos hlarge, if_true,
        writeEncoded, hreplaced]
    | ok frame =>
      simp only [writeV2Response, encodeResponseFrame_eq htext, if_pos hlarge, if_true,
        writeEncoded, hreplaced]

def jsonObject (fields : List (String × String)) : String :=
  "\x7b" ++ ",".intercalate (fields.map fun field => Json.quote field.1 ++ ":" ++ field.2) ++ "\x7d"

def jsonOption : Option String → String
  | some text => text
  | none => "null"

def summaryJson (summary : TaskSummaryState) : String :=
  jsonObject [("text", jsonOption (summary.text.map Json.quote)),
    ("context_fingerprint", Json.quote summary.contextFingerprint),
    ("generated_at", toString summary.generatedAt),
    ("outcome", Json.quote (match summary.outcome with
      | .generated => "generated"
      | .failed => "failed")),
    ("failure_code", jsonOption (summary.failureCode.map Json.quote))]

/-- The fields of a task context that are written; a fingerprint only when there is one. -/
def contextJson (stored : StoredTaskContext) : String :=
  jsonObject ([("recent_prompts", Json.strings stored.recentPrompts),
    ("reference_response", jsonOption (stored.referenceResponse.map Json.quote)),
    ("summary", jsonOption (stored.summary.map summaryJson))] ++
    stored.privateContextFingerprint.toList.map fun fingerprint =>
      ("private_context_fingerprint", Json.quote fingerprint))

def privateContext : TaskContextState where
  privateContextFingerprint := some "27df52832ffc1eab7912ab29cf9e5dd48d7c1f912d71c1685bc0e20392a40f85"
  privateInput := some ⟨["Fix it"], none⟩

/-- A response that is a task context. Of the texts that are read, one is enough here. -/
def contextFormat (known : StoredTaskContext) : JsonFormat TaskContextState where
  toVec context := .ok (utf8 (contextJson context.serialize))
  fromSlice text :=
    if text = utf8 (contextJson known) ++ [newline] then .ok known.deserialize
    else .error "unexpected text"

theorem contextFormat_decoded {known : StoredTaskContext} {context : TaskContextState}
    (h : context.serialize = known) :
    (contextFormat known).decoded context = .ok known.deserialize := by
  subst h
  exact if_pos rfl

theorem readTimes_one {σ β : Type} (read : σ → β × σ) (s : σ) :
    (readTimes read 1 s).1 = [(read s).1] := rfl

def privateFormat : JsonFormat TaskContextState := contextFormat privateContext.serialize

/-- The private input of a response does not come through. -/
theorem responses_without_private_input :
    ¬ ∀ messages portions reader tail,
      (sendEach (writeEncoded privateFormat) messages portions).done = true →
      reader.content = (sendEach (writeEncoded privateFormat) messages portions).delivered ++ tail →
      (readTimes (readServerMessageStreamed privateFormat) messages.length reader).1 =
        messages.map fun message => .ok (some message) := by
  intro h
  have hdone : (sendEach (writeEncoded privateFormat) [privateContext] [1000]).done = true := by
    decide +kernel
  have hline : newline ∉ privateFormat.text privateContext := by decide +kernel
  have hfits : (privateFormat.text privateContext).length ≤ maxResponseFrameBytes := by
    decide +kernel
  have hsent : (sendEach (writeEncoded privateFormat) [privateContext] [1000]).delivered =
      privateFormat.text privateContext ++ [newline] := by decide +kernel
  let reader : Buffered UInt8 := ⟨privateFormat.text privateContext ++ [newline], []⟩
  have hcontent : reader.content = privateFormat.text privateContext ++ newline :: [] :=
    List.append_nil _
  have hread := h [privateContext] [1000] reader [] hdone
    (by rw [hcontent, hsent, List.append_nil])
  have hone := (readServerMessageStreamed_frame privateFormat hline hcontent).1
  have hdecoded : privateFormat.fromSlice (privateFormat.text privateContext ++ [newline]) =
      .ok privateContext.serialize.deserialize := contextFormat_decoded rfl
  rw [if_pos hfits, hdecoded] at hone
  rw [List.length_singleton, readTimes_one, hone, List.map_singleton] at hread
  exact absurd hread (by decide)

def boolJson : JsonFormat Bool where
  toVec value := .ok (if value then [116, 114, 117, 101] else [102, 97, 108, 115, 101])
  fromSlice text :=
    if text.filter (· ≠ newline) = [116, 114, 117, 101] then .ok true
    else if text.filter (· ≠ newline) = [102, 97, 108, 115, 101] then .ok false
    else .error "expected value"

theorem frames_survive_bool :
    FramesSurvive boolJson boolJson ∧
      ∀ message, boolJson.decoded message = .ok message := by
  have hline : boolJson.OneLine := by
    intro message text htext
    cases htext
    cases message <;> decide
  refine ⟨frames_survive hline hline, fun message => ?_⟩
  cases message <;> rfl

end VdeTmux.Daemon
