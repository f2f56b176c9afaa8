import VdeTmux.Foundation.Buffered
import VdeTmux.Foundation.Outcome
import VdeTmux.Daemon.Router
import VdeTmux.Pane.Runtime

/-!
# Frames on the socket

Requests and responses are lines of JSON. A writer checks the length of a line before it adds the
newline and hands it to the socket in the portions the socket accepts; a reader collects the line
from what its buffer offers. Time runs out for none of them.
-/

open Foundation VdeTmux.Pane
namespace VdeTmux.Daemon

def maxRequestFrameBytes : ℕ := 1024 * 1024

def newline : UInt8 := 10

inductive FrameErrorCode
  | unsupportedProtocol
  | invalidRequest
  | frameTooLarge
  | internalError
deriving DecidableEq

structure FrameError where
  code : FrameErrorCode
  message : String
deriving DecidableEq

/-- How messages of a type are written and read as JSON. -/
structure JsonFormat (M : Type) where
  toVec : M → Except String (List UInt8)
  fromSlice : List UInt8 → Except String M
  proto : List UInt8 → Option ℕ := fun _ => none

/-- What one writer did: the bytes the socket took, the portions it has not been asked for, and
how the writer ended, if it did. -/
structure Sent (ε : Type) where
  delivered : List UInt8
  portions : List ℕ
  outcome : Option (Except ε Unit)

def Sent.done {ε : Type} (sent : Sent ε) : Bool :=
  match sent.outcome with
  | some (.ok ()) => true
  | _ => false

/-- Write until the socket took all, `portions` being what it takes at each call. A socket that
takes nothing is closed. -/
def writeAll {ε : Type} (closed : ε) (frame : List UInt8) : List ℕ → Sent ε
  | [] => ⟨[], [], if frame = [] then some (.ok ()) else none⟩
  | portion :: portions =>
    if frame = [] then ⟨[], portion :: portions, some (.ok ())⟩
    else if portion = 0 then ⟨[], portions, some (.error closed)⟩
    else
      let sent := writeAll closed (frame.drop portion) portions
      { sent with delivered := frame.take portion ++ sent.delivered }

def writeClientMessage {M : Type} (json : JsonFormat M) (message : M) (portions : List ℕ) :
    Sent String :=
  match json.toVec message with
  | .error error => ⟨[], portions, some (.error error)⟩
  | .ok frame =>
    if maxRequestFrameBytes < frame.length then
      ⟨[], portions, some (.error "request frame exceeds 1 MiB")⟩
    else
      writeAll "daemon closed the connection while reading the request" (frame ++ [newline])
        portions

def encodeResponseFrame {M : Type} (json : JsonFormat M) (message : M) :
    Except FrameError (List UInt8) :=
  match json.toVec message with
  | .error error => .error ⟨.internalError, error⟩
  | .ok frame =>
    if maxResponseFrameBytes < frame.length then
      .error ⟨.frameTooLarge, "response frame exceeds 16 MiB"⟩
    else .ok (frame ++ [newline])

def writeV2Frame (frame : List UInt8) (portions : List ℕ) : Sent FrameError :=
  writeAll ⟨.internalError, "response stream closed before frame completed"⟩ frame portions

def writeV2Response {M : Type} (json : JsonFormat M) (ofError : FrameError → M) (message : M)
    (portions : List ℕ) : Sent FrameError :=
  match encodeResponseFrame json message with
  | .ok frame => writeV2Frame frame portions
  | .error error =>
    if error.code = .frameTooLarge then
      match encodeResponseFrame json (ofError error) with
      | .ok frame => writeV2Frame frame portions
      | .error error => ⟨[], portions, some (.error error)⟩
    else ⟨[], portions, some (.error error)⟩

def requestFrameBodyBytes (buffered take : ℕ) (newlineTerminated : Bool) : ℕ :=
  buffered + take - newlineTerminated.toNat

def takenBytes (available : List UInt8) : ℕ :=
  (available.findIdx? (· = newline)).elim available.length (· + 1)

def hasNewline (available : List UInt8) : Bool := (available.findIdx? (· = newline)).isSome

theorem takenBytes_pos {available : List UInt8} (h : available ≠ []) :
    0 < takenBytes available := by
  unfold takenBytes
  cases available.findIdx? (· = newline) with
  | none => exact List.length_pos_of_ne_nil h
  | some position => exact Nat.succ_pos position

theorem takenBytes_le (available : List UInt8) : takenBytes available ≤ available.length := by
  unfold takenBytes
  cases hfind : available.findIdx? (· = newline) with
  | none => exact Nat.le_refl _
  | some position =>
    obtain ⟨hlt, -⟩ := List.findIdx?_eq_some_iff_getElem.mp hfind
    exact hlt

/-- Collect the bytes of a request after those in `frame`. The length is checked before the bytes
are taken. -/
def readRequestFrom (frame : List UInt8) (reader : Buffered UInt8) :
    Except FrameError (List UInt8) × Buffered UInt8 :=
  let reader' := reader.fill
  if reader'.buffer = [] then
    (.error ⟨.invalidRequest, "connection closed before request frame completed"⟩, reader')
  else
    let take := takenBytes reader'.buffer
    if maxRequestFrameBytes < requestFrameBodyBytes frame.length take (hasNewline reader'.buffer)
    then (.error ⟨.frameTooLarge, "request frame exceeds 1 MiB"⟩, reader')
    else
      let frame' := frame ++ reader'.buffer.take take
      if hasNewline reader'.buffer then (.ok frame'.dropLast, reader'.consume take)
      else readRequestFrom frame' (reader'.consume take)
termination_by reader.content.length
decreasing_by
  rename_i hempty _ _
  rw [← reader.content_fill]
  exact Buffered.consume_lt (takenBytes_pos hempty) (takenBytes_le _)

def readV2RequestFrame (reader : Buffered UInt8) :
    Except FrameError (List UInt8) × Buffered UInt8 := readRequestFrom [] reader

def decodeRequestFrame {M : Type} (json : JsonFormat M) (frame : List UInt8) : Except FrameError M :=
  if maxRequestFrameBytes < frame.length then
    .error ⟨.frameTooLarge, "request frame exceeds 1 MiB"⟩
  else if (json.proto frame).any (· ≠ protocolVersion) then
    .error ⟨.unsupportedProtocol, "protocol version 35 is required"⟩
  else (json.fromSlice frame).mapError fun error => ⟨.invalidRequest, error⟩

/-- Collect the line of a response after the bytes in `frame`; `none` at the end of the
connection. The length is checked after the bytes were taken, the newline included. -/
def readLineFrom (frame : List UInt8) (reader : Buffered UInt8) :
    Except String (Option (List UInt8)) × Buffered UInt8 :=
  let reader' := reader.fill
  if reader'.buffer = [] then
    if frame = [] then (.ok none, reader')
    else (.error "daemon closed the connection before responding", reader')
  else
    let consumed := takenBytes reader'.buffer
    let frame' := frame ++ reader'.buffer.take consumed
    if maxResponseFrameBytes + 1 < frame'.length then
      (.error "daemon response exceeds 16 MiB", reader'.consume consumed)
    else if frame'.getLast? = some newline then (.ok (some frame'), reader'.consume consumed)
    else readLineFrom frame' (reader'.consume consumed)
termination_by reader.content.length
decreasing_by
  rename_i hempty _ _
  rw [← reader.content_fill]
  exact Buffered.consume_lt (takenBytes_pos hempty) (takenBytes_le _)

def readServerMessageStreamed {M : Type} (json : JsonFormat M) (reader : Buffered UInt8) :
    Except String (Option M) × Buffered UInt8 :=
  let (line, reader) := readLineFrom [] reader
  match line with
  | .error error => (.error error, reader)
  | .ok none => (.ok none, reader)
  | .ok (some frame) => ((json.fromSlice frame).map some, reader)

def readServerMessage {M : Type} (json : JsonFormat M) (reader : Buffered UInt8) :
    Except String M × Buffered UInt8 :=
  let (message, reader) := readServerMessageStreamed json reader
  match message with
  | .error error => (.error error, reader)
  | .ok none => (.error "daemon closed the connection before responding", reader)
  | .ok (some message) => (.ok message, reader)

theorem taken_of_newline {body : List UInt8} (hbody : newline ∉ body) (left : List UInt8) :
    takenBytes (body ++ newline :: left) = body.length + 1 ∧
      hasNewline (body ++ newline :: left) = true := by
  unfold takenBytes hasNewline
  rw [findIdx?_stop hbody]
  exact ⟨rfl, rfl⟩

theorem take_frame (body left : List UInt8) :
    (body ++ newline :: left).take (body.length + 1) = body ++ [newline] := by
  rw [List.append_cons, List.take_left' (by simp)]

theorem taken_of_no_newline {available : List UInt8} (h : newline ∉ available) :
    takenBytes available = available.length ∧ hasNewline available = false := by
  unfold takenBytes hasNewline
  rw [findIdx?_no_stop h]
  exact ⟨rfl, rfl⟩

theorem fill_frame {reader : Buffered UInt8} {body rest : List UInt8} (hbody : newline ∉ body)
    (h : reader.content = body ++ newline :: rest) :
    reader.fill.buffer ≠ [] ∧
      ((∃ left, reader.fill.buffer = body ++ newline :: left ∧
          (reader.fill.consume (body.length + 1)).content = rest) ∨
        (newline ∉ reader.fill.buffer ∧ ∃ body', body = reader.fill.buffer ++ body' ∧
          (reader.fill.consume reader.fill.buffer.length).content = body' ++ newline :: rest)) := by
  have hfill := reader.content_fill.trans h
  refine ⟨fun hempty => ?_, ?_⟩
  · rw [Buffered.fill_buffer_eq_nil, h] at hempty
    simp at hempty
  · rcases frame_in_buffer hbody hfill with ⟨left, hbuffer, -⟩ | ⟨hnone, body', hsplit, hmore⟩
    · refine Or.inl ⟨left, hbuffer, ?_⟩
      rw [Buffered.content_consume (by rw [hbuffer]; simp), hfill]
      simp
    · refine Or.inr ⟨hnone, body', hsplit, ?_⟩
      rw [Buffered.content_consume (Nat.le_refl _)]
      unfold Buffered.content
      rw [hmore]
      simp

/-- A frame is read whole, up to its newline, or refused for its length; where the pieces end
does not matter. -/
theorem readRequestFrom_frame (frame : List UInt8) (reader : Buffered UInt8)
    {body rest : List UInt8} (hbody : newline ∉ body)
    (h : reader.content = body ++ newline :: rest) :
    (frame.length + body.length ≤ maxRequestFrameBytes →
        (readRequestFrom frame reader).1 = .ok (frame ++ body) ∧
          (readRequestFrom frame reader).2.content = rest) ∧
      (maxRequestFrameBytes < frame.length + body.length →
        (readRequestFrom frame reader).1 =
          .error ⟨.frameTooLarge, "request frame exceeds 1 MiB"⟩) := by
  fun_induction readRequestFrom frame reader generalizing body with
  | case1 frame reader reader' =>
    rename_i hempty
    exact absurd hempty (fill_frame hbody h).1
  | case2 frame reader reader' hnonempty take =>
    rename_i hlarge
    refine ⟨fun hfits => ?_, fun _ => rfl⟩
    obtain ⟨-, ⟨left, hbuffer, -⟩ | ⟨hnone, body', hsplit, -⟩⟩ := fill_frame hbody h
    · obtain ⟨htake, hnewline⟩ := taken_of_newline hbody left
      simp only [take, reader', hbuffer, htake, hnewline, requestFrameBodyBytes,
        Bool.toNat_true] at hlarge
      omega
    · obtain ⟨htake, hnewline⟩ := taken_of_no_newline hnone
      have hlength := congrArg List.length hsplit
      simp only [List.length_append] at hlength
      simp only [take, reader', htake, hnewline, requestFrameBodyBytes, Bool.toNat_false] at hlarge
      omega
  | case3 frame reader reader' hnonempty take hsmall frame' =>
    rename_i hnewline
    obtain ⟨-, ⟨left, hbuffer, hrest⟩ | ⟨hnone, -⟩⟩ := fill_frame hbody h
    · obtain ⟨htake, -⟩ := taken_of_newline hbody left
      have htaken : take = body.length + 1 := by simp only [take, reader', hbuffer, htake]
      have hframe : frame' = frame ++ body ++ [newline] := by
        simp only [frame', htaken, reader', hbuffer, take_frame, List.append_assoc]
      rw [hnewline, htaken, requestFrameBodyBytes, Bool.toNat_true] at hsmall
      refine ⟨fun _ => ⟨?_, ?_⟩, fun hlarge => ?_⟩
      · simp [hframe]
      · rw [htaken]
        exact hrest
      · omega
    · rw [(taken_of_no_newline hnone).2] at hnewline
      exact Bool.noConfusion hnewline
  | case4 frame reader reader' hnonempty take hsmall frame' hnone =>
    rename_i ih
    obtain ⟨-, ⟨left, hbuffer, -⟩ | ⟨hnone', body', hsplit, hrest⟩⟩ := fill_frame hbody h
    · simp only [reader', hbuffer, (taken_of_newline hbody left).2, not_true_eq_false] at hnone
    · have htaken : take = reader.fill.buffer.length := (taken_of_no_newline hnone').1
      have hframe : frame' = frame ++ reader.fill.buffer := by
        simp only [frame', htaken, reader', List.take_length]
      rw [← htaken] at hrest
      have hbody' : newline ∉ body' := fun hmem =>
        hbody (hsplit ▸ List.mem_append_right _ hmem)
      have hread := ih hbody' hrest
      rw [hframe] at hread ⊢
      rw [hsplit]
      simpa only [List.length_append, List.append_assoc, Nat.add_assoc] using hread

theorem fill_open {reader : Buffered UInt8} (hopen : newline ∉ reader.content) :
    takenBytes reader.fill.buffer = reader.fill.buffer.length ∧
      hasNewline reader.fill.buffer = false ∧
      ∃ more, reader.content = reader.fill.buffer ++ more ∧
        (reader.fill.consume reader.fill.buffer.length).content = more := by
  have hfill : reader.content =
      reader.fill.buffer ++ reader.fill.incoming.flatMap (·.items) := reader.content_fill.symm
  have hnone : newline ∉ reader.fill.buffer := fun hmem =>
    hopen (hfill ▸ List.mem_append_left _ hmem)
  refine ⟨(taken_of_no_newline hnone).1, (taken_of_no_newline hnone).2, _, hfill, ?_⟩
  rw [Buffered.content_consume (Nat.le_refl _)]
  unfold Buffered.content
  rw [List.drop_left]

theorem readRequestFrom_open (frame : List UInt8) (reader : Buffered UInt8)
    (hopen : newline ∉ reader.content) :
    (readRequestFrom frame reader).1 =
      if frame.length + reader.content.length ≤ maxRequestFrameBytes ∨ reader.content = [] then
        .error ⟨.invalidRequest, "connection closed before request frame completed"⟩
      else .error ⟨.frameTooLarge, "request frame exceeds 1 MiB"⟩ := by
  fun_induction readRequestFrom frame reader with
  | case1 frame reader reader' =>
    rename_i hempty
    rw [if_pos (Or.inr (Buffered.fill_buffer_eq_nil.mp hempty))]
  | case2 frame reader reader' hnonempty take =>
    rename_i hlarge
    obtain ⟨htake, hnewline, more, hcontent, -⟩ := fill_open hopen
    simp only [take, reader', htake, hnewline, requestFrameBodyBytes, Bool.toNat_false] at hlarge
    have hlength := congrArg List.length hcontent
    simp only [List.length_append] at hlength
    rw [if_neg]
    rintro (hfits | hempty)
    · omega
    · exact hnonempty (Buffered.fill_buffer_eq_nil.mpr hempty)
  | case3 frame reader reader' hnonempty take hsmall frame' =>
    rename_i hnewline
    rw [(fill_open hopen).2.1] at hnewline
    exact Bool.noConfusion hnewline
  | case4 frame reader reader' hnonempty take hsmall frame' hnone =>
    rename_i ih
    obtain ⟨htake, hnewline, more, hcontent, hmore⟩ := fill_open hopen
    have htaken : take = reader.fill.buffer.length := htake
    rw [← htaken] at hmore
    have hread := ih (by rw [hmore]; exact fun hmem => hopen (hcontent ▸ List.mem_append_right _ hmem))
    rw [hread, hmore]
    have hlength := congrArg List.length hcontent
    have hframe : frame'.length = frame.length + reader.fill.buffer.length := by
      simp only [frame', htaken, reader', List.take_length, List.length_append]
    simp only [htaken, reader', hnewline, requestFrameBodyBytes, Bool.toNat_false] at hsmall
    simp only [List.length_append] at hlength
    have hsome : reader.content ≠ [] := fun hempty =>
      hnonempty (Buffered.fill_buffer_eq_nil.mpr hempty)
    rw [hframe]
    by_cases hfits : frame.length + reader.content.length ≤ maxRequestFrameBytes
    · rw [if_pos (Or.inl (by omega)), if_pos (Or.inl hfits)]
    · rw [if_neg, if_neg (not_or.mpr ⟨hfits, hsome⟩)]
      rintro (hfits' | hempty)
      · omega
      · rw [hempty] at hlength
        simp only [List.length_nil] at hlength
        omega

theorem readLineFrom_frame (frame : List UInt8) (reader : Buffered UInt8)
    {body rest : List UInt8} (hbody : newline ∉ body)
    (h : reader.content = body ++ newline :: rest) :
    (frame.length + body.length ≤ maxResponseFrameBytes →
        (readLineFrom frame reader).1 = .ok (some (frame ++ body ++ [newline])) ∧
          (readLineFrom frame reader).2.content = rest) ∧
      (maxResponseFrameBytes < frame.length + body.length →
        (readLineFrom frame reader).1 = .error "daemon response exceeds 16 MiB") := by
  fun_induction readLineFrom frame reader generalizing body with
  | case1 reader reader' =>
    rename_i hempty
    exact absurd hempty (fill_frame hbody h).1
  | case2 frame reader reader' hempty => exact absurd hempty (fill_frame hbody h).1
  | case3 frame reader reader' hnonempty consumed frame' =>
    rename_i hlarge
    refine ⟨fun hfits => ?_, fun _ => rfl⟩
    obtain ⟨-, ⟨left, hbuffer, -⟩ | ⟨hnone, body', hsplit, -⟩⟩ := fill_frame hbody h
    · simp only [frame', consumed, reader', hbuffer, (taken_of_newline hbody left).1, take_frame,
        List.length_append, List.length_singleton] at hlarge
      omega
    · simp only [frame', consumed, reader', (taken_of_no_newline hnone).1, List.take_length,
        List.length_append] at hlarge
      have hlength := congrArg List.length hsplit
      simp only [List.length_append] at hlength
      omega
  | case4 frame reader reader' hnonempty consumed frame' hsmall =>
    rename_i hlast
    obtain ⟨-, ⟨left, hbuffer, hrest⟩ | ⟨hnone, -⟩⟩ := fill_frame hbody h
    · have hconsumed : consumed = body.length + 1 := by
        simp only [consumed, reader', hbuffer, (taken_of_newline hbody left).1]
      have hframe : frame' = frame ++ body ++ [newline] := by
        simp only [frame', hconsumed, reader', hbuffer, take_frame, List.append_assoc]
      rw [hframe] at hsmall
      simp only [List.length_append, List.length_singleton] at hsmall
      refine ⟨fun _ => ⟨by rw [hframe], ?_⟩, fun hlarge => ?_⟩
      · rw [hconsumed]
        exact hrest
      · omega
    · simp only [frame', consumed, reader', (taken_of_no_newline hnone).1,
        List.take_length] at hlast
      rw [List.getLast?_append_of_ne_nil _ hnonempty] at hlast
      exact absurd (List.mem_of_getLast? hlast) hnone
  | case5 frame reader reader' hnonempty consumed frame' hsmall hlast =>
    rename_i ih
    obtain ⟨-, ⟨left, hbuffer, -⟩ | ⟨hnone, body', hsplit, hrest⟩⟩ := fill_frame hbody h
    · simp only [frame', consumed, reader', hbuffer, (taken_of_newline hbody left).1,
        take_frame] at hlast
      simp at hlast
    · have hconsumed : consumed = reader.fill.buffer.length := (taken_of_no_newline hnone).1
      have hframe : frame' = frame ++ reader.fill.buffer := by
        simp only [frame', hconsumed, reader', List.take_length]
      rw [← hconsumed] at hrest
      have hbody' : newline ∉ body' := fun hmem =>
        hbody (hsplit ▸ List.mem_append_right _ hmem)
      have hread := ih hbody' hrest
      rw [hframe] at hread ⊢
      rw [hsplit]
      simpa only [List.length_append, List.append_assoc, Nat.add_assoc] using hread

/-- A response that the connection ends in is an error; between responses the end is no error. -/
theorem readLineFrom_open (frame : List UInt8) (reader : Buffered UInt8)
    (hopen : newline ∉ reader.content) (hsome : frame ≠ [] ∨ reader.content ≠ []) :
    ∃ e, (readLineFrom frame reader).1 = .error e := by
  fun_induction readLineFrom frame reader with
  | case1 reader reader' =>
    rename_i hempty
    have hnone := Buffered.fill_buffer_eq_nil.mp hempty
    simp [hnone] at hsome
  | case2 frame reader reader' hempty => exact ⟨_, rfl⟩
  | case3 frame reader reader' hnonempty consumed frame' => exact ⟨_, rfl⟩
  | case4 frame reader reader' hnonempty consumed frame' hsmall =>
    rename_i hlast
    obtain ⟨htake, -, more, hcontent, -⟩ := fill_open hopen
    simp only [frame', consumed, reader', htake, List.take_length] at hlast
    rw [List.getLast?_append_of_ne_nil _ hnonempty] at hlast
    exact absurd (hcontent ▸ List.mem_append_left _ (List.mem_of_getLast? hlast)) hopen
  | case5 frame reader reader' hnonempty consumed frame' hsmall hlast =>
    rename_i ih
    obtain ⟨htake, -, more, hcontent, hmore⟩ := fill_open hopen
    have hconsumed : consumed = reader.fill.buffer.length := htake
    rw [← hconsumed] at hmore
    refine ih ?_ (Or.inl ?_)
    · rw [hmore]
      exact fun hmem => hopen (hcontent ▸ List.mem_append_right _ hmem)
    · simp only [frame', hconsumed, reader', List.take_length]
      exact List.append_ne_nil_of_right_ne_nil _ hnonempty

end VdeTmux.Daemon
