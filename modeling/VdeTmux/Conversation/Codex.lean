import VdeTmux.Conversation.Model

/-!
# The Codex rollout parser

One record after the other edits the list of entries and the list of turns. A user text is only
shown when a `UserMessage` item completes it; a compaction replaces the entries by the retained
ones, a rollback cuts them before an instruction.
-/

open Foundation
open Foundation.Json (Value SerdeJson)

namespace VdeTmux.Conversation.Codex

def provider : String := "codex"

def present (value : Option Value) : Bool := value.any fun value => !value.isNull

def object (value : Option Value) : Except ConversationError Value :=
  match value.filter Value.isObject with
  | some value => .ok value
  | none => fail "invalid_codex_record"

def isAsciiAlphanumeric (c : Char) : Bool :=
  ('0' ≤ c ∧ c ≤ '9') ∨ ('a' ≤ c ∧ c ≤ 'z') ∨ ('A' ≤ c ∧ c ≤ 'Z')

def startsWith (text head : String) : Bool := head.toList.isPrefixOf text.toList

def endsWith (text tail : String) : Bool := tail.toList.isSuffixOf text.toList

def trimStart (text : String) : String := String.ofList (text.toList.dropWhile Text.isWhitespace)

def looksInjected (text : String) : Bool :=
  let text := trimStart text
  if startsWith text "# " then true
  else
    match text.toList with
    | '<' :: rest =>
      let name := rest.takeWhile (· ≠ '>')
      rest.contains '>' && !name.isEmpty &&
        name.all fun c => isAsciiAlphanumeric c || c = '_' || c = '-'
    | _ => false

def verifiedRollbackContext (text : String) : Bool :=
  let text := Text.trim text
  (startsWith text "# AGENTS.md instructions" && endsWith text "</INSTRUCTIONS>") ||
    (startsWith text "<environment_context>" && endsWith text "</environment_context>")

def imageWrapper (text : String) : Bool :=
  let text := Text.trim text
  text = "</image>" ||
    (startsWith text "<image" && endsWith text ">" && !text.toList.contains '\n')

def contentItems (content : Option Value) : Except ConversationError (List Value) :=
  match content.bind Value.asArray with
  | some items => .ok items
  | none => fail "invalid_codex_content"

def itemText (item : Value) : Except ConversationError String :=
  match item.strField "text" with
  | some text => .ok text
  | none => fail "invalid_codex_content"

def responseUserPart (item : Value) : Except ConversationError (List String) :=
  match item.strField "type" with
  | some "input_text" => do
    let text ← itemText item
    return if imageWrapper text then [] else [text]
  | some "input_image" => .ok []
  | _ => fail "unknown_codex_content"

def responseUserText (content : Option Value) : Except ConversationError String := do
  let parts ← (← contentItems content).mapM responseUserPart
  return "\n".intercalate parts.flatten

def userMessagePart (item : Value) : Except ConversationError (List String × Bool) :=
  match item.strField "type" with
  | some "text" => do
    let text ← itemText item
    return ([text], false)
  | some "local_image" | some "image" => .ok ([], true)
  | some "skill" => .ok ([], false)
  | _ => fail "unknown_codex_content"

def userMessageText (content : Option Value) : Except ConversationError (String × Bool) := do
  let parts ← (← contentItems content).mapM userMessagePart
  return ("\n".intercalate (parts.map (·.1)).flatten, parts.any (·.2))

def assistantPart (item : Value) : Except ConversationError String :=
  match item.strField "type" with
  | some "output_text" => itemText item
  | _ => fail "unknown_codex_content"

def assistantText (content : Option Value) : Except ConversationError String := do
  let parts ← (← contentItems content).mapM assistantPart
  return "\n".intercalate parts

def jsonText [SerdeJson] : Option Value → String
  | some (.string text) => text
  | some value => SerdeJson.print value
  | none => ""

def interAgent [SerdeJson] (text : String) : Bool :=
  (SerdeJson.fromStr text).any fun value =>
    (value.strField "author").isSome && (value.strField "recipient").isSome &&
      (value.strField "content").isSome && ((value.get "trigger_turn").bind Value.asBool).isSome

inductive Phase where
  | commentary | finalAnswer
  deriving DecidableEq, Repr

inductive Outcome where
  | opened
  | completed (lastAgentMessage : Option String)
  | failed
  | aborted
  deriving DecidableEq, Repr

/-- A turn closed before the latest compaction is `compacted`, one that lost a later instruction
to a rollback `truncated`. -/
structure Turn where
  index : ℕ
  id : String
  outcome : Outcome
  compacted : Bool
  truncated : Bool
  deriving DecidableEq, Repr

structure Entry where
  message : ConversationMessage
  phase : Option Phase
  deriving DecidableEq, Repr

def Entry.retainable (entry : Entry) : Bool :=
  entry.message.kind = .instruction || entry.message.kind = .compactionSummary

structure Parser where
  session : String
  header : Bool
  entries : List Entry
  turns : List Turn
  turnIds : List String
  /-- The position of the open turn. -/
  openIndex : Option ℕ
  /-- The unpaired user texts of the open turn, each with its line. -/
  pendingUser : List (ℕ × String)
  omissions : Omissions
  compacted : Bool
  rollbackAttributionUnknown : Bool
  deriving DecidableEq, Repr

namespace Parser

def new (session : String) : Parser where
  session := session
  header := false
  entries := []
  turns := []
  turnIds := []
  openIndex := none
  pendingUser := []
  omissions := []
  compacted := false
  rollbackAttributionUnknown := false

def note (p : Parser) (reason : String) : Parser :=
  { p with omissions := p.omissions.note reason }

def attributionUnknown (p : Parser) (unknown : Bool) : Parser :=
  { p with rollbackAttributionUnknown := p.rollbackAttributionUnknown || unknown }

def openTurn? (p : Parser) : Option Turn := p.openIndex.bind fun index => p.turns[index]?

def openTurn (p : Parser) : Except ConversationError Turn :=
  match p.openTurn? with
  | some turn => .ok turn
  | none => fail "turn_attribution_unknown"

def push (p : Parser) (message : ConversationMessage) (phase : Option Phase) : Parser :=
  match p.openTurn? with
  | some turn =>
    let message : ConversationMessage :=
      { message with turnIndex := turn.index, providerTurnId := some turn.id }
    { p with entries := p.entries ++ [⟨message, phase⟩] }
  | none => { p with entries := p.entries ++ [⟨message, phase⟩] }

variable [Sha256] [SerdeJson]

def ref (p : Parser) (id : String) : String := sourceRef provider p.session id

def headerRecord (p : Parser) (payload : Value) : Except ConversationError Parser :=
  if payload.strField "id" ≠ some p.session then fail "session_mismatch"
  else if payload.strField "thread_source" ≠ some "user" ∨
      present (payload.get "parent_thread_id") = true then fail "non_root_session"
  else if present (payload.get "forked_from_id") = true ∨
      present (payload.get "history_base") = true then fail "forked_history_unsupported"
  else .ok { p with header := true }

def userItem (p : Parser) (line : ℕ) (payload : Value) : Except ConversationError Parser := do
  let text ← responseUserText (payload.get "content")
  if p.openIndex.isSome then
    return { p with pendingUser := p.pendingUser ++ [(line, text)] }
  else
    return (p.attributionUnknown !verifiedRollbackContext text).note "injected_context_excluded"

def assistantPhase (payload : Value) : Except ConversationError (Option Phase) :=
  match payload.get "phase" with
  | none | some .null => .ok none
  | some (.string "commentary") => .ok (some .commentary)
  | some (.string "final_answer") => .ok (some .finalAnswer)
  | some _ => fail "unknown_assistant_phase"

def assistantItem (p : Parser) (line : ℕ) (payload : Value) : Except ConversationError Parser := do
  let text ← assistantText (payload.get "content")
  if interAgent text then
    return (p.attributionUnknown true).note "inter_agent_excluded"
  else
    let _ ← p.openTurn
    let phase ← assistantPhase payload
    let said := message (p.ref s!"l{line}") .assistant .commentary "assistant" text
    return p.push { said with providerMessageId := payload.strField "id" } phase

def toolCall (p : Parser) (line : ℕ) (kind : String) (payload : Value) :
    Except ConversationError Parser := do
  let _ ← p.openTurn
  match payload.strField "call_id" with
  | none => fail "invalid_codex_tool_call"
  | some callId =>
    let name := (payload.strField "name").getD ""
    let input := jsonText (payload.get (if kind = "function_call" then "arguments" else "input"))
    let sourceRef := p.ref s!"l{line}"
    let clipped := clipToolText s!"{name}\n{input}" sourceRef p.omissions
    let called := message sourceRef .tool .toolCall "assistant" clipped.1
    return { p with omissions := clipped.2 }.push
      { called with toolCallId := some callId, providerMessageId := payload.strField "id" } none

def toolResult (p : Parser) (line : ℕ) (payload : Value) : Except ConversationError Parser := do
  let _ ← p.openTurn
  match payload.strField "call_id" with
  | none => fail "invalid_codex_tool_result"
  | some callId =>
    let output := match payload.get "output" with
      | some (.object members) => jsonText ((Value.object members).get "content")
      | output => jsonText output
    let sourceRef := p.ref s!"l{line}"
    let clipped := clipToolText output sourceRef p.omissions
    let returned := message sourceRef .tool .toolResult "tool" clipped.1
    return { p with omissions := clipped.2 }.push { returned with toolCallId := some callId } none

def responseItem (p : Parser) (line : ℕ) (payload : Value) : Except ConversationError Parser :=
  match payload.strField "type" with
  | some "message" =>
    match payload.strField "role" with
    | some "user" => p.userItem line payload
    | some "developer" | some "system" => .ok (p.note "developer_context_excluded")
    | some "assistant" => p.assistantItem line payload
    | _ => fail "unknown_codex_message_role"
  | some "reasoning" => .ok (p.note "reasoning_excluded")
  | some "function_call" => p.toolCall line "function_call" payload
  | some "custom_tool_call" => p.toolCall line "custom_tool_call" payload
  | some "function_call_output" | some "custom_tool_call_output" => p.toolResult line payload
  | some "agent_message" => .ok ((p.attributionUnknown true).note "inter_agent_excluded")
  | some "configuration_update" => .ok p
  | _ => fail "unknown_codex_response_item"

def nextIndex (p : Parser) : ℕ := (p.turns.getLast?.map (·.index + 1)).getD 1

def start (p : Parser) (payload : Value) : Except ConversationError Parser :=
  if p.openIndex.isSome then fail "overlapping_turn"
  else
    match (payload.strField "turn_id").filter fun id => !Text.isBlank id with
    | none => fail "missing_turn_id"
    | some id =>
      if id ∈ p.turnIds then fail "duplicate_turn"
      else .ok { p with
        turnIds := id :: p.turnIds
        turns := p.turns ++ [⟨p.nextIndex, id, .opened, false, false⟩]
        openIndex := some p.turns.length }

def dropPending (p : Parser) (dropped : List (ℕ × String)) : Parser :=
  if dropped.isEmpty then p
  else (p.attributionUnknown (dropped.any fun pending => !verifiedRollbackContext pending.2)).note
    "injected_context_excluded"

def close (p : Parser) (payload : Value) (outcome : Outcome) : Except ConversationError Parser :=
  match p.openIndex, p.openTurn? with
  | some index, some turn =>
    if payload.strField "turn_id" ≠ some turn.id then fail "turn_end_mismatch"
    else .ok { p.dropPending p.pendingUser with
      turns := p.turns.set index { turn with outcome := outcome }
      openIndex := none
      pendingUser := [] }
  | _, _ => fail "turn_end_without_start"

def ignoredItems : List String :=
  ["FunctionCallOutput", "HookPrompt", "AgentMessage", "Plan", "Reasoning", "CommandExecution",
    "DynamicToolCall", "CollabAgentToolCall", "SubAgentActivity", "WebSearch", "ImageView",
    "Extension", "ImageGeneration", "EnteredReviewMode", "ExitedReviewMode", "FileChange",
    "McpToolCall", "ContextCompaction"]

def lastPosition {α : Type} (q : α → Bool) (l : List α) : Option ℕ :=
  (l.zipIdx.reverse.find? fun entry => q entry.1).map (·.2)

def userMessage (p : Parser) (line : ℕ) (payload item : Value) :
    Except ConversationError Parser := do
  let turn ← p.openTurn
  if payload.strField "turn_id" ≠ some turn.id then fail "turn_attribution_unknown"
  else
    let (text, image) ← userMessageText (item.get "content")
    match lastPosition (fun pending => pending.2 = text) p.pendingUser with
    | none => fail "user_message_unpaired"
    | some paired =>
      let p₁ := p.dropPending (p.pendingUser.take paired)
      let p₂ : Parser := { p₁ with
        pendingUser := p.pendingUser.drop (paired + 1)
        omissions := p₁.omissions.noteIf image "image_excluded" }
      let said := message (p.ref s!"l{line}") .user .instruction "user" text
      return p₂.push { said with providerMessageId := item.strField "id" } none

def itemCompleted (p : Parser) (line : ℕ) (payload : Value) : Except ConversationError Parser := do
  let item ← object (payload.get "item")
  match item.strField "type" with
  | some "UserMessage" => p.userMessage line payload item
  | some kind => if kind ∈ ignoredItems then .ok p else fail "unknown_codex_item"
  | none => fail "unknown_codex_item"

def isUserMessage (item : Value) : Bool :=
  item.strField "type" = some "message" && item.strField "role" = some "user"

def lastUnused (entries : List Entry) (used : List ℕ) (text : String) : Option ℕ :=
  (entries.zipIdx.reverse.find? fun entry =>
    entry.2 ∉ used && entry.1.retainable && entry.1.message.text = text).map (·.2)

/-- Retained messages are the most recent ones: the later items are traced first, and no entry
is used for two copies of a text. -/
def trace (entries : List Entry) :
    List Value → Except ConversationError (List (Option ℕ) × List ℕ)
  | [] => .ok ([], [])
  | item :: rest => do
    let (traced, used) ← trace entries rest
    if isUserMessage item = false then return (none :: traced, used)
    else
      let text ← responseUserText (item.get "content")
      match lastUnused entries used text with
      | none => return (none :: traced, used)
      | some found => return (some found :: traced, found :: used)

def summaryEntry (sourceRef originalRole text : String) : Entry :=
  ⟨message sourceRef .summary .compactionSummary originalRole text, none⟩

/-- One item of a replacement history: what it leaves, and the entries shown for it. -/
def rebuildItem (p : Parser) (id : String) (item : Value) (traced : Option ℕ) :
    Except ConversationError (Parser × List Entry) :=
  match item.strField "type", item.strField "role" with
  | some "message", some "user" =>
    match traced.bind fun found => p.entries[found]? with
    | some entry => .ok (p, [⟨entry.message, none⟩])
    | none => do
      let p₁ := p.attributionUnknown true
      let text ← responseUserText (item.get "content")
      if looksInjected text then return (p₁.note "injected_context_excluded", [])
      else return (p₁, [summaryEntry (p.ref id) "user" text])
  | some "message", some "developer" | some "message", some "system" =>
    .ok (p.note "developer_context_excluded", [])
  | some "compaction", _ =>
    .ok ({ p with
      omissions := p.omissions.noteAt "compaction_summary_unreadable" (p.ref id) }, [])
  | some "agent_message", _ =>
    .ok ((p.attributionUnknown true).note "inter_agent_excluded", [])
  | _, _ => fail "unsupported_compaction_item"

def rebuild (p : Parser) (line : ℕ) :
    ℕ → List (Value × Option ℕ) → Except ConversationError (Parser × List Entry)
  | _, [] => .ok (p, [])
  | index, (item, traced) :: rest => do
    let (p₁, shown) ← rebuildItem p s!"l{line}#rh{index}" item traced
    let (p₂, more) ← rebuild p₁ line (index + 1) rest
    return (p₂, shown ++ more)

def closedCompacted (openIndex : Option ℕ) (turns : List Turn) : List Turn :=
  turns.mapIdx fun index turn =>
    if some index ≠ openIndex then { turn with compacted := true } else turn

def compaction (p : Parser) (line : ℕ) (payload : Value) : Except ConversationError Parser := do
  match (payload.get "replacement_history").bind Value.asArray with
  | none => fail "compaction_without_replacement_history"
  | some history =>
    let (traced, _) ← trace p.entries history
    let p₁ : Parser := { p with
      omissions := p.omissions.filter (·.reason ≠ "compaction_summary_unreadable") }
    let (p₂, rebuilt) ← rebuild p₁ line 0 (history.zip traced)
    let summary := match (payload.strField "message").filter (· ≠ "") with
      | some text => [summaryEntry (p.ref s!"l{line}") "summary" text]
      | none => []
    return { p₂ with
      entries := rebuilt ++ summary
      turns := closedCompacted p.openIndex p.turns
      pendingUser := []
      compacted := true }.note "pre_compaction_excluded"

def instructionPositions (entries : List Entry) : List ℕ :=
  (entries.zipIdx.filter fun entry => entry.1.message.kind = .instruction).map (·.2)

/-- The turns that are left when the entries are cut before an instruction of turn `cutTurn`. -/
def retainTurns (cutTurn : ℕ) (keptCutTurn : Bool) (turns : List Turn) : List Turn :=
  (turns.map fun turn =>
    if turn.index = cutTurn ∧ keptCutTurn = true then { turn with truncated := true } else turn).filter
    fun turn => turn.index < cutTurn || (turn.index = cutTurn && keptCutTurn)

def cutAt (p : Parser) (cut : ℕ) (entry : Entry) : Parser :=
  let entries := p.entries.take cut
  let cutTurn := entry.message.turnIndex
  let keptCutTurn := entries.any fun entry => entry.message.turnIndex = cutTurn
  { p with entries := entries, turns := retainTurns cutTurn keptCutTurn p.turns }.note
    "rolled_back_excluded"

def cutPosition (entries : List Entry) (count : ℕ) : Option (ℕ × Entry) :=
  let instructions := instructionPositions entries
  match instructions[instructions.length - min count instructions.length]? with
  | some cut => entries[cut]?.map fun entry => (cut, entry)
  | none => none

def numTurns (payload : Value) : Option ℕ :=
  ((payload.get "num_turns").bind Value.asU64).filter (· < 2 ^ 32)

def rollback (p : Parser) (payload : Value) : Except ConversationError Parser :=
  match numTurns payload with
  | none => fail "invalid_rollback"
  | some count =>
    if count = 0 then .ok p
    else if p.rollbackAttributionUnknown then fail "rollback_history_unsupported"
    else if p.openIndex.isSome then fail "rollback_during_turn"
    else
      match cutPosition p.entries count with
      | none => .ok p
      | some (cut, entry) => .ok (p.cutAt cut entry)

def event (p : Parser) (line : ℕ) (payload : Value) : Except ConversationError Parser :=
  match payload.strField "type" with
  | some "task_started" | some "turn_started" => p.start payload
  | some "task_complete" | some "turn_complete" =>
    p.close payload (if present (payload.get "error") = true then .failed
      else .completed (payload.strField "last_agent_message"))
  | some "turn_aborted" => p.close payload .aborted
  | some "item_completed" => p.itemCompleted line payload
  | some "thread_rolled_back" => p.rollback payload
  | some "token_count" | some "thread_settings_applied" | some "thread_goal_updated"
  | some "context_compacted" => .ok p
  | _ => fail "unknown_codex_event"

def record (p : Parser) (line : ℕ) (record : Value) : Except ConversationError Parser :=
  match record.strField "type" with
  | none => fail "unknown_codex_record"
  | some kind =>
    if p.header = false then
      if kind ≠ "session_meta" then fail "missing_session_header"
      else do p.headerRecord (← object (record.get "payload"))
    else
      match kind with
      | "session_meta" => fail "unexpected_session_meta"
      | "turn_context" | "world_state" | "token_usage_record"
      | "inter_agent_communication_metadata" => .ok p
      | "realtime_item" => .ok (p.note "realtime_transcript_unsupported")
      | "response_item" => do p.responseItem line (← object (record.get "payload"))
      | "event_msg" => do p.event line (← object (record.get "payload"))
      | "compacted" => do p.compaction line (← object (record.get "payload"))
      | _ => fail "unknown_codex_record"

def members (entries : List Entry) (turn : Turn) : List ℕ :=
  (entries.zipIdx.filter fun entry => entry.1.message.turnIndex = turn.index).map (·.2)

def candidate (entries : List Entry) (turn : Turn) : Option (ℕ × Entry) :=
  ((entries.zipIdx.reverse.find? fun entry =>
    entry.1.message.turnIndex = turn.index && entry.1.message.role = .assistant).map Prod.swap)

def conclusion (entries : List Entry) (turn : Turn) : Bool × Option ℕ :=
  if turn.compacted || turn.truncated then
    (match turn.outcome with
      | .completed _ => !turn.truncated
      | _ => false, none)
  else
    match turn.outcome with
    | .completed none => (true, none)
    | .completed (some last) =>
      match (candidate entries turn).filter fun found => found.2.message.text = last with
      | some found => (true, some found.1)
      | none => (false, none)
    | .opened =>
      (false, ((candidate entries turn).filter fun found =>
        found.2.phase = some .finalAnswer).map (·.1))
    | .failed | .aborted => (false, none)

def unverified (entries : List Entry) (turn : Turn) : Bool :=
  !(turn.compacted || turn.truncated) && (conclusion entries turn).2.isNone &&
    match turn.outcome with
    | .completed (some _) => true
    | _ => false

def concludeOmissions (omissions : Omissions) (entries : List Entry) (turn : Turn) : Omissions :=
  if unverified entries turn then
    match candidate entries turn with
    | some found => omissions.noteAt "final_message_unverified" found.2.message.sourceRef
    | none => omissions.note "final_message_unverified"
  else omissions

def markFinal (entries : List Entry) (position : ℕ) : List Entry :=
  entries.modify position fun entry => { entry with message := { entry.message with kind := .final } }

def finishTurn (openIndex : Option ℕ) (entries : List Entry) (omissions : Omissions)
    (position : ℕ) (turn : Turn) : List Entry × Omissions × List ConversationTurn :=
  let members := members entries turn
  if members.isEmpty ∧ some position ≠ openIndex then (entries, omissions, [])
  else
    let (completed, finalIndex) := conclusion entries turn
    let omissions := concludeOmissions omissions entries turn
    let entries := finalIndex.elim entries (markFinal entries)
    (entries, omissions, [{
      turnIndex := turn.index
      providerTurnId := some turn.id
      userSourceRefs := members.filterMap fun index => do
        let entry ← entries[index]?
        if entry.message.kind = .instruction then some entry.message.sourceRef else none
      finalSourceRef := finalIndex.bind fun index => entries[index]?.map (·.message.sourceRef)
      completed := completed }])

def finishTurns (openIndex : Option ℕ) (entries : List Entry) (omissions : Omissions) :
    ℕ → List Turn → List Entry × Omissions × List ConversationTurn
  | _, [] => (entries, omissions, [])
  | position, turn :: rest =>
    let (entries, omissions, shown) := finishTurn openIndex entries omissions position turn
    let (entries, omissions, more) := finishTurns openIndex entries omissions (position + 1) rest
    (entries, omissions, shown ++ more)

def liveOmissions (entries : List Entry) (omissions : Omissions) : Omissions :=
  omissions.filter fun omission => omission.reason ≠ "tool_text_truncated" ||
    omission.sourceRef.any fun source => entries.any fun entry => entry.message.sourceRef = source

def finish (p : Parser) : ParsedConversation :=
  let noted := p.omissions.noteIf (!p.pendingUser.isEmpty) "injected_context_excluded"
  let (entries, omissions, turns) :=
    finishTurns p.openIndex p.entries (liveOmissions p.entries noted) 0 p.turns
  { messages := numbered (entries.map (·.message))
    turns := turns
    omissions := omissions
    compacted := p.compacted
    partialRecord := false }

def run (p : Parser) (line : ℕ) : List Value → Except ConversationError Parser
  | [] => .ok p
  | record :: rest => do run (← p.record line record) (line + 1) rest

end Parser

def parse [Sha256] [SerdeJson] (session : String) (records : List Value) :
    Except ConversationError ParsedConversation := do
  return (← (Parser.new session).run 1 records).finish

end VdeTmux.Conversation.Codex
