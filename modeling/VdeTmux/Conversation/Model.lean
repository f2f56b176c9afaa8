import VdeTmux.Foundation.Digest
import VdeTmux.Foundation.Json
import VdeTmux.Foundation.JsonValue
import VdeTmux.Foundation.Outcome

/-!
# Conversations read from provider transcripts

Messages, turns and omission notes, and what the two parsers share: references to the source of a
message, clipped tool bodies, and the message they start from.
-/

open Foundation

namespace VdeTmux.Conversation

inductive MessageRole where
  | user | assistant | tool | summary
  deriving DecidableEq, Repr

inductive MessageKind where
  | instruction | commentary | final | toolCall | toolResult | compactionSummary
  deriving DecidableEq, Repr

structure ConversationMessage where
  sourceRef : String
  order : ℕ
  role : MessageRole
  kind : MessageKind
  originalRole : String
  text : String
  textComplete : Bool
  textDigest : String
  providerMessageId : Option String
  providerTurnId : Option String
  turnIndex : ℕ
  toolCallId : Option String
  deriving DecidableEq, Repr

structure ConversationTurn where
  turnIndex : ℕ
  providerTurnId : Option String
  userSourceRefs : List String
  finalSourceRef : Option String
  completed : Bool
  deriving DecidableEq, Repr

structure HistoryOmission where
  reason : String
  sourceRef : Option String
  omittedTextDigest : Option String
  deriving DecidableEq, Repr

structure ParsedConversation where
  messages : List ConversationMessage
  turns : List ConversationTurn
  omissions : List HistoryOmission
  compacted : Bool
  partialRecord : Bool
  deriving DecidableEq, Repr

structure ConversationError where
  text : String
  deriving DecidableEq, Repr

def fail {α : Type} (reason : String) : Except ConversationError α := .error ⟨reason⟩

variable [Sha256]

def digest (text : String) : String := sha256Hex (utf8 text)

def sourceRef (provider session id : String) : String :=
  "vtm1:" ++ digest (Json.strings [provider, session, id])

/-- No two of the named sources have the same digest. -/
def NoCollision (provider session : String) (ids : List String) : Prop :=
  ∀ a ∈ ids, ∀ b ∈ ids, digest (Json.strings [provider, session, a]) =
    digest (Json.strings [provider, session, b]) →
      Json.strings [provider, session, a] = Json.strings [provider, session, b]

omit [Sha256] in
theorem strings_last_injective {provider session a b : String}
    (h : Json.strings [provider, session, a] = Json.strings [provider, session, b]) : a = b := by
  have htext := congrArg String.toList h
  simp only [Json.strings, Json.array, List.map_cons, List.map_nil, String.intercalate_cons_cons,
    String.intercalate_singleton, String.toList_append, List.append_assoc] at htext
  have hquote := List.append_cancel_right (List.append_cancel_left (List.append_cancel_left
    (List.append_cancel_left (List.append_cancel_left (List.append_cancel_left htext)))))
  exact Json.quote_injective (String.toList_inj.mp hquote)

theorem NoCollision.eq {provider session : String} {ids : List String}
    (h : NoCollision provider session ids) {a b : String} (ha : a ∈ ids) (hb : b ∈ ids)
    (hsame : sourceRef provider session a = sourceRef provider session b) : a = b := by
  have htext := congrArg String.toList hsame
  simp only [sourceRef, String.toList_append] at htext
  exact strings_last_injective
    (h a ha b hb (String.toList_inj.mp (List.append_cancel_left htext)))

abbrev Omissions := List HistoryOmission

namespace Omissions

/-- A reason without a source is recorded once. -/
def note (omissions : Omissions) (reason : String) : Omissions :=
  if omissions.any fun omission => omission.reason = reason ∧ omission.sourceRef = none then
    omissions
  else omissions ++ [⟨reason, none, none⟩]

def noteAt (omissions : Omissions) (reason sourceRef : String) : Omissions :=
  omissions ++ [⟨reason, some sourceRef, none⟩]

def noteIf (omissions : Omissions) (noted : Bool) (reason : String) : Omissions :=
  if noted then omissions.note reason else omissions

end Omissions

def toolTextMaxBytes : ℕ := 512

def clipToolText (text sourceRef : String) (omissions : Omissions) : String × Omissions :=
  if Text.byteLen text ≤ toolTextMaxBytes then (text, omissions)
  else (String.ofList (Text.takeBytes toolTextMaxBytes text.toList),
    omissions ++ [⟨"tool_text_truncated", some sourceRef, some (digest text)⟩])

def message (sourceRef : String) (role : MessageRole) (kind : MessageKind)
    (originalRole text : String) : ConversationMessage where
  sourceRef := sourceRef
  order := 0
  role := role
  kind := kind
  originalRole := originalRole
  text := text
  textComplete := true
  textDigest := digest text
  providerMessageId := none
  providerTurnId := none
  turnIndex := 0
  toolCallId := none

def numbered (messages : List ConversationMessage) : List ConversationMessage :=
  messages.mapIdx fun index message => { message with order := index + 1 }

end VdeTmux.Conversation
