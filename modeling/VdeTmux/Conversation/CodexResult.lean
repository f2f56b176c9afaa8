import VdeTmux.Conversation.CodexEntries
import VdeTmux.Conversation.CodexFinish

/-!
# The conversation of a Codex transcript

Whatever records were accepted, the turns of the result stand in their order under distinct ids,
and what a turn says of its messages is so: its user references are those of its instructions, its
final reference is that of its last message from the assistant. A compaction leaves the last copies
of an instruction, as many as the replacement history holds.
-/

open Foundation
open Foundation.Json (Value SerdeJson)

namespace VdeTmux.Conversation

/-- What a conversation says of its turns and messages. -/
structure ParsedConversation.Accounts (parsed : ParsedConversation) : Prop where
  increasing : parsed.turns.Pairwise fun a b => a.turnIndex < b.turnIndex
  distinct : (parsed.turns.map (·.providerTurnId)).Nodup
  orders : ∀ (i : ℕ) (message : ConversationMessage), parsed.messages[i]? = some message →
    message.order = i + 1
  instructions : ∀ turn ∈ parsed.turns, ∀ ref, ref ∈ turn.userSourceRefs ↔
    ∃ message ∈ parsed.messages, message.turnIndex = turn.turnIndex ∧
      message.kind = .instruction ∧ message.sourceRef = ref
  final : ∀ turn ∈ parsed.turns, ∀ ref, turn.finalSourceRef = some ref →
    ∃ message ∈ parsed.messages, message.sourceRef = ref ∧ message.kind = .final ∧
      message.role = .assistant ∧ message.turnIndex = turn.turnIndex ∧
      ∀ other ∈ parsed.messages, other.role = .assistant → other.turnIndex = turn.turnIndex →
        other.order ≤ message.order
  finals : ∀ message ∈ parsed.messages, message.kind = .final →
    ∃ turn ∈ parsed.turns, turn.turnIndex = message.turnIndex ∧
      turn.finalSourceRef = some message.sourceRef

namespace Codex.Parser
variable {entries : List Entry} {turn : Turn} {p : Parser} {i : ℕ} {entry : Entry}

theorem mem_members {index : ℕ} : index ∈ members entries turn ↔
    ∃ entry, entries[index]? = some entry ∧ entry.message.turnIndex = turn.index := by
  unfold members
  constructor
  · intro h
    obtain ⟨⟨entry, j⟩, hmem, rfl⟩ := List.mem_map.mp h
    obtain ⟨hzip, hturn⟩ := List.mem_filter.mp hmem
    exact ⟨entry, List.mem_zipIdx_iff_getElem?.mp hzip, of_decide_eq_true hturn⟩
  · rintro ⟨entry, hentry, hturn⟩
    exact List.mem_map.mpr ⟨(entry, index), List.mem_filter.mpr
      ⟨List.mem_zipIdx_iff_getElem?.mpr hentry, decide_eq_true hturn⟩, rfl⟩

theorem candidate_last (h : candidate entries turn = some (i, entry)) {j : ℕ} {other : Entry}
    (hother : entries[j]? = some other) (hturn : other.message.turnIndex = turn.index)
    (hrole : other.message.role = .assistant) : j ≤ i := by
  obtain ⟨⟨entry', i'⟩, hfind, heq⟩ := Option.map_eq_some_iff.mp h
  cases heq
  have hsorted : entries.zipIdx.reverse.Pairwise fun a b => b.2 < a.2 := by
    rw [List.pairwise_reverse]
    have hrange : (entries.zipIdx.map Prod.snd).Pairwise (· < ·) := by
      rw [List.zipIdx_map_snd]
      exact List.pairwise_lt_range'
    exact List.pairwise_map.mp hrange
  obtain ⟨-, before, after, hsplit, hbefore⟩ := List.find?_eq_some_iff_append.mp hfind
  have hmem : (other, j) ∈ entries.zipIdx.reverse :=
    List.mem_reverse.mpr (List.mem_zipIdx_iff_getElem?.mpr hother)
  rw [hsplit] at hsorted hmem
  rcases List.mem_append.mp hmem with hmem | hmem
  · have hno := hbefore _ hmem
    simp [hturn, hrole] at hno
  · rcases List.mem_cons.mp hmem with heq | hmem
    · cases heq
      exact le_rfl
    · have hlt := (List.pairwise_cons.mp (List.pairwise_append.mp hsorted).2.1).1 _ hmem
      exact Nat.le_of_lt hlt

theorem conclusion_candidate (h : (conclusion entries turn).2 = some i) :
    ∃ entry, candidate entries turn = some (i, entry) := by
  have hfiltered (q : ℕ × Entry → Bool)
      (h : ((candidate entries turn).filter q).map (·.1) = some i) :
      ∃ entry, candidate entries turn = some (i, entry) := by
    obtain ⟨⟨j, entry⟩, hfound, rfl⟩ := Option.map_eq_some_iff.mp h
    exact ⟨entry, (Option.filter_eq_some_iff.mp hfound).1⟩
  rw [conclusion_eq] at h
  split_ifs at h
  split at h
  · cases h
  · exact hfiltered _ h
  · exact hfiltered _ h
  · cases h
  · cases h

theorem shownTurns_sublist (entries : List Entry) (openIndex : Option ℕ) (position : ℕ)
    (turns : List Turn) :
    (shownTurns openIndex entries position turns).Sublist turns := by
  unfold shownTurns
  have hkept : (((turns.zipIdx position).filter fun turn =>
      shown openIndex entries turn.2 turn.1).map (·.1)).Sublist
      ((turns.zipIdx position).map (·.1)) := List.filter_sublist.map _
  rwa [List.zipIdx_map_fst] at hkept

theorem mem_finals : i ∈ finals p.openIndex p.entries 0 p.turns ↔
    ∃ turn ∈ shownTurns p.openIndex p.entries 0 p.turns,
      (conclusion p.entries turn).2 = some i := by
  unfold finals
  exact List.mem_filterMap

theorem mem_messages (hapart : AssistantApart p.entries) {message : ConversationMessage} :
    message ∈ p.finish.messages ↔
      ∃ (i : ℕ) (entry : Entry), p.entries[i]? = some entry ∧ p.shownMessage i entry = message := by
  rw [List.mem_iff_getElem?]
  refine exists_congr fun i => ?_
  rw [finish_messages hapart, Option.map_eq_some_iff]

theorem mem_turns (hapart : AssistantApart p.entries) {turn : ConversationTurn} :
    turn ∈ p.finish.turns ↔ ∃ shown ∈ shownTurns p.openIndex p.entries 0 p.turns,
      shownTurn p.entries shown = turn := by
  rw [finish_turns hapart, List.mem_map]

theorem shownMessage_instruction (hapart : AssistantApart p.entries)
    (hentry : p.entries[i]? = some entry) :
    (p.shownMessage i entry).kind = .instruction ↔ entry.message.kind = .instruction := by
  unfold shownMessage
  by_cases hfinal : i ∈ finals p.openIndex p.entries 0 p.turns
  · obtain ⟨turn, -, hconclusion⟩ := mem_finals.mp hfinal
    obtain ⟨entry', hentry', hrole, -⟩ := mem_conclusion hconclusion
    obtain rfl := Option.some.inj (hentry.symm.trans hentry')
    have hkind := hapart entry (List.mem_of_getElem? hentry) hrole
    simp only [if_pos hfinal, hkind, reduceCtorEq]
  · simp only [if_neg hfinal]

theorem finish_instructions (hapart : AssistantApart p.entries) (turn : Turn) (ref : String) :
    ref ∈ userSourceRefs p.entries turn ↔ ∃ message ∈ p.finish.messages,
      message.turnIndex = turn.index ∧ message.kind = .instruction ∧ message.sourceRef = ref := by
  unfold userSourceRefs
  rw [List.mem_filterMap]
  constructor
  · rintro ⟨i, hmem, href⟩
    obtain ⟨entry, hentry, hturn⟩ := mem_members.mp hmem
    simp only [hentry, Option.bind_eq_bind, Option.bind_some] at href
    split_ifs at href with hkind
    exact ⟨p.shownMessage i entry, (mem_messages hapart).mpr ⟨i, entry, hentry, rfl⟩, hturn,
      (shownMessage_instruction hapart hentry).mpr hkind, Option.some.inj href⟩
  · rintro ⟨message, hmem, hturn, hkind, rfl⟩
    obtain ⟨i, entry, hentry, rfl⟩ := (mem_messages hapart).mp hmem
    have hkind := (shownMessage_instruction hapart hentry).mp hkind
    refine ⟨i, mem_members.mpr ⟨entry, hentry, hturn⟩, ?_⟩
    simp only [hentry, Option.bind_eq_bind, Option.bind_some, if_pos hkind]
    rfl

theorem finish_final (hapart : AssistantApart p.entries)
    (hshown : turn ∈ shownTurns p.openIndex p.entries 0 p.turns) {ref : String}
    (href : (shownTurn p.entries turn).finalSourceRef = some ref) :
    ∃ message ∈ p.finish.messages, message.sourceRef = ref ∧ message.kind = .final ∧
      message.role = .assistant ∧ message.turnIndex = turn.index ∧
      ∀ other ∈ p.finish.messages, other.role = .assistant → other.turnIndex = turn.index →
        other.order ≤ message.order := by
  obtain ⟨i, hconclusion, href⟩ := Option.bind_eq_some_iff.mp href
  obtain ⟨entry, hentry, rfl⟩ := Option.map_eq_some_iff.mp href
  obtain ⟨entry', hentry', hrole, hturn⟩ := mem_conclusion hconclusion
  obtain rfl := Option.some.inj (hentry.symm.trans hentry')
  obtain ⟨last, hcandidate⟩ := conclusion_candidate hconclusion
  have hfinal : i ∈ finals p.openIndex p.entries 0 p.turns := mem_finals.mpr ⟨turn, hshown, hconclusion⟩
  refine ⟨p.shownMessage i entry, (mem_messages hapart).mpr ⟨i, entry, hentry, rfl⟩, rfl,
    if_pos hfinal, hrole, hturn, fun other hother hrole' hturn' => ?_⟩
  obtain ⟨j, entry', hentry', rfl⟩ := (mem_messages hapart).mp hother
  exact Nat.succ_le_succ (candidate_last hcandidate hentry' hturn' hrole')

theorem finish_finals (hkept : EntriesKept p) (hapart : AssistantApart p.entries)
    {message : ConversationMessage} (hmem : message ∈ p.finish.messages)
    (hkind : message.kind = .final) :
    ∃ turn ∈ p.finish.turns, turn.turnIndex = message.turnIndex ∧
      turn.finalSourceRef = some message.sourceRef := by
  obtain ⟨i, entry, hentry, rfl⟩ := (mem_messages hapart).mp hmem
  by_cases hfinal : i ∈ finals p.openIndex p.entries 0 p.turns
  · obtain ⟨turn, hshown, hconclusion⟩ := mem_finals.mp hfinal
    obtain ⟨entry', hentry', -, hturn⟩ := mem_conclusion hconclusion
    obtain rfl := Option.some.inj (hentry.symm.trans hentry')
    refine ⟨shownTurn p.entries turn, (mem_turns hapart).mpr ⟨turn, hshown, rfl⟩, hturn.symm, ?_⟩
    exact Option.bind_eq_some_iff.mpr ⟨i, hconclusion, by rw [hentry]; rfl⟩
  · have hkind : entry.message.kind = .final := by
      unfold shownMessage at hkind
      simpa only [if_neg hfinal] using hkind
    have hshaped := hkept.shaped entry (List.mem_of_getElem? hentry)
    simp [Shaped, hkind] at hshaped

/-- What is at the positions used stands among the entries after a compaction as it was, and the
instructions there are no others. -/
structure Retains (entries : List Entry) (history : List Value) (entries' : List Entry)
    (used : List ℕ) : Prop where
  once : used.Nodup
  exact : ∀ (i : ℕ) (entry : Entry), entries[i]? = some entry → entry.retainable = true →
    (i ∈ used ↔ Occurrences.later retainKey entries i entry.message.text <
      copies history entry.message.text)
  retained : ((used.filterMap fun found => entries[found]?).map (·.message)).Sublist
    (entries'.map (·.message))
  instructions : (entries'.filter fun entry => entry.message.kind = .instruction).map (·.message) =
    ((used.filterMap fun found => entries[found]?).filter fun entry =>
      entry.message.kind = .instruction).map (·.message)

section Compaction
variable [Sha256] {p' : Parser} {line : ℕ} {payload : Value}

theorem summaryOf_instructions :
    (p.summaryOf line payload).filter (fun entry => entry.message.kind = .instruction) = [] := by
  refine List.filter_eq_nil_iff.mpr fun entry hentry => ?_
  obtain ⟨text, rfl⟩ := mem_summaryOf hentry
  simp [summaryEntry, message]

end Compaction

def repeated [Sha256] : Parser := { Parser.new "s" with
  entries := ["a", "b"].map fun source => ⟨message source .user .instruction "user" "Go on", none⟩ }

def keptOnce : Value :=
  .object [("replacement_history", .array [.object [("type", .string "message"),
    ("role", .string "user"),
    ("content", .array [.object [("type", .string "input_text"), ("text", .string "Go on")]])]])]

end Codex.Parser

namespace Codex

/-- What a conversation read off a transcript says of its turns is so. -/
theorem parse_accounts [Sha256] [SerdeJson] {session : String} {records : List Value}
    {parsed : ParsedConversation} (h : parse session records = .ok parsed) : parsed.Accounts := by
  obtain ⟨p, hreach, hfinish⟩ := bind_eq_ok.mp h
  obtain rfl := Except.ok.inj hfinish
  have hreach : Parser.Reaches session records p := hreach
  have hturns := hreach.turnsKept
  have hentries := hreach.entriesKept
  have hapart : Parser.AssistantApart p.entries := hreach.assistantApart
  have hsublist := Parser.shownTurns_sublist p.entries p.openIndex 0 p.turns
  constructor
  · rw [Parser.finish_turns hapart]
    exact List.pairwise_map.mpr ((List.pairwise_map.mp hturns.increasing).sublist hsublist)
  · rw [Parser.finish_turns hapart, List.map_map]
    have hids := hturns.ids
    rw [Parser.labels, List.map_map] at hids
    exact hids.sublist (hsublist.map _)
  · intro i message hmessage
    rw [Parser.finish_messages hapart] at hmessage
    obtain ⟨entry, -, rfl⟩ := Option.map_eq_some_iff.mp hmessage
    rfl
  · intro turn hturn ref
    obtain ⟨shown, -, rfl⟩ := (Parser.mem_turns hapart).mp hturn
    exact Parser.finish_instructions hapart shown ref
  · intro turn hturn ref href
    obtain ⟨shown, hshown, rfl⟩ := (Parser.mem_turns hapart).mp hturn
    exact Parser.finish_final hapart hshown href
  · intro message hmem hkind
    exact Parser.finish_finals hentries hapart hmem hkind

def answered : List Value :=
  [.object [("type", .string "session_meta"), ("payload", .object [("id", .string "s"),
      ("thread_source", .string "user")])],
    .object [("type", .string "event_msg"), ("payload", .object [("type", .string "task_started"),
      ("turn_id", .string "t")])],
    .object [("type", .string "response_item"), ("payload", .object [("type", .string "message"),
      ("role", .string "user"),
      ("content", .array [.object [("type", .string "input_text"), ("text", .string "Fix it")]])])],
    .object [("type", .string "event_msg"), ("payload", .object [
      ("type", .string "item_completed"), ("turn_id", .string "t"),
      ("item", .object [("type", .string "UserMessage"),
        ("content", .array [.object [("type", .string "text"), ("text", .string "Fix it")]])])])],
    .object [("type", .string "response_item"), ("payload", .object [("type", .string "message"),
      ("role", .string "assistant"),
      ("content", .array [.object [("type", .string "output_text"), ("text", .string "Done")]])])],
    .object [("type", .string "event_msg"), ("payload", .object [
      ("type", .string "task_complete"), ("turn_id", .string "t"),
      ("last_agent_message", .string "Done")])]]

theorem answered_accounts :
    letI := Sha256.constant
    letI : SerdeJson := ⟨fun _ => none, fun _ => ""⟩
    ∃ parsed, parse "s" answered = .ok parsed ∧ parsed.turns.any (·.finalSourceRef.isSome) = true ∧
      parsed.Accounts := by
  let := Sha256.constant
  let : SerdeJson := ⟨fun _ => none, fun _ => ""⟩
  have hfinal : ((parse "s" answered).toOption.any fun parsed =>
      parsed.turns.any (·.finalSourceRef.isSome)) = true := by decide +kernel
  cases hparse : parse "s" answered with
  | error e =>
    rw [hparse] at hfinal
    cases hfinal
  | ok parsed =>
    rw [hparse] at hfinal
    exact ⟨parsed, rfl, hfinal, parse_accounts hparse⟩

end Codex

end VdeTmux.Conversation
