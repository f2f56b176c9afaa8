import VdeTmux.Conversation.Codex

/-!
# What an accepted record did

A record is read once for its class, without the state of the parser; the step relation says for
each class everything an accepted record changes. Every later invariant is derived from it.
-/

open Foundation
open Foundation.Json (Value SerdeJson)

namespace VdeTmux.Conversation.Codex

inductive RecordClass where
  | other
  | started (payload : Value)
  | ended (payload : Value) (outcome : Outcome)
  | said (payload item : Value)
  | compacted (payload : Value)
  | rolledBack (payload : Value)

def endOutcome (payload : Value) : Outcome :=
  if present (payload.get "error") = true then .failed
  else .completed (payload.strField "last_agent_message")

def classifyEvent (payload : Value) : RecordClass :=
  match payload.strField "type" with
  | some "task_started" | some "turn_started" => .started payload
  | some "task_complete" | some "turn_complete" => .ended payload (endOutcome payload)
  | some "turn_aborted" => .ended payload .aborted
  | some "thread_rolled_back" => .rolledBack payload
  | some "item_completed" =>
    match payload.get "item" with
    | some item => if item.strField "type" = some "UserMessage" then .said payload item else .other
    | none => .other
  | _ => .other

def classify (record : Value) : RecordClass :=
  match record.strField "type", record.get "payload" with
  | some "compacted", some payload => .compacted payload
  | some "event_msg", some payload => classifyEvent payload
  | _, _ => .other

def userText (record : Value) : Option String :=
  match record.strField "type", record.get "payload" with
  | some "response_item", some payload =>
    if payload.strField "type" = some "message" ∧ payload.strField "role" = some "user" then
      (responseUserText (payload.get "content")).toOption
    else none
  | _, _ => none

namespace Parser

def Noted (p p' : Parser) : Prop :=
  ∃ header omissions unknown, p' = { p with
    header := header, omissions := omissions, rollbackAttributionUnknown := unknown }

namespace Noted
variable {p p' p'' : Parser}

theorem refl (p : Parser) : Noted p p := ⟨_, _, _, rfl⟩

theorem trans (h : Noted p p') (h' : Noted p' p'') : Noted p p'' := by
  obtain ⟨_, _, _, rfl⟩ := h
  obtain ⟨_, _, _, rfl⟩ := h'
  exact ⟨_, _, _, rfl⟩

theorem note (h : Noted p p') (reason : String) : Noted p (p'.note reason) :=
  h.trans ⟨_, _, _, rfl⟩

theorem unknown (h : Noted p p') (unknown : Bool) : Noted p (p'.attributionUnknown unknown) :=
  h.trans ⟨_, _, _, rfl⟩

theorem dropped (h : Noted p p') (dropped : List (ℕ × String)) : Noted p (p'.dropPending dropped) := by
  unfold dropPending
  split_ifs
  · exact h
  · exact (h.unknown _).note _

theorem imageNoted (h : Noted p p') (image : Bool) :
    Noted p { p' with omissions := p'.omissions.noteIf image "image_excluded" } :=
  h.trans ⟨_, _, _, rfl⟩

theorem session (h : Noted p p') : p'.session = p.session := by
  obtain ⟨_, _, _, rfl⟩ := h
  rfl

theorem entries (h : Noted p p') : p'.entries = p.entries := by
  obtain ⟨_, _, _, rfl⟩ := h
  rfl

theorem turns (h : Noted p p') : p'.turns = p.turns := by
  obtain ⟨_, _, _, rfl⟩ := h
  rfl

theorem turnIds (h : Noted p p') : p'.turnIds = p.turnIds := by
  obtain ⟨_, _, _, rfl⟩ := h
  rfl

theorem openIndex (h : Noted p p') : p'.openIndex = p.openIndex := by
  obtain ⟨_, _, _, rfl⟩ := h
  rfl

theorem openTurn? (h : Noted p p') : p'.openTurn? = p.openTurn? := by
  obtain ⟨_, _, _, rfl⟩ := h
  rfl

theorem pendingUser (h : Noted p p') : p'.pendingUser = p.pendingUser := by
  obtain ⟨_, _, _, rfl⟩ := h
  rfl

end Noted

def attributed (message : ConversationMessage) (turn : Turn) : ConversationMessage :=
  { message with turnIndex := turn.index, providerTurnId := some turn.id }

theorem push_of_open {p : Parser} {turn : Turn} (h : p.openTurn? = some turn)
    (message : ConversationMessage) (phase : Option Phase) :
    p.push message phase = { p with entries := p.entries ++ [⟨attributed message turn, phase⟩] } := by
  unfold push
  rw [h]
  rfl

theorem openTurn_eq_ok {p : Parser} {turn : Turn} : p.openTurn = .ok turn ↔ p.openTurn? = some turn := by
  unfold openTurn
  cases p.openTurn? with
  | none => simp [fail]
  | some found => simp

def IsReply (message : ConversationMessage) : Prop :=
  (message.role = .assistant ∧ message.kind = .commentary) ∨
    (message.role = .tool ∧ (message.kind = .toolCall ∨ message.kind = .toolResult))

variable [Sha256]

def instruction (p : Parser) (line : ℕ) (item : Value) (text : String) : ConversationMessage :=
  { message (p.ref s!"l{line}") .user .instruction "user" text with
    providerMessageId := item.strField "id" }

def closed (p : Parser) (index : ℕ) (turn : Turn) (outcome : Outcome) : Parser :=
  { p with
    turns := p.turns.set index { turn with outcome := outcome }
    openIndex := none
    pendingUser := [] }

def started (p : Parser) (id : String) : Parser :=
  { p with
    turnIds := id :: p.turnIds
    turns := p.turns ++ [⟨p.nextIndex, id, .opened, false, false⟩]
    openIndex := some p.turns.length }

def summaryOf (p : Parser) (line : ℕ) (payload : Value) : List Entry :=
  match (payload.strField "message").filter (· ≠ "") with
  | some text => [summaryEntry (p.ref s!"l{line}") "summary" text]
  | none => []

def replaced (p : Parser) (entries : List Entry) : Parser :=
  { p with
    entries := entries
    turns := closedCompacted p.openIndex p.turns
    pendingUser := []
    compacted := true }

inductive Step (p : Parser) (line : ℕ) (record : Value) : Parser → Prop
  | noted {p'} (hclass : classify record = .other) (h : Noted p p') : Step p line record p'
  | pending {text} (hclass : classify record = .other) (hopen : p.openIndex.isSome = true)
      (htext : userText record = some text) :
      Step p line record { p with pendingUser := p.pendingUser ++ [(line, text)] }
  | replied {p' turn message phase} (hclass : classify record = .other) (h : Noted p p')
      (hopen : p.openTurn? = some turn) (hreply : IsReply message)
      (hsource : message.sourceRef = p.ref s!"l{line}") :
      Step p line record { p' with
        entries := p.entries ++ [⟨attributed message turn, phase⟩] }
  | started {payload id} (hclass : classify record = .started payload)
      (hopen : p.openIndex = none) (hid : payload.strField "turn_id" = some id)
      (hfresh : id ∉ p.turnIds) : Step p line record (p.started id)
  | ended {p' payload outcome index turn} (hclass : classify record = .ended payload outcome)
      (h : Noted p p') (hindex : p.openIndex = some index) (hopen : p.openTurn? = some turn)
      (hid : payload.strField "turn_id" = some turn.id) :
      Step p line record (p'.closed index turn outcome)
  | said {p' payload item turn text image paired} (hclass : classify record = .said payload item)
      (h : Noted p p') (hopen : p.openTurn? = some turn)
      (hid : payload.strField "turn_id" = some turn.id)
      (htext : userMessageText (item.get "content") = .ok (text, image))
      (hpaired : lastPosition (fun pending => pending.2 = text) p.pendingUser = some paired) :
      Step p line record { p' with
        entries := p.entries ++ [⟨attributed (p.instruction line item text) turn, none⟩]
        pendingUser := p.pendingUser.drop (paired + 1) }
  | compacted {p₁ p₂ p' payload history traced used rebuilt}
      (hclass : classify record = .compacted payload)
      (hhistory : (payload.get "replacement_history").bind Value.asArray = some history)
      (htrace : trace p.entries history = .ok (traced, used)) (h₁ : Noted p p₁)
      (hrebuild : rebuild p₁ line 0 (history.zip traced) = .ok (p₂, rebuilt)) (h : Noted p p') :
      Step p line record (p'.replaced (rebuilt ++ p.summaryOf line payload))
  | unmoved {payload count} (hclass : classify record = .rolledBack payload)
      (hcount : numTurns payload = some count)
      (hnone : count = 0 ∨ cutPosition p.entries count = none) : Step p line record p
  | cut {p' payload count cut entry} (hclass : classify record = .rolledBack payload)
      (hcount : numTurns payload = some count) (hne : count ≠ 0) (hopen : p.openIndex = none)
      (hcut : cutPosition p.entries count = some (cut, entry))
      (h : Noted (p.cutAt cut entry) p') : Step p line record p'

variable {p p' : Parser} {line : ℕ} {record payload item : Value}

theorem userItem_step (hclass : classify record = .other)
    (htext : ∀ text, responseUserText (payload.get "content") = .ok text →
      userText record = some text)
    (h : p.userItem line payload = .ok p') : Step p line record p' := by
  obtain ⟨text, hread, h⟩ := bind_eq_ok.mp h
  by_cases hopen : p.openIndex.isSome = true
  · rw [if_pos hopen] at h
    cases h
    exact .pending hclass hopen (htext text hread)
  · rw [if_neg hopen] at h
    cases h
    exact .noted hclass (((Noted.refl p).unknown _).note _)

theorem push_step {p₁ : Parser} {turn : Turn} {message : ConversationMessage} {phase : Option Phase}
    (hclass : classify record = .other) (h : Noted p p₁) (hopen : p.openTurn? = some turn)
    (hreply : IsReply message) (hsource : message.sourceRef = p.ref s!"l{line}") :
    Step p line record (p₁.push message phase) := by
  rw [push_of_open (h.openTurn?.trans hopen), h.entries]
  exact .replied hclass h hopen hreply hsource

theorem assistantItem_step [SerdeJson] (hclass : classify record = .other)
    (h : p.assistantItem line payload = .ok p') : Step p line record p' := by
  obtain ⟨text, -, h⟩ := bind_eq_ok.mp h
  by_cases hagent : interAgent text = true
  · rw [if_pos hagent] at h
    cases h
    exact .noted hclass (((Noted.refl p).unknown _).note _)
  · rw [if_neg hagent] at h
    obtain ⟨turn, hturn, h⟩ := bind_eq_ok.mp h
    obtain ⟨phase, -, h⟩ := bind_eq_ok.mp h
    cases h
    exact push_step hclass (.refl p) (openTurn_eq_ok.mp hturn) (Or.inl ⟨rfl, rfl⟩) rfl

theorem toolCall_step [SerdeJson] {kind : String} (hclass : classify record = .other)
    (h : p.toolCall line kind payload = .ok p') : Step p line record p' := by
  obtain ⟨turn, hturn, h⟩ := bind_eq_ok.mp h
  split at h
  · cases h
  · cases h
    exact push_step hclass ⟨_, _, _, rfl⟩ (openTurn_eq_ok.mp hturn) (Or.inr ⟨rfl, Or.inl rfl⟩) rfl

theorem toolResult_step [SerdeJson] (hclass : classify record = .other)
    (h : p.toolResult line payload = .ok p') : Step p line record p' := by
  obtain ⟨turn, hturn, h⟩ := bind_eq_ok.mp h
  split at h
  · cases h
  · cases h
    exact push_step hclass ⟨_, _, _, rfl⟩ (openTurn_eq_ok.mp hturn) (Or.inr ⟨rfl, Or.inr rfl⟩) rfl

theorem responseItem_step [SerdeJson] (htype : record.strField "type" = some "response_item")
    (hpayload : record.get "payload" = some payload) (h : p.responseItem line payload = .ok p') :
    Step p line record p' := by
  have hclass : classify record = .other := by
    unfold classify
    rw [htype, hpayload]
    rfl
  unfold responseItem at h
  split at h
  · rename_i hkind
    split at h
    · rename_i hrole
      refine userItem_step hclass (fun text hread => ?_) h
      unfold userText
      rw [htype, hpayload]
      simp [hkind, hrole, hread, Except.toOption]
    · cases h
      exact .noted hclass ((Noted.refl p).note _)
    · cases h
      exact .noted hclass ((Noted.refl p).note _)
    · exact assistantItem_step hclass h
    · cases h
  · cases h
    exact .noted hclass ((Noted.refl p).note _)
  · exact toolCall_step hclass h
  · exact toolCall_step hclass h
  · exact toolResult_step hclass h
  · exact toolResult_step hclass h
  · cases h
    exact .noted hclass (((Noted.refl p).unknown _).note _)
  · cases h
    exact .noted hclass (.refl p)
  · cases h

theorem start_step (hclass : classify record = .started payload) (h : p.start payload = .ok p') :
    Step p line record p' := by
  unfold start at h
  by_cases hopen : p.openIndex.isSome = true
  · rw [if_pos hopen] at h
    cases h
  · rw [if_neg hopen] at h
    split at h
    · cases h
    · rename_i id hid
      have hopen := Option.not_isSome_iff_eq_none.mp hopen
      have hid := (Option.filter_eq_some_iff.mp hid).1
      split_ifs at h with hused
      · cases h
      · cases h
        exact .started hclass hopen hid hused

theorem close_step {outcome : Outcome} (hclass : classify record = .ended payload outcome)
    (h : p.close payload outcome = .ok p') : Step p line record p' := by
  unfold close at h
  split at h
  · rename_i index turn hindex hopen
    split_ifs at h with hid
    · cases h
    · cases h
      have hnoted := (Noted.refl p).dropped p.pendingUser
      have hended : Step p line _ _ := .ended hclass hnoted hindex hopen (not_not.mp hid)
      simpa only [closed, hnoted.turns] using hended
  · cases h

theorem userMessage_step (hclass : classify record = .said payload item)
    (h : p.userMessage line payload item = .ok p') : Step p line record p' := by
  obtain ⟨turn, hturn, h⟩ := bind_eq_ok.mp h
  have hopen := openTurn_eq_ok.mp hturn
  split_ifs at h with hid
  · cases h
  obtain ⟨⟨text, image⟩, htext, h⟩ := bind_eq_ok.mp h
  dsimp only at h
  split at h
  · cases h
  · rename_i paired hpaired
    have hnoted := (Noted.refl p).dropped (p.pendingUser.take paired)
    have himage := hnoted.imageNoted image
    cases h
    rw [@push_of_open _ turn]
    · simp only [hnoted.entries]
      exact .said hclass himage hopen (not_not.mp hid) htext hpaired
    · exact hnoted.openTurn?.trans hopen

theorem itemCompleted_step (hclass : classify record = classifyEvent payload)
    (htype : payload.strField "type" = some "item_completed")
    (h : p.itemCompleted line payload = .ok p') : Step p line record p' := by
  obtain ⟨item, hitem, h⟩ := bind_eq_ok.mp h
  have hget : payload.get "item" = some item := by
    unfold object at hitem
    split at hitem
    · rename_i found hfound
      cases hitem
      exact (Option.filter_eq_some_iff.mp hfound).1
    · cases hitem
  unfold classifyEvent at hclass
  rw [htype, hget] at hclass
  split at h
  · rename_i hkind
    exact userMessage_step (hclass.trans (if_pos hkind)) h
  · rename_i kind hother hkind
    split_ifs at h
    · cases h
      refine .noted (hclass.trans (if_neg ?_)) (.refl p)
      rw [hkind]
      exact fun heq => hother (Option.some.inj heq)
    · cases h
  · cases h

theorem rebuildItem_noted {id : String} {traced : Option ℕ} {shown : List Entry}
    (h : p.rebuildItem id item traced = .ok (p', shown)) : Noted p p' := by
  unfold rebuildItem at h
  split at h
  · split at h
    · cases h
      exact .refl p
    · obtain ⟨text, -, h⟩ := bind_eq_ok.mp h
      split_ifs at h
      · cases h
        exact ((Noted.refl p).unknown true).note _
      · cases h
        exact (Noted.refl p).unknown true
  · cases h
    exact (Noted.refl p).note _
  · cases h
    exact (Noted.refl p).note _
  · cases h
    exact ⟨_, _, _, rfl⟩
  · cases h
    exact ((Noted.refl p).unknown true).note _
  · cases h

theorem rebuild_noted {index : ℕ} {items : List (Value × Option ℕ)} {shown : List Entry}
    (h : rebuild p line index items = .ok (p', shown)) : Noted p p' := by
  induction items generalizing p index shown with
  | nil =>
    cases h
    exact .refl _
  | cons item rest ih =>
    obtain ⟨⟨p₁, first⟩, hfirst, h⟩ := bind_eq_ok.mp h
    obtain ⟨⟨p₂, more⟩, hmore, h⟩ := bind_eq_ok.mp h
    cases h
    exact (rebuildItem_noted hfirst).trans (ih hmore)

theorem compaction_step (hclass : classify record = .compacted payload)
    (h : p.compaction line payload = .ok p') : Step p line record p' := by
  unfold compaction at h
  split at h
  · cases h
  · rename_i history hhistory
    obtain ⟨⟨traced, used⟩, htrace, h⟩ := bind_eq_ok.mp h
    obtain ⟨⟨p₂, rebuilt⟩, hrebuild, h⟩ := bind_eq_ok.mp h
    have hnoted : Noted p { p with
        omissions := p.omissions.filter (·.reason ≠ "compaction_summary_unreadable") } :=
      ⟨_, _, _, rfl⟩
    have hafter := hnoted.trans (rebuild_noted hrebuild)
    have hstep : Step p line _ _ := .compacted hclass hhistory htrace hnoted hrebuild
      (hafter.note "pre_compaction_excluded")
    cases h
    rw [← hafter.openIndex, ← hafter.turns]
    exact hstep

theorem rollback_step (hclass : classify record = .rolledBack payload)
    (h : p.rollback payload = .ok p') : Step p line record p' := by
  unfold rollback at h
  split at h
  · cases h
  · rename_i count hcount
    split_ifs at h with hzero hunknown hopen
    · cases h
      exact .unmoved hclass hcount (Or.inl hzero)
    · cases h
    · cases h
    · split at h
      · rename_i hcut
        cases h
        exact .unmoved hclass hcount (Or.inr hcut)
      · rename_i cut entry hcut
        cases h
        exact .cut hclass hcount hzero (Option.not_isSome_iff_eq_none.mp hopen) hcut (.refl _)

theorem event_step (hclass : classify record = classifyEvent payload)
    (h : p.event line payload = .ok p') : Step p line record p' := by
  have hevent (c : RecordClass) (hc : classifyEvent payload = c) : classify record = c :=
    hclass.trans hc
  unfold event at h
  unfold classifyEvent at hevent
  split at h
  all_goals
    rename_i htype
    simp only [htype] at hevent
  · exact start_step (hevent _ rfl) h
  · exact start_step (hevent _ rfl) h
  · exact close_step (hevent _ rfl) h
  · exact close_step (hevent _ rfl) h
  · exact close_step (hevent _ rfl) h
  · exact itemCompleted_step hclass htype h
  · exact rollback_step (hevent _ rfl) h
  all_goals
    cases h
    try exact .noted (hevent _ rfl) (.refl p)

theorem record_step [SerdeJson] (h : p.record line record = .ok p') : Step p line record p' := by
  unfold Parser.record at h
  split at h
  · cases h
  · rename_i kind hkind
    have hpayload {q : Value → Except ConversationError Parser}
        (h : (do q (← object (record.get "payload"))) = .ok p') :
        ∃ payload, record.get "payload" = some payload ∧ q payload = .ok p' := by
      obtain ⟨payload, hobject, h⟩ := bind_eq_ok.mp h
      unfold object at hobject
      split at hobject
      · rename_i found hfound
        cases hobject
        exact ⟨_, (Option.filter_eq_some_iff.mp hfound).1, h⟩
      · cases hobject
    have hother (h : kind ≠ "compacted") (h' : kind ≠ "event_msg") : classify record = .other := by
      unfold classify
      rw [hkind]
      split
      · rename_i heq _
        exact absurd (Option.some.inj heq) h
      · rename_i heq _
        exact absurd (Option.some.inj heq) h'
      · rfl
    split_ifs at h with hheader hmeta
    · cases h
    · obtain ⟨payload, -, h⟩ := hpayload h
      have hmeta := not_not.mp hmeta
      unfold headerRecord at h
      split_ifs at h
      all_goals cases h
      refine .noted (hother ?_ ?_) ⟨_, _, _, rfl⟩
      all_goals
        rw [hmeta]
        decide
    · split at h
      · cases h
      any_goals
        cases h
        exact .noted (hother (by decide) (by decide)) (.refl _)
      · obtain ⟨payload, hget, h⟩ := hpayload h
        exact responseItem_step hkind hget h
      · obtain ⟨payload, hget, h⟩ := hpayload h
        refine event_step ?_ h
        unfold classify
        rw [hkind, hget]
        rfl
      · obtain ⟨payload, hget, h⟩ := hpayload h
        refine compaction_step ?_ h
        unfold classify
        rw [hkind, hget]
        rfl
      · cases h

end Parser

end VdeTmux.Conversation.Codex
