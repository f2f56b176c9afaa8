import VdeTmux.Conversation.Codex

/-!
# What a finished Codex parse shows

Marking a final message changes nothing the later turns look at. The result is therefore read off
the entries and turns as they stand before: one turn after the other, each with its own final.
-/

open Foundation

namespace VdeTmux.Conversation.Codex.Parser

variable {entries entries' : List Entry} {turn : Turn} {openIndex : Option ℕ}

def unmarked (entry : Entry) : Entry :=
  { entry with message := { entry.message with kind := .final } }

theorem zipIdx_map_filter {α β : Type} (f : α → β) (q : β → Bool) (l : List α) :
    ((l.map f).zipIdx.filter fun x => q x.1).map (·.2) =
      (l.zipIdx.filter fun x => q (f x.1)).map (·.2) := by
  rw [List.zipIdx_map, List.filter_map, List.map_map]
  rfl

theorem members_map_unmarked : members (entries.map unmarked) turn = members entries turn :=
  zipIdx_map_filter unmarked (fun entry => entry.message.turnIndex = turn.index) entries

theorem candidate_map_unmarked : candidate (entries.map unmarked) turn =
    (candidate entries turn).map fun found => (found.1, unmarked found.2) := by
  unfold candidate
  rw [List.zipIdx_map, ← List.map_reverse, List.find?_map, Option.map_map, Option.map_map]
  rfl

theorem filter_map_unmarked (q : Entry → Bool) (h : ∀ entry, q (unmarked entry) = q entry)
    (found : Option (ℕ × Entry)) :
    ((found.map fun found => (found.1, unmarked found.2)).filter fun found => q found.2).map (·.1) =
      (found.filter fun found => q found.2).map (·.1) := by
  cases found with
  | none => rfl
  | some found =>
    simp only [Option.map_some, Option.filter_some, h]
    split_ifs <;> rfl

theorem conclusion_eq : conclusion entries turn =
    if turn.compacted || turn.truncated then
      (match turn.outcome with
        | .completed _ => !turn.truncated
        | _ => false, none)
    else
      match turn.outcome with
      | .completed none => (true, none)
      | .completed (some last) =>
        let final := ((candidate entries turn).filter fun found =>
          found.2.message.text = last).map (·.1)
        (final.isSome, final)
      | .opened =>
        (false, ((candidate entries turn).filter fun found =>
          found.2.phase = some .finalAnswer).map (·.1))
      | .failed | .aborted => (false, none) := by
  unfold conclusion
  split_ifs
  · rfl
  · cases turn.outcome with
    | completed last =>
      cases last with
      | none => rfl
      | some last =>
        dsimp only
        cases (candidate entries turn).filter fun found => found.2.message.text = last <;> rfl
    | _ => rfl

theorem conclusion_map_unmarked :
    conclusion (entries.map unmarked) turn = conclusion entries turn := by
  have htext (last : String) := filter_map_unmarked (fun entry => entry.message.text = last)
    (fun _ => rfl) (candidate entries turn)
  have hphase := filter_map_unmarked (fun entry => entry.phase = some .finalAnswer)
    (fun _ => rfl) (candidate entries turn)
  rw [conclusion_eq, conclusion_eq, candidate_map_unmarked]
  simp only [htext, hphase]

theorem getElem?_markFinal (position i : ℕ) : (markFinal entries position)[i]? =
    if position = i then entries[i]?.map unmarked else entries[i]? := by
  unfold markFinal
  rw [List.getElem?_modify]
  split_ifs
  · rfl
  · exact Option.map_id'

theorem map_unmarked_markFinal (position : ℕ) :
    (markFinal entries position).map unmarked = entries.map unmarked := by
  refine List.ext_getElem? fun i => ?_
  rw [List.getElem?_map, List.getElem?_map, getElem?_markFinal]
  split_ifs
  · rw [Option.map_map]
    rfl
  · rfl

theorem members_congr (h : entries'.map unmarked = entries.map unmarked) :
    members entries' turn = members entries turn := by
  rw [← members_map_unmarked, h, members_map_unmarked]

theorem conclusion_congr (h : entries'.map unmarked = entries.map unmarked) :
    conclusion entries' turn = conclusion entries turn := by
  rw [← conclusion_map_unmarked, h, conclusion_map_unmarked]

def userSourceRefs (entries : List Entry) (turn : Turn) : List String :=
  (members entries turn).filterMap fun index => do
    let entry ← entries[index]?
    if entry.message.kind = .instruction then some entry.message.sourceRef else none

def shownTurn (entries : List Entry) (turn : Turn) : ConversationTurn where
  turnIndex := turn.index
  providerTurnId := some turn.id
  userSourceRefs := userSourceRefs entries turn
  finalSourceRef := (conclusion entries turn).2.bind fun index =>
    entries[index]?.map (·.message.sourceRef)
  completed := (conclusion entries turn).1

def shown (openIndex : Option ℕ) (entries : List Entry) (position : ℕ) (turn : Turn) : Bool :=
  !((members entries turn).isEmpty && decide (some position ≠ openIndex))

def shownTurns (openIndex : Option ℕ) (entries : List Entry) (position : ℕ) (turns : List Turn) :
    List Turn :=
  ((turns.zipIdx position).filter fun turn => shown openIndex entries turn.2 turn.1).map (·.1)

theorem mem_conclusion {i : ℕ} (h : (conclusion entries turn).2 = some i) :
    ∃ entry, entries[i]? = some entry ∧ entry.message.role = .assistant ∧
      entry.message.turnIndex = turn.index := by
  have hcandidate (q : ℕ × Entry → Bool)
      (h : ((candidate entries turn).filter q).map (·.1) = some i) :
      ∃ entry, entries[i]? = some entry ∧ entry.message.role = .assistant ∧
        entry.message.turnIndex = turn.index := by
    obtain ⟨⟨j, entry⟩, hfound, rfl⟩ := Option.map_eq_some_iff.mp h
    obtain ⟨⟨entry', j'⟩, hfind, heq⟩ :=
      Option.map_eq_some_iff.mp (Option.filter_eq_some_iff.mp hfound).1
    cases heq
    have hmem := List.mem_reverse.mp (List.mem_of_find?_eq_some hfind)
    have hq := List.find?_some hfind
    simp only [Bool.and_eq_true, decide_eq_true_eq] at hq
    exact ⟨_, List.mem_zipIdx_iff_getElem?.mp hmem, hq.2, hq.1⟩
  rw [conclusion_eq] at h
  split_ifs at h
  split at h
  · cases h
  · exact hcandidate _ h
  · exact hcandidate _ h
  · cases h
  · cases h

/-- The same entries, except that messages other than instructions may be marked. -/
structure Marked (entries entries' : List Entry) : Prop where
  unmarked : entries'.map unmarked = entries.map unmarked
  instruction : ∀ (i : ℕ) (entry : Entry), entries[i]? = some entry →
    entry.message.kind = .instruction → entries'[i]? = some entry
  other : ∀ (i : ℕ) (entry : Entry), entries[i]? = some entry →
    entry.message.kind ≠ .instruction → ∃ entry', entries'[i]? = some entry' ∧
      entry'.message.kind ≠ .instruction

namespace Marked

theorem refl (entries : List Entry) : Marked entries entries :=
  ⟨rfl, fun _ _ h _ => h, fun _ entry h hkind => ⟨entry, h, hkind⟩⟩

theorem sourceRef (h : Marked entries entries') (i : ℕ) :
    entries'[i]?.map (·.message.sourceRef) = entries[i]?.map (·.message.sourceRef) := by
  have hi := congrArg (fun l : List Entry => l[i]?.map fun entry => entry.message.sourceRef)
    h.unmarked
  simp only [List.getElem?_map, Option.map_map] at hi
  exact hi

theorem mark {i : ℕ} {entry : Entry} (h : Marked entries entries')
    (hentry : entries[i]? = some entry) (hkind : entry.message.kind ≠ .instruction) :
    Marked entries (markFinal entries' i) := by
  refine ⟨(map_unmarked_markFinal i).trans h.unmarked, fun j other hj hinstruction => ?_,
    fun j other hj hother => ?_⟩
  · have hne : i ≠ j := by
      rintro rfl
      rw [hentry] at hj
      cases hj
      exact hkind hinstruction
    rw [getElem?_markFinal, if_neg hne]
    exact h.instruction j other hj hinstruction
  · obtain ⟨entry', hentry', hkind'⟩ := h.other j other hj hother
    rw [getElem?_markFinal]
    split_ifs
    · rw [hentry']
      exact ⟨_, rfl, fun heq => by cases heq⟩
    · exact ⟨entry', hentry', hkind'⟩

theorem userSourceRefs (h : Marked entries entries') :
    userSourceRefs entries' turn = userSourceRefs entries turn := by
  unfold Parser.userSourceRefs
  rw [members_congr h.unmarked]
  refine List.filterMap_congr fun i hi => ?_
  cases hentry : entries[i]? with
  | none =>
    have hi := h.sourceRef i
    rw [hentry, Option.map_none, Option.map_eq_none_iff] at hi
    rw [hi]
  | some entry =>
    by_cases hkind : entry.message.kind = .instruction
    · rw [h.instruction i entry hentry hkind]
    · obtain ⟨entry', hentry', hkind'⟩ := h.other i entry hentry hkind
      rw [hentry']
      simp [hkind, hkind']

theorem shownTurn (h : Marked entries entries') :
    shownTurn entries' turn = shownTurn entries turn := by
  unfold Parser.shownTurn
  rw [h.userSourceRefs, conclusion_congr h.unmarked]
  simp only [h.sourceRef]

end Marked

def finals (openIndex : Option ℕ) (entries : List Entry) (position : ℕ) (turns : List Turn) :
    List ℕ :=
  (shownTurns openIndex entries position turns).filterMap fun turn => (conclusion entries turn).2

def AssistantApart (entries : List Entry) : Prop :=
  ∀ entry ∈ entries, entry.message.role = .assistant → entry.message.kind ≠ .instruction

theorem Marked.conclude (h : Marked entries entries') (hapart : AssistantApart entries)
    (turn : Turn) :
    Marked entries ((conclusion entries turn).2.elim entries' (markFinal entries')) := by
  cases hfinal : (conclusion entries turn).2 with
  | none => exact h
  | some i =>
    obtain ⟨entry, hentry, hrole, -⟩ := mem_conclusion hfinal
    exact h.mark hentry (hapart entry (List.mem_of_getElem? hentry) hrole)

theorem finishTurn_shown (omissions : Omissions) {position : ℕ} (h : Marked entries entries')
    (hapart : AssistantApart entries) (hshown : shown openIndex entries position turn = true) :
    (finishTurn openIndex entries' omissions position turn).1 =
        (conclusion entries turn).2.elim entries' (markFinal entries') ∧
      (finishTurn openIndex entries' omissions position turn).2.2 = [shownTurn entries turn] := by
  have hmarked : shownTurn _ turn = shownTurn entries turn := (h.conclude hapart turn).shownTurn
  unfold finishTurn
  rw [if_neg]
  · simp only [conclusion_congr h.unmarked, members_congr h.unmarked, true_and]
    rw [← hmarked]
    unfold shownTurn userSourceRefs
    simp only [members_congr (h.conclude hapart turn).unmarked,
      conclusion_congr (h.conclude hapart turn).unmarked]
  · rintro ⟨hempty, hclosed⟩
    rw [members_congr h.unmarked] at hempty
    simp [shown, hempty, hclosed] at hshown

theorem finishTurn_hidden (omissions : Omissions) {position : ℕ} (h : Marked entries entries')
    (hshown : shown openIndex entries position turn = false) :
    finishTurn openIndex entries' omissions position turn = (entries', omissions, []) := by
  unfold finishTurn
  rw [if_pos]
  simpa [members_congr h.unmarked, shown] using hshown

theorem shownTurns_cons (position : ℕ) (turns : List Turn) :
    shownTurns openIndex entries position (turn :: turns) =
      if shown openIndex entries position turn = true then
        turn :: shownTurns openIndex entries (position + 1) turns
      else shownTurns openIndex entries (position + 1) turns := by
  unfold shownTurns
  rw [List.zipIdx_cons, List.filter_cons]
  split_ifs <;> rfl

theorem finishTurns_shown {omissions : Omissions} {position : ℕ} {turns : List Turn}
    (h : Marked entries entries') (hapart : AssistantApart entries) :
    (finishTurns openIndex entries' omissions position turns).2.2 =
      (shownTurns openIndex entries position turns).map (shownTurn entries) := by
  induction turns generalizing entries' omissions position with
  | nil => rfl
  | cons turn turns ih =>
    rw [shownTurns_cons]
    by_cases hshown : shown openIndex entries position turn = true
    · obtain ⟨hentries, hturn⟩ := finishTurn_shown omissions h hapart hshown
      have hmarked := h.conclude hapart turn
      rw [← hentries] at hmarked
      rw [if_pos hshown, List.map_cons]
      exact congrArg₂ (· ++ ·) hturn (ih hmarked)
    · rw [if_neg hshown]
      have hhidden := finishTurn_hidden omissions h (Bool.not_eq_true _ ▸ hshown)
      unfold finishTurns
      rw [hhidden]
      exact ih h

theorem finishTurns_entries (omissions : Omissions) (position : ℕ)
    (turns : List Turn) (h : Marked entries entries') (hapart : AssistantApart entries) (i : ℕ) :
    (finishTurns openIndex entries' omissions position turns).1[i]? =
      if i ∈ finals openIndex entries position turns then entries'[i]?.map unmarked
      else entries'[i]? := by
  induction turns generalizing entries' omissions position with
  | nil => rfl
  | cons turn turns ih =>
    unfold finals
    rw [shownTurns_cons]
    by_cases hshown : shown openIndex entries position turn = true
    · obtain ⟨hentries, -⟩ := finishTurn_shown omissions h hapart hshown
      have hmarked := h.conclude hapart turn
      have hrest := ih (finishTurn openIndex entries' omissions position turn).2.1 (position + 1)
        hmarked
      have hhead : (finishTurns openIndex entries' omissions position (turn :: turns)).1 =
          (finishTurns openIndex ((conclusion entries turn).2.elim entries' (markFinal entries'))
            (finishTurn openIndex entries' omissions position turn).2.1 (position + 1) turns).1 := by
        rw [← hentries]
        rfl
      rw [hhead, hrest, if_pos hshown, List.filterMap_cons]
      cases hfinal : (conclusion entries turn).2 with
      | none => rfl
      | some j =>
        simp only [Option.elim_some, List.mem_cons, getElem?_markFinal]
        unfold finals
        by_cases hij : j = i
        · subst hij
          rw [if_pos rfl, if_pos (Or.inl rfl)]
          split_ifs
          · rw [Option.map_map]
            rfl
          · rfl
        · simp only [hij, Ne.symm hij, if_false, false_or]
    · rw [if_neg hshown]
      have hhidden := finishTurn_hidden omissions h (Bool.not_eq_true _ ▸ hshown)
      unfold finishTurns
      rw [hhidden]
      exact ih _ _ h

variable {p : Parser}

def shownMessage (p : Parser) (i : ℕ) (entry : Entry) : ConversationMessage :=
  { entry.message with
    kind := if i ∈ finals p.openIndex p.entries 0 p.turns then .final else entry.message.kind
    order := i + 1 }

theorem finish_messages (hapart : AssistantApart p.entries) (i : ℕ) :
    p.finish.messages[i]? = p.entries[i]?.map (p.shownMessage i) := by
  have hentries : (finishTurns p.openIndex p.entries _ 0 p.turns).1[i]? = _ :=
    finishTurns_entries (liveOmissions p.entries
      (p.omissions.noteIf (!p.pendingUser.isEmpty) "injected_context_excluded"))
      0 p.turns (.refl p.entries) hapart i
  unfold finish numbered
  rw [List.getElem?_mapIdx, List.getElem?_map, hentries]
  cases p.entries[i]? with
  | none => split_ifs <;> rfl
  | some entry =>
    unfold shownMessage
    split_ifs <;> rfl

theorem finish_turns (hapart : AssistantApart p.entries) : p.finish.turns =
    (shownTurns p.openIndex p.entries 0 p.turns).map (shownTurn p.entries) :=
  finishTurns_shown (.refl p.entries) hapart

end VdeTmux.Conversation.Codex.Parser
