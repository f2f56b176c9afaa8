import Mathlib.Data.List.Nodup
import VdeTmux.Conversation.CodexSteps

/-!
# Turns and entries of every Codex transcript

The open turn is always the last one, turn indices grow and no turn id comes back. The entries are
what the latest compaction retained, then what was said since, in the order of the turns.
-/

open Foundation
open Foundation.Json (Value SerdeJson)

namespace VdeTmux.Conversation.Codex.Parser

variable {p p' q : Parser} {session : String} {T : List Value} {line : ℕ} {record : Value}

def labels (turns : List Turn) : List (ℕ × Option String) :=
  turns.map fun turn => (turn.index, some turn.id)

theorem labels_closedCompacted (openIndex : Option ℕ) (turns : List Turn) :
    labels (closedCompacted openIndex turns) = labels turns := by
  unfold labels closedCompacted
  refine List.ext_getElem? fun i => ?_
  rw [List.getElem?_map, List.getElem?_map, List.getElem?_mapIdx, Option.map_map]
  refine Option.map_congr fun turn _ => ?_
  simp only [Function.comp_apply]
  split_ifs <;> rfl

theorem labels_set {index : ℕ} {turn : Turn} {turns : List Turn} (h : turns[index]? = some turn)
    (outcome : Outcome) : labels (turns.set index { turn with outcome := outcome }) = labels turns := by
  unfold labels
  refine List.ext_getElem? fun i => ?_
  rw [List.getElem?_map, List.getElem?_map, List.getElem?_set]
  split_ifs with hi
  · subst hi
    obtain ⟨hlt, rfl⟩ := List.getElem?_eq_some_iff.mp h
    simp [hlt]
  · rename_i hlt
    subst hi
    rw [List.getElem?_eq_none (Nat.le_of_not_lt hlt)] at h
    cases h
  · rfl

theorem mem_retainTurns {c : ℕ} {kept : Bool} {turns : List Turn} {turn : Turn}
    (h : turn ∈ retainTurns c kept turns) :
    (turn ∈ turns ∧ turn.index < c) ∨
      (kept = true ∧ turn.index = c ∧ ∃ t ∈ turns, turn = { t with truncated := true }) := by
  unfold retainTurns at h
  obtain ⟨hmem, hq⟩ := List.mem_filter.mp h
  obtain ⟨t, ht, rfl⟩ := List.mem_map.mp hmem
  simp only [Bool.or_eq_true, decide_eq_true_eq, Bool.and_eq_true] at hq
  by_cases hcut : t.index = c ∧ kept = true
  · rw [if_pos hcut]
    exact Or.inr ⟨hcut.2, hcut.1, t, ht, rfl⟩
  · rw [if_neg hcut] at hq ⊢
    exact Or.inl ⟨ht, hq.resolve_right hcut⟩

theorem labels_retainTurns (c : ℕ) (kept : Bool) (turns : List Turn) :
    labels (retainTurns c kept turns) =
      (labels turns).filter fun label => label.1 < c || (label.1 = c && kept) := by
  unfold labels retainTurns
  rw [List.filter_map, List.map_map, List.filter_map]
  have hindex (turn : Turn) : (if turn.index = c ∧ kept = true then
      { turn with truncated := true } else turn).index = turn.index := by
    split_ifs <;> rfl
  have hid (turn : Turn) : (if turn.index = c ∧ kept = true then
      { turn with truncated := true } else turn).id = turn.id := by
    split_ifs <;> rfl
  simp only [Function.comp_def, hindex, hid]

structure TurnsKept (p : Parser) : Prop where
  last : ∀ index, p.openIndex = some index → index + 1 = p.turns.length
  opened : ∀ (index : ℕ) (turn : Turn), p.turns[index]? = some turn →
    (turn.outcome = .opened ↔ p.openIndex = some index)
  current : ∀ turn, p.openTurn? = some turn → turn.compacted = false ∧ turn.truncated = false
  increasing : (labels p.turns).Pairwise fun a b => a.1 < b.1
  positive : ∀ label ∈ labels p.turns, 0 < label.1
  ids : ((labels p.turns).map (·.2)).Nodup
  known : ∀ label ∈ labels p.turns, ∃ id ∈ p.turnIds, label.2 = some id

namespace TurnsKept

theorem new : TurnsKept (new session) where
  last _ h := by cases h
  opened _ _ h := by cases h
  current _ h := by cases h
  increasing := List.Pairwise.nil
  positive := List.forall_mem_nil _
  ids := List.nodup_nil
  known := List.forall_mem_nil _

theorem same (h : TurnsKept p) (hturns : p'.turns = p.turns) (hids : p'.turnIds = p.turnIds)
    (hopen : p'.openIndex = p.openIndex) : TurnsKept p' := by
  have hcurrent : p'.openTurn? = p.openTurn? := by
    unfold openTurn?
    rw [hopen, hturns]
  constructor
  · rw [hopen, hturns]
    exact h.last
  · rw [hopen, hturns]
    exact h.opened
  · rw [hcurrent]
    exact h.current
  · rw [hturns]
    exact h.increasing
  · rw [hturns]
    exact h.positive
  · rw [hturns]
    exact h.ids
  · rw [hturns, hids]
    exact h.known

theorem openTurn_mem {turn : Turn} (hopen : p.openTurn? = some turn) :
    ∃ index, p.openIndex = some index ∧ p.turns[index]? = some turn :=
  Option.bind_eq_some_iff.mp hopen

theorem le_open (h : TurnsKept p) {turn : Turn} (hopen : p.openTurn? = some turn) {label : ℕ × Option String}
    (hlabel : label ∈ labels p.turns) : label.1 ≤ turn.index := by
  obtain ⟨index, hindex, hturn⟩ := openTurn_mem hopen
  have hlength := h.last index hindex
  obtain ⟨hlt, hget⟩ := List.getElem?_eq_some_iff.mp hturn
  obtain ⟨i, hi, rfl⟩ := List.mem_iff_getElem.mp hlabel
  have hlen : (labels p.turns).length = p.turns.length := List.length_map _
  have hbound : index < (labels p.turns).length := by omega
  have hlast : (labels p.turns)[index] = (turn.index, some turn.id) := by
    simp [labels, hget]
  rcases Nat.lt_or_ge i index with hlt' | hge
  · have hless := List.pairwise_iff_getElem.mp h.increasing i index hi (by omega) hlt'
    rw [hlast] at hless
    exact Nat.le_of_lt hless
  · obtain rfl : i = index := by omega
    exact le_of_eq (congrArg Prod.fst hlast)

theorem lt_nextIndex (h : TurnsKept p) {label : ℕ × Option String} (hlabel : label ∈ labels p.turns) :
    label.1 < p.nextIndex := by
  unfold nextIndex
  obtain ⟨i, hi, rfl⟩ := List.mem_iff_getElem.mp hlabel
  have hlen : (labels p.turns).length = p.turns.length := List.length_map _
  have hbound : p.turns.length - 1 < p.turns.length := by omega
  have hlast : p.turns.getLast? = some p.turns[p.turns.length - 1] := by
    rw [List.getLast?_eq_getElem?, List.getElem?_eq_getElem]
  rw [hlast]
  rcases Nat.lt_or_ge i (p.turns.length - 1) with hlt | hge
  · have hless := List.pairwise_iff_getElem.mp h.increasing i (p.turns.length - 1) hi (by omega) hlt
    simp only [labels, List.getElem_map] at hless ⊢
    exact Nat.lt_succ_of_lt hless
  · obtain rfl : i = p.turns.length - 1 := by omega
    simp [labels]

theorem nextIndex_pos : 0 < p.nextIndex := by
  unfold nextIndex
  cases p.turns.getLast? with
  | none => exact Nat.one_pos
  | some turn => exact Nat.succ_pos _

theorem started (h : TurnsKept p) (hopen : p.openIndex = none) {id : String} (hfresh : id ∉ p.turnIds) :
    TurnsKept (p.started id) := by
  have hlabels : labels (p.started id).turns = labels p.turns ++ [(p.nextIndex, some id)] := by
    simp [labels, Parser.started]
  constructor
  · rintro index hindex
    cases hindex
    simp [Parser.started]
  · intro index turn hturn
    simp only [Parser.started, List.getElem?_append, List.getElem?_singleton] at hturn ⊢
    split_ifs at hturn with hlt heq
    · rw [h.opened index turn hturn, hopen]
      refine iff_of_false (fun h => by cases h) fun heq => ?_
      cases heq
      exact Nat.lt_irrefl _ hlt
    · cases hturn
      exact iff_of_true rfl (congrArg some (by omega))
  · intro turn hturn
    simp only [openTurn?, Parser.started, Option.bind_some, List.getElem?_concat_length] at hturn
    cases hturn
    exact ⟨rfl, rfl⟩
  · rw [hlabels]
    refine List.pairwise_append.mpr ⟨h.increasing, List.pairwise_singleton _ _, fun a ha b hb => ?_⟩
    rw [List.mem_singleton.mp hb]
    exact h.lt_nextIndex ha
  · rw [hlabels]
    refine List.forall_mem_append.mpr ⟨h.positive, ?_⟩
    exact List.forall_mem_singleton.mpr nextIndex_pos
  · rw [hlabels, List.map_append]
    refine List.nodup_append.mpr ⟨h.ids, List.nodup_singleton _, fun a ha b hb heq => ?_⟩
    obtain ⟨label, hlabel, rfl⟩ := List.mem_map.mp ha
    obtain ⟨other, hother, hsome⟩ := h.known label hlabel
    rw [List.mem_singleton.mp hb, hsome] at heq
    exact hfresh (Option.some.inj heq ▸ hother)
  · rw [hlabels]
    refine List.forall_mem_append.mpr ⟨fun label hlabel => ?_, ?_⟩
    · obtain ⟨other, hother, hsome⟩ := h.known label hlabel
      exact ⟨other, List.mem_cons_of_mem _ hother, hsome⟩
    · exact List.forall_mem_singleton.mpr ⟨id, List.mem_cons_self, rfl⟩

theorem ended (h : TurnsKept p) {index : ℕ} {turn : Turn} (hindex : p.openIndex = some index)
    (hturn : p.turns[index]? = some turn) {outcome : Outcome} (hclosed : outcome ≠ .opened) :
    TurnsKept (p.closed index turn outcome) := by
  have hlabels : labels (p.closed index turn outcome).turns = labels p.turns := labels_set hturn outcome
  constructor
  · intro i hi
    cases hi
  · intro i t ht
    refine iff_of_false (fun hopened => ?_) fun h => by cases h
    simp only [closed, List.getElem?_set] at ht
    split_ifs at ht with hi
    · cases ht
      exact hclosed hopened
    · exact hi (Option.some.inj (hindex.symm.trans ((h.opened i t ht).mp hopened)))
  · intro t ht
    cases ht
  · rw [hlabels]
    exact h.increasing
  · rw [hlabels]
    exact h.positive
  · rw [hlabels]
    exact h.ids
  · rw [hlabels]
    exact h.known

theorem replaced (h : TurnsKept p) (entries : List Entry) : TurnsKept (p.replaced entries) := by
  have hlabels : labels (p.replaced entries).turns = labels p.turns :=
    labels_closedCompacted p.openIndex p.turns
  have hget (i : ℕ) : (p.replaced entries).turns[i]? = p.turns[i]?.map fun turn =>
      if some i ≠ p.openIndex then { turn with compacted := true } else turn :=
    List.getElem?_mapIdx
  constructor
  · intro index hindex
    rw [show (p.replaced entries).turns.length = p.turns.length from List.length_mapIdx]
    exact h.last index hindex
  · intro index turn hturn
    rw [hget] at hturn
    obtain ⟨t, ht, rfl⟩ := Option.map_eq_some_iff.mp hturn
    rw [show (p.replaced entries).openIndex = p.openIndex from rfl, ← h.opened index t ht]
    split_ifs <;> rfl
  · intro turn hturn
    obtain ⟨index, hindex, hturn⟩ := Option.bind_eq_some_iff.mp hturn
    rw [hget, show p.openIndex = some index from hindex] at hturn
    refine h.current turn ?_
    unfold openTurn?
    rw [show p.openIndex = some index from hindex]
    simpa using hturn
  · rw [hlabels]
    exact h.increasing
  · rw [hlabels]
    exact h.positive
  · rw [hlabels]
    exact h.ids
  · rw [hlabels]
    exact h.known

theorem cut (h : TurnsKept p) (hopen : p.openIndex = none) (cut : ℕ) (entry : Entry) :
    TurnsKept (p.cutAt cut entry) := by
  have hlabels : (labels (p.cutAt cut entry).turns).Sublist (labels p.turns) := by
    rw [show (p.cutAt cut entry).turns = retainTurns _ _ p.turns from rfl, labels_retainTurns]
    exact List.filter_sublist
  have hnone : (p.cutAt cut entry).openIndex = none := hopen
  constructor
  · intro i hi
    rw [hnone] at hi
    cases hi
  · intro i t ht
    rw [hnone]
    refine iff_of_false (fun hopened => ?_) fun h => by cases h
    have hclosed (t' : Turn) (ht' : t' ∈ p.turns) : t'.outcome ≠ .opened := by
      obtain ⟨j, hj⟩ := List.mem_iff_getElem?.mp ht'
      rw [ne_eq, h.opened j t' hj, hopen]
      exact fun h => by cases h
    rcases mem_retainTurns (List.mem_of_getElem? ht) with ⟨hmem, -⟩ | ⟨-, -, t', ht', rfl⟩
    · exact hclosed t hmem hopened
    · exact hclosed t' ht' hopened
  · intro t ht
    rw [openTurn?, hnone] at ht
    cases ht
  · exact h.increasing.sublist hlabels
  · exact fun label hlabel => h.positive label (hlabels.subset hlabel)
  · exact h.ids.sublist (hlabels.map _)
  · exact fun label hlabel => h.known label (hlabels.subset hlabel)

end TurnsKept

variable [Sha256] [SerdeJson]

def Reaches (session : String) (T : List Value) (p : Parser) : Prop :=
  (new session).run 1 T = .ok p

theorem run_append (xs ys : List Value) :
    p.run line (xs ++ ys) = (p.run line xs >>= fun q => q.run (line + xs.length) ys) := by
  induction xs generalizing p line with
  | nil => rfl
  | cons x xs ih =>
    simp only [List.cons_append, run, List.length_cons]
    cases p.record line x with
    | error e => rfl
    | ok q =>
      have hq : q.run (line + 1) (xs ++ ys) = _ := ih
      refine hq.trans ?_
      rw [Nat.add_right_comm, Nat.add_assoc]
      rfl

theorem reaches_nil : Reaches session [] p ↔ p = new session :=
  ⟨fun h => (Except.ok.inj h).symm, fun h => congrArg Except.ok h.symm⟩

theorem reaches_snoc {r : Value} : Reaches session (T ++ [r]) p' ↔
    ∃ p, Reaches session T p ∧ p.record (T.length + 1) r = .ok p' := by
  unfold Reaches
  rw [run_append, bind_eq_ok, Nat.add_comm 1]
  refine exists_congr fun p => and_congr_right fun _ => ?_
  cases hrecord : p.record (T.length + 1) r with
  | error e => simp [run, hrecord, bind, Except.bind]
  | ok q => simp [run, hrecord, bind, Except.bind]

theorem Reaches.rule {I : List Value → Parser → Prop} (hnew : I [] (new session))
    (hstep : ∀ (T : List Value) (p p' : Parser) (r : Value), Reaches session T p → I T p →
      Step p (T.length + 1) r p' → I (T ++ [r]) p') (h : Reaches session T p) : I T p := by
  induction T using List.reverseRecOn generalizing p with
  | nil =>
    rw [reaches_nil.mp h]
    exact hnew
  | append_singleton T r ih =>
    obtain ⟨q, hq, hrecord⟩ := reaches_snoc.mp h
    exact hstep T q p r hq (ih hq) (record_step hrecord)

theorem Reaches.unique (h : Reaches session T p) (h' : Reaches session T q) : p = q :=
  Except.ok.inj (h.symm.trans h')

omit [Sha256] [SerdeJson] in
theorem classify_ended {payload : Value} {outcome : Outcome}
    (h : classify record = .ended payload outcome) : outcome ≠ .opened := by
  rintro rfl
  unfold classify classifyEvent endOutcome at h
  split at h
  · cases h
  · split at h
    · cases h
    · cases h
    · split_ifs at h <;> cases h
    · split_ifs at h <;> cases h
    · cases h
    · cases h
    · split at h
      · split_ifs at h
      · cases h
    · cases h
  · cases h

omit [SerdeJson] in
theorem TurnsKept.step (h : TurnsKept p) (hstep : Step p line record p') : TurnsKept p' := by
  cases hstep with
  | noted _ hn => exact h.same hn.turns hn.turnIds hn.openIndex
  | pending => exact h.same rfl rfl rfl
  | replied _ hn => exact h.same hn.turns hn.turnIds hn.openIndex
  | started _ hopen _ hfresh => exact h.started hopen hfresh
  | ended hclass hn hindex hopen =>
    obtain ⟨index, hindex', hturn⟩ := openTurn_mem hopen
    obtain rfl := Option.some.inj (hindex.symm.trans hindex')
    refine (h.same hn.turns hn.turnIds hn.openIndex).ended (hn.openIndex.trans hindex)
      (hn.turns ▸ hturn) (classify_ended hclass)
  | said _ hn => exact h.same hn.turns hn.turnIds hn.openIndex
  | compacted _ _ _ _ _ hn => exact (h.same hn.turns hn.turnIds hn.openIndex).replaced _
  | unmoved => exact h
  | cut _ _ _ hopen _ hn => exact (h.cut hopen _ _).same hn.turns hn.turnIds hn.openIndex

theorem Reaches.turnsKept (h : Reaches session T p) : TurnsKept p :=
  h.rule (I := fun _ p => TurnsKept p) TurnsKept.new fun _ _ _ _ _ ih hstep => ih.step hstep

end VdeTmux.Conversation.Codex.Parser
