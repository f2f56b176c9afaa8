import VdeTmux.Foundation.Trace
import VdeTmux.Daemon.StatusPush

/-!
# No display update is lost

Runs of calls of the status push, with the values tmux holds. While a batch is under way it may
write any of its values at any time, and when it is reported as succeeded it has written all.
-/

open Foundation VdeTmux.Pane
namespace VdeTmux.Daemon

/-! ## One call -/

namespace StatusPushState
variable {s : StatusPushState} {key : DisplayOptionKey} {value : DisplayOptionValue}

structure Candidate (s : StatusPushState) (key : DisplayOptionKey) (value : DisplayOptionValue) :
    Prop where
  desired : s.desired[key]? = some value
  relevant : s.relevant key = true
  unsettled : key ∈ s.dirty ∨ s.lastSuccessful[key]? ≠ some value

theorem candidates_iff : s.candidates[key]? = some value ↔ s.Candidate key value := by
  rw [candidates, Maps.getElem?_filter_eq_some]
  simp only [Bool.and_eq_true, Bool.or_eq_true, decide_eq_true_eq, Std.ExtTreeSet.contains_iff_mem]
  exact ⟨fun ⟨h, hr, hu⟩ => ⟨h, hr, hu⟩, fun ⟨h, hr, hu⟩ => ⟨h, hr, hu⟩⟩

theorem candidates_isEmpty :
    s.candidates.isEmpty = true ↔ ∀ key value, ¬s.Candidate key value := by
  rw [Std.ExtTreeMap.isEmpty_iff]
  constructor
  · intro h key value hcandidate
    rw [← candidates_iff, h] at hcandidate
    simp at hcandidate
  · intro h
    refine Std.ExtTreeMap.ext_getElem? fun {key} => ?_
    rw [Std.ExtTreeMap.getElem?_empty, Option.eq_none_iff_forall_ne_some]
    exact fun value hvalue => h key value (candidates_iff.mp hvalue)

def restrict (s : StatusPushState) (keep : DisplayOptionKey → Bool) : StatusPushState :=
  { s with
    desired := s.desired.filter fun key _ => keep key
    dirty := s.dirty.filter keep
    lastSuccessful := s.lastSuccessful.filter fun key _ => keep key }

theorem paneRemoved_eq (s : StatusPushState) (pane : PaneInstance) :
    s.paneRemoved pane = s.restrict fun key => key ≠ .paneStatus pane := by
  have hmap (m : DisplayValues) :
      m.erase (.paneStatus pane) = m.filter fun key _ => key ≠ .paneStatus pane := by
    refine Std.ExtTreeMap.ext_getElem? fun {key} => Option.ext fun value => ?_
    rw [Maps.getElem?_filter_eq_some, Maps.getElem?_erase]
    split_ifs with h <;> simp [h]
  have hset (m : Std.ExtTreeSet DisplayOptionKey) :
      m.erase (.paneStatus pane) = m.filter fun key => key ≠ .paneStatus pane := by
    refine Std.ExtTreeSet.ext_mem fun key => ?_
    rw [Std.ExtTreeSet.mem_filter, Std.ExtTreeSet.mem_erase]
    simp [and_comm, @eq_comm _ (DisplayOptionKey.paneStatus pane)]
  simp only [paneRemoved, restrict, hmap, hset]

def underWay (s : StatusPushState) (now : ℕ) : StatusPushState :=
  { s with
    nextBatchId := s.nextBatchId + 1
    inFlight := some ⟨s.nextBatchId, s.candidates⟩
    lastAttemptAt := some now
    pendingCoalescedTrigger := false }

def batch (s : StatusPushState) : PreparedDisplayBatch :=
  ⟨s.nextBatchId, s.expectedServer, s.candidates.toList⟩

def Due (s : StatusPushState) (now : ℕ) : Prop :=
  ∀ last, s.lastAttemptAt = some last → last + statusPushMinInterval ≤ now

def given : Except StatusPushError StatusPushDecision → Option PreparedDisplayBatch
  | .ok (.batch prepared) => some prepared
  | _ => none

inductive Flush (s : StatusPushState) (now : ℕ) :
    Except StatusPushError StatusPushDecision × StatusPushState → Prop
  | kept {result} (hnone : given result = none) : Flush s now (result, s)
  | cleared (hidle : s.inFlight = none) (hempty : ∀ key value, ¬s.Candidate key value) :
    Flush s now (.ok .noChanges, { s with pendingCoalescedTrigger := false })
  | prepared (hidle : s.inFlight = none) (hdue : s.Due now) :
    Flush s now (.ok (.batch s.batch), s.underWay now)

theorem prepare_flush {now : ℕ} (hidle : s.inFlight = none) (hdue : s.Due now) :
    Flush s now (s.prepare s.candidates now) := by
  unfold prepare
  split
  · exact .kept rfl
  · rename_i hnext
    obtain ⟨-, rfl⟩ := increment_eq_ok.mp hnext
    exact .prepared hidle hdue

theorem checkedAdd_cases (left right : ℕ) :
    checkedAdd left right = .ok (left + right) ∨ checkedAdd left right = .error .clockOverflow := by
  unfold checkedAdd
  split
  · exact Or.inl rfl
  · exact Or.inr rfl

theorem checkedAdd_of_le {left right : ℕ} (h : left + right ≤ maxDuration) :
    checkedAdd left right = .ok (left + right) := if_pos (Nat.le_sub_of_add_le h)

theorem prepareIfDue_flush (s : StatusPushState) (now : ℕ) : Flush s now (s.prepareIfDue now) := by
  unfold prepareIfDue
  split
  · exact .kept rfl
  rename_i hidle
  have hidle : s.inFlight = none := by simpa using hidle
  split
  · rename_i hempty
    exact .cleared hidle (candidates_isEmpty.mp hempty)
  split
  · rename_i hlast
    exact prepare_flush hidle fun last h => by rw [hlast] at h; cases h
  · rename_i last hlast
    split
    · exact .kept rfl
    · rename_i readyAt hready
      split
      · exact .kept rfl
      · rename_i hdue
        refine prepare_flush hidle fun last' hlast' => ?_
        obtain rfl := Option.some.inj (hlast.symm.trans hlast')
        rcases checkedAdd_cases last statusPushMinInterval with hok | herror
        · rw [hok] at hready
          cases hready
          exact Nat.not_lt.mp hdue
        · rw [herror] at hready
          cases hready

theorem prepareIfDue_due {now : ℕ} (hidle : s.inFlight = none) (hdue : s.Due now)
    (hnow : now ≤ maxDuration) (hroom : s.nextBatchId < u64Max)
    (hcandidate : s.Candidate key value) :
    s.prepareIfDue now = (.ok (.batch s.batch), s.underWay now) := by
  have hsome : s.candidates.isEmpty = false := by
    by_contra hempty
    exact candidates_isEmpty.mp (by simpa using hempty) _ _ hcandidate
  have hprepare : s.prepare s.candidates now = (.ok (.batch s.batch), s.underWay now) := by
    unfold prepare
    rw [increment_of_lt hroom]
    rfl
  unfold prepareIfDue
  rw [hidle, hsome]
  simp only [Option.isSome_none, Bool.false_eq_true, if_false]
  cases hlast : s.lastAttemptAt with
  | none => exact hprepare
  | some last =>
    have hready := hdue last hlast
    simp only [checkedAdd_of_le (hready.trans hnow)]
    rw [if_neg (Nat.not_lt.mpr hready)]
    exact hprepare

/-! The end of a batch. -/

variable {succeeded : Bool}

def SameAim (s s' : StatusPushState) : Prop :=
  s' = { s with lastSuccessful := s'.lastSuccessful, dirty := s'.dirty }

def Counts (s : StatusPushState) (key : DisplayOptionKey) : Prop :=
  s.relevant key = true ∧ key ∈ s.desired

def SameAt (key : DisplayOptionKey) (s s' : StatusPushState) : Prop :=
  s'.lastSuccessful[key]? = s.lastSuccessful[key]? ∧ (key ∈ s'.dirty ↔ key ∈ s.dirty)

theorem settle_skip {attempted : DisplayOptionKey × DisplayOptionValue}
    (h : ¬s.Counts attempted.1) : settle succeeded s attempted = s := by
  unfold settle
  rw [if_pos]
  by_cases hrelevant : s.relevant attempted.1 = true
  · exact Or.inr fun hdesired => h ⟨hrelevant, hdesired⟩
  · exact Or.inl (by simpa using hrelevant)

theorem settle_count {attempted : DisplayOptionKey × DisplayOptionValue}
    (h : s.Counts attempted.1) : settle succeeded s attempted =
      if succeeded then
        { s with
          lastSuccessful := s.lastSuccessful.insert attempted.1 attempted.2
          dirty := s.dirty.erase attempted.1 }
      else { s with dirty := s.dirty.insert attempted.1 } := by
  unfold settle
  rw [if_neg]
  rintro (hskip | hskip)
  · rw [h.1] at hskip
    cases hskip
  · exact hskip h.2

theorem settle_aim (s : StatusPushState) (attempted : DisplayOptionKey × DisplayOptionValue) :
    SameAim s (settle succeeded s attempted) := by
  by_cases h : s.Counts attempted.1
  · rw [settle_count h]
    split_ifs <;> rfl
  · rw [settle_skip h]
    rfl

theorem settle_other {attempted : DisplayOptionKey × DisplayOptionValue} (h : key ≠ attempted.1) :
    SameAt key s (settle succeeded s attempted) := by
  by_cases hcounts : s.Counts attempted.1
  · rw [settle_count hcounts]
    split_ifs
    · refine ⟨?_, ?_⟩
      · rw [Maps.getElem?_insert, if_neg h]
      · simp [Std.ExtTreeSet.mem_erase, Ne.symm h]
    · exact ⟨rfl, by simp [Std.ExtTreeSet.mem_insert, Ne.symm h]⟩
  · rw [settle_skip hcounts]
    exact ⟨rfl, Iff.rfl⟩

theorem SameAim.trans {s₁ s₂ s₃ : StatusPushState} (h : SameAim s₁ s₂) (h' : SameAim s₂ s₃) :
    SameAim s₁ s₃ := by
  unfold SameAim at h h' ⊢
  rw [h', h]

theorem SameAim.counts {s s' : StatusPushState} (h : SameAim s s') : s'.Counts key ↔ s.Counts key := by
  rw [h]
  rfl

theorem SameAt.trans {s₁ s₂ s₃ : StatusPushState} (h : SameAt key s₁ s₂) (h' : SameAt key s₂ s₃) :
    SameAt key s₁ s₃ :=
  ⟨h'.1.trans h.1, h'.2.trans h.2⟩

theorem settleAll_aim (succeeded : Bool) (s : StatusPushState)
    (l : List (DisplayOptionKey × DisplayOptionValue)) :
    SameAim s (l.foldl (settle succeeded) s) := by
  induction l generalizing s with
  | nil => rfl
  | cons attempted l ih => exact (settle_aim s attempted).trans (ih _)

theorem settleAll_other {l : List (DisplayOptionKey × DisplayOptionValue)}
    (h : ∀ value, (key, value) ∉ l) : SameAt key s (l.foldl (settle succeeded) s) := by
  induction l generalizing s with
  | nil => exact ⟨rfl, Iff.rfl⟩
  | cons attempted l ih =>
    have hne : key ≠ attempted.1 := by
      rintro rfl
      exact h attempted.2 List.mem_cons_self
    exact (settle_other hne).trans (ih fun value hmem => h value (List.mem_cons_of_mem _ hmem))

theorem settleAll_skip {l : List (DisplayOptionKey × DisplayOptionValue)} (h : ¬s.Counts key) :
    SameAt key s (l.foldl (settle succeeded) s) := by
  induction l generalizing s with
  | nil => exact ⟨rfl, Iff.rfl⟩
  | cons attempted l ih =>
    have hfirst : SameAt key s (settle succeeded s attempted) := by
      by_cases hkey : key = attempted.1
      · subst hkey
        rw [settle_skip h]
        exact ⟨rfl, Iff.rfl⟩
      · exact settle_other hkey
    exact hfirst.trans (ih ((settle_aim s attempted).counts.not.mpr h))

def Settled (succeeded : Bool) (key : DisplayOptionKey) (value : DisplayOptionValue)
    (s s' : StatusPushState) : Prop :=
  if succeeded then s'.lastSuccessful[key]? = some value ∧ key ∉ s'.dirty
  else s'.lastSuccessful[key]? = s.lastSuccessful[key]? ∧ key ∈ s'.dirty

theorem settle_settled (h : s.Counts key) :
    Settled succeeded key value s (settle succeeded s (key, value)) := by
  rw [settle_count h]
  unfold Settled
  split_ifs
  · exact ⟨by rw [Maps.getElem?_insert, if_pos rfl], by simp [Std.ExtTreeSet.mem_erase]⟩
  · exact ⟨rfl, by simp⟩

theorem Settled.before {s₁ s₂ s₃ : StatusPushState} (h : Settled succeeded key value s₁ s₂)
    (h' : SameAt key s₂ s₃) : Settled succeeded key value s₁ s₃ := by
  unfold Settled at h ⊢
  split_ifs at h ⊢ with hsucceeded
  · exact ⟨h'.1.trans h.1, h'.2.not.mpr h.2⟩
  · exact ⟨h'.1.trans h.1, h'.2.mpr h.2⟩

theorem Settled.after {s₁ s₂ s₃ : StatusPushState} (h : SameAt key s₁ s₂)
    (h' : Settled succeeded key value s₂ s₃) : Settled succeeded key value s₁ s₃ := by
  unfold Settled at h' ⊢
  split_ifs at h' ⊢ with hsucceeded
  · exact h'
  · exact ⟨h'.1.trans h.1, h'.2⟩

theorem settleAll_settled {l : List (DisplayOptionKey × DisplayOptionValue)}
    (hdistinct : l.Pairwise fun a b => a.1 ≠ b.1) (hmem : (key, value) ∈ l) (h : s.Counts key) :
    Settled succeeded key value s (l.foldl (settle succeeded) s) := by
  induction l generalizing s with
  | nil => cases hmem
  | cons attempted l ih =>
    obtain ⟨hhead, hdistinct⟩ := List.pairwise_cons.mp hdistinct
    rcases List.mem_cons.mp hmem with rfl | hmem
    · exact (settle_settled h).before (settleAll_other fun value' hvalue' => hhead _ hvalue' rfl)
    · exact Settled.after (settle_other (hhead _ hmem).symm)
        (ih hdistinct hmem ((settle_aim s attempted).counts.mpr h))

def ended (s : StatusPushState) (inFlight : InFlightBatch) (succeeded : Bool) : StatusPushState :=
  let settled := inFlight.attempted.toList.foldl (settle succeeded) { s with inFlight := none }
  if succeeded = false ∧ settled.dirty.isEmpty = false then
    { settled with pendingCoalescedTrigger := true }
  else settled

theorem ended_eq (s : StatusPushState) (b : InFlightBatch) (succeeded : Bool) :
    s.ended b succeeded = { s with
      inFlight := none
      lastSuccessful := (s.ended b succeeded).lastSuccessful
      dirty := (s.ended b succeeded).dirty
      pendingCoalescedTrigger := (s.ended b succeeded).pendingCoalescedTrigger } := by
  have h := settleAll_aim succeeded { s with inFlight := none } b.attempted.toList
  unfold ended
  dsimp only
  split <;> rw [h]

theorem ended_desired (b : InFlightBatch) : (s.ended b succeeded).desired = s.desired := by
  rw [ended_eq]

theorem ended_relevant (b : InFlightBatch) :
    (s.ended b succeeded).relevant key = s.relevant key := by
  rw [ended_eq]
  rfl

theorem ended_inFlight (b : InFlightBatch) : (s.ended b succeeded).inFlight = none := by
  rw [ended_eq]

theorem ended_known (b : InFlightBatch) :
    SameAt key (b.attempted.toList.foldl (settle succeeded) { s with inFlight := none })
      (s.ended b succeeded) := by
  unfold ended
  dsimp only
  split <;> exact ⟨rfl, Iff.rfl⟩

theorem ended_trigger {b : InFlightBatch} (h : (s.ended b succeeded).pendingCoalescedTrigger = false) :
    s.pendingCoalescedTrigger = false ∧ (succeeded = false → ∀ key, key ∉ (s.ended b succeeded).dirty) := by
  have haim := settleAll_aim succeeded { s with inFlight := none } b.attempted.toList
  unfold ended at h ⊢
  dsimp only at h ⊢
  split_ifs at h ⊢ with hretry
  rw [haim] at h
  refine ⟨h, fun hfailed key hkey => hretry ⟨hfailed, ?_⟩⟩
  by_contra hempty
  rw [Bool.not_eq_false, Std.ExtTreeSet.isEmpty_iff] at hempty
  rw [hempty] at hkey
  exact Std.ExtTreeSet.not_mem_empty hkey

theorem ended_other {b : InFlightBatch} (h : key ∉ b.attempted ∨ ¬s.Counts key) :
    SameAt key s (s.ended b succeeded) := by
  have hfirst : SameAt key s
      (b.attempted.toList.foldl (settle succeeded) { s with inFlight := none }) := ?_
  · exact hfirst.trans (ended_known b)
  rcases h with hattempted | hcounts
  · refine settleAll_other (s := { s with inFlight := none }) fun value hmem => hattempted ?_
    rw [Std.ExtTreeMap.mem_toList_iff_getElem?_eq_some] at hmem
    exact Maps.mem_iff_exists.mpr ⟨value, hmem⟩
  · exact settleAll_skip (s := { s with inFlight := none }) hcounts

theorem ended_settled {b : InFlightBatch} (succeeded : Bool) (hvalue : b.attempted[key]? = some value)
    (h : s.Counts key) : Settled succeeded key value s (s.ended b succeeded) := by
  have hdistinct : b.attempted.toList.Pairwise fun x y => x.1 ≠ y.1 := by
    refine Std.ExtTreeMap.distinct_keys_toList.imp fun hne heq => hne ?_
    rw [heq]
    exact Std.ReflCmp.compare_self
  have hsettled := @settleAll_settled { s with inFlight := none } key value succeeded _
    hdistinct (Std.ExtTreeMap.mem_toList_iff_getElem?_eq_some.mpr hvalue) h
  exact Settled.before hsettled (ended_known b)

theorem completeBatch_cases (s : StatusPushState) (id : ℕ) (succeeded : Bool) :
    (∃ b, s.inFlight = some b ∧ b.id = id ∧
      s.completeBatch id succeeded = (.ok (), s.ended b succeeded)) ∨
    s.completeBatch id succeeded = (.error (.unknownBatch id), s) := by
  unfold completeBatch
  cases hinFlight : s.inFlight with
  | none => exact Or.inr rfl
  | some b =>
    by_cases hid : b.id = id
    · refine Or.inl ⟨b, rfl, hid, ?_⟩
      exact if_neg (not_not_intro hid)
    · exact Or.inr (if_pos hid)

theorem executePrepared_cases (s : StatusPushState) (prepared : PreparedDisplayBatch)
    (outcome : DisplayBatchIoOutcome) :
    (∃ b execution, s.inFlight = some b ∧ s.executePrepared prepared outcome =
      (.ok execution, s.ended b (outcome = .succeeded))) ∨
    ∃ e, s.executePrepared prepared outcome = (.error e, s) := by
  unfold executePrepared
  cases s.validatePrepared prepared with
  | error e => exact Or.inr ⟨e, rfl⟩
  | ok _ =>
    rcases completeBatch_cases s prepared.id (outcome = .succeeded) with ⟨b, hb, -, h⟩ | h
    · exact Or.inl ⟨b, _, hb, by simp only [h]; rfl⟩
    · exact Or.inr ⟨_, by simp only [h]; rfl⟩

end StatusPushState

/-! ## Runs -/

inductive PushCall
  | onSnapshotRevision (snapshotRevision : ℕ) (frame : DisplayValues)
  | flushCoalesced
  | requestShutdown (marker : String)

inductive PushOp
  | call (now : ℕ) (call : PushCall)
  | paneRemoved (pane : PaneInstance)
  | retainTopologyTargets (sessions : Std.ExtTreeSet String) (panes : Std.ExtTreeSet PaneInstance)
  /-- The batch under way has written its value of a key. -/
  | writes (key : DisplayOptionKey)
  | completeBatch (id : ℕ) (succeeded : Bool)
  | executePrepared (prepared : PreparedDisplayBatch) (outcome : DisplayBatchIoOutcome)

def PushOp.marker : PushOp → Option String
  | .call _ (.requestShutdown marker) => some marker
  | _ => none

namespace StatusPushState

def answer (s : StatusPushState) (now : ℕ) :
    PushCall → Except StatusPushError StatusPushDecision × StatusPushState
  | .onSnapshotRevision snapshotRevision frame => s.onSnapshotRevision snapshotRevision now frame
  | .flushCoalesced => s.flushCoalesced now
  | .requestShutdown marker => s.requestShutdown now marker

def after (s : StatusPushState) : PushOp → StatusPushState
  | .call now call => (s.answer now call).2
  | .paneRemoved pane => s.paneRemoved pane
  | .retainTopologyTargets sessions panes => s.retainTopologyTargets sessions panes
  | .writes _ => s
  | .completeBatch id succeeded => (s.completeBatch id succeeded).2
  | .executePrepared prepared outcome => (s.executePrepared prepared outcome).2

def prepares (s : StatusPushState) : PushOp → Option PreparedDisplayBatch
  | .call now call => given (s.answer now call).1
  | _ => none

def ends (s : StatusPushState) : PushOp → Option (InFlightBatch × Bool)
  | .completeBatch id succeeded =>
    if (s.completeBatch id succeeded).1.isOk then s.inFlight.map (·, succeeded) else none
  | .executePrepared prepared outcome =>
    if (s.executePrepared prepared outcome).1.isOk then
      s.inFlight.map (·, decide (outcome = .succeeded))
    else none
  | _ => none

def posed (s : StatusPushState) : PushCall → StatusPushState
  | .onSnapshotRevision snapshotRevision frame => s.accept snapshotRevision frame
  | .flushCoalesced => s
  | .requestShutdown marker => s.beginShutdown marker

def Opens (s : StatusPushState) : PushCall → Prop
  | .onSnapshotRevision _ _ => s.shuttingDown = false
  | .flushCoalesced => s.pendingCoalescedTrigger = true
  | .requestShutdown _ => True

theorem answer_cases (s : StatusPushState) (now : ℕ) (call : PushCall) :
    ((PushOp.call now call).marker = none ∧ (s.answer now call).2 = s ∧
      given (s.answer now call).1 = none) ∨
    (s.Opens call ∧ s.answer now call = (s.posed call).prepareIfDue now) := by
  cases call with
  | onSnapshotRevision snapshotRevision frame =>
    simp only [answer, onSnapshotRevision]
    split_ifs with hstopped hregressed hsame
    · exact Or.inl ⟨rfl, rfl, rfl⟩
    · exact Or.inl ⟨rfl, rfl, rfl⟩
    · exact Or.inl ⟨rfl, rfl, rfl⟩
    · cases validateFrame frame.toList with
      | error e => exact Or.inl ⟨rfl, rfl, rfl⟩
      | ok _ => exact Or.inr ⟨Bool.eq_false_iff.mpr hstopped, rfl⟩
  | flushCoalesced =>
    simp only [answer, flushCoalesced]
    split_ifs with htrigger
    · exact Or.inl ⟨rfl, rfl, rfl⟩
    · exact Or.inr ⟨by simpa [Opens] using htrigger, rfl⟩
  | requestShutdown marker => exact Or.inr ⟨trivial, rfl⟩

end StatusPushState

/-- The status push and the values that tmux holds. -/
structure Display where
  push : StatusPushState
  held : DisplayOptionKey → DisplayOptionValue

namespace Display
variable {d d' : Display} {op : PushOp} {key : DisplayOptionKey} {value : DisplayOptionValue}

def heldAfter (d : Display) (op : PushOp) : DisplayOptionKey → DisplayOptionValue :=
  match op, d.push.ends op with
  | .writes key, _ =>
    match d.push.inFlight.bind (·.attempted[key]?) with
    | some value => Function.update d.held key value
    | none => d.held
  | _, some (b, true) => fun key => b.attempted[key]?.getD (d.held key)
  | _, _ => d.held

def perform (d : Display) (op : PushOp) : Display := ⟨d.push.after op, d.heldAfter op⟩

def Step (d : Display) (op : PushOp) (d' : Display) : Prop := d.perform op = d'

/-- What a step changes, with the batch it prepares and the batch it ends. -/
inductive Changes (d : Display) :
    PushOp → Option PreparedDisplayBatch → Option (InFlightBatch × Bool) → Display → Prop
  | kept {op : PushOp} (hop : op.marker = none) : Changes d op none none d
  | flushed {now : ℕ} {call : PushCall} {result : Except StatusPushError StatusPushDecision}
    {push : StatusPushState} (hopen : d.push.Opens call)
    (h : (d.push.posed call).Flush now (result, push)) :
    Changes d (.call now call) (StatusPushState.given result) none ⟨push, d.held⟩
  | restricted {op : PushOp} (keep : DisplayOptionKey → Bool) (hop : op.marker = none)
    (hglobal : keep .legacyGlobalSummary = true) :
    Changes d op none none ⟨d.push.restrict keep, d.held⟩
  | writes {key : DisplayOptionKey} {b : InFlightBatch} {value : DisplayOptionValue}
    (hb : d.push.inFlight = some b) (hvalue : b.attempted[key]? = some value) :
    Changes d (.writes key) none none ⟨d.push, Function.update d.held key value⟩
  | ended {op : PushOp} {b : InFlightBatch} (succeeded : Bool) (hop : op.marker = none)
    (hb : d.push.inFlight = some b) :
    Changes d op none (some (b, succeeded)) ⟨d.push.ended b succeeded,
      if succeeded then fun key => b.attempted[key]?.getD (d.held key) else d.held⟩

theorem perform_ends {b : InFlightBatch} {succeeded : Bool} (hop : op.marker = none)
    (hwrites : ∀ key, op ≠ .writes key) (hends : d.push.ends op = some (b, succeeded))
    (hafter : d.push.after op = d.push.ended b succeeded) (hb : d.push.inFlight = some b)
    (hprepares : d.push.prepares op = none) :
    Changes d op (d.push.prepares op) (d.push.ends op) (d.perform op) := by
  have hheld : d.heldAfter op =
      if succeeded then fun key => b.attempted[key]?.getD (d.held key) else d.held := by
    cases op with
    | writes key => exact absurd rfl (hwrites key)
    | _ => cases succeeded <;> simp only [heldAfter, hends] <;> rfl
  rw [perform, hprepares, hends, hafter, hheld]
  exact .ended succeeded hop hb

theorem perform_changes (d : Display) (op : PushOp) :
    Changes d op (d.push.prepares op) (d.push.ends op) (d.perform op) := by
  cases op with
  | call now call =>
    have hperform : d.perform (.call now call) = ⟨(d.push.answer now call).2, d.held⟩ := rfl
    rw [hperform, StatusPushState.prepares]
    rcases d.push.answer_cases now call with ⟨hop, hsame, hnone⟩ | ⟨hopen, hposed⟩
    · rw [hsame, hnone]
      exact .kept hop
    · have hflush := (d.push.posed call).prepareIfDue_flush now
      rw [← hposed] at hflush
      exact .flushed hopen hflush
  | paneRemoved pane =>
    have h := @Changes.restricted d (.paneRemoved pane) (fun key => key ≠ .paneStatus pane) rfl rfl
    rw [← StatusPushState.paneRemoved_eq] at h
    exact h
  | retainTopologyTargets sessions panes =>
    exact .restricted (StatusPushState.keeps sessions panes) rfl rfl
  | writes key =>
    cases hvalue : d.push.inFlight.bind (·.attempted[key]?) with
    | none =>
      have hperform : d.perform (.writes key) = d := by
        simp only [perform, heldAfter, hvalue]
        rfl
      rw [hperform]
      exact .kept rfl
    | some value =>
      have hperform : d.perform (.writes key) = ⟨d.push, Function.update d.held key value⟩ := by
        simp only [perform, heldAfter, hvalue]
        rfl
      obtain ⟨b, hb, hvalue⟩ := Option.bind_eq_some_iff.mp hvalue
      rw [hperform]
      exact .writes hb hvalue
  | completeBatch id succeeded =>
    rcases d.push.completeBatch_cases id succeeded with ⟨b, hb, -, h⟩ | h
    · refine perform_ends rfl (fun _ => nofun) ?_ (congrArg Prod.snd h) hb rfl
      simp only [StatusPushState.ends, h, hb]
      rfl
    · have hends : d.push.ends (.completeBatch id succeeded) = none := by
        simp only [StatusPushState.ends, h]
        rfl
      have hperform : d.perform (.completeBatch id succeeded) = d := by
        simp only [perform, heldAfter, hends, StatusPushState.after, h]
      rw [hends, hperform]
      exact .kept rfl
  | executePrepared prepared outcome =>
    rcases d.push.executePrepared_cases prepared outcome with ⟨b, execution, hb, h⟩ | ⟨e, h⟩
    · refine perform_ends rfl (fun _ => nofun) ?_ (congrArg Prod.snd h) hb rfl
      simp only [StatusPushState.ends, h, hb]
      rfl
    · have hends : d.push.ends (.executePrepared prepared outcome) = none := by
        simp only [StatusPushState.ends, h]
        rfl
      have hperform : d.perform (.executePrepared prepared outcome) = d := by
        simp only [perform, heldAfter, hends, StatusPushState.after, h]
      rw [hends, hperform]
      exact .kept rfl

/-! What holds in every state. -/

/-- Every desired value is either being written or known to be there. -/
structure Covered (s : StatusPushState) : Prop where
  forgotten : ∀ key, key ∉ s.desired → s.lastSuccessful[key]? = none ∧ key ∉ s.dirty
  quiet : s.pendingCoalescedTrigger = false → ∀ key value, s.desired[key]? = some value →
    s.relevant key = true → (∃ b, s.inFlight = some b ∧ b.attempted[key]? = some value) ∨
      (key ∉ s.dirty ∧ s.lastSuccessful[key]? = some value ∧
        ∀ b, s.inFlight = some b → key ∉ b.attempted)

def Agrees (d : Display) : Prop :=
  ∀ key value, d.push.relevant key = true → d.push.lastSuccessful[key]? = some value →
    key ∉ d.push.dirty → (∀ b, d.push.inFlight = some b → key ∉ b.attempted) → d.held key = value

theorem Covered.mem_desired {s : StatusPushState} (h : Covered s)
    (hlast : s.lastSuccessful[key]? = some value) : key ∈ s.desired := by
  by_contra hdesired
  rw [(h.forgotten key hdesired).1] at hlast
  cases hlast

theorem restrict_known {s : StatusPushState} {keep : DisplayOptionKey → Bool}
    (hlast : (s.restrict keep).lastSuccessful[key]? = some value)
    (hdirty : key ∉ (s.restrict keep).dirty) :
    s.lastSuccessful[key]? = some value ∧ key ∉ s.dirty := by
  obtain ⟨hlast, hkeep⟩ := Maps.getElem?_filter_eq_some.mp hlast
  exact ⟨hlast, fun h => hdirty (Std.ExtTreeSet.mem_filter.mpr ⟨h, by simpa using hkeep⟩)⟩

theorem restrict_forgotten {s : StatusPushState} {keep : DisplayOptionKey → Bool} (h : Covered s)
    (hdesired : key ∉ (s.restrict keep).desired) :
    (s.restrict keep).lastSuccessful[key]? = none ∧ key ∉ (s.restrict keep).dirty := by
  have hnone (hdesired' : key ∈ s.desired) : keep key = false := by
    obtain ⟨value, hvalue⟩ := Maps.mem_iff_exists.mp hdesired'
    by_contra hkeep
    exact hdesired (Maps.mem_iff_exists.mpr
      ⟨value, Maps.getElem?_filter_eq_some.mpr ⟨hvalue, by simpa using hkeep⟩⟩)
  constructor
  · rw [Option.eq_none_iff_forall_ne_some]
    intro value hlast
    obtain ⟨hlast, hkeep⟩ := Maps.getElem?_filter_eq_some.mp hlast
    rw [hnone (h.mem_desired hlast)] at hkeep
    cases hkeep
  · intro hdirty
    obtain ⟨hdirty, hkeep⟩ := Std.ExtTreeSet.mem_filter.mp hdirty
    have hdesired' : key ∈ s.desired := by
      by_contra hdesired'
      exact (h.forgotten key hdesired').2 hdirty
    simp [hnone hdesired'] at hkeep

theorem covered_restrict {s : StatusPushState} (keep : DisplayOptionKey → Bool) (h : Covered s) :
    Covered (s.restrict keep) := by
  refine ⟨fun key => restrict_forgotten h, fun htrigger key value hdesired hrelevant => ?_⟩
  obtain ⟨hdesired, hkeep⟩ := Maps.getElem?_filter_eq_some.mp hdesired
  rcases h.quiet htrigger key value hdesired hrelevant with hwritten | ⟨hdirty, hlast, hother⟩
  · exact Or.inl hwritten
  · refine Or.inr ⟨fun h => hdirty ?_, Maps.getElem?_filter_eq_some.mpr ⟨hlast, hkeep⟩, hother⟩
    exact (Std.ExtTreeSet.mem_filter.mp h).1

theorem mem_beginShutdown_dirty {s : StatusPushState} {marker : String} :
    key ∈ (s.beginShutdown marker).dirty ↔ key.terminal = true ∧
      (key ∈ s.dirty ∨ key ∈ (s.beginShutdown marker).desired) := by
  unfold StatusPushState.beginShutdown
  dsimp only
  rw [Std.ExtTreeSet.mem_insertMany_list, Std.ExtTreeSet.mem_filter, List.contains_iff_mem,
    List.mem_filter, Std.ExtTreeMap.mem_keys]
  simp only [Std.ExtTreeSet.get_eq]
  tauto

theorem mem_beginShutdown_desired {s : StatusPushState} {marker : String} (h : key ∈ s.desired) :
    key ∈ (s.beginShutdown marker).desired := by
  unfold StatusPushState.beginShutdown
  dsimp only
  rw [Std.ExtTreeMap.mem_map, Std.ExtTreeMap.mem_insert]
  exact Or.inr h

theorem posed_trigger {s : StatusPushState} {call : PushCall} (h : s.Opens call) :
    (s.posed call).pendingCoalescedTrigger = true := by
  cases call with
  | onSnapshotRevision snapshotRevision frame => rfl
  | flushCoalesced => exact h
  | requestShutdown marker => rfl

theorem covered_posed {s : StatusPushState} {call : PushCall} (hopen : s.Opens call)
    (h : Covered s) : Covered (s.posed call) := by
  refine ⟨?_, fun htrigger => ?_⟩
  · cases call with
    | onSnapshotRevision snapshotRevision frame =>
      intro key hdesired
      have hframe : frame.contains key = false := by
        rw [← Bool.not_eq_true, Std.ExtTreeMap.contains_iff_mem]
        exact hdesired
      constructor
      · rw [Option.eq_none_iff_forall_ne_some]
        intro value hlast
        have hkeep := (Maps.getElem?_filter_eq_some.mp hlast).2
        rw [hframe] at hkeep
        cases hkeep
      · intro hdirty
        obtain ⟨_, hkeep⟩ := Std.ExtTreeSet.mem_filter.mp hdirty
        simp [hframe] at hkeep
    | flushCoalesced => exact h.forgotten
    | requestShutdown marker =>
      intro key hdesired
      have hbefore : key ∉ s.desired := fun h' => hdesired (mem_beginShutdown_desired h')
      refine ⟨(h.forgotten key hbefore).1, fun hdirty => ?_⟩
      rcases (mem_beginShutdown_dirty.mp hdirty).2 with hdirty | hdesired'
      · exact (h.forgotten key hbefore).2 hdirty
      · exact hdesired hdesired'
  · rw [posed_trigger hopen] at htrigger
    cases htrigger

theorem covered_flush {s : StatusPushState} {now : ℕ}
    {result : Except StatusPushError StatusPushDecision × StatusPushState}
    (hflush : s.Flush now result) (h : Covered s) : Covered result.2 := by
  cases hflush with
  | kept => exact h
  | cleared hidle hempty =>
    refine ⟨h.forgotten, fun _ key value hdesired hrelevant => Or.inr ?_⟩
    have hsettled : ¬(key ∈ s.dirty ∨ s.lastSuccessful[key]? ≠ some value) :=
      fun hunsettled => hempty key value ⟨hdesired, hrelevant, hunsettled⟩
    refine ⟨fun hdirty => hsettled (Or.inl hdirty), ?_, fun b hb => ?_⟩
    · by_contra hlast
      exact hsettled (Or.inr hlast)
    · rw [show s.inFlight = some b from hb] at hidle
      cases hidle
  | prepared hidle hdue =>
    refine ⟨h.forgotten, fun _ key value hdesired hrelevant => ?_⟩
    by_cases hunsettled : key ∈ s.dirty ∨ s.lastSuccessful[key]? ≠ some value
    · exact Or.inl ⟨_, rfl, StatusPushState.candidates_iff.mpr ⟨hdesired, hrelevant, hunsettled⟩⟩
    · refine Or.inr ⟨fun hdirty => hunsettled (Or.inl hdirty), ?_, ?_⟩
      · by_contra hlast
        exact hunsettled (Or.inr hlast)
      · rintro b hb hmem
        cases hb
        obtain ⟨value', hvalue'⟩ := Maps.mem_iff_exists.mp hmem
        obtain ⟨hdesired', -, hunsettled'⟩ := StatusPushState.candidates_iff.mp hvalue'
        rw [show s.desired[key]? = some value from hdesired] at hdesired'
        cases hdesired'
        exact hunsettled hunsettled'

theorem covered_ended {s : StatusPushState} {b : InFlightBatch} (succeeded : Bool)
    (hb : s.inFlight = some b) (h : Covered s) : Covered (s.ended b succeeded) := by
  refine ⟨fun key hdesired => ?_, fun htrigger key value hdesired hrelevant => Or.inr ?_⟩
  · rw [StatusPushState.ended_desired] at hdesired
    have hsame : StatusPushState.SameAt key s (s.ended b succeeded) :=
      StatusPushState.ended_other (Or.inr fun hcounts => hdesired hcounts.2)
    rw [hsame.1, hsame.2]
    exact h.forgotten key hdesired
  · obtain ⟨htrigger, hfailed⟩ := StatusPushState.ended_trigger htrigger
    rw [StatusPushState.ended_desired] at hdesired
    rw [StatusPushState.ended_relevant] at hrelevant
    have hidle : ∀ b', (s.ended b succeeded).inFlight = some b' → key ∉ b'.attempted := by
      rw [StatusPushState.ended_inFlight]
      exact fun _ => nofun
    rcases h.quiet htrigger key value hdesired hrelevant with
      ⟨b', hb', hvalue⟩ | ⟨hdirty, hlast, hother⟩
    · obtain rfl := Option.some.inj (hb.symm.trans hb')
      have hsettled := StatusPushState.ended_settled succeeded hvalue
        ⟨hrelevant, Maps.mem_iff_exists.mpr ⟨value, hdesired⟩⟩
      unfold StatusPushState.Settled at hsettled
      split_ifs at hsettled with hsucceeded
      · exact ⟨hsettled.2, hsettled.1, hidle⟩
      · exact absurd hsettled.2 (hfailed (by simpa using hsucceeded) key)
    · have hsame : StatusPushState.SameAt key s (s.ended b succeeded) :=
        StatusPushState.ended_other (Or.inl (hother b hb))
      rw [hsame.1, hsame.2]
      exact ⟨hdirty, hlast, hidle⟩

theorem Step.changes (h : d.Step op d') : ∃ prepared ended, d.push.prepares op = prepared ∧
    d.push.ends op = ended ∧ Changes d op prepared ended d' := by
  refine ⟨_, _, rfl, rfl, ?_⟩
  have hchanges := d.perform_changes op
  rwa [show d.perform op = d' from h] at hchanges

theorem covered_step (h : Covered d.push) (hstep : d.Step op d') : Covered d'.push := by
  obtain ⟨prepared, ended, -, -, hchanges⟩ := hstep.changes
  cases hchanges with
  | kept => exact h
  | flushed hopen hflush => exact covered_flush hflush (covered_posed hopen h)
  | restricted keep => exact covered_restrict keep h
  | writes => exact h
  | ended succeeded _ hb => exact covered_ended succeeded hb h

theorem relevant_posed {s : StatusPushState} {call : PushCall}
    (h : (s.posed call).relevant key = true) : s.relevant key = true := by
  cases call with
  | onSnapshotRevision snapshotRevision frame => exact h
  | flushCoalesced => exact h
  | requestShutdown marker =>
    have hterminal : key.terminal = true := h
    simp [StatusPushState.relevant, hterminal]

theorem posed_known {s : StatusPushState} {call : PushCall} (h : Covered s)
    (hrelevant : (s.posed call).relevant key = true)
    (hlast : (s.posed call).lastSuccessful[key]? = some value) (hdirty : key ∉ (s.posed call).dirty) :
    s.lastSuccessful[key]? = some value ∧ key ∉ s.dirty := by
  cases call with
  | onSnapshotRevision snapshotRevision frame =>
    obtain ⟨hlast, hkeep⟩ := Maps.getElem?_filter_eq_some.mp hlast
    exact ⟨hlast, fun h' => hdirty (Std.ExtTreeSet.mem_filter.mpr ⟨h', by simpa using hkeep⟩)⟩
  | flushCoalesced => exact ⟨hlast, hdirty⟩
  | requestShutdown marker =>
    have hterminal : key.terminal = true := hrelevant
    refine ⟨hlast, fun _ => hdirty (mem_beginShutdown_dirty.mpr ⟨hterminal, Or.inr ?_⟩)⟩
    exact mem_beginShutdown_desired (h.mem_desired hlast)

theorem posed_inFlight (s : StatusPushState) (call : PushCall) :
    (s.posed call).inFlight = s.inFlight := by
  cases call <;> rfl

theorem agrees_step (hcovered : Covered d.push) (h : Agrees d) (hstep : d.Step op d') :
    Agrees d' := by
  obtain ⟨prepared, ended, -, -, hchanges⟩ := hstep.changes
  intro key value hrelevant hlast hdirty hother
  cases hchanges with
  | kept => exact h key value hrelevant hlast hdirty hother
  | @flushed _ call _ _ hopen hflush =>
    have hposed (hrelevant : (d.push.posed call).relevant key = true)
        (hlast : (d.push.posed call).lastSuccessful[key]? = some value)
        (hdirty : key ∉ (d.push.posed call).dirty)
        (hother : ∀ b, (d.push.posed call).inFlight = some b → key ∉ b.attempted) :
        d.held key = value := by
      obtain ⟨hlast, hdirty⟩ := posed_known hcovered hrelevant hlast hdirty
      rw [posed_inFlight] at hother
      exact h key value (relevant_posed hrelevant) hlast hdirty hother
    cases hflush with
    | kept => exact hposed hrelevant hlast hdirty hother
    | cleared hidle hempty => exact hposed hrelevant hlast hdirty hother
    | prepared hidle hdue =>
      refine hposed hrelevant hlast hdirty fun b hb => ?_
      rw [hidle] at hb
      cases hb
  | restricted keep =>
    obtain ⟨hlast, hdirty⟩ := restrict_known hlast hdirty
    exact h key value hrelevant hlast hdirty hother
  | @writes written b written' hb hvalue =>
    have hne : key ≠ written := by
      rintro rfl
      exact hother b hb (Maps.mem_iff_exists.mpr ⟨_, hvalue⟩)
    have hheld := h key value hrelevant hlast hdirty hother
    exact (Function.update_of_ne hne _ _).trans hheld
  | @ended _ b succeeded _ hb =>
    rw [StatusPushState.ended_relevant] at hrelevant
    by_cases hattempted : key ∈ b.attempted
    · obtain ⟨value', hvalue'⟩ := Maps.mem_iff_exists.mp hattempted
      have hdesired : key ∈ d.push.desired := by
        rw [← StatusPushState.ended_desired]
        exact (covered_ended succeeded hb hcovered).mem_desired hlast
      have hsettled := StatusPushState.ended_settled succeeded hvalue'
        ⟨hrelevant, hdesired⟩
      unfold StatusPushState.Settled at hsettled
      split_ifs at hsettled with hsucceeded
      · obtain rfl := Option.some.inj (hsettled.1.symm.trans hlast)
        simp only [hsucceeded, if_true, hvalue', Option.getD_some]
      · exact absurd hsettled.2 hdirty
    · have hsame : StatusPushState.SameAt key d.push (d.push.ended b succeeded) :=
        StatusPushState.ended_other (Or.inl hattempted)
      have hheld : d.held key = value := by
        refine h key value hrelevant (hsame.1.symm.trans hlast) (hsame.2.not.mp hdirty) ?_
        rintro b' hb'
        obtain rfl := Option.some.inj (hb.symm.trans hb')
        exact hattempted
      split_ifs
      · simp only [Std.ExtTreeMap.getElem?_eq_none hattempted, Option.getD_none, hheld]
      · exact hheld

end Display

/-! ## Histories -/

section
variable {past : List (Display × PushOp)} {start d d' : Display} {op : PushOp}
  {key : DisplayOptionKey} {value : DisplayOptionValue}

/-- The marker of the last request to shut down. -/
def lastMarker : List (Display × PushOp) → Option String
  | [] => none
  | (_, op) :: past => op.marker.or (lastMarker past)

def outstanding : List (Display × PushOp) → List ℕ
  | [] => []
  | (d, op) :: past =>
    match d.push.prepares op, d.push.ends op with
    | some prepared, _ => prepared.id :: outstanding past
    | none, some (b, _) => (outstanding past).erase b.id
    | none, none => outstanding past

def preparedAt : List (Display × PushOp) → List ℕ
  | [] => []
  | (d, .call now call) :: past =>
    if (d.push.prepares (.call now call)).isSome then now :: preparedAt past else preparedAt past
  | _ :: past => preparedAt past

/-- The keys that are to be written: a request to shut down leaves the terminal ones. -/
def wanted (past : List (Display × PushOp)) (key : DisplayOptionKey) : Bool :=
  (lastMarker past).isNone || key.terminal

/-- The value of the last successful batch with a key since it was last entered, where a batch
counts for the keys it `counts` for when it ends. -/
def lastWritten (counts : List (Display × PushOp) → DisplayOptionKey → Bool)
    (key : DisplayOptionKey) : List (Display × PushOp) → Display → Option DisplayOptionValue
  | [], _ => none
  | (d, op) :: past, d' =>
    if d'.push.desired.contains key = false then none
    else
      match d.push.ends op with
      | some (b, true) =>
        if counts past key = true then b.attempted[key]?.or (lastWritten counts key past d)
        else lastWritten counts key past d
      | _ => lastWritten counts key past d

/-- All session summaries show the marker, and nothing else is shown. -/
structure Closed (d : Display) (marker : String) : Prop where
  summary : ∀ key ∈ d.push.desired, key.isSessionSummary = true → d.held key = .set marker
  attention : ∀ key ∈ d.push.desired, key.isSessionAttention = true → d.held key = .unset
  global : d.held .legacyGlobalSummary = .unset

structure NoUpdateLost (past : List (Display × PushOp)) (d : Display) : Prop where
  single : (outstanding past).length ≤ 1
  spaced : (preparedAt past).Pairwise fun later earlier => earlier + statusPushMinInterval ≤ later
  recorded : ∀ key, d.push.lastSuccessful[key]? = lastWritten wanted key past d
  pending : ∀ key value, d.push.desired[key]? = some value → wanted past key = true →
    d.held key ≠ value → outstanding past ≠ [] ∨ d.push.pendingCoalescedTrigger = true
  flushed : ∀ key value, d.push.desired[key]? = some value → wanted past key = true →
    d.held key ≠ value → outstanding past = [] → d.push.nextBatchId < u64Max →
    ∀ now ≤ maxDuration, (∀ earlier ∈ preparedAt past, earlier + statusPushMinInterval ≤ now) →
      ∃ prepared, d.push.prepares (.call now .flushCoalesced) = some prepared ∧
        (key, value) ∈ prepared.guarded.writes
  terminal : ∀ later before op earlier, past = later ++ (before, op) :: earlier →
    lastMarker ((before, op) :: earlier) ≠ none → ∀ prepared, before.push.prepares op = some prepared →
      ∀ write ∈ prepared.guarded.writes, write.1.terminal = true
  closed : ∀ before op earlier b marker, past = (before, op) :: earlier →
    before.push.ends op = some (b, true) → lastMarker past = some marker →
    d.push.pendingCoalescedTrigger = false → Closed d marker

/-! What each of these is in the state reached. -/

theorem flush_desired {s : StatusPushState} {now : ℕ}
    {result : Except StatusPushError StatusPushDecision × StatusPushState} (h : s.Flush now result) :
    result.2.desired = s.desired ∧ result.2.shuttingDown = s.shuttingDown ∧
      result.2.lastSuccessful = s.lastSuccessful := by
  cases h <;> exact ⟨rfl, rfl, rfl⟩

theorem stopped_step (hstopped : d.push.shuttingDown = (lastMarker past).isSome)
    (hstep : d.Step op d') : d'.push.shuttingDown = (lastMarker ((d, op) :: past)).isSome := by
  obtain ⟨prepared, ended, -, -, hchanges⟩ := hstep.changes
  cases hchanges with
  | kept hop => simpa only [lastMarker, hop, Option.none_or] using hstopped
  | @flushed _ call _ _ hopen hflush =>
    rw [(flush_desired hflush).2.1]
    cases call with
    | onSnapshotRevision snapshotRevision frame => exact hstopped
    | flushCoalesced => exact hstopped
    | requestShutdown marker => rfl
  | restricted keep hop =>
    rw [lastMarker, hop, Option.none_or]
    exact hstopped
  | writes => exact hstopped
  | @ended _ b succeeded hop =>
    rw [StatusPushState.ended_eq]
    simpa only [lastMarker, hop, Option.none_or] using hstopped

theorem wanted_eq (hstopped : d.push.shuttingDown = (lastMarker past).isSome) :
    wanted past key = d.push.relevant key := by
  rw [wanted, StatusPushState.relevant, hstopped, Option.not_isSome]

structure Closing (s : StatusPushState) (marker : String) : Prop where
  summary : ∀ (key : DisplayOptionKey) (value : DisplayOptionValue), s.desired[key]? = some value →
    key.isSessionSummary = true → value = .set marker
  attention : ∀ (key : DisplayOptionKey) (value : DisplayOptionValue),
    s.desired[key]? = some value → key.isSessionAttention = true → value = .unset
  global : s.desired[DisplayOptionKey.legacyGlobalSummary]? = some .unset

theorem closing_beginShutdown (s : StatusPushState) (marker : String) :
    Closing (s.beginShutdown marker) marker := by
  have hdesired (key : DisplayOptionKey) (value : DisplayOptionValue)
      (h : (s.beginShutdown marker).desired[key]? = some value) :
      ∃ value', StatusPushState.finalValue marker key value' = value := by
    rw [StatusPushState.beginShutdown, Std.ExtTreeMap.getElem?_map] at h
    obtain ⟨value', -, hvalue'⟩ := Option.map_eq_some_iff.mp h
    exact ⟨value', hvalue'⟩
  refine ⟨fun key value h hkey => ?_, fun key value h hkey => ?_, ?_⟩
  · obtain ⟨value', rfl⟩ := hdesired key value h
    exact if_pos hkey
  · obtain ⟨value', rfl⟩ := hdesired key value h
    have hsummary : key.isSessionSummary = false := by
      cases key <;> first | rfl | cases hkey
    simp [StatusPushState.finalValue, hsummary, hkey]
  · rw [StatusPushState.beginShutdown, Std.ExtTreeMap.getElem?_map,
      Std.ExtTreeMap.getElem?_insert_self]
    rfl

theorem Closing.congr {s s' : StatusPushState} {marker : String} (h : Closing s marker)
    (hdesired : s'.desired = s.desired) : Closing s' marker := by
  refine ⟨?_, ?_, ?_⟩ <;> rw [hdesired]
  exacts [h.summary, h.attention, h.global]

theorem closing_step (hstopped : d.push.shuttingDown = (lastMarker past).isSome)
    (h : ∀ marker, lastMarker past = some marker → Closing d.push marker) (hstep : d.Step op d') :
    ∀ marker, lastMarker ((d, op) :: past) = some marker → Closing d'.push marker := by
  obtain ⟨prepared, ended, -, -, hchanges⟩ := hstep.changes
  intro marker hmarker
  cases hchanges with
  | kept hop =>
    rw [lastMarker, hop, Option.none_or] at hmarker
    exact h marker hmarker
  | @flushed _ call _ _ hopen hflush =>
    refine Closing.congr ?_ (flush_desired hflush).1
    cases call with
    | onSnapshotRevision snapshotRevision frame =>
      -- a frame is not taken any more
      have hmarker : lastMarker past = some marker := hmarker
      have hclosed : d.push.shuttingDown = false := hopen
      rw [hclosed, hmarker] at hstopped
      cases hstopped
    | flushCoalesced => exact h marker hmarker
    | requestShutdown marker' =>
      obtain rfl := Option.some.inj hmarker
      exact closing_beginShutdown d.push marker'
  | restricted keep hop hglobal =>
    rw [lastMarker, hop, Option.none_or] at hmarker
    have hbefore := h marker hmarker
    exact ⟨fun key value hvalue => hbefore.summary key value
        (Maps.getElem?_filter_eq_some.mp hvalue).1,
      fun key value hvalue => hbefore.attention key value (Maps.getElem?_filter_eq_some.mp hvalue).1,
      Maps.getElem?_filter_eq_some.mpr ⟨hbefore.global, hglobal⟩⟩
  | writes => exact h marker hmarker
  | @ended _ b succeeded hop =>
    rw [lastMarker, hop, Option.none_or] at hmarker
    exact (h marker hmarker).congr (StatusPushState.ended_desired b)

theorem outstanding_step (h : outstanding past = (d.push.inFlight.map (·.id)).toList)
    (hstep : d.Step op d') :
    outstanding ((d, op) :: past) = (d'.push.inFlight.map (·.id)).toList := by
  obtain ⟨prepared, ended, hprepares, hends, hchanges⟩ := hstep.changes
  simp only [outstanding, hprepares, hends]
  cases hchanges with
  | kept => exact h
  | @flushed _ call _ _ _ hflush =>
    rw [← Display.posed_inFlight _ call] at h
    cases hflush with
    | kept hnone => simpa only [hnone] using h
    | cleared hidle hempty => exact h
    | prepared hidle hdue =>
      rw [hidle] at h
      simp only [StatusPushState.given, h]
      rfl
  | restricted => exact h
  | writes => exact h
  | @ended _ b succeeded _ hb =>
    rw [StatusPushState.ended_inFlight]
    simp [h, hb]

theorem preparedAt_step
    (h : (preparedAt past).head? = d.push.lastAttemptAt ∧
      (preparedAt past).Pairwise fun later earlier => earlier + statusPushMinInterval ≤ later)
    (hstep : d.Step op d') :
    (preparedAt ((d, op) :: past)).head? = d'.push.lastAttemptAt ∧
      (preparedAt ((d, op) :: past)).Pairwise
        fun later earlier => earlier + statusPushMinInterval ≤ later := by
  obtain ⟨prepared, ended, hprepares, -, hchanges⟩ := hstep.changes
  have hsame (hnone : prepared = none) (hattempt : d'.push.lastAttemptAt = d.push.lastAttemptAt) :
      (preparedAt ((d, op) :: past)).head? = d'.push.lastAttemptAt ∧
        (preparedAt ((d, op) :: past)).Pairwise
          fun later earlier => earlier + statusPushMinInterval ≤ later := by
    have hpast : preparedAt ((d, op) :: past) = preparedAt past := by
      cases op with
      | call now call => simp [preparedAt, hprepares, hnone]
      | _ => rfl
    rwa [hpast, hattempt]
  cases hchanges with
  | kept => exact hsame rfl rfl
  | @flushed now call _ _ _ hflush =>
    have hattempt : (d.push.posed call).lastAttemptAt = d.push.lastAttemptAt := by
      cases call <;> rfl
    cases hflush with
    | kept hnone => exact hsame hnone hattempt
    | cleared hidle hempty => exact hsame rfl hattempt
    | prepared hidle hdue =>
      have hpast : preparedAt ((d, .call now call) :: past) = now :: preparedAt past := by
        simp [preparedAt, hprepares, StatusPushState.given]
      rw [hpast]
      refine ⟨rfl, List.pairwise_cons.mpr ⟨fun earlier hearlier => ?_, h.2⟩⟩
      -- the latest batch is the last attempt, and all others are before it
      cases hlist : preparedAt past with
      | nil => simp [hlist] at hearlier
      | cons latest rest =>
        rw [hlist] at hearlier h
        have hlatest := hdue latest (hattempt.trans h.1.symm)
        rcases List.mem_cons.mp hearlier with rfl | hrest
        · exact hlatest
        · have := (List.pairwise_cons.mp h.2).1 earlier hrest
          omega
  | restricted => exact hsame rfl rfl
  | writes => exact hsame rfl rfl
  | @ended _ b succeeded =>
    refine hsame rfl ?_
    rw [StatusPushState.ended_eq]

theorem lastSuccessful_step (hstep : d.Step op d')
    (hdesired : key ∈ d'.push.desired) : d'.push.lastSuccessful[key]? =
      match d.push.ends op with
      | some (b, true) =>
        if d.push.relevant key = true then b.attempted[key]?.or d.push.lastSuccessful[key]?
        else d.push.lastSuccessful[key]?
      | _ => d.push.lastSuccessful[key]? := by
  obtain ⟨prepared, ended, -, hends, hchanges⟩ := hstep.changes
  simp only [hends]
  cases hchanges with
  | kept => rfl
  | @flushed _ call _ _ _ hflush =>
    obtain ⟨hsame, -, hlast⟩ := flush_desired hflush
    rw [hsame] at hdesired
    rw [hlast]
    cases call with
    | onSnapshotRevision snapshotRevision frame =>
      refine Option.ext fun value => Maps.getElem?_filter_eq_some.trans ?_
      exact and_iff_left (Std.ExtTreeMap.contains_iff_mem.mpr hdesired)
    | flushCoalesced => rfl
    | requestShutdown marker => rfl
  | restricted keep =>
    obtain ⟨value, hvalue⟩ := Maps.mem_iff_exists.mp hdesired
    have hkeep := (Maps.getElem?_filter_eq_some.mp hvalue).2
    exact Option.ext fun value => Maps.getElem?_filter_eq_some.trans (and_iff_left hkeep)
  | writes => rfl
  | @ended _ b succeeded _ hb =>
    rw [StatusPushState.ended_desired] at hdesired
    have hskip (h : key ∉ b.attempted ∨ ¬d.push.Counts key) :
        (d.push.ended b succeeded).lastSuccessful[key]? = d.push.lastSuccessful[key]? :=
      (StatusPushState.ended_other h).1
    cases succeeded with
    | false =>
      by_cases hother : key ∉ b.attempted ∨ ¬d.push.Counts key
      · exact hskip hother
      · obtain ⟨hattempted, hcounts⟩ := not_or.mp hother
        obtain ⟨value, hvalue⟩ := Maps.mem_iff_exists.mp (not_not.mp hattempted)
        exact (StatusPushState.ended_settled false hvalue (not_not.mp hcounts)).1
    | true =>
      by_cases hrelevant : d.push.relevant key = true
      · refine Eq.trans ?_ (if_pos hrelevant).symm
        cases hvalue : b.attempted[key]? with
        | none =>
          have hother : key ∉ b.attempted := fun hmem => by
            obtain ⟨value, h⟩ := Maps.mem_iff_exists.mp hmem
            rw [hvalue] at h
            cases h
          exact hskip (Or.inl hother)
        | some value =>
          exact (StatusPushState.ended_settled true hvalue ⟨hrelevant, hdesired⟩).1
      · refine Eq.trans ?_ (if_neg hrelevant).symm
        exact hskip (Or.inr fun hcounts => hrelevant hcounts.1)

theorem recorded_step (hcovered : Display.Covered d.push)
    (hstopped : d.push.shuttingDown = (lastMarker past).isSome)
    (h : ∀ key, d.push.lastSuccessful[key]? = lastWritten wanted key past d)
    (hstep : d.Step op d') (key : DisplayOptionKey) :
    d'.push.lastSuccessful[key]? = lastWritten wanted key ((d, op) :: past) d' := by
  rw [lastWritten]
  by_cases hdesired : key ∈ d'.push.desired
  · rw [if_neg (by simpa using hdesired), lastSuccessful_step hstep hdesired,
      wanted_eq hstopped, h key]
  · rw [if_pos (by rwa [← Bool.not_eq_true, Std.ExtTreeMap.contains_iff_mem])]
    exact ((Display.covered_step hcovered hstep).forgotten key hdesired).1

/-- Nothing is known, desired or under way at the start, and tmux may hold anything. -/
def Display.initial (expectedServer : ServerIdentity)
    (held : DisplayOptionKey → DisplayOptionValue) : Display :=
  ⟨{ expectedServer := expectedServer }, held⟩

structure Tracked (past : List (Display × PushOp)) (d : Display) : Prop where
  covered : Display.Covered d.push
  agrees : Display.Agrees d
  stopped : d.push.shuttingDown = (lastMarker past).isSome
  closing : ∀ marker, lastMarker past = some marker → Closing d.push marker
  unended : outstanding past = (d.push.inFlight.map (·.id)).toList
  attempts : (preparedAt past).head? = d.push.lastAttemptAt ∧
    (preparedAt past).Pairwise fun later earlier => earlier + statusPushMinInterval ≤ later
  recorded : ∀ key, d.push.lastSuccessful[key]? = lastWritten wanted key past d

theorem tracked_initial (expectedServer : ServerIdentity)
    (held : DisplayOptionKey → DisplayOptionValue) :
    Tracked [] (.initial expectedServer held) where
  covered := ⟨fun key _ => ⟨Std.ExtTreeMap.getElem?_empty, Std.ExtTreeSet.not_mem_empty⟩,
    fun _ key value h => by simp [Display.initial] at h⟩
  agrees := fun key value _ h => by simp [Display.initial] at h
  stopped := rfl
  closing := fun _ => nofun
  unended := rfl
  attempts := ⟨rfl, List.Pairwise.nil⟩
  recorded := fun key => Std.ExtTreeMap.getElem?_empty

theorem tracked_step (h : Tracked past d) (hstep : d.Step op d') : Tracked ((d, op) :: past) d' where
  covered := Display.covered_step h.covered hstep
  agrees := Display.agrees_step h.covered h.agrees hstep
  stopped := stopped_step h.stopped hstep
  closing := closing_step h.stopped h.closing hstep
  unended := outstanding_step h.unended hstep
  attempts := preparedAt_step h.attempts hstep
  recorded := recorded_step h.covered h.stopped h.recorded hstep

theorem tracked_run {expectedServer : ServerIdentity} {held : DisplayOptionKey → DisplayOptionValue}
    (hrun : Trace Display.Step (.initial expectedServer held) past d) : Tracked past d := by
  induction hrun with
  | nil => exact tracked_initial expectedServer held
  | snoc before taken ih => exact tracked_step ih taken

/-! What follows for the values that tmux holds. -/

theorem Tracked.idle (h : Tracked past d) (hnone : outstanding past = []) :
    d.push.inFlight = none := by
  have hinFlight := h.unended.symm.trans hnone
  simpa using hinFlight

theorem Tracked.candidate (h : Tracked past d) (hidle : d.push.inFlight = none)
    (hdesired : d.push.desired[key]? = some value) (hwanted : wanted past key = true)
    (hheld : d.held key ≠ value) : d.push.Candidate key value := by
  rw [wanted_eq h.stopped] at hwanted
  refine ⟨hdesired, hwanted, ?_⟩
  by_contra hsettled
  obtain ⟨hdirty, hlast⟩ := not_or.mp hsettled
  refine hheld (h.agrees key value hwanted (not_not.mp hlast) hdirty fun b hb => ?_)
  rw [hidle] at hb
  cases hb

theorem Tracked.held (h : Tracked past d) (hidle : d.push.inFlight = none)
    (htrigger : d.push.pendingCoalescedTrigger = false)
    (hdesired : d.push.desired[key]? = some value) (hwanted : wanted past key = true) :
    d.held key = value := by
  by_contra hheld
  have hcandidate := h.candidate hidle hdesired hwanted hheld
  rcases h.covered.quiet htrigger key value hdesired hcandidate.relevant with
    ⟨b, hb, -⟩ | ⟨hdirty, hlast, -⟩
  · rw [hidle] at hb
    cases hb
  · exact hcandidate.unsettled.elim hdirty fun hunsettled => hunsettled hlast

theorem Tracked.flushed (h : Tracked past d) (hdesired : d.push.desired[key]? = some value)
    (hwanted : wanted past key = true) (hheld : d.held key ≠ value) (hnone : outstanding past = [])
    (hroom : d.push.nextBatchId < u64Max) {now : ℕ} (hnow : now ≤ maxDuration)
    (hdue : ∀ earlier ∈ preparedAt past, earlier + statusPushMinInterval ≤ now) :
    ∃ prepared, d.push.prepares (.call now .flushCoalesced) = some prepared ∧
      (key, value) ∈ prepared.guarded.writes := by
  have hidle := h.idle hnone
  have hcandidate := h.candidate hidle hdesired hwanted hheld
  have htrigger : d.push.pendingCoalescedTrigger = true := by
    by_contra htrigger
    exact hheld (h.held hidle (Bool.eq_false_iff.mpr htrigger) hdesired hwanted)
  have hdue : d.push.Due now := fun last hlast =>
    hdue last (List.mem_of_head? (h.attempts.1.trans hlast))
  refine ⟨d.push.batch, ?_, Std.ExtTreeMap.mem_toList_iff_getElem?_eq_some.mpr
    (StatusPushState.candidates_iff.mpr hcandidate)⟩
  have hanswer : d.push.answer now .flushCoalesced = d.push.prepareIfDue now := by
    simp [StatusPushState.answer, StatusPushState.flushCoalesced, htrigger]
  rw [StatusPushState.prepares, hanswer,
    StatusPushState.prepareIfDue_due hidle hdue hnow hroom hcandidate]
  rfl

theorem Tracked.terminal (h : Tracked past d) (hmarker : lastMarker ((d, op) :: past) ≠ none)
    {prepared : PreparedDisplayBatch} (hprepared : d.push.prepares op = some prepared)
    {write : DisplayOptionKey × DisplayOptionValue} (hwrite : write ∈ prepared.guarded.writes) :
    write.1.terminal = true := by
  have hstep : d.Step op (d.perform op) := rfl
  have hstopped := stopped_step h.stopped hstep
  obtain ⟨prepared', ended, hprepares, -, hchanges⟩ := hstep.changes
  rw [hprepared] at hprepares
  generalize d.perform op = d' at hstopped hchanges
  cases hchanges with
  | kept => cases hprepares
  | @flushed now call result push hopen hflush =>
    rw [(flush_desired hflush).2.1, Option.isSome_iff_ne_none.mpr hmarker] at hstopped
    cases hflush with
    | kept hnone =>
      rw [hnone] at hprepares
      cases hprepares
    | cleared => cases hprepares
    | prepared =>
      cases hprepares
      have hcandidate := StatusPushState.candidates_iff.mp
        (Std.ExtTreeMap.mem_toList_iff_getElem?_eq_some.mp (show (write.1, write.2) ∈ _ from hwrite))
      simpa [StatusPushState.relevant, hstopped] using hcandidate.relevant
  | restricted => cases hprepares
  | writes => cases hprepares
  | ended => cases hprepares

theorem Tracked.closed (h : Tracked past d) {marker : String} (hidle : d.push.inFlight = none)
    (hmarker : lastMarker past = some marker) (htrigger : d.push.pendingCoalescedTrigger = false) :
    Closed d marker := by
  have hclosing := h.closing marker hmarker
  have hheld {key : DisplayOptionKey} {value : DisplayOptionValue}
      (hdesired : d.push.desired[key]? = some value) (hterminal : key.terminal = true) :
      d.held key = value :=
    h.held hidle htrigger hdesired (by rw [wanted, hterminal, Bool.or_true])
  refine ⟨fun key hkey hsummary => ?_, fun key hkey hattention => ?_, hheld hclosing.global rfl⟩
  · obtain ⟨value, hvalue⟩ := Maps.mem_iff_exists.mp hkey
    rw [hheld hvalue (by cases key <;> first | rfl | cases hsummary)]
    exact hclosing.summary key value hvalue hsummary
  · obtain ⟨value, hvalue⟩ := Maps.mem_iff_exists.mp hkey
    rw [hheld hvalue (by cases key <;> first | rfl | cases hattention)]
    exact hclosing.attention key value hvalue hattention

theorem no_update_lost {expectedServer : ServerIdentity}
    {held : DisplayOptionKey → DisplayOptionValue}
    (hrun : Trace Display.Step (.initial expectedServer held) past d) : NoUpdateLost past d := by
  have h := tracked_run hrun
  refine ⟨?_, h.attempts.2, h.recorded, ?_, ?_, ?_, ?_⟩
  · rw [h.unended]
    cases d.push.inFlight <;> simp
  · intro key value hdesired hwanted hheld
    by_contra hquiet
    obtain ⟨hnone, htrigger⟩ := not_or.mp hquiet
    exact hheld (h.held (h.idle (not_not.mp hnone)) (Bool.eq_false_iff.mpr htrigger) hdesired hwanted)
  · intro key value hdesired hwanted hheld hnone hroom now hnow hdue
    exact h.flushed hdesired hwanted hheld hnone hroom hnow hdue
  · rintro later before op earlier rfl hmarker prepared hprepared write hwrite
    obtain ⟨after, hbefore, -, -⟩ := hrun.split
    exact (tracked_run hbefore).terminal hmarker hprepared hwrite
  · rintro before op earlier b marker rfl hends hmarker htrigger
    refine h.closed ?_ hmarker htrigger
    cases hrun with
    | snoc _ htaken =>
      obtain ⟨prepared, ended, -, hends', hchanges⟩ := htaken.changes
      rw [hends] at hends'
      subst hends'
      cases hchanges
      exact StatusPushState.ended_inFlight b

end

namespace Pushed

def category : DisplayOptionKey := .sessionCategory "$1"

def start : Display := .initial ⟨1, 1⟩ fun _ => .unset

def ops : List PushOp :=
  [.call 0 (.onSnapshotRevision 1 (.ofList [(category, DisplayOptionValue.set "work")])),
    .call 1 (.requestShutdown "stopped"), .writes category, .completeBatch 1 true]

theorem ops_run : Trace Display.Step start (replay Display.perform start [] ops).1
    (replay Display.perform start [] ops).2 :=
  replay_trace ops .nil

theorem no_update_lost_stopped : Trace Display.Step start (replay Display.perform start [] ops).1
      (replay Display.perform start [] ops).2 ∧
    NoUpdateLost (replay Display.perform start [] ops).1 (replay Display.perform start [] ops).2 :=
  ⟨ops_run, no_update_lost ops_run⟩

/-- A batch that is under way when the shutdown is requested still writes all of its values, and
what it wrote is not recorded. -/
theorem late_batch :
    ¬(∀ past d, Trace Display.Step start past d → ∀ key ∈ d.push.desired,
      d.push.lastSuccessful[key]? = lastWritten (fun _ _ => true) key past d) ∧
    ¬(∀ past d, Trace Display.Step start past d →
      ∀ later before earlier key, past = later ++ (before, .writes key) :: earlier →
        lastMarker earlier ≠ none → (before.push.inFlight.bind (·.attempted[key]?)).isSome = true →
          key.terminal = true) := by
  constructor
  · intro hclaim
    have hrecorded := hclaim _ _ ops_run category (by decide +kernel)
    exact absurd hrecorded (by decide +kernel)
  · intro hclaim
    have hterminal := hclaim _ _ ops_run [_] _ _ category rfl (by decide +kernel)
      (by decide +kernel)
    exact absurd hterminal (by decide)

end Pushed

end VdeTmux.Daemon
