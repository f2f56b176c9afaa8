import VdeTmux.Foundation.Tickets
import VdeTmux.Pane.Ledger
import VdeTmux.Pane.OrderChecks
import VdeTmux.Pane.Validity

/-!
# The order of unread occurrences

The panes draw the orders of their unread occurrences from one counter, in the reducer and in the
projection of a durable run. Every step of the ledger is a step of that counter.
-/

open Foundation Foundation.Text
namespace VdeTmux.Pane

def PaneState.latestOrder? (s : PaneState) : Option ℕ := s.unread.latest.map (·.order)

def Ledger.tickets (ledger : Ledger) : Tickets PaneInstance :=
  ⟨ledger.order, fun pane => (ledger.cell pane).record.map PaneState.latestOrder?⟩

def unreadOf (current : Option PaneState) : UnreadState := (current.map (·.unread)).getD {}

def Issues (latestUnreadOrder : ℕ) (unread unread' : UnreadState) : Prop :=
  unread'.latest = unread.latest ∨ max latestUnreadOrder unread.latestOrder < u64Max ∧
    unread'.latest.map (·.order) = some (max latestUnreadOrder unread.latestOrder + 1)

theorem Minted.issues {latestUnreadOrder : ℕ} {unread unread' : UnreadState}
    (h : Minted latestUnreadOrder unread unread') : Issues latestUnreadOrder unread unread' := by
  obtain ⟨reason, occurredAt, hlatest⟩ := h.latest
  exact Or.inr ⟨h.orderRoom, by rw [hlatest]; rfl⟩

theorem applyUnreadTransition_issues {current : Option PaneState} {event : PaneEvent}
    {s s' : PaneState} {context : ReductionContext}
    (h : applyUnreadTransition current event s context = .ok s') :
    Issues context.latestUnreadOrder s.unread s'.unread := by
  obtain ⟨-, -, hkept | hminted⟩ := applyUnreadTransition_spec h
  · exact Or.inl (by rw [hkept])
  · exact hminted.issues

variable [Sha256]

theorem applyInitialExplicitEvent_identity {s s' : PaneState} {event : PaneEvent}
    {privateTaskPrompt : Option String}
    (h : applyInitialExplicitEvent s event privateTaskPrompt = .ok s') :
    s'.identity = s.identity := by
  unfold applyInitialExplicitEvent at h
  split at h
  · exact (applyClaudeStop_inEpoch trivial h : InEpoch True _ _).identity
  · cases h
    exact completeRun_identity
  · exact (completeRunWithResponse_inEpoch h : InEpoch True _ _).identity
  · split_ifs at h
    · cases h
      exact completeRun_identity
    · exact (applyRegularExplicitEvent_identity h).1
  · exact (applyRegularExplicitEvent_identity h).1

theorem Created.fresh {envelope : PaneEventEnvelope} {context : ReductionContext} {s' : PaneState}
    {tracker : CaptureTrackerSnapshot} (h : Created envelope context s' tracker) :
    s'.unread = {} ∧ s'.paneInstance = envelope.paneInstance ∧
      context.newStateId = some s'.stateId := by
  cases h with
  | explicit agent session hasAgent hasSession external claude creates s₀ new record next =>
    obtain ⟨stateId, hid, rfl⟩ := newState_eq_ok.mp new
    have hidentity := applyInitialExplicitEvent_identity record
    refine ⟨congrArg PaneIdentity.unread hidentity, congrArg PaneIdentity.paneInstance hidentity, ?_⟩
    exact hid.trans (congrArg some (congrArg PaneIdentity.stateId hidentity).symm)
  | observation base trackerGeneration observedAt agent capture process event s₀ new record next =>
    obtain ⟨stateId, hid, rfl⟩ := newState_eq_ok.mp new
    rw [applyProcessObservation_spec record]
    exact ⟨rfl, rfl, hid⟩

structure Reduced (current : Option PaneState) (envelope : PaneEventEnvelope)
    (context : ReductionContext) (candidate : PaneState) : Prop where
  valid : candidate.Valid
  paneInstance : candidate.paneInstance = envelope.paneInstance
  issues : Issues context.latestUnreadOrder (unreadOf current) candidate.unread
  fresh : current = none → context.newStateId = some candidate.stateId

theorem reduce_reduced {current : Option PaneState} {envelope : PaneEventEnvelope}
    {context : ReductionContext} {r : Reduction} {candidate : PaneState}
    (hvalid : ∀ s ∈ current, s.Valid) (h : reduce current envelope context = .ok r)
    (houtcome : r.outcome = .canonicalChanged) (hrecord : r.record = some candidate) :
    Reduced current envelope context candidate := by
  obtain ⟨-, hinstance, rfl | ⟨-, s₁, tracker, previous, hdispatch, hsettled⟩⟩ := reduce_eq_ok h
  · cases houtcome
  cases hsettled with
  | same record result =>
    rw [result] at houtcome
    dsimp only at houtcome
    split_ifs at houtcome
  | changed differs revision next valid s' unread result =>
    subst result
    cases hrecord
    have hpane : candidate.paneInstance = s₁.paneInstance := by
      rw [(applyUnreadTransition_spec unread).1]
    have hissues := applyUnreadTransition_issues unread
    dsimp only at hissues
    have hcandidate := applyUnreadTransition_valid valid unread
    cases current with
    | none =>
      obtain ⟨hunread, hnew, hid⟩ := (dispatch_created hdispatch).2.fresh
      rw [hunread] at hissues
      refine ⟨hcandidate, hpane.trans hnew, hissues, fun _ => ?_⟩
      rw [(applyUnreadTransition_spec unread).1]
      exact hid
    | some s =>
      have htransition := (dispatch_finished hdispatch).transition (hvalid s rfl).counted
      refine ⟨hcandidate, ?_, ?_, nofun⟩
      · exact (hpane.trans htransition.paneInstance).trans (hinstance s rfl)
      · unfold Issues UnreadState.latestOrder at hissues ⊢
        rwa [htransition.latest] at hissues

omit [Sha256] in
theorem PaneState.projected_stateId (s : PaneState) (p : CurrentDurableRunProjection)
    (active : Bool) (observedAt : ℤ) : (s.projected p active observedAt).stateId = s.stateId := by
  unfold projected advanceRun followExecution
  split_ifs <;> rfl

omit [Sha256] in
theorem PaneState.unreadAfter_issues (s : PaneState) (p : CurrentDurableRunProjection)
    (active : Bool) (observedAt : ℤ) (latestUnreadOrder : ℕ)
    (hroom : s.Completes p active → max latestUnreadOrder s.unread.latestOrder < u64Max) :
    Issues latestUnreadOrder s.unread (s.unreadAfter p active observedAt latestUnreadOrder) := by
  unfold unreadAfter
  split_ifs with hcompletes
  · exact Or.inr ⟨hroom hcompletes, rfl⟩
  · exact Or.inl rfl

theorem PaneState.reconcileCurrentRun_changed {s candidate : PaneState}
    {p : CurrentDurableRunProjection} {active : Bool} {observedAt : ℤ} {latestUnreadOrder : ℕ}
    (h : s.reconcileCurrentRun p active observedAt latestUnreadOrder = .ok (candidate, true)) :
    candidate.Valid ∧ candidate.paneInstance = s.paneInstance ∧
      candidate.stateId = s.stateId ∧ candidate.revision = s.revision + 1 ∧
      Issues latestUnreadOrder s.unread candidate.unread := by
  obtain ⟨⟨⟩, hp, h'⟩ := bind_eq_ok.mp h
  have hat : 0 ≤ observedAt := by
    obtain ⟨hat, -⟩ := seq_eq_ok.mp h'
    simpa using hat
  rw [reconcileCurrentRun_eq hp hat] at h
  obtain ⟨proceed, -, h⟩ := bind_eq_ok.mp h
  split_ifs at h
  · cases h
  · obtain ⟨unread, hunread, h⟩ := bind_eq_ok.mp h
    obtain ⟨hroom, rfl⟩ := issueUnread_eq_ok.mp hunread
    obtain ⟨-, -, hfalse⟩ | ⟨-, -, hvalid, rfl, -⟩ := commit_eq_ok.mp h
    · cases hfalse
    · have hsame := projected_sameIdentity s p active observedAt
      refine ⟨hvalid, hsame.paneInstance, s.projected_stateId p active observedAt, ?_,
        s.unreadAfter_issues p active observedAt latestUnreadOrder fun h => (hroom h).2⟩
      exact congrArg (· + 1) hsame.revision

namespace Ledger

/-- Each record belongs to its pane and passes its check, and no two share an order. -/
structure Sound (ledger : Ledger) : Prop where
  records : ∀ pane s, (ledger.cell pane).record = some s → s.paneInstance = pane ∧ s.Valid
  tickets : ledger.tickets.Valid

omit [Sha256] in
theorem tickets_set (ledger : Ledger) (pane : PaneInstance) (cell : Cell) (order : ℕ) :
    ({ ledger.set pane cell with order := order } : Ledger).tickets =
      ⟨order, Function.update ledger.tickets.held pane
        (cell.record.map PaneState.latestOrder?)⟩ := by
  simp only [tickets, Ledger.set, Tickets.mk.injEq, true_and]
  funext other
  by_cases h : other = pane
  · subst h
    simp
  · simp [h]

omit [Sha256] in
theorem holds_tickets {ledger : Ledger} {pane : PaneInstance} {n : ℕ} :
    ledger.tickets.Holds pane n ↔
      ∃ s, (ledger.cell pane).record = some s ∧ s.latestOrder? = some n := by
  simp [Tickets.Holds, tickets]

omit [Sha256] in
theorem held_tickets_ne {ledger : Ledger} {pane : PaneInstance} :
    ledger.tickets.held pane ≠ none ↔ ∃ s, (ledger.cell pane).record = some s := by
  simp [tickets, Option.ne_none_iff_exists']

theorem Sound.latestOrder_le {ledger : Ledger} (h : ledger.Sound) (pane : PaneInstance) :
    (unreadOf (ledger.cell pane).record).latestOrder ≤ ledger.order := by
  cases hrecord : (ledger.cell pane).record with
  | none => exact Nat.zero_le _
  | some s =>
    cases hlatest : s.unread.latest with
    | none =>
      simp only [unreadOf, Option.map_some, Option.getD_some, UnreadState.latestOrder, hlatest]
      exact Nat.zero_le _
    | some latest =>
      simp only [unreadOf, Option.map_some, Option.getD_some, UnreadState.latestOrder, hlatest]
      refine h.tickets.le_last pane latest.order (holds_tickets.mpr ⟨s, hrecord, ?_⟩)
      rw [PaneState.latestOrder?, hlatest]
      rfl

theorem Sound.admitted {ledger : Ledger} (h : ledger.Sound) {pane : PaneInstance}
    {candidate : PaneState}
    (hissues : Issues ledger.order (unreadOf (ledger.cell pane).record) candidate.unread) :
    ledger.order < candidate.unread.latestOrder →
      ledger.order < u64Max ∧ candidate.unread.latestOrder = ledger.order + 1 := by
  intro hlater
  have hle := h.latestOrder_le pane
  rcases hissues with hkept | ⟨hroom, hnew⟩
  · rw [UnreadState.latestOrder, hkept] at hlater
    exact absurd hle hlater.not_ge
  · rw [max_eq_left hle] at hroom hnew
    rw [UnreadState.latestOrder, hnew]
    exact ⟨hroom, rfl⟩

theorem Sound.candidate {ledger : Ledger} (h : ledger.Sound) {pane : PaneInstance}
    {candidate : PaneState} {tracker : CaptureTrackerSnapshot} {may : PaneInstance → Prop}
    (hissues : Issues ledger.order (unreadOf (ledger.cell pane).record) candidate.unread)
    (hmay : (ledger.cell pane).record = none → may pane) :
    Tickets.Step may ledger.tickets
      ({ ledger.set pane ⟨some candidate, tracker⟩ with
        order := max ledger.order candidate.unread.latestOrder } : Ledger).tickets := by
  have hle := h.latestOrder_le pane
  rw [tickets_set]
  rcases hissues with hkept | ⟨-, hnew⟩
  · have horder : max ledger.order candidate.unread.latestOrder = ledger.order := by
      rw [UnreadState.latestOrder, hkept]
      exact max_eq_left hle
    have hnumber : candidate.latestOrder? =
        (unreadOf (ledger.cell pane).record).latest.map (·.order) := by
      rw [PaneState.latestOrder?, hkept]
    rw [horder, Option.map_some, hnumber]
    cases hrecord : (ledger.cell pane).record with
    | none =>
      refine .opened pane (hmay hrecord) ?_
      simp only [Ledger.tickets, hrecord, Option.map_none]
    | some s =>
      have hheld : ledger.tickets.held pane = some s.latestOrder? := by
        simp only [Ledger.tickets, hrecord, Option.map_some]
      have hsame : (⟨ledger.order, Function.update ledger.tickets.held pane
          (some s.latestOrder?)⟩ : Tickets PaneInstance) = ledger.tickets := by
        rw [← hheld, Function.update_eq_self]
        rfl
      exact (congrArg (Tickets.Step may ledger.tickets) hsame).mpr .same
  · have hnumber : candidate.latestOrder? = some (ledger.order + 1) := by
      rw [max_eq_left hle] at hnew
      exact hnew
    have horder : max ledger.order candidate.unread.latestOrder = ledger.order + 1 := by
      rw [UnreadState.latestOrder, show candidate.unread.latest.map (·.order) = _ from hnumber]
      exact max_eq_right (Nat.le_succ _)
    rw [horder, Option.map_some, hnumber]
    refine .issued pane fun hnone => hmay ?_
    simpa [Ledger.tickets] using hnone

omit [Sha256] in
theorem tickets_same (ledger : Ledger) {pane : PaneInstance} {cell : Cell}
    (h : cell.record = (ledger.cell pane).record) :
    (ledger.set pane cell).tickets = ledger.tickets := by
  have hset := ledger.tickets_set pane cell ledger.order
  rw [h] at hset
  refine hset.trans (congrArg (Tickets.mk ledger.order) ?_)
  exact Function.update_eq_self pane ledger.tickets.held

theorem Sound.set_records {ledger : Ledger} (h : ledger.Sound) {pane : PaneInstance} {cell : Cell}
    (hcell : ∀ s, cell.record = some s → s.paneInstance = pane ∧ s.Valid) (other : PaneInstance)
    (s : PaneState) (hrecord : ((ledger.set pane cell).cell other).record = some s) :
    s.paneInstance = other ∧ s.Valid := by
  by_cases hsame : other = pane
  · subst hsame
    rw [set_cell_same] at hrecord
    exact hcell s hrecord
  · rw [set_cell_of_ne hsame] at hrecord
    exact h.records other s hrecord

theorem Step.tickets {fresh : StateId → Prop} {ledger ledger' : Ledger} (h : ledger.Sound)
    (hstep : Step fresh ledger ledger') :
    Tickets.Step (fun _ => ∃ stateId, fresh stateId) ledger.tickets ledger'.tickets ∧
      ∀ pane s, (ledger'.cell pane).record = some s → s.paneInstance = pane ∧ s.Valid := by
  cases hstep with
  | tracked input r order reduced outcome =>
    have hrecord : ((ledger.cell input.envelope.paneInstance).next input).record =
        (ledger.cell input.envelope.paneInstance).record := by
      simp only [Cell.next, reduced]
      exact reduce_kept reduced outcome
    refine ⟨tickets_same ledger hrecord ▸ .same, h.set_records ?_⟩
    rw [hrecord]
    exact h.records _
  | changed input r candidate order reduced outcome record newId =>
    have hreduced := reduce_reduced (fun s hs => (h.records _ s hs).2) reduced outcome record
    have hissues := hreduced.issues
    have hnext : (ledger.cell input.envelope.paneInstance).next input = ⟨some candidate,
        (ledger.cell input.envelope.paneInstance).tracker.after r.trackerDelta⟩ := by
      simp only [Cell.next, reduced, record]
    rw [hnext]
    refine ⟨h.candidate (order ▸ hissues) ?_, h.set_records ?_⟩
    · intro hnone
      exact ⟨candidate.stateId, newId _ (hreduced.fresh hnone)⟩
    · rintro _ ⟨⟩
      exact ⟨hreduced.paneInstance, hreduced.valid⟩
  | projected pane current candidate projection executionActive observedAt existing reconciled =>
    obtain ⟨hvalid, hpane, -, -, hissues⟩ := PaneState.reconcileCurrentRun_changed reconciled
    refine ⟨h.candidate ?_ ?_, h.set_records ?_⟩
    · rw [existing]
      exact hissues
    · rw [existing]
      intro hnone
      cases hnone
    · rintro _ ⟨⟩
      exact ⟨hpane.trans (h.records pane current existing).1, hvalid⟩
  | noted pane record process existing =>
    have hsame : (ledger.set pane ⟨some record, rejectedTracker (ledger.cell pane).tracker record
        process⟩).tickets = ledger.tickets := tickets_same ledger existing.symm
    refine ⟨hsame ▸ .same, h.set_records ?_⟩
    rintro _ ⟨⟩
    exact h.records pane record existing
  | removed pane =>
    have hclosed : (ledger.set pane {}).tickets =
        { ledger.tickets with held := Function.update ledger.tickets.held pane none } :=
      ledger.tickets_set pane {} ledger.order
    refine ⟨hclosed ▸ .closed pane, h.set_records ?_⟩
    intro s hs
    cases hs

theorem Step.sound {fresh : StateId → Prop} {ledger ledger' : Ledger} (h : ledger.Sound)
    (hstep : Step fresh ledger ledger') : ledger'.Sound := by
  obtain ⟨htickets, hrecords⟩ := hstep.tickets h
  exact ⟨hrecords, htickets.valid h.tickets⟩

end Ledger

end VdeTmux.Pane
