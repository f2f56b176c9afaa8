import VdeTmux.Pane.Validity

/-!
# When a reduction mints an occurrence

The reducer looks at the visibility of the pane in one place: whether the occurrence it has just
minted counts as read. Reductions that differ in the visibility only end alike unless an
occurrence is minted that nobody has acknowledged.
-/

open Foundation
namespace VdeTmux.Pane

def UnreportedFault (s : PaneState) : Prop :=
  ∃ reason, s.lifecycle = .error (some reason) ∧
    ∃ fault ∈ s.claudeBackground.faults, fault.reason = reason ∧ fault.reported = false

def Silenced (s : PaneState) : Prop :=
  ∃ reason, s.lifecycle = .error (some reason) ∧
    (∃ fault ∈ s.claudeBackground.faults, fault.reason = reason) ∧
    ∀ fault ∈ s.claudeBackground.faults, fault.reason = reason → fault.reported = true

theorem UnreportedFault.not_silenced {s : PaneState} (h : UnreportedFault s) : ¬Silenced s := by
  rintro ⟨reason, hlifecycle, -, hall⟩
  obtain ⟨reason', hlifecycle', fault, hmem, hreason, hreported⟩ := h
  have hsame : reason' = reason := by
    have h := hlifecycle'.symm.trans hlifecycle
    simpa using h
  have htrue := hall fault hmem (hreason.trans hsame)
  simp [hreported] at htrue

theorem UnreportedFault.isError {s : PaneState} (h : UnreportedFault s) :
    s.lifecycle.isError = true := by
  obtain ⟨reason, hlifecycle, -⟩ := h
  rw [hlifecycle]
  rfl

theorem not_silenced_of_not_error {s : PaneState} (h : s.lifecycle.isError = false) :
    ¬Silenced s := by
  rintro ⟨reason, hlifecycle, -⟩
  rw [hlifecycle] at h
  exact Bool.noConfusion h

theorem reportFault_cases (s : PaneState) :
    (Silenced s ∧ reportFault s = none) ∨
      (¬Silenced s ∧ ∃ s₁ fresh, reportFault s = some (s₁, fresh) ∧
        (fresh = true ↔ UnreportedFault s)) := by
  by_cases hshown : ∃ reason, s.lifecycle = .error (some reason)
  · obtain ⟨reason, hlifecycle⟩ := hshown
    simp only [reportFault, hlifecycle]
    split_ifs with hfault hunreported
    · have hu : UnreportedFault s := by
        obtain ⟨fault, hmem, hrule⟩ := List.any_eq_true.mp hunreported
        simp only [Bool.and_eq_true, decide_eq_true_eq, Bool.not_eq_true'] at hrule
        exact ⟨reason, hlifecycle, fault, hmem, hrule⟩
      exact Or.inr ⟨hu.not_silenced, _, true, rfl, iff_of_true rfl hu⟩
    · refine Or.inl ⟨⟨reason, hlifecycle, ?_, ?_⟩, rfl⟩
      · simpa using hfault
      · intro fault hmem hreason
        by_contra hreported
        refine hunreported (List.any_eq_true.mpr ⟨fault, hmem, ?_⟩)
        simpa [hreason] using hreported
    · have hnone : ∀ fault ∈ s.claudeBackground.faults, fault.reason ≠ reason := by
        simpa using hfault
      refine Or.inr ⟨?_, s, false, rfl, ?_⟩
      · rintro ⟨reason', hlifecycle', ⟨fault, hmem, hreason⟩, -⟩
        rw [hlifecycle] at hlifecycle'
        cases hlifecycle'
        exact hnone fault hmem hreason
      · refine iff_of_false Bool.false_ne_true ?_
        rintro ⟨reason', hlifecycle', fault, hmem, hreason, -⟩
        rw [hlifecycle] at hlifecycle'
        cases hlifecycle'
        exact hnone fault hmem hreason
  · have hreport : reportFault s = some (s, false) := by
      unfold reportFault
      split
      · rename_i reason hlifecycle
        exact absurd ⟨reason, hlifecycle⟩ hshown
      · rfl
    refine Or.inr ⟨fun ⟨reason, hlifecycle, _⟩ => hshown ⟨reason, hlifecycle⟩, s, false, hreport, ?_⟩
    exact iff_of_false Bool.false_ne_true fun ⟨reason, hlifecycle, _⟩ =>
      hshown ⟨reason, hlifecycle⟩

def continued (current : Option PaneState) (s : PaneState) : Option PaneState :=
  current.filter fun previous => previous.agentEpoch = s.agentEpoch

/-- A record mints an occurrence when it waits, shows an error or completes a run, and the record
it continues did not. A fault that was not reported shows its error once more. -/
def Mints (current : Option PaneState) (s : PaneState) : Prop :=
  ¬Silenced s ∧
    ((s.lifecycle.isWaiting = true ∧
        (continued current s).any (·.lifecycle.isWaiting) = false) ∨
      (s.lifecycle.isError = true ∧
        (UnreportedFault s ∨ (continued current s).any (·.lifecycle.isError) = false)) ∨
      ((continued current s).map (·.completedSeq)).getD 0 < s.completedSeq)

theorem unreadReason_isSome {current : Option PaneState} {s s₁ : PaneState} {fresh : Bool}
    (hsilent : ¬Silenced s) (hreport : reportFault s = some (s₁, fresh))
    (hfresh : fresh = true ↔ UnreportedFault s) :
    (unreadReason current s₁ fresh).isSome = true ↔ Mints current s := by
  obtain ⟨hframe, -⟩ := reportFault_spec hreport
  have hlifecycle : s₁.lifecycle = s.lifecycle := by rw [hframe]
  have hepoch : s₁.agentEpoch = s.agentEpoch := by rw [hframe]
  have hcompleted : s₁.completedSeq = s.completedSeq := by rw [hframe]
  have hwas : (continued current s₁) = continued current s := by simp only [continued, hepoch]
  have hiff : Mints current s ↔
      ((s₁.lifecycle.isWaiting = true ∧
          (continued current s₁).any (·.lifecycle.isWaiting) = false) ∨
        (s₁.lifecycle.isError = true ∧
          (fresh = true ∨ (continued current s₁).any (·.lifecycle.isError) = false)) ∨
        ((continued current s₁).map (·.completedSeq)).getD 0 < s₁.completedSeq) := by
    rw [hwas, hlifecycle, hcompleted, hfresh, Mints, and_iff_right hsilent]
  rw [hiff]
  simp only [unreadReason]
  split_ifs with hwaiting herror hdone
  · exact iff_of_true rfl (Or.inl hwaiting)
  · exact iff_of_true rfl (Or.inr (Or.inl herror))
  · exact iff_of_true rfl (Or.inr (Or.inr hdone))
  · refine iff_of_false (fun h => Bool.noConfusion h) ?_
    rintro (h | h | h)
    · exact hwaiting h
    · exact herror h
    · exact hdone h

def ReductionContext.seen (context : ReductionContext) (visible : Bool) : ReductionContext :=
  { context with visibility := ⟨visible⟩ }

/-- The events whose occurrence does not depend on who looks: reading a pane mints none, and a
pane that is marked done is acknowledged by the mark. -/
def PaneEvent.acknowledges (event : PaneEvent) : Bool := event.isMarkPaneRead || event.isMarkDone

/-- Both visibilities end alike, but for an occurrence that nobody acknowledged: it is read for
the one and unread for the other. -/
theorem applyUnreadTransition_seen (current : Option PaneState) (event : PaneEvent)
    {s : PaneState} (context : ReductionContext) (hvalid : s.unread.validate = .ok ()) :
    (∃ e, applyUnreadTransition current event s (context.seen true) = .error e ∧
        applyUnreadTransition current event s (context.seen false) = .error e) ∨
      ∃ seen unseen, applyUnreadTransition current event s (context.seen true) = .ok seen ∧
        applyUnreadTransition current event s (context.seen false) = .ok unseen ∧
        (seen = unseen ↔ event.acknowledges = true ∨ ¬Mints current s) := by
  unfold applyUnreadTransition
  by_cases hread : event.isMarkPaneRead = true
  · rw [if_pos hread, if_pos hread]
    exact Or.inr ⟨s, s, rfl, rfl, iff_of_true rfl (Or.inl (by simp [PaneEvent.acknowledges, hread]))⟩
  rw [if_neg hread, if_neg hread]
  rcases reportFault_cases s with ⟨hsilent, hreport⟩ | ⟨hsilent, s₁, fresh, hreport, hfresh⟩
  · simp only [hreport]
    exact Or.inr ⟨s, s, rfl, rfl, iff_of_true rfl (Or.inr fun hmints => hmints.1 hsilent)⟩
  have hmints : (unreadReason current s₁ fresh).isSome = true ↔ Mints current s :=
    unreadReason_isSome hsilent hreport hfresh
  have hunread : s₁.unread = s.unread := by rw [(reportFault_spec hreport).1]
  cases hreason : unreadReason current s₁ fresh with
  | none =>
    simp only [hreport, hreason]
    refine Or.inr ⟨s₁, s₁, rfl, rfl, iff_of_true rfl (Or.inr fun h => ?_)⟩
    have hsome := hmints.mpr h
    simp [hreason] at hsome
  | some reason =>
    simp only [hreport, hreason]
    rw [hreason] at hmints
    cases hoccur : s₁.unread.occur context.latestUnreadOrder reason
        (if reason = .completed then s₁.completedAt.getD (eventEpoch event s₁)
          else eventEpoch event s₁)
        (.counterOverflow "unread occurrence sequence" : ReduceError)
        (.counterOverflow "unread occurrence order") with
    | error e => exact Or.inl ⟨e, bind_eq_error.mpr (Or.inl hoccur), bind_eq_error.mpr (Or.inl hoccur)⟩
    | ok unread =>
      refine Or.inr ⟨_, _, bind_pure_eq_ok.mpr ⟨unread, hoccur, rfl⟩,
        bind_pure_eq_ok.mpr ⟨unread, hoccur, rfl⟩, ?_⟩
      obtain ⟨-, -, rfl⟩ := UnreadState.occur_eq_ok.mp hoccur
      have hle := (UnreadState.validate_eq_ok.mp hvalid).1
      have hread : event.isMarkPaneRead = false := by simpa using hread
      rw [or_iff_left (not_not.mpr (hmints.mp rfl)), PaneEvent.acknowledges, hread, Bool.false_or]
      simp only [ReductionContext.seen, true_or, if_true, Bool.false_eq_true, false_or]
      by_cases hdone : event.isMarkDone = true
      · simp only [hdone, if_true]
      · refine iff_of_false ?_ hdone
        intro heq
        have hseq := congrArg (fun s => s.unread.readSeq) heq
        simp only [hdone, Bool.false_eq_true, if_false, hunread] at hseq
        omega

variable [Sha256]

theorem dispatch_seen (current : Option PaneState) (envelope : PaneEventEnvelope)
    (context : ReductionContext) (visible : Bool) :
    dispatch current envelope (context.seen visible) = dispatch current envelope context := rfl

theorem settle_finish (current : Option PaneState) (event : PaneEvent)
    (context : ReductionContext) (s : PaneState) (tracker : CaptureTrackerSnapshot)
    (previous : Option CaptureTrackerSnapshot) :
    settle current event context (.finish s tracker previous) =
      if current = some s then
        .ok ⟨some s, trackerDelta tracker previous,
          if (trackerDelta tracker previous).isSome then .trackerOnly else .noop⟩
      else do
        let revision ← nextRevision current
        validateInvariant { s with revision := revision }
        let s' ← applyUnreadTransition current event { s with revision := revision } context
        validateInvariant s'
        return ⟨some s', trackerDelta tracker previous, .canonicalChanged⟩ := by
  unfold settle finishStateReduction
  dsimp only
  by_cases hsame : current = some s
  · rw [if_pos hsame, if_pos hsame]
    cases (trackerDelta tracker previous).isSome <;> rfl
  · rw [if_neg hsame, if_neg hsame]
    cases nextRevision current with
    | error error => rfl
    | ok revision =>
      cases hvalid : validateInvariant { s with revision := revision } with
      | error error => simp only [bind, Except.bind, hvalid]
      | ok u => simp only [bind, Except.bind, hvalid, pure, Except.pure]

/-- The reduction is accepted and changes the record. -/
def Alters (current : Option PaneState) (envelope : PaneEventEnvelope)
    (context : ReductionContext) : Prop :=
  ∃ r, reduce current envelope (context.seen false) = .ok r ∧ r.record ≠ current

/-- The reduction leaves the same record, whether the pane is visible or not. -/
def SeenAlike (current : Option PaneState) (envelope : PaneEventEnvelope)
    (context : ReductionContext) : Prop :=
  (reduce current envelope (context.seen true)).map (·.record) =
    (reduce current envelope (context.seen false)).map (·.record)

theorem Alters.finish {current : Option PaneState} {envelope : PaneEventEnvelope}
    {context : ReductionContext} (h : Alters current envelope context) :
    ∃ s tracker previous, dispatch current envelope context = .ok (.finish s tracker previous) ∧
      current ≠ some s ∧ Settleable s := by
  obtain ⟨r, hr, hdiffers⟩ := h
  obtain ⟨-, -, rfl | ⟨-, s, tracker, previous, hdispatch, hsettled⟩⟩ := reduce_eq_ok hr
  · exact absurd rfl hdiffers
  · cases hsettled with
    | same hrecord hresult =>
      subst hresult
      exact absurd hrecord.symm hdiffers
    | changed hnew revision hnext hvalid s' hunread hresult =>
      exact ⟨s, tracker, previous, hdispatch, hnew,
        (settleable_iff (nextRevision_pos hnext)).mp hvalid⟩

theorem settle_seen (current : Option PaneState) (event : PaneEvent) (context : ReductionContext)
    (s : PaneState) (tracker : CaptureTrackerSnapshot)
    (previous : Option CaptureTrackerSnapshot) :
    (settle current event (context.seen true) (.finish s tracker previous) =
        settle current event (context.seen false) (.finish s tracker previous) ∧
      ∀ r, settle current event (context.seen false) (.finish s tracker previous) = .ok r →
        r.record = current) ∨
      ∃ seen unseen, settle current event (context.seen true) (.finish s tracker previous) =
          .ok seen ∧
        settle current event (context.seen false) (.finish s tracker previous) = .ok unseen ∧
        unseen.record ≠ current ∧
        (seen.record = unseen.record ↔ event.acknowledges = true ∨ ¬Mints current s) := by
  rw [settle_finish, settle_finish]
  by_cases hsame : current = some s
  · rw [if_pos hsame, if_pos hsame]
    refine Or.inl ⟨rfl, fun r hr => ?_⟩
    cases hr
    exact hsame.symm
  rw [if_neg hsame, if_neg hsame]
  cases hnext : nextRevision current with
  | error e => exact Or.inl ⟨rfl, fun r hr => by cases hr⟩
  | ok revision =>
    cases hcheck : validateInvariant { s with revision := revision } with
    | error e =>
      simp only [bind, Except.bind, hcheck]
      exact Or.inl ⟨trivial, fun r hr => by cases hr⟩
    | ok u =>
      have hvalid := validateInvariant_eq_ok.mp hcheck
      simp only [bind, Except.bind, hcheck]
      rcases applyUnreadTransition_seen current event context hvalid.unread with
        ⟨e, hseen, hunseen⟩ | ⟨seen, unseen, hseen, hunseen, hiff⟩
      · simp only [hseen, hunseen]
        exact Or.inl ⟨trivial, fun r hr => by cases hr⟩
      · have hrevision : unseen.revision = revision := by
          rw [(applyUnreadTransition_spec hunseen).1]
        have hsettled : validateInvariant seen = .ok () :=
          validateInvariant_eq_ok.mpr (applyUnreadTransition_valid hvalid hseen)
        have hunsettled : validateInvariant unseen = .ok () :=
          validateInvariant_eq_ok.mpr (applyUnreadTransition_valid hvalid hunseen)
        simp only [hseen, hunseen, hsettled, hunsettled]
        refine Or.inr ⟨_, _, rfl, rfl, ?_, by rw [Option.some.injEq]; exact hiff⟩
        intro hcurrent
        rw [← hcurrent] at hnext
        obtain ⟨-, hnext⟩ := increment_eq_ok.mp hnext
        omega

omit [Sha256] in
theorem not_exists_error {α ε : Type} {error : ε} {P : α → Prop} :
    ¬∃ r, (Except.error error : Except ε α) = .ok r ∧ P r := by
  rintro ⟨r, hr, -⟩
  cases hr

omit [Sha256] in
theorem not_exists_kept {α ε β : Type} {a : α} {f : α → β} {b : β} (h : f a = b) :
    ¬∃ r, (Except.ok a : Except ε α) = .ok r ∧ f r ≠ b := by
  rintro ⟨r, hr, hdiffers⟩
  exact hdiffers (by rw [← Except.ok.inj hr, h])

theorem reduce_seen (current : Option PaneState) (envelope : PaneEventEnvelope)
    (context : ReductionContext) :
    (reduce current envelope (context.seen true) = reduce current envelope (context.seen false) ∧
      ¬Alters current envelope context) ∨
      ∃ s tracker previous seen unseen,
        dispatch current envelope context = .ok (.finish s tracker previous) ∧
        reduce current envelope (context.seen true) = .ok seen ∧
        reduce current envelope (context.seen false) = .ok unseen ∧
        unseen.record ≠ current ∧
        (seen.record = unseen.record ↔
          envelope.event.acknowledges = true ∨ ¬Mints current s) := by
  unfold Alters
  simp only [reduce, dispatch_seen]
  rcases ok_or_error (envelope.paneInstance.validate.mapError fun error =>
    (ReduceError.invalidRequest error.message)) with ⟨u, hpane⟩ | ⟨e, hpane⟩
  swap
  · simp only [hpane, bind, Except.bind]
    exact Or.inl ⟨trivial, not_exists_error⟩
  rcases ok_or_error (refuse (∃ state ∈ current, state.paneInstance ≠ envelope.paneInstance)
    ReduceError.invalidPaneInstance) with ⟨u, hinstance⟩ | ⟨e, hinstance⟩
  swap
  · simp only [hpane, hinstance, bind, Except.bind]
    exact Or.inl ⟨trivial, not_exists_error⟩
  simp only [hpane, hinstance, bind, Except.bind]
  by_cases hempty : envelope.event.isSemanticallyEmpty = true
  · simp only [if_pos hempty]
    exact Or.inl ⟨trivial, not_exists_kept rfl⟩
  simp only [if_neg hempty]
  cases dispatch current envelope context with
  | error e => exact Or.inl ⟨rfl, not_exists_error⟩
  | ok pending =>
    cases pending with
    | unchanged =>
      exact Or.inl ⟨rfl, not_exists_kept rfl⟩
    | finish s tracker previous =>
      rcases settle_seen current envelope.event context s tracker previous with
        ⟨hsame, hkept⟩ | ⟨seen, unseen, hseen, hunseen, hdiffers, hiff⟩
      · refine Or.inl ⟨hsame, ?_⟩
        rintro ⟨r, hr, hdiffers⟩
        exact hdiffers (hkept r hr)
      · exact Or.inr ⟨s, tracker, previous, seen, unseen, rfl, hseen, hunseen, hdiffers, hiff⟩

/-- The visibility matters for the record exactly when the reduction alters it and mints an
occurrence that the event does not acknowledge itself. -/
theorem seenAlike_iff {current : Option PaneState} {envelope : PaneEventEnvelope}
    {context : ReductionContext} :
    SeenAlike current envelope context ↔
      (Alters current envelope context → ∀ s tracker previous,
        dispatch current envelope context = .ok (.finish s tracker previous) →
        envelope.event.acknowledges = true ∨ ¬Mints current s) := by
  rcases reduce_seen current envelope context with ⟨hsame, hunaltered⟩ |
    ⟨s, tracker, previous, seen, unseen, hdispatch, hseen, hunseen, hdiffers, hiff⟩
  · exact iff_of_true (congrArg _ hsame) fun halters => absurd halters hunaltered
  · have hsame : SeenAlike current envelope context ↔ seen.record = unseen.record := by
      simp only [SeenAlike, hseen, hunseen, Except.map, Except.ok.injEq]
    rw [hsame, hiff]
    constructor
    · intro h _ s' tracker' previous' hdispatch'
      rw [hdispatch] at hdispatch'
      cases hdispatch'
      exact h
    · intro h
      exact h ⟨unseen, hunseen, hdiffers⟩ s tracker previous hdispatch

end VdeTmux.Pane
