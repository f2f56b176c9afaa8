import VdeTmux.Pane.UnreadErrors

/-!
# Bookkeeping beside the records

What is projected from the records stays small: the queues drop their oldest entries, and the maps
by pane only have keys of panes with a record. Up to the limit of panes, an event that the reducer
accepts is therefore never refused for what is kept beside the records.
-/

open Foundation Foundation.Text
namespace VdeTmux.Pane

theorem length_keepLast {α : Type} (limit : ℕ) (l : List α) :
    (keepLast limit l).length ≤ limit := by
  simp only [keepLast, List.length_drop]
  omega

theorem length_pushDiagnosticOf (diagnostics : List PaneStateDiagnostic) (pane : PaneInstance)
    (message : String) : (pushDiagnosticOf diagnostics pane message).length ≤ maxDiagnostics :=
  length_keepLast _ _

theorem shedNotifications_length (pane : PaneInstance) (diagnostics : List PaneStateDiagnostic)
    (jobs : List CanonicalNotification) (h : diagnostics.length ≤ maxDiagnostics) :
    (CanonicalStateRuntime.shedNotifications pane diagnostics jobs).1.length ≤
        maxNotificationJobs ∧
      (CanonicalStateRuntime.shedNotifications pane diagnostics jobs).2.length ≤
        maxDiagnostics := by
  induction jobs generalizing diagnostics with
  | nil => exact ⟨Nat.zero_le _, h⟩
  | cons job rest ih =>
    unfold CanonicalStateRuntime.shedNotifications
    split_ifs with hfull
    · exact ih _ (length_pushDiagnosticOf _ _ _)
    · exact ⟨not_lt.mp hfull, h⟩

namespace CanonicalStateRuntime

/-- The queues are within their limits, and the maps have keys of panes with a record only. -/
structure Tidy (runtime : CanonicalStateRuntime) : Prop where
  transitions : runtime.transitions.length ≤ maxDiagnostics
  diagnostics : runtime.diagnostics.length ≤ maxDiagnostics
  jobs : runtime.notificationJobs.length ≤ maxNotificationJobs
  generations : ∀ pane ∈ runtime.notificationGenerations, pane ∈ runtime.records
  triage : ∀ pane ∈ runtime.triage, pane ∈ runtime.records
  calm : ∀ pane ∈ runtime.triageCalmPolls, pane ∈ runtime.records
  flash : ∀ pane ∈ runtime.flash, pane ∈ runtime.records

theorem mem_insert {α : Type} {m : PaneMap α} {pane other : PaneInstance} {a : α} :
    other ∈ m.insert pane a ↔ other = pane ∨ other ∈ m := by
  rw [Std.ExtTreeMap.mem_insert, Std.LawfulEqCmp.compare_eq_iff_eq, eq_comm]

theorem mem_erase {α : Type} {m : PaneMap α} {pane other : PaneInstance} :
    other ∈ m.erase pane ↔ other ≠ pane ∧ other ∈ m := by
  rw [Std.ExtTreeMap.mem_erase, ne_eq, Std.LawfulEqCmp.compare_eq_iff_eq, eq_comm]

theorem keys_insert {α : Type} {m : PaneMap α} {records : PaneMap PaneState} {pane : PaneInstance}
    {a : α} (h : ∀ other ∈ m, other ∈ records) (hpane : pane ∈ records) :
    ∀ other ∈ m.insert pane a, other ∈ records := by
  intro other hother
  rcases mem_insert.mp hother with rfl | hold
  · exact hpane
  · exact h other hold

theorem keys_erase {α : Type} {m : PaneMap α} {records : PaneMap PaneState} {pane : PaneInstance}
    (h : ∀ other ∈ m, other ∈ records) : ∀ other ∈ m.erase pane, other ∈ records :=
  fun other hother => h other (mem_erase.mp hother).2

theorem Tidy.bump {runtime bumped : CanonicalStateRuntime} (h : runtime.Tidy)
    (hbump : runtime.bumpSnapshotRevision = .ok bumped) : bumped.Tidy := by
  obtain ⟨-, rfl⟩ := bumpSnapshotRevision_eq_ok.mp hbump
  exact { h with }

theorem Tidy.bumpIf {runtime bumped : CanonicalStateRuntime} {bump : Bool} (h : runtime.Tidy)
    (hbump : runtime.bumpIf bump = .ok bumped) : bumped.Tidy := by
  unfold CanonicalStateRuntime.bumpIf at hbump
  split_ifs at hbump
  · exact h.bump hbump
  · cases hbump
    exact h

theorem Tidy.preflight [ProjectionFrame] {runtime : CanonicalStateRuntime} (h : runtime.Tidy)
    (responseLimit : ℕ) : (runtime.preflightProjection responseLimit).2.Tidy := by
  unfold preflightProjection
  dsimp only
  refine ⟨h.transitions, ?_, h.jobs, h.generations, h.triage, h.calm, h.flash⟩
  apply length_keepLast

theorem Tidy.publishInPlace [Sha256] [ProjectionFrame] {runtime : CanonicalStateRuntime}
    (h : runtime.Tidy) : runtime.publishInPlace.2.Tidy := by
  unfold CanonicalStateRuntime.publishInPlace
  split
  · exact h
  · rename_i bumped hbump
    split
    · exact h.bump hbump
    · exact (h.bump hbump).preflight _

theorem Tidy.publish [Sha256] [ProjectionFrame] {draft published : CanonicalStateRuntime}
    (h : draft.Tidy) (hpublish : draft.publish = .ok published) : published.Tidy := by
  have hplace := h.publishInPlace
  unfold CanonicalStateRuntime.publish at hpublish
  split at hpublish
  · rename_i heq
    cases hpublish
    rw [heq] at hplace
    exact hplace
  · cases hpublish

theorem Tidy.settle [Sha256] [ProjectionFrame] {draft settled : CanonicalStateRuntime} {bump : Bool}
    (h : draft.Tidy) (hsettle : draft.settleProjection bump = .ok settled) : settled.Tidy := by
  obtain ⟨bumped, hbump, hsettle⟩ := bind_eq_ok.mp hsettle
  obtain ⟨-, hsettle⟩ := seq_eq_ok.mp hsettle
  cases hsettle
  exact (h.bumpIf hbump).preflight _

theorem Tidy.track {runtime : CanonicalStateRuntime} (h : runtime.Tidy) (pane : PaneInstance)
    (delta : Option CaptureTrackerDelta) : (runtime.track pane delta).Tidy := by
  cases delta with
  | none => exact h
  | some delta => exact { h with }

theorem Tidy.store {runtime : CanonicalStateRuntime} (h : runtime.Tidy) (pane : PaneInstance)
    (candidate : PaneState) (order : ℕ) : ({ runtime with
      latestUnreadOrder := order
      records := runtime.records.insert pane candidate } : CanonicalStateRuntime).Tidy :=
  { transitions := h.transitions
    diagnostics := h.diagnostics
    jobs := h.jobs
    generations := fun other hother => mem_insert.mpr (Or.inr (h.generations other hother))
    triage := fun other hother => mem_insert.mpr (Or.inr (h.triage other hother))
    calm := fun other hother => mem_insert.mpr (Or.inr (h.calm other hother))
    flash := fun other hother => mem_insert.mpr (Or.inr (h.flash other hother)) }

theorem Tidy.endOccurrence {runtime : CanonicalStateRuntime} (h : runtime.Tidy)
    (pane : PaneInstance) (previous current : Option PaneState) :
    (runtime.endOccurrence pane previous current).Tidy := by
  unfold CanonicalStateRuntime.endOccurrence
  split_ifs
  · exact { h with generations := keys_erase h.generations }
  · exact h

theorem Tidy.pushTransition {runtime : CanonicalStateRuntime} (h : runtime.Tidy)
    (transition : CanonicalTransition) : (runtime.pushTransition transition).Tidy := by
  unfold CanonicalStateRuntime.pushTransition
  refine ⟨?_, h.diagnostics, h.jobs, h.generations, h.triage, h.calm, h.flash⟩
  apply length_keepLast

theorem Tidy.notifyBlocked {runtime : CanonicalStateRuntime} (h : runtime.Tidy)
    {pane : PaneInstance} (hpane : pane ∈ runtime.records) (stateVersion : StateVersion) :
    (runtime.notifyBlocked pane stateVersion).Tidy := by
  obtain ⟨hjobs, hdiagnostics⟩ := shedNotifications_length pane runtime.diagnostics
    (runtime.notificationJobs ++ [⟨pane, stateVersion⟩]) h.diagnostics
  exact
    { h with
      jobs := hjobs
      diagnostics := hdiagnostics
      generations := keys_insert h.generations hpane }

theorem Tidy.announce {runtime : CanonicalStateRuntime} (h : runtime.Tidy) {pane : PaneInstance}
    (hpane : pane ∈ runtime.records) (previous current : Option PaneState) :
    (runtime.announce pane previous current).Tidy := by
  have hflashing : ({ runtime with flash := runtime.flash.insert pane 2 } :
      CanonicalStateRuntime).Tidy := { h with flash := keys_insert h.flash hpane }
  unfold CanonicalStateRuntime.announce
  dsimp only
  split_ifs
  · exact h
  · split
    · split_ifs
      · exact hflashing.notifyBlocked hpane _
      · exact hflashing
    · exact hflashing

theorem Tidy.enterTriage {runtime : CanonicalStateRuntime} (h : runtime.Tidy) {pane : PaneInstance}
    (hpane : pane ∈ runtime.records) (current : Option PaneState) :
    (runtime.enterTriage pane current).Tidy := by
  unfold CanonicalStateRuntime.enterTriage
  split_ifs
  · exact { h with triage := keys_insert h.triage hpane, calm := keys_erase h.calm }
  · exact h

theorem Tidy.deriveCandidateProjection {runtime : CanonicalStateRuntime} (h : runtime.Tidy)
    {pane : PaneInstance} (hpane : pane ∈ runtime.records) (previous current : Option PaneState)
    (event : PaneEvent) (atEpoch : ℤ) :
    (runtime.deriveCandidateProjection pane previous current event atEpoch).Tidy := by
  have hrecords {runtime runtime' : CanonicalStateRuntime} (h : runtime'.core = runtime.core)
      (hpane : pane ∈ runtime.records) : pane ∈ runtime'.records := by
    rw [show runtime'.records = runtime.records from congrArg Prod.fst h]
    exact hpane
  have hended := hrecords (runtime.endOccurrence_core pane previous current) hpane
  have hpushed := hrecords (pushTransition_core _
    (canonicalTransition pane previous current event atEpoch)) hended
  have hannounced := hrecords (announce_core _ pane previous current) hpushed
  refine Tidy.enterTriage ?_ hannounced _
  exact ((h.endOccurrence pane previous current).pushTransition _).announce hpushed _ _

theorem Tidy.storeCandidate {runtime : CanonicalStateRuntime} (h : runtime.Tidy)
    (pane : PaneInstance) (event : PaneEvent) (candidate : PaneState)
    (delta : Option CaptureTrackerDelta) (order : ℕ) :
    (runtime.storeCandidate pane event candidate delta order).Tidy := by
  refine ((h.store pane candidate order).track pane delta).deriveCandidateProjection ?_ _ _ _ _
  have hstored : pane ∈ runtime.records.insert pane candidate := mem_insert.mpr (Or.inl rfl)
  cases delta with
  | none => exact hstored
  | some delta => exact hstored

theorem Tidy.commit {α : Type} {runtime : CanonicalStateRuntime}
    {result : Except StoreError (α × CanonicalStateRuntime)} (h : runtime.Tidy)
    (hdraft : ∀ a draft, result = .ok (a, draft) → draft.Tidy) :
    (runtime.commit result).2.Tidy := by
  rcases commit_snd runtime result with hsame | ⟨a, draft, hresult, hcommit⟩
  · rw [hsame]
    exact h
  · rw [hcommit]
    exact hdraft a draft hresult

section
variable [Sha256] [ProjectionFrame]

theorem Tidy.publishResult {α : Type} {runtime : CanonicalStateRuntime} (h : runtime.Tidy)
    (report : CanonicalStateRuntime → α) : (runtime.publishResult report).2.Tidy := by
  rw [publishResult_snd]
  exact h.publishInPlace

theorem Tidy.applyEventInMemory {runtime : CanonicalStateRuntime} (h : runtime.Tidy)
    (envelope : PaneEventEnvelope) (visibility : VisibilitySnapshot)
    (privateTaskPrompt : Option String) (generated : Except String StateId) :
    (runtime.applyEventInMemory envelope visibility privateTaskPrompt generated).2.Tidy := by
  unfold CanonicalStateRuntime.applyEventInMemory
  split
  · exact h
  · split
    · exact h
    · split
      · unfold CanonicalStateRuntime.applyCandidate
        split
        · exact h
        · exact (h.storeCandidate _ _ _ _ _).publishResult _
      · unfold CanonicalStateRuntime.applyTracked
        dsimp only
        split_ifs
        · exact (h.track _ _).publishResult _
        · exact h.track _ _

theorem applyEvent_snd (runtime : CanonicalStateRuntime) (saved : Except StoreError Unit)
    (envelope : PaneEventEnvelope) (visibility : VisibilitySnapshot)
    (privateTaskPrompt : Option String) (generated : Except String StateId) :
    (runtime.applyEventWithPrivateTaskPrompt saved envelope visibility privateTaskPrompt
        generated).2 = runtime ∨
      (runtime.applyEventWithPrivateTaskPrompt saved envelope visibility privateTaskPrompt
        generated).2 =
        (runtime.applyEventInMemory envelope visibility privateTaskPrompt generated).2 := by
  unfold applyEventWithPrivateTaskPrompt
  rcases commit_snd runtime _ with hsame | ⟨_, draft, hresult, hdraft⟩
  · exact Or.inl hsame
  · refine Or.inr (hdraft.trans ?_)
    obtain ⟨-, hresult⟩ := seq_eq_ok.mp hresult
    obtain ⟨result, -, hresult⟩ := bind_eq_ok.mp hresult
    dsimp only at hresult
    split_ifs at hresult
    · obtain ⟨-, hresult⟩ := seq_eq_ok.mp hresult
      cases hresult
      rfl
    · cases hresult
      rfl

omit [Sha256] [ProjectionFrame] in
theorem readsSaved_draft {result result' : PaneReadApplyResult}
    {working draft : CanonicalStateRuntime} {saved : Except StoreError Unit}
    (h : (do
      if 0 < result.committed then saved
      return (result, working) : Except StoreError _) = .ok (result', draft)) :
    draft = working := by
  dsimp only at h
  split_ifs at h
  · obtain ⟨-, h⟩ := seq_eq_ok.mp h
    cases h
    rfl
  · cases h
    rfl

theorem Tidy.applyEvent {runtime : CanonicalStateRuntime} (h : runtime.Tidy)
    (saved : Except StoreError Unit) (envelope : PaneEventEnvelope)
    (visibility : VisibilitySnapshot) (privateTaskPrompt : Option String)
    (generated : Except String StateId) :
    (runtime.applyEventWithPrivateTaskPrompt saved envelope visibility privateTaskPrompt
      generated).2.Tidy := by
  rcases applyEvent_snd runtime saved envelope visibility privateTaskPrompt generated
    with hsame | hmemory
  · rw [hsame]
    exact h
  · rw [hmemory]
    exact h.applyEventInMemory _ _ _ _

omit [Sha256] [ProjectionFrame] in
theorem Tidy.revised {runtime : CanonicalStateRuntime} (h : runtime.Tidy) (revision : ℕ) :
    ({ runtime with snapshotRevision := revision } : CanonicalStateRuntime).Tidy := { h with }

theorem Tidy.readPane {revisionBefore : ℕ} {draft draft' : ReadDraft}
    {envelope : PaneEventEnvelope} (h : draft.working.Tidy)
    (hread : readPane revisionBefore draft envelope = .ok draft') : draft'.working.Tidy := by
  have happlied := (h.revised revisionBefore).applyEventInMemory envelope {} none (.error "")
  unfold CanonicalStateRuntime.readPane at hread
  split_ifs at hread
  split at hread
  · rename_i result working hresult
    rw [hresult] at happlied
    cases hread
    exact happlied
  · rename_i e working hresult
    rw [hresult] at happlied
    split_ifs at hread
    cases hread
    exact happlied

theorem Tidy.readPanes {revisionBefore : ℕ} {draft draft' : ReadDraft}
    {envelopes : List PaneEventEnvelope} (h : draft.working.Tidy)
    (hread : readPanes revisionBefore draft envelopes = .ok draft') : draft'.working.Tidy := by
  induction envelopes generalizing draft with
  | nil =>
    cases hread
    exact h
  | cons envelope rest ih =>
    obtain ⟨next, hnext, hrest⟩ := bind_eq_ok.mp hread
    exact ih (h.readPane hnext) hrest

theorem Tidy.applyPaneReads {runtime : CanonicalStateRuntime} (h : runtime.Tidy)
    (saved : Except StoreError Unit) (envelopes : List PaneEventEnvelope) :
    (runtime.applyPaneReads saved envelopes).2.Tidy := by
  unfold CanonicalStateRuntime.applyPaneReads
  split_ifs
  · exact h
  · split
    · exact { h with }
    · rename_i result working hdraft
      refine h.commit fun _ draft hresult => ?_
      obtain rfl := readsSaved_draft hresult
      obtain ⟨read, hread, hsettle⟩ := bind_eq_ok.mp hdraft
      obtain ⟨settled, hsettled, hsettle⟩ := bind_pure_eq_ok.mp hsettle
      cases hsettle
      exact ((h.readPanes hread).revised _).settle (mapError_eq_ok.mp hsettled)

theorem Tidy.projectCurrentRun {runtime : CanonicalStateRuntime} (h : runtime.Tidy)
    (saved : Except StoreError Unit) (pane : PaneInstance)
    (projection : CurrentDurableRunProjection) (executionActive : Bool) (observedAt : ℤ) :
    (runtime.projectCurrentRun saved pane projection executionActive observedAt).2.Tidy := by
  refine h.commit fun _ draft hresult => ?_
  obtain ⟨-, hresult⟩ := seq_eq_ok.mp hresult
  split at hresult
  · cases hresult
    exact h
  · obtain ⟨⟨candidate, changed⟩, -, hresult⟩ := bind_eq_ok.mp hresult
    dsimp only at hresult
    split_ifs at hresult
    · cases hresult
      exact h
    · obtain ⟨published, hpublish, hresult⟩ := bind_eq_ok.mp hresult
      obtain ⟨-, hresult⟩ := seq_eq_ok.mp hresult
      cases hresult
      exact (h.store pane candidate _).publish hpublish

omit [Sha256] [ProjectionFrame] in
theorem Tidy.noteCodexBindingRejected {runtime : CanonicalStateRuntime} (h : runtime.Tidy)
    (pane : PaneInstance) (expected : StateVersion) (process : AgentProcessIdentity) :
    (runtime.noteCodexBindingRejected pane expected process).2.Tidy := by
  unfold CanonicalStateRuntime.noteCodexBindingRejected
  split
  · exact h
  · dsimp only
    split_ifs
    · exact h
    · refine h.commit fun _ draft hresult => ?_
      obtain ⟨generation, -, hresult⟩ := bind_pure_eq_ok.mp hresult
      cases hresult
      exact { h with }

omit [Sha256] [ProjectionFrame] in
theorem keys_forget {α : Type} {m : PaneMap α} {records : PaneMap PaneState} (pane : PaneInstance)
    (h : ∀ other ∈ m, other ∈ records) : ∀ other ∈ m.erase pane, other ∈ records.erase pane := by
  intro other hother
  obtain ⟨hne, hold⟩ := mem_erase.mp hother
  exact mem_erase.mpr ⟨hne, h other hold⟩

omit [Sha256] [ProjectionFrame] in
theorem Tidy.forgetPane {runtime : CanonicalStateRuntime} (h : runtime.Tidy)
    (pane : PaneInstance) : (runtime.forgetPane pane).Tidy :=
  { transitions := h.transitions
    diagnostics := h.diagnostics
    jobs := h.jobs
    generations := keys_forget pane h.generations
    triage := keys_forget pane h.triage
    calm := keys_forget pane h.calm
    flash := keys_forget pane h.flash }

theorem Tidy.removeAbsentPane {runtime : CanonicalStateRuntime} (h : runtime.Tidy)
    (saved : Except StoreError Unit) (pane : PaneInstance)
    (expected : Option StoredStateDescriptor) :
    (runtime.removeAbsentPane saved pane expected).2.Tidy := by
  refine h.commit fun _ draft hresult => ?_
  obtain ⟨-, hresult⟩ := seq_eq_ok.mp hresult
  split_ifs at hresult
  · cases hresult
    exact h
  · obtain ⟨published, hpublish, hresult⟩ := bind_eq_ok.mp hresult
    obtain ⟨-, hresult⟩ := seq_eq_ok.mp hresult
    cases hresult
    exact (h.forgetPane pane).publish hpublish

end

theorem Tidy.advanceTriage {draft : CanonicalStateRuntime × Bool} (h : draft.1.Tidy)
    {pane : PaneInstance} (hpane : pane ∈ draft.1.records) :
    (CanonicalStateRuntime.advanceTriage draft pane).1.Tidy := by
  unfold CanonicalStateRuntime.advanceTriage
  dsimp only
  split_ifs
  · exact { h with calm := keys_erase h.calm }
  · exact { h with triage := keys_erase h.triage, calm := keys_erase h.calm }
  · exact { h with calm := keys_insert h.calm hpane }

theorem Tidy.advanceFlash {draft : CanonicalStateRuntime × Bool} (h : draft.1.Tidy)
    {pane : PaneInstance} (hpane : pane ∈ draft.1.records) :
    (CanonicalStateRuntime.advanceFlash draft pane).1.Tidy := by
  unfold CanonicalStateRuntime.advanceFlash
  dsimp only
  split_ifs
  · exact { h with flash := keys_erase h.flash }
  · exact { h with flash := keys_insert h.flash hpane }

theorem Tidy.advance {advance : CanonicalStateRuntime × Bool → PaneInstance →
      CanonicalStateRuntime × Bool}
    (hcore : ∀ draft pane, (advance draft pane).1.core = draft.1.core)
    (hadvance : ∀ draft pane, draft.1.Tidy → pane ∈ draft.1.records → (advance draft pane).1.Tidy)
    {panes : List PaneInstance} {draft : CanonicalStateRuntime × Bool} (h : draft.1.Tidy)
    (hpanes : ∀ pane ∈ panes, pane ∈ draft.1.records) : (panes.foldl advance draft).1.Tidy := by
  induction panes generalizing draft with
  | nil => exact h
  | cons pane rest ih =>
    obtain ⟨hpane, hrest⟩ := List.forall_mem_cons.mp hpanes
    have hrecords : (advance draft pane).1.records = draft.1.records :=
      congrArg Prod.fst (hcore draft pane)
    refine ih (hadvance draft pane h hpane) fun other hother => ?_
    rw [hrecords]
    exact hrest other hother

theorem mem_of_toList {α : Type} {m : PaneMap α} {pane : PaneInstance}
    (h : pane ∈ m.toList.map (·.1)) : pane ∈ m := by
  obtain ⟨⟨pane, a⟩, hentry, rfl⟩ := List.mem_map.mp h
  exact Std.ExtTreeMap.mem_iff_isSome_getElem?.mpr
    (Option.isSome_iff_exists.mpr ⟨a, Std.ExtTreeMap.mem_toList_iff_getElem?_eq_some.mp hentry⟩)

section
variable [Sha256] [ProjectionFrame]

theorem Tidy.advancePollProjection {runtime : CanonicalStateRuntime} (h : runtime.Tidy) :
    runtime.advancePollProjection.2.Tidy := by
  have htriaged : ((runtime.triage.toList.map (·.1)).foldl CanonicalStateRuntime.advanceTriage
      (runtime, false)).1.Tidy :=
    Tidy.advance advanceTriage_core (fun _ _ h hpane => h.advanceTriage hpane) h
      fun pane hpane => h.triage pane (mem_of_toList hpane)
  have hflashed := Tidy.advance advanceFlash_core
    (fun _ _ h hpane => h.advanceFlash hpane) htriaged
    fun pane hpane => htriaged.flash pane (mem_of_toList hpane)
  refine h.commit fun _ draft hresult => ?_
  obtain ⟨settled, hsettled, hresult⟩ := bind_pure_eq_ok.mp hresult
  cases hresult
  exact hflashed.settle hsettled

omit [Sha256] [ProjectionFrame] in
theorem Tidy.expireScreenEvidence {runtime : CanonicalStateRuntime} (h : runtime.Tidy) (now : ℤ) :
    (runtime.expireScreenEvidence now).2.Tidy := by
  have hexpired : ({ runtime with
      trackers := runtime.trackers.map fun _ => expireScreen now } :
        CanonicalStateRuntime).Tidy := { h with }
  unfold CanonicalStateRuntime.expireScreenEvidence
  dsimp only
  split_ifs
  · refine hexpired.commit fun _ draft hresult => ?_
    obtain ⟨bumped, hbumped, hresult⟩ := map_eq_ok.mp hresult
    cases hresult
    exact hexpired.bump hbumped
  · exact hexpired

omit [Sha256] [ProjectionFrame] in
theorem length_noted (pane : PaneInstance) (messages : List String)
    {diagnostics : List PaneStateDiagnostic} (h : diagnostics.length ≤ maxDiagnostics) :
    (messages.foldl (fun diagnostics message => pushDiagnosticOf diagnostics pane message)
      diagnostics).length ≤ maxDiagnostics := by
  induction messages generalizing diagnostics with
  | nil => exact h
  | cons message rest ih =>
    apply ih
    apply length_pushDiagnosticOf

omit [Sha256] [ProjectionFrame] in
theorem Tidy.noting {runtime : CanonicalStateRuntime} (h : runtime.Tidy)
    {diagnostics : List PaneStateDiagnostic} (hdiagnostics : diagnostics.length ≤ maxDiagnostics) :
    ({ runtime with diagnostics := diagnostics } : CanonicalStateRuntime).Tidy :=
  { h with diagnostics := hdiagnostics }

theorem Tidy.addDiagnostic {runtime : CanonicalStateRuntime} (h : runtime.Tidy)
    (pane : PaneInstance) (message : String) : (runtime.addDiagnostic pane message).2.Tidy := by
  refine h.commit fun _ draft hresult => ?_
  obtain ⟨published, hpublish, hresult⟩ := bind_pure_eq_ok.mp hresult
  cases hresult
  exact (h.noting (length_pushDiagnosticOf _ pane message)).publish hpublish

theorem Tidy.finishSequencedProjection {runtime : CanonicalStateRuntime} (h : runtime.Tidy)
    (diagnosticPane : Option PaneInstance) (messages : List String) (projectionChanged : Bool)
    (revisionBefore : ℕ) : (runtime.finishSequencedProjection diagnosticPane messages
      projectionChanged revisionBefore).2.Tidy := by
  refine h.commit fun _ draft hresult => ?_
  obtain ⟨bumped, hbump, hresult⟩ := bind_eq_ok.mp hresult
  obtain ⟨-, hresult⟩ := seq_eq_ok.mp hresult
  have hbumped := (h.noting (length_noted _ _ h.diagnostics)).bumpIf hbump
  dsimp only at hresult
  split_ifs at hresult
  · obtain ⟨again, hagain, hresult⟩ := bind_eq_ok.mp hresult
    cases hresult
    exact ((hbumped.preflight _).bump hagain).preflight _
  · cases hresult
    exact hbumped.preflight _

theorem Tidy.markProjectionChanged {runtime : CanonicalStateRuntime} (h : runtime.Tidy) :
    runtime.markProjectionChanged.2.Tidy := by
  refine h.commit fun _ draft hresult => ?_
  obtain ⟨published, hpublish, hresult⟩ := bind_pure_eq_ok.mp hresult
  cases hresult
  exact h.publish hpublish

end

theorem Tidy.hydrateRecord {runtime : CanonicalStateRuntime} (h : runtime.Tidy)
    {entry : PaneInstance × PaneState} (hpane : entry.1 ∈ runtime.records) :
    (runtime.hydrateRecord entry).Tidy := by
  unfold CanonicalStateRuntime.hydrateRecord
  dsimp only
  split_ifs
  · exact
      { h with
        generations := keys_insert h.generations hpane
        triage := keys_insert h.triage hpane }
  · exact { h with }

theorem Tidy.hydrateRecords {runtime : CanonicalStateRuntime} (h : runtime.Tidy)
    {entries : List (PaneInstance × PaneState)}
    (hpanes : ∀ entry ∈ entries, entry.1 ∈ runtime.records) :
    (entries.foldl CanonicalStateRuntime.hydrateRecord runtime).Tidy := by
  induction entries generalizing runtime with
  | nil => exact h
  | cons entry rest ih =>
    obtain ⟨hpane, hrest⟩ := List.forall_mem_cons.mp hpanes
    refine ih (h.hydrateRecord hpane) fun other hother => ?_
    rw [(hydrateRecord_core runtime entry).1]
    exact hrest other hother

section
variable [Sha256] [ProjectionFrame]

omit [ProjectionFrame] in
theorem hydrate_tidy {records : PaneMap PaneState} {hydrated : CanonicalStateRuntime}
    (h : hydrate records = .ok hydrated) : hydrated.Tidy := by
  obtain ⟨-, h⟩ := seq_eq_ok.mp h
  cases h
  refine Tidy.hydrateRecords ?_ fun entry hentry => mem_of_toList (List.mem_map_of_mem hentry)
  have hnone {α : Type} : ∀ pane ∈ (∅ : PaneMap α), pane ∈ records :=
    fun _ hpane => absurd hpane Std.ExtTreeMap.not_mem_empty
  exact ⟨Nat.zero_le _, Nat.zero_le _, Nat.zero_le _, hnone, hnone, hnone, hnone⟩

theorem Tidy.perform {runtime : CanonicalStateRuntime} (h : runtime.Tidy)
    (operation : Operation) : (runtime.perform operation).2.Tidy := by
  cases operation with
  | applyEvent saved envelope visibility privateTaskPrompt generated =>
    exact h.applyEvent saved envelope visibility privateTaskPrompt generated
  | applyPaneReads saved envelopes => exact h.applyPaneReads saved envelopes
  | projectCurrentRun saved pane projection executionActive observedAt =>
    exact h.projectCurrentRun saved pane projection executionActive observedAt
  | noteCodexBindingRejected pane expected process =>
    exact h.noteCodexBindingRejected pane expected process
  | removeAbsentPane saved pane expected => exact h.removeAbsentPane saved pane expected
  | advancePollProjection => exact h.advancePollProjection
  | expireScreenEvidence now => exact h.expireScreenEvidence now
  | addDiagnostic pane message => exact h.addDiagnostic pane message
  | finishSequencedProjection diagnosticPane messages projectionChanged revisionBefore =>
    exact h.finishSequencedProjection diagnosticPane messages projectionChanged revisionBefore
  | markProjectionChanged => exact h.markProjectionChanged
  | drainNotificationJobs => exact { h with jobs := Nat.zero_le _ }
  | restart =>
    refine h.commit fun _ draft hresult => ?_
    obtain ⟨hydrated, hhydrate, hresult⟩ := map_eq_ok.mp hresult
    cases hresult
    exact hydrate_tidy hhydrate

theorem run_tidy {start runtime : CanonicalStateRuntime}
    {past : List (CanonicalStateRuntime × Operation)} (hstart : start.Tidy)
    (hrun : Trace Step start past runtime) : runtime.Tidy := by
  induction hrun with
  | nil => exact hstart
  | snoc _ taken ih => exact taken ▸ ih.perform _

end

end CanonicalStateRuntime
end VdeTmux.Pane
