import VdeTmux.Daemon.Leases
import VdeTmux.Daemon.PollProjection
import VdeTmux.Pane.Reads

/-!
# What a poll leaves behind

The topology step prunes leases and touches neither reads nor views. The view step then marks only
panes that the witnesses show and that no lease of the same client protects.
-/

open Foundation VdeTmux.Pane VdeTmux.Sidebar
namespace VdeTmux.Daemon

variable {s t t' : CanonicalCoordinatorState} {projection : ObservationPollProjection} {io : PollIo}

theorem check_spec {ε α : Type} {pre : CanonicalCoordinatorState → Prop}
    {error : ε → ProjectionError} {result : Except ε α} :
    Triple pre (check error result) (fun a s => pre s ∧ result = .ok a)
      fun e s => pre s ∧ ∃ e₀, result = .error e₀ ∧ e = error e₀ := by
  intro s hs
  cases result with
  | ok a => exact ⟨hs, rfl⟩
  | error e₀ => exact ⟨hs, e₀, rfl, rfl⟩

def ProjectionError.ofStore (e : ProjectionError) : Prop := ∃ error, e = .store error

def Shrinks (s t : CanonicalCoordinatorState) : Prop :=
  ∀ clientPid lease, t.toPeekState.Lease clientPid lease →
    ∃ old, s.toPeekState.Lease clientPid old ∧ ∀ pane, lease.protects pane → old.protects pane

theorem Shrinks.of_eq (h : t.peekLeases = s.peekLeases) : Shrinks s t := by
  intro clientPid lease hlease
  rw [PeekState.Lease, h] at hlease
  exact ⟨lease, hlease, fun _ => id⟩

theorem Shrinks.trans (h : Shrinks s t) (h' : Shrinks t t') : Shrinks s t' := by
  intro clientPid lease hlease
  obtain ⟨between, hbetween, hsub⟩ := h' clientPid lease hlease
  obtain ⟨old, hold, hsub'⟩ := h clientPid between hbetween
  exact ⟨old, hold, fun pane hpane => hsub' pane (hsub pane hpane)⟩

theorem retain_protects {present : Std.ExtTreeSet PaneInstance} {lease lease' : PeekLease}
    (h : lease.retain present = some lease') {pane : PaneInstance} (hpane : lease'.protects pane) :
    lease.protects pane := by
  cases lease with
  | active target seq =>
    simp only [PeekLease.retain] at h
    split_ifs at h
    cases h
    exact hpane
  | pending operationSeq source previous candidates =>
    simp only [PeekLease.retain] at h
    split_ifs at h
    cases h
    simp only [PeekLease.protects, Bool.or_eq_true, decide_eq_true_eq, Option.filter_eq_some_iff,
      Std.ExtTreeSet.contains_iff_mem, Std.ExtTreeSet.mem_filter] at hpane ⊢
    exact hpane.imp And.left fun hin => hin.1

theorem observe_protects {present : Std.ExtTreeSet PaneInstance} {shown : PaneInstance}
    {observationSeq : ℕ} {lease lease' : PeekLease}
    (h : lease.observe present shown observationSeq = some lease') {pane : PaneInstance}
    (hpane : lease'.protects pane) : lease.protects pane := by
  cases lease with
  | active target seq =>
    simp only [PeekLease.observe] at h
    split_ifs at h
    all_goals
      cases h
      exact hpane
  | pending =>
    simp only [PeekLease.observe] at h
    exact retain_protects h hpane

theorem Shrinks.reconcile (h : t.toPeekState = s.reconcilePeekLeases projection.witnesses
    projection.observationSeq) : Shrinks s t := by
  intro clientPid lease hlease
  rw [h] at hlease
  obtain ⟨old, shown, hold, -, hobserved⟩ := lease_reconcile.mp hlease
  exact ⟨old, hold, fun pane => observe_protects hobserved⟩

structure Pruned (s : CanonicalCoordinatorState) (projection : ObservationPollProjection)
    (t : CanonicalCoordinatorState) : Prop where
  views : t.views = s.views
  records : t.runtime.records = s.runtime.records
  leases : t.topology = s.topology ∧ t.peekLeases = s.peekLeases ∨
    t.topology = projection.topology ∧
      t.peekLeases = s.peekLeases.filterMap fun _ lease =>
        lease.retain projection.topology.present

theorem Pruned.refl : Pruned s projection s := ⟨rfl, rfl, Or.inl ⟨rfl, rfl⟩⟩

theorem Pruned.shrinks (h : Pruned s projection t) : Shrinks s t := by
  rcases h.leases with ⟨-, hsame⟩ | ⟨-, hpruned⟩
  · exact .of_eq hsame
  · intro clientPid lease hlease
    rw [PeekState.Lease, hpruned, Std.ExtTreeMap.getElem?_filterMap',
      Option.bind_eq_some_iff] at hlease
    obtain ⟨old, hold, hretained⟩ := hlease
    exact ⟨old, hold, fun pane => retain_protects hretained⟩

theorem Pruned.trans (h : Pruned s projection t) (hviews : t'.views = t.views)
    (hrecords : t'.runtime.records = t.runtime.records) (htopology : t'.topology = t.topology)
    (hleases : t'.peekLeases = t.peekLeases) : Pruned s projection t' where
  views := hviews.trans h.views
  records := hrecords.trans h.records
  leases := by
    rw [htopology, hleases]
    exact h.leases

def Observed (s : CanonicalCoordinatorState) (projection : ObservationPollProjection)
    (t : CanonicalCoordinatorState) : Prop :=
  Pruned s projection t ∧ t.topology = projection.topology

theorem Observed.trans (h : Observed s projection t) (hviews : t'.views = t.views)
    (hrecords : t'.runtime.records = t.runtime.records) (htopology : t'.topology = t.topology)
    (hleases : t'.peekLeases = t.peekLeases) : Observed s projection t' :=
  ⟨h.1.trans hviews hrecords htopology hleases, htopology.trans h.2⟩

namespace Coordinated

theorem check_store {ε α : Type} {pre : CanonicalCoordinatorState → Prop} {error : ε → StoreError}
    {result : Except ε α} :
    Triple pre (check (fun e => .store (error e)) result) (fun a s => pre s ∧ result = .ok a)
      fun e s => pre s ∧ e.ofStore := by
  refine check_spec.mono (fun _ h => h) (fun _ _ h => h) ?_
  rintro e t ⟨ht, e₀, -, rfl⟩
  exact ⟨ht, error e₀, rfl⟩

section
variable [Sha256] [ProjectionFrame]

theorem replaceTopology_spec (preflight : Except StoreError Unit) :
    Triple (· = s) (replaceTopology projection.topology preflight)
      (fun _ => Observed s projection) fun e t => t = s ∧ e.ofStore := by
  refine .getThen fun s' hs => ?_
  subst hs
  refine .bind (check_spec.mono (fun _ h => h) (fun _ _ h => h) ?_) fun (changed, replaced) => ?_
  · rintro e t ⟨rfl, error, -, rfl⟩
    exact ⟨rfl, error, rfl⟩
  · rintro t ⟨rfl, hreplaced⟩
    have hobserved : Observed t projection { t with toPeekState := replaced } := by
      unfold PeekState.replaceTopology at hreplaced
      split_ifs at hreplaced with hsame
      · cases hreplaced
        exact ⟨⟨rfl, rfl, Or.inl ⟨rfl, rfl⟩⟩, hsame⟩
      · obtain ⟨runtime, hpublish, hreplaced⟩ := bind_eq_ok.mp hreplaced
        obtain ⟨-, hreplaced⟩ := seq_eq_ok.mp hreplaced
        cases hreplaced
        exact ⟨⟨rfl, CanonicalStateRuntime.publish_records hpublish, Or.inr ⟨rfl, rfl⟩⟩, rfl⟩
    exact hobserved

theorem publishThen_spec (change : CanonicalStateRuntime → CanonicalCoordinatorState)
    (preflight : Except StoreError Unit) (ht : Observed s projection t)
    (hviews : ∀ runtime, (change runtime).views = t.views)
    (hruntime : ∀ runtime, (change runtime).runtime = runtime)
    (htopology : ∀ runtime, (change runtime).topology = t.topology)
    (hleases : ∀ runtime, (change runtime).peekLeases = t.peekLeases) :
    Triple (· = t)
      (do
        let runtime ← check .store t.runtime.publish
        check .store preflight
        set (change runtime)
        return true)
      (fun (_ : Bool) => Observed s projection) fun e t => Observed s projection t ∧ e.ofStore := by
  refine .bind (check_store.mono (fun _ h => h) (fun _ _ h => h) ?_) fun runtime => ?_
  · rintro e t' ⟨rfl, herror⟩
    exact ⟨ht, herror⟩
  · refine .bind (check_store.mono (fun _ h => h) (fun _ _ h => h) ?_) fun _ => ?_
    · rintro e t' ⟨⟨rfl, -⟩, herror⟩
      exact ⟨ht, herror⟩
    · rintro t' ⟨⟨rfl, hpublish⟩, -⟩
      exact ht.trans (hviews runtime) ((congrArg (·.records) (hruntime runtime)).trans
        (CanonicalStateRuntime.publish_records hpublish)) (htopology runtime) (hleases runtime)

theorem replaceSidebarPreferences_spec (preferences : SidebarPreferences)
    (preflight : Except StoreError Unit) :
    Triple (Observed s projection) (replaceSidebarPreferences preferences preflight)
      (fun _ => Observed s projection) fun e t => Observed s projection t ∧ e.ofStore := by
  refine .bind (check_store.weaken fun _ _ h => h.1) fun _ => .getThen fun t ht => .ite ?_ ?_
  · exact .pure fun t' h => h.1 ▸ ht
  · exact (publishThen_spec (fun runtime => { t with
      runtime := runtime
      sidebarPreferences := preferences }) preflight ht (fun _ => rfl) (fun _ => rfl)
      (fun _ => rfl) fun _ => rfl).strengthen fun _ h => h.1

theorem persistPrunedSidebarPins_spec (save : Except String Unit)
    (preflight : Except StoreError Unit) :
    Triple (Observed s projection) (persistPrunedSidebarPins save preflight)
      (fun _ => Observed s projection) fun e t => Observed s projection t ∧ e.ofStore := by
  refine .getThen fun t ht => .ite ?_ ?_
  · exact .pure fun t' h => h.1 ▸ ht
  · refine .bind (check_store.mono (fun t' h => h.1 ▸ ht) (fun _ _ h => h.1) fun _ _ h => h) ?_
    exact fun _ => replaceSidebarPreferences_spec _ _

theorem replaceStatusMetadata_spec (metadata : StatusProjectionMetadata)
    (preflight : Except StoreError Unit) :
    Triple (Observed s projection) (replaceStatusMetadata metadata preflight)
      (fun _ => Observed s projection) fun e t => Observed s projection t ∧ e.ofStore := by
  refine .getThen fun t ht => .ite ?_ ?_
  · exact .pure fun t' h => h.1 ▸ ht
  · exact (publishThen_spec (fun runtime => { t with
      runtime := runtime
      statusMetadata := metadata }) preflight ht (fun _ => rfl) (fun _ => rfl)
      (fun _ => rfl) fun _ => rfl).strengthen fun _ h => h.1

theorem applyTopologyObservation_spec (preflight : Except StoreError Unit) :
    Triple (· = s)
      (applyTopologyObservation projection.topology projection.observationSeq preflight)
      (fun applied t =>
        applied = false ∧ projection.observationSeq ≤ s.topologyObservationFloor ∧ t = s ∨
        applied = true ∧ s.topologyObservationFloor < projection.observationSeq ∧
          Observed s projection t)
      fun e t => s.topologyObservationFloor < projection.observationSeq ∧ t = s ∧ e.ofStore := by
  refine .getThen fun s' hs => ?_
  subst hs
  refine .ite (.pure ?_) ?_
  · rintro t ⟨rfl, hstale⟩
    exact Or.inl ⟨rfl, hstale, rfl⟩
  · rintro t ⟨rfl, hnewer⟩
    have hlt := not_le.mp hnewer
    refine Triple.bind ((replaceTopology_spec preflight).mono (fun _ h => h) (fun _ _ h => h)
      fun e t h => ⟨hlt, h⟩) (fun _ => ?_) t rfl
    intro t' ht'
    exact Or.inr ⟨rfl, hlt, ht'.trans rfl rfl rfl rfl⟩

/-- The topology step: nothing for an old observation, nothing when the topology is refused, and
the new topology otherwise. -/
theorem applyTopology_spec :
    Triple (· = s) (applyTopology projection io)
      (fun _ t => projection.observationSeq ≤ s.topologyObservationFloor ∧ t = s ∨
        s.topologyObservationFloor < projection.observationSeq ∧ Observed s projection t)
      fun e t => s.topologyObservationFloor < projection.observationSeq ∧ e.ofStore ∧
        (t = s ∨ Observed s projection t) := by
  refine .bind ((applyTopologyObservation_spec io.topologyPreflight).mono (fun _ h => h)
    (fun _ _ h => h) fun e t h => ⟨h.1, h.2.2, Or.inl h.2.1⟩) fun applied => ?_
  cases applied with
  | false =>
    refine .pure fun t ht => ?_
    rcases ht with ⟨-, hstale⟩ | ⟨happlied, -⟩
    · exact Or.inl hstale
    · cases happlied
  | true =>
    intro t ht
    have hobserved : s.topologyObservationFloor < projection.observationSeq ∧
        Observed s projection t := by
      rcases ht with ⟨happlied, -⟩ | ⟨-, hobserved⟩
      · cases happlied
      · exact hobserved
    obtain ⟨hnewer, hobserved⟩ := hobserved
    have hrest : Triple (Observed s projection)
        (do
          let _ ← persistPrunedSidebarPins io.pinsSave io.pinsPreflight
          let _ ← replaceStatusMetadata projection.statusMetadata io.statusPreflight)
        (fun _ => Observed s projection) fun e t => Observed s projection t ∧ e.ofStore :=
      .bind (persistPrunedSidebarPins_spec _ _) fun _ =>
        .bind (replaceStatusMetadata_spec _ _) fun _ => .pure fun _ h => h
    exact (hrest.mono (fun _ h => h) (fun _ _ h => Or.inr ⟨hnewer, h⟩)
      fun e t h => ⟨hnewer, h.2, Or.inr h.1⟩) t hobserved

end

end Coordinated

/-- A witness shows the pane, or an editor in front of it, and its client does not peek at it. -/
def Authorized (t : CanonicalCoordinatorState) (projection : ObservationPollProjection)
    (pane : PaneInstance) : Prop :=
  ∃ witness ∈ projection.witnesses, witness.isEligible = true ∧
    (pane = witness.activePane ∨ t.topology.focusProxyTarget witness.activePane = some pane) ∧
    ∀ lease, (t.reconcilePeekLeases projection.witnesses projection.observationSeq).Lease
      witness.clientPid lease → lease.protects pane = false

/-- Only authorized panes are marked read, and nobody peeks at a marked pane any more. -/
structure Marked (t : CanonicalCoordinatorState) (projection : ObservationPollProjection)
    (t' : CanonicalCoordinatorState) : Prop where
  topology : t'.topology = t.topology
  statusMetadata : t'.statusMetadata = t.statusMetadata
  leases : Shrinks t t'
  records : ∀ pane, t'.runtime.records[pane]? = t.runtime.records[pane]? ∨
    Read projection.throughUnreadOrder t.runtime.records[pane]? t'.runtime.records[pane]? ∧
      Authorized t projection pane ∧
      ∀ clientPid lease, t'.toPeekState.Lease clientPid lease → lease.protects pane = false

theorem authorized_of_mem {pane : PaneInstance}
    (h : pane ∈ (t.reconcilePeekLeases projection.witnesses
      projection.observationSeq).readAuthorizedPanes projection.witnesses) :
    Authorized t projection pane := by
  simp only [PeekState.readAuthorizedPanes, Std.ExtTreeSet.mem_ofList, List.contains_iff_mem,
    List.mem_flatMap, List.mem_filter, Bool.not_eq_true'] at h
  obtain ⟨witness, ⟨hwitness, heligible⟩, hlooked, hunprotected⟩ := h
  refine ⟨witness, hwitness, heligible, ?_, ?_⟩
  · rw [PeekState.lookedAt, List.mem_cons] at hlooked
    rcases hlooked with hactive | hproxy
    · exact Or.inl hactive
    · rw [Option.mem_toList, Option.filter_eq_some_iff] at hproxy
      exact Or.inr hproxy.1
  · intro lease hlease
    rw [PeekState.Lease] at hlease
    rw [hlease] at hunprotected
    exact hunprotected

theorem Authorized.valid (hinstant : SameInstant t.topology projection.witnesses)
    {pane : PaneInstance} (h : Authorized t projection pane) : validatePane pane = .ok () := by
  obtain ⟨witness, hwitness, -, hactive | hproxy, -⟩ := h
  · exact hactive ▸ hinstant.activePane hwitness
  · unfold TopologySnapshot.focusProxyTarget at hproxy
    obtain ⟨editor, -, hproxy⟩ := Option.bind_eq_some_iff.mp hproxy
    split at hproxy
    · split_ifs at hproxy
      obtain ⟨target, htarget, hproxy⟩ := Option.bind_eq_some_iff.mp hproxy
      split_ifs at hproxy
      cases hproxy
      exact hinstant.instances target (List.mem_of_find?_eq_some htarget)
    · cases hproxy

theorem Marked.of_records (htopology : t'.topology = t.topology)
    (hmetadata : t'.statusMetadata = t.statusMetadata) (hleases : Shrinks t t')
    (hrecords : t'.runtime.records = t.runtime.records) : Marked t projection t' :=
  ⟨htopology, hmetadata, hleases, fun _ => Or.inl (by rw [hrecords])⟩

def Publishable [Sha256] (runtime : CanonicalStateRuntime) : Prop :=
  runtime.validateProjection = .ok () ∧ runtime.snapshotRevision + 2 ≤ u64Max

theorem finish_ok [Sha256] [ProjectionFrame] {runtime : CanonicalStateRuntime}
    (h : Publishable runtime) (changed : Bool) (revisionBefore : ℕ) :
    ∃ revision, (runtime.finishSequencedProjection none [] changed revisionBefore).1 =
      .ok revision := by
  obtain ⟨hvalid, hroom⟩ := h
  obtain ⟨revision, hbump, hrevision⟩ : ∃ revision,
      runtime.bumpIf (changed && runtime.snapshotRevision = revisionBefore) =
        .ok { runtime with snapshotRevision := revision } ∧ revision < u64Max := by
    cases changed && decide (runtime.snapshotRevision = revisionBefore) with
    | false => exact ⟨runtime.snapshotRevision, rfl, by omega⟩
    | true =>
      refine ⟨runtime.snapshotRevision + 1, ?_, by omega⟩
      exact CanonicalStateRuntime.bumpSnapshotRevision_eq_ok.mpr ⟨by omega, rfl⟩
  have hchecked : ({ runtime with snapshotRevision := revision } :
      CanonicalStateRuntime).validateProjection = .ok () := hvalid
  unfold CanonicalStateRuntime.finishSequencedProjection
  simp only [Option.isSome_none, Bool.false_eq_true, if_false, List.foldl_nil, List.isEmpty_nil,
    Bool.not_true, Bool.or_false, hbump, bind, Except.bind, hchecked]
  split_ifs
  · have hagain : (({ runtime with snapshotRevision := revision } :
        CanonicalStateRuntime).preflightProjection maxResponseFrameBytes).2.bumpSnapshotRevision =
          .ok _ := CanonicalStateRuntime.bumpSnapshotRevision_eq_ok.mpr ⟨hrevision, rfl⟩
    rw [hagain]
    exact ⟨_, rfl⟩
  · exact ⟨_, rfl⟩

theorem finish_error [Sha256] [ProjectionFrame] {runtime : CanonicalStateRuntime} {changed : Bool}
    {revisionBefore : ℕ} {error : StoreError}
    (h : (runtime.finishSequencedProjection none [] changed revisionBefore).1 = .error error) :
    ¬Publishable runtime := by
  intro hpublishable
  obtain ⟨revision, hok⟩ := finish_ok hpublishable changed revisionBefore
  cases h.symm.trans hok

theorem finish_same [Sha256] [ProjectionFrame] {runtime : CanonicalStateRuntime} {changed : Bool}
    {revisionBefore : ℕ} {error : StoreError}
    (h : (runtime.finishSequencedProjection none [] changed revisionBefore).1 = .error error) :
    (runtime.finishSequencedProjection none [] changed revisionBefore).2 = runtime := by
  exact CanonicalStateRuntime.commit_error h

/-- What an error of the view step leaves, and where it can come from. -/
structure ViewFailed [Sha256] (t : CanonicalCoordinatorState)
    (projection : ObservationPollProjection) (e : ProjectionError)
    (t' : CanonicalCoordinatorState) : Prop where
  marked : Marked t projection t'
  views : Publishable t'.runtime → t'.views = t.views
  records : Publishable t'.runtime →
    (∃ result, t.views.reconcile projection.witnesses t.topology.windowPanes = .ok result) →
      t'.runtime.records = t.runtime.records
  agreed : SameInstant t.topology projection.witnesses →
    Reconcilable t.topology projection.witnesses → ∀ message, e ≠ .view message

theorem ProjectionError.ofStore.ne_view {e : ProjectionError} (h : e.ofStore) (message : String) :
    e ≠ .view message := by
  obtain ⟨error, rfl⟩ := h
  exact nofun

namespace Coordinated
variable [Sha256] [ProjectionFrame]

theorem applyPaneReads_spec {u : CanonicalCoordinatorState} (saved : Except StoreError Unit)
    (paneReads : List PaneEventEnvelope) :
    Triple (· = u) (applyPaneReads saved paneReads)
      (fun _ v => v = { u with runtime := (u.runtime.applyPaneReads saved paneReads).2 })
      fun e v => e.ofStore ∧ v = { u with runtime := (u.runtime.applyPaneReads saved paneReads).2 } ∧
        ∃ error, (u.runtime.applyPaneReads saved paneReads).1 = .error error := by
  refine .getThen fun u' hu => ?_
  subst hu
  refine .setThen (.bind (check_spec.mono (fun _ h => h) (fun _ _ h => h.1) ?_) fun _ => ?_)
  · rintro e v ⟨hv, error, herror, rfl⟩
    exact ⟨⟨error, rfl⟩, hv, error, herror⟩
  · exact .pure fun v hv => hv

theorem commitPaneReads_spec {u : CanonicalCoordinatorState} {throughOrder : ℕ}
    {paneReads : List PaneEventEnvelope}
    (hevents : ∀ envelope ∈ paneReads, envelope.event = .markPaneRead throughOrder)
    (hdistinct : (paneReads.map (·.paneInstance)).Nodup) :
    Triple (· = u) (commitPaneReads io.readsSave paneReads)
      (fun _ v => ∃ runtime peekLeases,
        v = { u with runtime := runtime, peekLeases := peekLeases } ∧
          OnlyRead (paneReads.map (·.paneInstance)) throughOrder u.runtime.records
            runtime.records ∧
          Shrinks u v ∧
          ∀ clientPid lease, v.toPeekState.Lease clientPid lease →
            ∀ pane ∈ paneReads.map (·.paneInstance), lease.protects pane = false)
      fun e v => e.ofStore ∧ ∃ runtime, v = { u with runtime := runtime } ∧
        runtime.records = u.runtime.records := by
  obtain ⟨honly, hfailed⟩ := u.runtime.applyPaneReads_read io.readsSave hevents hdistinct
  refine .ite ?_ ?_
  · refine .bind ((applyPaneReads_spec io.readsSave paneReads).mono (fun _ h => h.1)
      (fun _ _ h => h) ?_) fun _ => ?_
    · rintro e v ⟨hstore, rfl, error, herror⟩
      exact ⟨hstore, _, rfl, hfailed error herror⟩
    · refine .modify ?_
      rintro v rfl
      refine ⟨_, _, rfl, honly, fun clientPid lease hlease => ?_,
        fun clientPid lease hlease pane hpane => ?_⟩
      · exact ⟨lease, (lease_clearRead.mp hlease).1, fun _ => id⟩
      rcases (lease_clearRead.mp hlease).2 with hexcluded | hunprotected
      · cases hexcluded
      · exact hunprotected pane hpane
  · refine .pure ?_
    rintro v ⟨rfl, hnone⟩
    obtain rfl := not_not.mp hnone
    exact ⟨_, _, rfl, .refl, .of_eq rfl, fun _ _ _ _ h => absurd h List.not_mem_nil⟩

theorem finishSequencedProjection_spec {u : CanonicalCoordinatorState} (changed : Bool)
    (revisionBefore : ℕ) :
    Triple (· = u) (finishSequencedProjection changed revisionBefore)
      (fun _ v => ∃ runtime, v = { u with runtime := runtime } ∧
        runtime.records = u.runtime.records)
      fun e v => e.ofStore ∧ ¬Publishable v.runtime ∧ ∃ runtime, v = { u with runtime := runtime } ∧
        runtime.records = u.runtime.records := by
  have hrecords := CanonicalStateRuntime.records_of_core
    (u.runtime.finishSequencedProjection_core none [] changed revisionBefore)
  refine .getThen fun u' hu => ?_
  subst hu
  refine .setThen (.bind (check_spec.mono (fun _ h => h) (fun _ _ h => h.1) ?_) fun _ => ?_)
  · rintro e v ⟨rfl, error, herror, rfl⟩
    have hfailed : ¬Publishable
        (u'.runtime.finishSequencedProjection none [] changed revisionBefore).2 := by
      rw [finish_same herror]
      exact finish_error herror
    exact ⟨⟨error, rfl⟩, hfailed, _, rfl, hrecords⟩
  · exact .pure fun v hv => ⟨_, hv, hrecords⟩

theorem reconcileViewsWithWitnesses_spec :
    Triple (· = t) (reconcileViewsWithWitnesses projection io)
      (fun _ t' => t.views ≠ projection.viewBase ∧ t' = t ∨
        t.views = projection.viewBase ∧ Marked t projection t')
      fun e t' => t.views = projection.viewBase ∧ ViewFailed t projection e t' := by
  refine .getThen fun t' ht => ?_
  subst ht
  refine .ite (.pure ?_) ?_
  · rintro t ⟨rfl, hbase⟩
    exact Or.inl ⟨hbase, rfl⟩
  · rintro t ⟨rfl, hbase⟩
    have hbase := not_not.mp hbase
    let u : CanonicalCoordinatorState := { t with
      toPeekState := t.reconcilePeekLeases projection.witnesses projection.observationSeq }
    have hshrinks : Shrinks t u := .reconcile rfl
    have hreconciled : Marked t projection u := .of_records rfl rfl hshrinks rfl
    refine Triple.modifyThen (· = u) (fun _ h => h ▸ rfl) ?_ t rfl
    refine .bind (check_spec.mono (fun _ h => h) (fun _ _ h => h.1) ?_) fun readEventId =>
      .getThen fun u' hu => ?_
    · rintro e v ⟨rfl, error, -, rfl⟩
      exact ⟨hbase, hreconciled, fun _ => rfl, fun _ _ => rfl, nofun⟩
    · subst hu
      refine .bind (check_spec.mono (fun _ h => h) (fun _ _ h => h) ?_) fun paneReads => ?_
      · rintro e v ⟨rfl, message, herror, rfl⟩
        refine ⟨hbase, hreconciled, fun _ => rfl, fun _ _ => rfl, fun hinstant _ _ _ => ?_⟩
        obtain ⟨pane, hpane, hinvalid⟩ := envelopes_error herror
        exact hinvalid ((authorized_of_mem hpane).valid hinstant)
      · rintro u' ⟨rfl, henvelopes⟩
        obtain ⟨hevents, hdistinct, hfocused⟩ := envelopes_spec henvelopes
        refine Triple.bind ((commitPaneReads_spec hevents hdistinct).mono (fun _ h => h)
          (fun _ _ h => h) ?_) (fun _ => ?_) u rfl
        · rintro e v ⟨hstore, runtime, rfl, hrecords⟩
          exact ⟨hbase, .of_records rfl rfl hshrinks hrecords, fun _ => rfl, fun _ _ => hrecords,
            fun _ _ => hstore.ne_view⟩
        · rintro v ⟨runtime, peekLeases, rfl, honly, hcleared, hunprotected⟩
          have hleases := hshrinks.trans hcleared
          have hmarked : ∀ pane, runtime.records[pane]? = t.runtime.records[pane]? ∨
              Read projection.throughUnreadOrder t.runtime.records[pane]? runtime.records[pane]? ∧
                Authorized t projection pane ∧
                ∀ clientPid lease, ({ u with runtime := runtime, peekLeases := peekLeases } :
                  CanonicalCoordinatorState).toPeekState.Lease clientPid lease →
                    lease.protects pane = false := by
            intro pane
            refine (honly pane).imp id fun ⟨hpane, hread⟩ => ⟨hread, ?_, ?_⟩
            · exact authorized_of_mem (hfocused pane hpane)
            · exact fun clientPid lease hlease => hunprotected clientPid lease hlease pane hpane
          refine Triple.bind (check_spec.mono (fun _ h => h) (fun _ _ h => h) ?_)
            (fun result => ?_) _ rfl
          · rintro e v ⟨rfl, message, herror, rfl⟩
            refine ⟨hbase, ⟨rfl, rfl, hleases, hmarked⟩, fun _ => rfl, fun _ hok => ?_,
              fun hinstant hagree => ?_⟩
            · obtain ⟨result, hok⟩ := hok
              cases herror.symm.trans hok
            · obtain ⟨result, hok⟩ := CurrentClientViews.reconcile_ok hinstant hagree t.views
              cases herror.symm.trans hok
          · obtain ⟨registryChanged, views⟩ := result
            rintro v ⟨rfl, hviews⟩
            refine Triple.modifyThen
              (· = { u with runtime := runtime, peekLeases := peekLeases, views := views })
              (fun _ h => h ▸ rfl)
              ((finishSequencedProjection_spec registryChanged _).mono (fun _ h => h) ?_ ?_) _ rfl
            · rintro _ v ⟨runtime', rfl, hrecords⟩
              refine Or.inr ⟨hbase, rfl, rfl, hleases, ?_⟩
              rw [hrecords]
              exact hmarked
            · rintro e v ⟨hstore, hunpublishable, runtime', rfl, hrecords⟩
              refine ⟨hbase, ⟨rfl, rfl, hleases, ?_⟩, fun h => absurd h hunpublishable,
                fun h => absurd h hunpublishable, fun _ _ => hstore.ne_view⟩
              rw [hrecords]
              exact hmarked

end Coordinated

open Coordinated

/-- What a poll leaves, with the error it ended with if it did. -/
structure Consistent [Sha256] [ProjectionFrame] (s : CanonicalCoordinatorState)
    (projection : ObservationPollProjection) (io : PollIo) (error : Option ProjectionError)
    (s' : CanonicalCoordinatorState) : Prop where
  fenced : projection.observationSeq ≤ s.topologyObservationFloor →
    s'.topology = s.topology ∧ s'.statusMetadata = s.statusMetadata
  based : s.views ≠ projection.viewBase → Pruned s projection s'
  leases : Shrinks s s'
  marked : ∀ pane, s'.runtime.records[pane]? = s.runtime.records[pane]? ∨
    Read projection.throughUnreadOrder s.runtime.records[pane]? s'.runtime.records[pane]? ∧
      Authorized (stateAfter (applyTopology projection io) s) projection pane ∧
      ∀ clientPid lease, s'.toPeekState.Lease clientPid lease → lease.protects pane = false
  refused : ∀ e, s.topologyObservationFloor < projection.observationSeq →
    s.toPeekState.replaceTopology projection.topology io.topologyPreflight = .error e →
      error = some (.store e) ∧ s' = s
  views : error.isSome → Publishable s'.runtime → s'.views = s.views
  records : error.isSome → Publishable s'.runtime →
    (∃ result, s.views.reconcile projection.witnesses s'.topology.windowPanes = .ok result) →
      s'.runtime.records = s.runtime.records
  agreed : s.topologyObservationFloor < projection.observationSeq ∨
      s.topology = projection.topology →
    SameInstant projection.topology projection.witnesses →
    Reconcilable projection.topology projection.witnesses → ∀ message, error ≠ some (.view message)

section
variable [Sha256] [ProjectionFrame]

theorem consistent_of_topology {e : ProjectionError}
    (h : applyTopology projection io s = .error e t)
    (hrefused : ∀ e', s.toPeekState.replaceTopology projection.topology io.topologyPreflight =
      .error e' → e = .store e' ∧ t = s) : Consistent s projection io (some e) t := by
  obtain ⟨hnewer, hstore, ht⟩ := applyTopology_spec.error rfl h
  have hpruned : Pruned s projection t := by
    rcases ht with rfl | hobserved
    · exact .refl
    · exact hobserved.1
  refine ⟨fun hstale => absurd hnewer (by omega), fun _ => hpruned, hpruned.shrinks,
    fun _ => Or.inl (by rw [hpruned.records]), fun e' _ he' => ?_, fun _ _ => hpruned.views,
    fun _ _ _ => hpruned.records, fun _ _ _ message hview => ?_⟩
  · obtain ⟨rfl, rfl⟩ := hrefused e' he'
    exact ⟨rfl, rfl⟩
  · exact hstore.ne_view message (Option.some.inj hview)

theorem applyTopology_refused {e : StoreError}
    (hnewer : s.topologyObservationFloor < projection.observationSeq)
    (h : s.toPeekState.replaceTopology projection.topology io.topologyPreflight = .error e) :
    applyTopology projection io s = .error (.store e) s := by
  simp only [applyTopology, applyTopologyObservation, Coordinated.replaceTopology, bind,
    ↓Triple.get_run, EStateM.bind, check, h, if_neg (not_le.mpr hnewer)]

theorem consistent_of_views {error : Option ProjectionError}
    (htop : applyTopology projection io s = .ok () t)
    (hbase : t.views ≠ projection.viewBase ∧ t' = t ∧ error = none ∨
      t.views = projection.viewBase ∧ Marked t projection t' ∧
        ∀ e ∈ error, ViewFailed t projection e t') : Consistent s projection io error t' := by
  have ht := applyTopology_spec.ok rfl htop
  have hpruned : Pruned s projection t := by
    rcases ht with ⟨-, rfl⟩ | ⟨-, hobserved⟩
    · exact .refl
    · exact hobserved.1
  have hafter : stateAfter (applyTopology projection io) s = t := by
    rw [stateAfter, htop]
  have hmarked : Marked t projection t' := by
    rcases hbase with ⟨-, rfl, -⟩ | ⟨-, hmarked, -⟩
    · exact .of_records rfl rfl (.of_eq rfl) rfl
    · exact hmarked
  have hfailed : ∀ e ∈ error, ViewFailed t projection e t' := by
    rcases hbase with ⟨-, -, rfl⟩ | ⟨-, -, hfailed⟩
    · exact fun e he => absurd he (Option.not_mem_none e)
    · exact hfailed
  refine ⟨fun hstale => ?_, fun hother => ?_, hpruned.shrinks.trans hmarked.leases,
    fun pane => ?_, fun e hnewer he => ?_,
    fun herror hpublishable => ?_, fun herror hpublishable haccepted => ?_,
    fun hforce hinstant hagree message hview => ?_⟩
  · rcases ht with ⟨-, rfl⟩ | ⟨hnewer, -⟩
    · exact ⟨hmarked.topology, hmarked.statusMetadata⟩
    · omega
  · rcases hbase with ⟨-, rfl, -⟩ | ⟨hsame, -⟩
    · exact hpruned
    · exact absurd (hpruned.views.symm.trans hsame) hother
  · rw [hafter, ← hpruned.records]
    exact hmarked.records pane
  · cases (applyTopology_refused hnewer he).symm.trans htop
  · obtain ⟨e, rfl⟩ := Option.isSome_iff_exists.mp herror
    exact ((hfailed e rfl).views hpublishable).trans hpruned.views
  · obtain ⟨e, rfl⟩ := Option.isSome_iff_exists.mp herror
    rw [hmarked.topology, ← hpruned.views] at haccepted
    exact ((hfailed e rfl).records hpublishable haccepted).trans hpruned.records
  · have htopology : t.topology = projection.topology := by
      rcases ht with ⟨hstale, rfl⟩ | ⟨-, hobserved⟩
      · exact hforce.resolve_left (by omega)
      · exact hobserved.2
    rw [← htopology] at hinstant hagree
    exact (hfailed _ hview).agreed hinstant hagree message rfl

/-- Whatever a poll brings and however it ends, it is applied consistently. -/
theorem poll_consistent (s : CanonicalCoordinatorState) (projection : ObservationPollProjection)
    (io : PollIo) : Consistent s projection io
      (errorAfter (applyObservationPollProjection projection io) s)
      (stateAfter (applyObservationPollProjection projection io) s) := by
  cases htop : applyTopology projection io s with
  | error e t =>
    have hrun : applyObservationPollProjection projection io s = .error e t := by
      simp only [applyObservationPollProjection, bind, EStateM.bind, htop]
    rw [errorAfter, stateAfter, hrun]
    refine consistent_of_topology htop fun e' he' => ?_
    have hnewer := (applyTopology_spec.error rfl htop).1
    cases (applyTopology_refused hnewer he').symm.trans htop
    exact ⟨rfl, rfl⟩
  | ok _ t =>
    cases hview : reconcileViewsWithWitnesses projection io t with
    | error e t' =>
      have hrun : applyObservationPollProjection projection io s = .error e t' := by
        simp only [applyObservationPollProjection, bind, EStateM.bind, htop, hview]
      rw [errorAfter, stateAfter, hrun]
      obtain ⟨hbase, hfailed⟩ := reconcileViewsWithWitnesses_spec.error rfl hview
      refine consistent_of_views htop (Or.inr ⟨hbase, hfailed.marked, fun e' he' => ?_⟩)
      exact Option.some.inj he' ▸ hfailed
    | ok _ t' =>
      have hrun : applyObservationPollProjection projection io s =
          .ok t'.runtime.snapshotRevision t' := by
        simp only [applyObservationPollProjection, bind, EStateM.bind, htop, hview]
        rfl
      rw [errorAfter, stateAfter, hrun]
      refine consistent_of_views htop ?_
      rcases reconcileViewsWithWitnesses_spec.ok rfl hview with ⟨hbase, rfl⟩ | ⟨hbase, hmarked⟩
      · exact Or.inl ⟨hbase, rfl, rfl⟩
      · exact Or.inr ⟨hbase, hmarked, fun e he => absurd he (Option.not_mem_none e)⟩

end

namespace Polled

@[reducible] def noFrames : ProjectionFrame := ⟨fun _ _ _ _ => 0⟩

def observe := @applyTopology .constant noFrames

def poll := @applyObservationPollProjection .constant noFrames

def other : PaneInstance := ⟨"%2", 22⟩

def topologyOf (panes : List PaneInstance) : TopologySnapshot :=
  ⟨⟨1, 1⟩, panes.map fun pane => ⟨pane, [], "@1", "", "", "", 80, true, false, [], none⟩⟩

def witness (clientPid : ℕ) : ClientWitness := ⟨clientPid, "$1", "@1", claudePane, false, false⟩

def pinned : CanonicalCoordinatorState where
  topology := topologyOf [claudePane, other]
  peekLeases := (∅ : Std.ExtTreeMap ℕ PeekLease).insert 10 (.active other 1)
  sidebarPreferences := { pinnedPanes := (∅ : Std.ExtTreeSet PaneInstance).insert other }
  daemonInstanceId := ⟨""⟩

def gone (viewBase : CurrentClientViews) : ObservationPollProjection :=
  ⟨1, topologyOf [claudePane], {}, [witness 10], viewBase, 1⟩

def peeking : CanonicalCoordinatorState where
  topology := topologyOf [claudePane]
  runtime := { records := (∅ : PaneMap PaneState).insert claudePane { claudeRecord with
    runSeq := 1
    completedSeq := 1
    startedAt := some 1
    completedAt := some 2
    unread := { occurrenceSeq := 1, latest := some ⟨1, 1, .completed, 3⟩ } } }
  peekLeases := (∅ : Std.ExtTreeMap ℕ PeekLease).insert 10 (.active claudePane 1)
  daemonInstanceId := ⟨""⟩

def together : ObservationPollProjection :=
  ⟨1, topologyOf [claudePane], {}, [witness 10, witness 20], {}, 1⟩

def crowd : ObservationPollProjection :=
  ⟨1, topologyOf [claudePane], {}, (List.range 65).map fun n => witness (n + 1), {}, 1⟩

def watched : CanonicalCoordinatorState where
  topology := topologyOf [claudePane]
  daemonInstanceId := ⟨""⟩

theorem crowd_instant : SameInstant crowd.topology crowd.witnesses where
  pids := by simp [crowd, witness]
  distinct := by decide +kernel
  ids := by decide +kernel
  instances := by
    intro p hp
    obtain rfl := List.mem_singleton.mp hp
    rfl
  shown := by simp [crowd, witness, topologyOf]
  sessions := by simp [crowd, witness]
  windows := by simp [crowd, witness]

/-- A lease ends with its pane whatever the views are, and does not stand against the look of
another client; an error can come after both, and too many clients are one. -/
theorem poll_inconsistent :
    (¬∀ s projection, s.views ≠ projection.viewBase →
      (stateAfter (poll projection {}) s).peekLeases = s.peekLeases) ∧
    (¬∀ s projection pane, (stateAfter (poll projection {}) s).runtime.records[pane]? ≠
      s.runtime.records[pane]? → ∀ clientPid lease,
        ((stateAfter (observe projection {}) s).reconcilePeekLeases projection.witnesses
          projection.observationSeq).Lease clientPid lease → lease.protects pane = false) ∧
    (¬∀ s projection io, (errorAfter (poll projection io) s).isSome →
      (stateAfter (poll projection io) s).peekLeases = s.peekLeases) ∧
    ¬∀ s projection, SameInstant projection.topology projection.witnesses →
      errorAfter (poll projection {}) s = none := by
  refine ⟨fun hclaim => ?_, fun hclaim => ?_, fun hclaim => ?_, fun hclaim => ?_⟩
  · have hsame := hclaim pinned (gone ⟨∅, ∅, (∅ : Std.ExtTreeMap String _).insert "$1" ("@1", other)⟩)
      (by decide +kernel)
    have hlost := congrArg (·[10]?.isNone) hsame
    revert hlost
    decide +kernel
  · have hread := hclaim peeking together claudePane (by decide +kernel) 10 (.active claudePane 1)
      (by unfold PeekState.Lease; decide +kernel)
    revert hread
    decide +kernel
  · have hsame := hclaim pinned (gone {}) { pinsSave := .error "full" } (by decide +kernel)
    have hlost := congrArg (·[10]?.isNone) hsame
    revert hlost
    decide +kernel
  · have hfine := hclaim watched crowd crowd_instant
    revert hfine
    decide +kernel

end Polled

end VdeTmux.Daemon
