import VdeTmux.Foundation.Maps
import VdeTmux.Foundation.Trace
import VdeTmux.Daemon.Peek

/-!
# Leases along every run

What each call does to the lease of a client. An observation that does not show a client at all
ends its lease before the sequence numbers are compared, also when the observation is a stale one.
-/

open Foundation VdeTmux.Pane
namespace VdeTmux.Daemon

inductive PeekOp
  | begin (clientPid : ℕ) (sourcePane : PaneInstance) (candidates : List PaneInstance)
      (operationSeq : ℕ)
  | activate (clientPid operationSeq : ℕ) (target : PaneInstance) (witnessObservationFloor : ℕ)
  | renew (clientPid : ℕ) (target : PaneInstance) (witnessObservationFloor : ℕ)
  | restore (clientPid operationSeq : ℕ) (witnesses : List ClientWitness) (observationSeq : ℕ)
  | clear (clientPid : ℕ)
  | clearRead (panes : List PaneInstance) (excludedClientPid : Option ℕ)
  | reconcile (witnesses : List ClientWitness) (observationSeq : ℕ)
  | replaceTopology (topology : TopologySnapshot) (preflight : Except StoreError Unit)
  | elsewhere (runtime : CanonicalStateRuntime)

namespace PeekOp

def completes (clientPid operationSeq : ℕ) : PeekOp → Prop
  | activate client seq _ _ | restore client seq _ _ => client = clientPid ∧ seq = operationSeq
  | _ => False

/-- The call clears the lease of the client on the target, or starts a new operation for it. -/
def takes (clientPid : ℕ) (target : PaneInstance) : PeekOp → Prop
  | begin client _ _ _ | clear client => client = clientPid
  | clearRead panes excluded => target ∈ panes ∧ excluded ≠ some clientPid
  | _ => False

end PeekOp

namespace PeekState
variable [Sha256] [ProjectionFrame]

def perform (s : PeekState) : PeekOp → PeekState
  | .begin clientPid sourcePane candidates operationSeq =>
    (s.beginPeek clientPid sourcePane candidates operationSeq).2
  | .activate clientPid operationSeq target floor => s.activatePeek clientPid operationSeq target floor
  | .renew clientPid target floor => (s.renewActivePeek clientPid target floor).2
  | .restore clientPid operationSeq witnesses observationSeq =>
    s.restorePeekAfterFailure clientPid operationSeq witnesses observationSeq
  | .clear clientPid => s.clearPeek clientPid
  | .clearRead panes excludedClientPid => s.clearPeeksForReadPanesExcept panes excludedClientPid
  | .reconcile witnesses observationSeq => s.reconcilePeekLeases witnesses observationSeq
  | .replaceTopology topology preflight =>
    match s.replaceTopology topology preflight with
    | .ok (_, replaced) => replaced
    | .error _ => s
  | .elsewhere runtime => { s with runtime := runtime }

def Step (s : PeekState) (op : PeekOp) (s' : PeekState) : Prop := s.perform op = s'

end PeekState

def Shows (witnesses : List ClientWitness) (clientPid : ℕ) (pane : PaneInstance) : Prop :=
  (PeekState.eligible witnesses)[clientPid]? = some pane

def PeekState.Lease (s : PeekState) (clientPid : ℕ) (lease : PeekLease) : Prop :=
  s.peekLeases[clientPid]? = some lease

structure LeasesSafe (s : PeekState) (op : PeekOp) (s' : PeekState) : Prop where
  activated : ∀ clientPid operationSeq source previous candidates target seq,
    s.Lease clientPid (.pending operationSeq source previous candidates) →
      s'.Lease clientPid (.active target seq) → op.completes clientPid operationSeq
  ignored : ∀ clientPid operationSeq, op.completes clientPid operationSeq →
    (∀ source previous candidates,
      ¬s.Lease clientPid (.pending operationSeq source previous candidates)) → s' = s
  kept : ∀ clientPid target seq, s.Lease clientPid (.active target seq) →
    (∃ seq', s'.Lease clientPid (.active target seq')) ∨ op.takes clientPid target ∨
      target ∉ s'.topology.present ∨
      ∃ witnesses observationSeq, op = .reconcile witnesses observationSeq ∧
        seq < observationSeq ∧ ¬Shows witnesses clientPid target
  authorized : ∀ clientPid lease pane witnesses, s'.Lease clientPid lease → lease.protects pane →
    (pane ∈ s'.readAuthorizedPanes witnesses ↔
      pane ∈ s'.readAuthorizedPanes (witnesses.filter fun witness => witness.clientPid ≠ clientPid))
  refused : ∀ clientPid source candidates operationSeq,
    (s'.beginPeek clientPid source candidates operationSeq).1 = false ↔
      ∃ pending source previous candidates,
        s'.Lease clientPid (.pending pending source previous candidates)

/-- No stale observation fails to show a client whose target is still there. -/
def Fresh (s : PeekState) : PeekOp → Prop
  | .reconcile witnesses observationSeq => ∀ clientPid target seq,
    s.Lease clientPid (.active target seq) → observationSeq ≤ seq → target ∈ s.topology.present →
      ∃ pane, Shows witnesses clientPid pane
  | _ => True

section
variable {s : PeekState} {client clientPid operationSeq seq : ℕ} {target : PaneInstance}
  {lease : PeekLease}

theorem lease_withLease {lease' : PeekLease} : (s.withLease client lease).Lease clientPid lease' ↔
    if clientPid = client then lease = lease' else s.Lease clientPid lease' := by
  rw [PeekState.Lease, PeekState.withLease, Maps.getElem?_insert]
  split_ifs
  · exact Option.some_inj
  · exact Iff.rfl

theorem lease_erase : ({ s with peekLeases := s.peekLeases.erase client } : PeekState).Lease
    clientPid lease ↔ clientPid ≠ client ∧ s.Lease clientPid lease := by
  rw [PeekState.Lease, Maps.getElem?_erase]
  split_ifs with h
  · simp [h]
  · simp [h, PeekState.Lease]

inductive ClientStep (s : PeekState) (client : ℕ) : PeekState → Prop
  | same : ClientStep s client s
  | leased (lease : PeekLease) : ClientStep s client (s.withLease client lease)
  | ended : ClientStep s client { s with peekLeases := s.peekLeases.erase client }

theorem ClientStep.other {s' : PeekState} (h : ClientStep s client s') (hother : clientPid ≠ client) :
    s'.Lease clientPid lease ↔ s.Lease clientPid lease := by
  cases h with
  | same => exact Iff.rfl
  | leased => rw [lease_withLease, if_neg hother]
  | ended => rw [lease_erase, and_iff_right hother]

theorem begin_step (s : PeekState) (client : ℕ) (source : PaneInstance)
    (candidates : List PaneInstance) (operationSeq : ℕ) :
    ClientStep s client (s.beginPeek client source candidates operationSeq).2 := by
  unfold PeekState.beginPeek
  split
  · exact .same
  · exact .leased _
  · exact .leased _

theorem begin_cases (s : PeekState) (client : ℕ) (source : PaneInstance)
    (candidates : List PaneInstance) (operationSeq : ℕ) :
    ((∃ pending source' previous candidates',
        s.Lease client (.pending pending source' previous candidates')) ∧
      s.beginPeek client source candidates operationSeq = (false, s)) ∨
    (∀ pending source' previous candidates',
        ¬s.Lease client (.pending pending source' previous candidates')) ∧
      ∃ previous, s.beginPeek client source candidates operationSeq = (true, s.withLease client
        (.pending operationSeq source previous (.ofList candidates))) := by
  unfold PeekState.beginPeek PeekState.Lease
  split
  · rename_i pending source' previous candidates' hlease
    exact Or.inl ⟨⟨pending, source', previous, candidates', hlease⟩, rfl⟩
  · rename_i active seq hlease
    exact Or.inr ⟨fun _ _ _ _ hpending => absurd (hlease.symm.trans hpending) nofun, some active, rfl⟩
  · rename_i hlease
    exact Or.inr ⟨fun _ _ _ _ hpending => absurd (hlease.symm.trans hpending) nofun, none, rfl⟩

theorem activate_cases (s : PeekState) (client operationSeq : ℕ) (target : PaneInstance)
    (floor : ℕ) : s.activatePeek client operationSeq target floor = s ∨
      (∃ source previous candidates,
        s.Lease client (.pending operationSeq source previous candidates)) ∧
      s.activatePeek client operationSeq target floor = s.withLease client (.active target floor) := by
  unfold PeekState.activatePeek
  split
  · rename_i pending source previous candidates hlease
    split_ifs with hmatches
    · obtain ⟨rfl, -⟩ := hmatches
      exact Or.inr ⟨⟨source, previous, candidates, hlease⟩, rfl⟩
    · exact Or.inl rfl
  · exact Or.inl rfl

theorem renew_cases (s : PeekState) (client : ℕ) (target : PaneInstance) (floor : ℕ) :
    (s.renewActivePeek client target floor).2 = s ∨ (∃ seq, s.Lease client (.active target seq)) ∧
      (s.renewActivePeek client target floor).2 = s.withLease client (.active target floor) := by
  unfold PeekState.renewActivePeek
  split
  · rename_i active seq hlease
    split_ifs with hmatches
    · obtain ⟨rfl, -⟩ := hmatches
      exact Or.inr ⟨⟨seq, hlease⟩, rfl⟩
    · exact Or.inl rfl
  · exact Or.inl rfl

theorem restore_cases (s : PeekState) (client operationSeq : ℕ) (witnesses : List ClientWitness)
    (observationSeq : ℕ) :
    s.restorePeekAfterFailure client operationSeq witnesses observationSeq = s ∨
      (∃ source previous candidates,
        s.Lease client (.pending operationSeq source previous candidates)) ∧
      ClientStep s client
        (s.restorePeekAfterFailure client operationSeq witnesses observationSeq) := by
  unfold PeekState.restorePeekAfterFailure
  split
  · rename_i pending source previous candidates hlease
    split_ifs with hmatches
    · subst hmatches
      refine Or.inr ⟨⟨source, previous, candidates, hlease⟩, ?_⟩
      dsimp only
      split
      · exact .leased _
      · exact .ended
    · exact Or.inl rfl
  · exact Or.inl rfl

theorem lease_retain {present : Std.ExtTreeSet PaneInstance} :
    lease.retain present = some (.active target seq) ↔
      lease = .active target seq ∧ target ∈ present := by
  cases lease with
  | active target' seq' =>
    simp only [PeekLease.retain]
    split_ifs with hpresent
    · constructor
      · intro h
        cases h
        exact ⟨rfl, hpresent⟩
      · rintro ⟨h, -⟩
        rw [h]
    · constructor
      · intro h
        cases h
      · rintro ⟨h, hin⟩
        cases h
        exact absurd hin hpresent
  | pending =>
    simp only [PeekLease.retain]
    split_ifs <;> simp

theorem lease_filterMap {runtime : CanonicalStateRuntime} {topology : TopologySnapshot}
    {f : ℕ → PeekLease → Option PeekLease} :
    PeekState.Lease ⟨runtime, topology, s.peekLeases.filterMap f⟩ clientPid lease ↔
      ∃ old, s.Lease clientPid old ∧ f clientPid old = some lease := by
  rw [PeekState.Lease, Std.ExtTreeMap.getElem?_filterMap', Option.bind_eq_some_iff]
  rfl

theorem observe_active {present : Std.ExtTreeSet PaneInstance} {shown : PaneInstance}
    {observationSeq : ℕ} (hpresent : target ∈ present) :
    (∃ seq', (PeekLease.active target seq).observe present shown observationSeq =
        some (.active target seq')) ∨
      seq < observationSeq ∧ shown ≠ target := by
  simp only [PeekLease.observe, hpresent, not_true_eq_false, if_false]
  split_ifs with hstale hshown
  · exact Or.inl ⟨seq, rfl⟩
  · exact Or.inl ⟨observationSeq, rfl⟩
  · exact Or.inr ⟨by omega, hshown⟩

theorem observe_eq_active {present : Std.ExtTreeSet PaneInstance} {shown : PaneInstance}
    {observationSeq : ℕ} (h : lease.observe present shown observationSeq =
      some (.active target seq)) : ∃ seq', lease = .active target seq' := by
  cases lease with
  | active target' seq' =>
    simp only [PeekLease.observe] at h
    split_ifs at h
    · cases h
      exact ⟨seq, rfl⟩
    · cases h
      exact ⟨seq', rfl⟩
  | pending =>
    simp only [PeekLease.observe] at h
    cases (lease_retain.mp h).1

theorem lease_clearRead {panes : List PaneInstance} {excluded : Option ℕ} :
    (s.clearPeeksForReadPanesExcept panes excluded).Lease clientPid lease ↔
      s.Lease clientPid lease ∧
        (excluded = some clientPid ∨ ∀ pane ∈ panes, lease.protects pane = false) := by
  rw [PeekState.Lease, PeekState.clearPeeksForReadPanesExcept, Maps.getElem?_filter_eq_some]
  simp [PeekState.Lease]

theorem lease_reconcile {witnesses : List ClientWitness} {observationSeq : ℕ} :
    (s.reconcilePeekLeases witnesses observationSeq).Lease clientPid lease ↔
      ∃ old shown, s.Lease clientPid old ∧ Shows witnesses clientPid shown ∧
        old.observe s.topology.present shown observationSeq = some lease := by
  rw [PeekState.reconcilePeekLeases, lease_filterMap]
  refine exists_congr fun old => ?_
  cases hshown : (PeekState.eligible witnesses)[clientPid]? with
  | none => simp [Shows, hshown]
  | some shown => simp [Shows, hshown]

theorem kept_reconcile {witnesses : List ClientWitness} {observationSeq : ℕ}
    (hfresh : Fresh s (.reconcile witnesses observationSeq)) {clientPid seq : ℕ}
    {target : PaneInstance} (hlease : s.Lease clientPid (.active target seq)) :
    (∃ seq', (s.reconcilePeekLeases witnesses observationSeq).Lease clientPid
        (.active target seq')) ∨ target ∉ s.topology.present ∨
      seq < observationSeq ∧ ¬Shows witnesses clientPid target := by
  by_cases hpresent : target ∈ s.topology.present
  · by_cases hshows : ∃ pane, Shows witnesses clientPid pane
    · obtain ⟨shown, hshown⟩ := hshows
      rcases @observe_active seq _ _ shown observationSeq hpresent with
        ⟨seq', hobserved⟩ | ⟨hnewer, hother⟩
      · exact Or.inl ⟨seq', lease_reconcile.mpr ⟨_, shown, hlease, hshown, hobserved⟩⟩
      · refine Or.inr (Or.inr ⟨hnewer, fun htarget => hother ?_⟩)
        exact Option.some.inj (hshown.symm.trans htarget)
    · have hnewer : seq < observationSeq := by
        by_contra hstale
        exact hshows (hfresh clientPid target seq hlease (by omega) hpresent)
      exact Or.inr (Or.inr ⟨hnewer, fun htarget => hshows ⟨target, htarget⟩⟩)
  · exact Or.inr (Or.inl hpresent)

theorem mem_readAuthorizedPanes_iff {clientPid : ℕ} {lease : PeekLease} {pane : PaneInstance}
    {witnesses : List ClientWitness} (hlease : s.Lease clientPid lease)
    (hprotects : lease.protects pane) :
    pane ∈ s.readAuthorizedPanes witnesses ↔
      pane ∈ s.readAuthorizedPanes
        (witnesses.filter fun witness => witness.clientPid ≠ clientPid) := by
  have hmem {witnesses : List ClientWitness} : pane ∈ s.readAuthorizedPanes witnesses ↔
      ∃ witness ∈ witnesses, witness.isEligible ∧ pane ∈ s.lookedAt witness ∧
        ¬s.peekLeases[witness.clientPid]?.any fun lease => lease.protects pane := by
    simp [PeekState.readAuthorizedPanes, Std.ExtTreeSet.mem_ofList, and_assoc]
  rw [hmem, hmem]
  refine exists_congr fun witness => ?_
  rw [List.mem_filter, and_assoc]
  refine and_congr_right fun _ => ⟨?_, And.right⟩
  rintro ⟨heligible, hlooked, hunprotected⟩
  refine ⟨?_, heligible, hlooked, hunprotected⟩
  simp only [decide_eq_true_eq]
  rintro rfl
  rw [PeekState.Lease] at hlease
  simp [hlease, hprotects] at hunprotected

theorem beginPeek_refused {client : ℕ} {source : PaneInstance} {candidates : List PaneInstance}
    {operationSeq : ℕ} : (s.beginPeek client source candidates operationSeq).1 = false ↔
      ∃ pending source' previous candidates',
        s.Lease client (.pending pending source' previous candidates') := by
  rcases begin_cases s client source candidates operationSeq with
    ⟨hpending, hrefused⟩ | ⟨hnone, previous, hbegun⟩
  · rw [hrefused]
    exact iff_of_true rfl hpending
  · rw [hbegun]
    refine iff_of_false Bool.true_eq_false.mp ?_
    rintro ⟨pending, source', previous', candidates', hpending⟩
    exact hnone _ _ _ _ hpending

end

section
variable [Sha256] [ProjectionFrame] {s : PeekState} {op : PeekOp}

theorem replace_cases (s : PeekState) (topology : TopologySnapshot)
    (preflight : Except StoreError Unit) :
    s.perform (.replaceTopology topology preflight) = s ∨ ∃ runtime,
      s.perform (.replaceTopology topology preflight) =
        { runtime := runtime
          topology := topology
          peekLeases := s.peekLeases.filterMap fun _ lease => lease.retain topology.present } := by
  rw [PeekState.perform]
  rcases hreplace : s.replaceTopology topology preflight with error | ⟨changed, replaced⟩
  · exact Or.inl rfl
  · unfold PeekState.replaceTopology at hreplace
    split_ifs at hreplace with hsame
    · cases hreplace
      exact Or.inl rfl
    · obtain ⟨runtime, -, hreplace⟩ := bind_eq_ok.mp hreplace
      obtain ⟨-, hreplace⟩ := seq_eq_ok.mp hreplace
      cases hreplace
      exact Or.inr ⟨runtime, rfl⟩

theorem activated_perform {clientPid operationSeq seq : ℕ} {source target : PaneInstance}
    {previous : Option PaneInstance} {candidates : Std.ExtTreeSet PaneInstance}
    (hlease : s.Lease clientPid (.pending operationSeq source previous candidates))
    (hlease' : (s.perform op).Lease clientPid (.active target seq)) :
    op.completes clientPid operationSeq := by
  have hother {lease : PeekLease} (h : s.Lease clientPid lease) :
      lease = .pending operationSeq source previous candidates :=
    Option.some.inj (h.symm.trans hlease)
  cases op with
  | begin client source' candidates' seq' =>
    rw [PeekState.perform] at hlease'
    rcases begin_cases s client source' candidates' seq' with ⟨-, hsame⟩ | ⟨-, previous', hbegun⟩
    · rw [hsame] at hlease'
      cases hother hlease'
    · rw [hbegun, lease_withLease] at hlease'
      split_ifs at hlease' with hclient
      cases hother hlease'
  | activate client seq' target' floor =>
    rw [PeekState.perform] at hlease'
    rcases activate_cases s client seq' target' floor with hsame | ⟨⟨_, _, _, hpending⟩, hactivated⟩
    · rw [hsame] at hlease'
      cases hother hlease'
    · rw [hactivated, lease_withLease] at hlease'
      split_ifs at hlease' with hclient
      · subst hclient
        cases hother hpending
        exact ⟨rfl, rfl⟩
      · cases hother hlease'
  | renew client target' floor =>
    rw [PeekState.perform] at hlease'
    rcases renew_cases s client target' floor with hsame | ⟨⟨seq', hactive⟩, hrenewed⟩
    · rw [hsame] at hlease'
      cases hother hlease'
    · rw [hrenewed, lease_withLease] at hlease'
      split_ifs at hlease' with hclient
      · subst hclient
        cases hother hactive
      · cases hother hlease'
  | restore client seq' witnesses observationSeq =>
    rw [PeekState.perform] at hlease'
    rcases restore_cases s client seq' witnesses observationSeq with
      hsame | ⟨⟨_, _, _, hpending⟩, hrestored⟩
    · rw [hsame] at hlease'
      cases hother hlease'
    · by_cases hclient : clientPid = client
      · subst hclient
        cases hother hpending
        exact ⟨rfl, rfl⟩
      · cases hother ((hrestored.other hclient).mp hlease')
  | clear client =>
    rw [PeekState.perform, PeekState.clearPeek, lease_erase] at hlease'
    cases hother hlease'.2
  | clearRead panes excluded =>
    rw [PeekState.perform, lease_clearRead] at hlease'
    cases hother hlease'.1
  | reconcile witnesses observationSeq =>
    rw [PeekState.perform, lease_reconcile] at hlease'
    obtain ⟨old, shown, hold, -, hobserved⟩ := hlease'
    obtain ⟨seq', rfl⟩ := observe_eq_active hobserved
    cases hother hold
  | replaceTopology topology preflight =>
    rcases replace_cases s topology preflight with hsame | ⟨runtime, hreplaced⟩
    · rw [hsame] at hlease'
      cases hother hlease'
    · rw [hreplaced, lease_filterMap] at hlease'
      obtain ⟨old, hold, hretained⟩ := hlease'
      obtain ⟨rfl, -⟩ := lease_retain.mp hretained
      cases hother hold
  | elsewhere runtime => cases hother hlease'

theorem ignored_perform {clientPid operationSeq : ℕ} (hop : op.completes clientPid operationSeq)
    (hnone : ∀ source previous candidates,
      ¬s.Lease clientPid (.pending operationSeq source previous candidates)) :
    s.perform op = s := by
  cases op with
  | activate client seq target floor =>
    obtain ⟨rfl, rfl⟩ := hop
    rcases activate_cases s client seq target floor with hsame | ⟨⟨_, _, _, hpending⟩, -⟩
    · exact hsame
    · exact absurd hpending (hnone _ _ _)
  | restore client seq witnesses observationSeq =>
    obtain ⟨rfl, rfl⟩ := hop
    rcases restore_cases s client seq witnesses observationSeq with
      hsame | ⟨⟨_, _, _, hpending⟩, -⟩
    · exact hsame
    · exact absurd hpending (hnone _ _ _)
  | _ => exact hop.elim

theorem kept_perform {clientPid seq : ℕ} {target : PaneInstance}
    (hlease : s.Lease clientPid (.active target seq))
    (hop : ∀ witnesses observationSeq, op ≠ .reconcile witnesses observationSeq) :
    (∃ seq', (s.perform op).Lease clientPid (.active target seq')) ∨ op.takes clientPid target ∨
      target ∉ (s.perform op).topology.present := by
  have hactive {lease : PeekLease} (h : s.Lease clientPid lease) : lease = .active target seq :=
    Option.some.inj (h.symm.trans hlease)
  cases op with
  | begin client source candidates operationSeq =>
    by_cases hclient : client = clientPid
    · exact Or.inr (Or.inl hclient)
    · refine Or.inl ⟨seq, ?_⟩
      rw [PeekState.perform]
      exact ((begin_step s client source candidates operationSeq).other (Ne.symm hclient)).mpr hlease
  | activate client operationSeq target' floor =>
    refine Or.inl ⟨seq, ?_⟩
    rw [PeekState.perform]
    rcases activate_cases s client operationSeq target' floor with
      hsame | ⟨⟨_, _, _, hpending⟩, hactivated⟩
    · rwa [hsame]
    · have hclient : clientPid ≠ client := by
        rintro rfl
        cases hactive hpending
      rwa [hactivated, lease_withLease, if_neg hclient]
  | renew client target' floor =>
    rw [PeekState.perform]
    rcases renew_cases s client target' floor with hsame | ⟨⟨seq', hrenewable⟩, hrenewed⟩
    · exact Or.inl ⟨seq, by rwa [hsame]⟩
    · by_cases hclient : clientPid = client
      · subst hclient
        cases hactive hrenewable
        exact Or.inl ⟨floor, by rw [hrenewed, lease_withLease, if_pos rfl]⟩
      · exact Or.inl ⟨seq, by rwa [hrenewed, lease_withLease, if_neg hclient]⟩
  | restore client operationSeq witnesses observationSeq =>
    refine Or.inl ⟨seq, ?_⟩
    rw [PeekState.perform]
    rcases restore_cases s client operationSeq witnesses observationSeq with
      hsame | ⟨⟨_, _, _, hpending⟩, hrestored⟩
    · rwa [hsame]
    · have hclient : clientPid ≠ client := by
        rintro rfl
        cases hactive hpending
      exact (hrestored.other hclient).mpr hlease
  | clear client =>
    by_cases hclient : client = clientPid
    · exact Or.inr (Or.inl hclient)
    · refine Or.inl ⟨seq, ?_⟩
      rw [PeekState.perform, PeekState.clearPeek, lease_erase]
      exact ⟨Ne.symm hclient, hlease⟩
  | clearRead panes excluded =>
    by_cases htaken : target ∈ panes ∧ excluded ≠ some clientPid
    · exact Or.inr (Or.inl htaken)
    · refine Or.inl ⟨seq, ?_⟩
      rw [PeekState.perform, lease_clearRead]
      refine ⟨hlease, or_iff_not_imp_left.mpr fun hexcluded pane hpane => ?_⟩
      have hother : target ≠ pane := fun h => htaken ⟨h ▸ hpane, hexcluded⟩
      simp [PeekLease.protects, hother]
  | reconcile witnesses observationSeq => exact absurd rfl (hop witnesses observationSeq)
  | replaceTopology topology preflight =>
    rcases replace_cases s topology preflight with hsame | ⟨runtime, hreplaced⟩
    · exact Or.inl ⟨seq, by rwa [hsame]⟩
    · rw [hreplaced]
      by_cases hpresent : target ∈ topology.present
      · exact Or.inl ⟨seq, lease_filterMap.mpr
          ⟨_, hlease, lease_retain.mpr ⟨rfl, hpresent⟩⟩⟩
      · exact Or.inr (Or.inr hpresent)
  | elsewhere runtime => exact Or.inl ⟨seq, hlease⟩

theorem leasesSafe_iff : LeasesSafe s op (s.perform op) ↔ Fresh s op := by
  constructor
  · intro hsafe
    cases op with
    | reconcile witnesses observationSeq =>
      intro clientPid target seq hlease hstale hpresent
      rcases hsafe.kept clientPid target seq hlease with
        ⟨seq', hkept⟩ | htaken | hgone | ⟨_, _, hop, hnewer, -⟩
      · obtain ⟨_, shown, -, hshown, -⟩ := lease_reconcile.mp hkept
        exact ⟨shown, hshown⟩
      · exact htaken.elim
      · exact absurd hpresent hgone
      · cases hop
        omega
    | _ => exact trivial
  · intro hfresh
    refine ⟨fun _ _ _ _ _ _ _ => activated_perform, fun _ _ => ignored_perform, ?_,
      fun _ _ _ _ => mem_readAuthorizedPanes_iff, fun _ _ _ _ => beginPeek_refused⟩
    intro clientPid target seq hlease
    by_cases hop : ∃ witnesses observationSeq, op = .reconcile witnesses observationSeq
    · obtain ⟨witnesses, observationSeq, rfl⟩ := hop
      rcases kept_reconcile hfresh hlease with hkept | hgone | hnewer
      · exact Or.inl hkept
      · exact Or.inr (Or.inr (Or.inl hgone))
      · exact Or.inr (Or.inr (Or.inr ⟨witnesses, observationSeq, rfl, hnewer⟩))
    · rcases kept_perform hlease (fun witnesses seq' h => hop ⟨witnesses, seq', h⟩) with
        hkept | htaken | hgone
      · exact Or.inl hkept
      · exact Or.inr (Or.inl htaken)
      · exact Or.inr (Or.inr (Or.inl hgone))

/-- Every call of a run leaves the leases safe exactly when no stale observation ends one. -/
theorem leases_safe {start : PeekState} {past : List (PeekState × PeekOp)}
    (hrun : Trace PeekState.Step start past s) :
    (∀ t ∈ transitions past s, LeasesSafe t.1 t.2.1 t.2.2) ↔ ∀ e ∈ past, Fresh e.1 e.2 := by
  refine hrun.forall_transitions fun before op after htaken => ?_
  rw [← htaken]
  exact leasesSafe_iff

end

namespace Peeked

@[reducible] def noFrames : ProjectionFrame := ⟨fun _ _ _ _ => 0⟩

def pane : PaneInstance := ⟨"%1", 11⟩

def start : PeekState where
  topology := ⟨⟨1, 1⟩, [⟨pane, [], "@1", "", "", "", 80, true, false, [], none⟩]⟩

def begun : PeekState := start.withLease 10 (.pending 1 pane none (.ofList [pane]))

def activated : PeekState := begun.withLease 10 (.active pane 5)

def past : List (PeekState × PeekOp) :=
  [(begun, .activate 10 1 pane 5), (start, .begin 10 pane [pane] 1)]

theorem past_run : Trace (@PeekState.Step .constant noFrames) start past activated :=
  (Trace.nil.snoc rfl).snoc rfl

theorem leases_safe_activated : Trace (@PeekState.Step .constant noFrames) start past activated ∧
    ∀ t ∈ transitions past activated, LeasesSafe t.1 t.2.1 t.2.2 :=
  ⟨past_run, (@leases_safe .constant noFrames _ _ _ past_run).mpr
    (List.forall_mem_cons.mpr ⟨trivial, List.forall_mem_singleton.mpr trivial⟩)⟩

/-- An observation that began before the switch, of a moment without the client, ends its lease. -/
theorem stale_ends :
    ∃ s, Trace (@PeekState.Step .constant noFrames) start ((activated, .reconcile [] 1) :: past) s ∧
      ¬∀ t ∈ transitions ((activated, .reconcile [] 1) :: past) s, LeasesSafe t.1 t.2.1 t.2.2 := by
  let _ : Sha256 := .constant
  let _ := noFrames
  have htaken : activated.Step (.reconcile [] 1) (activated.perform (.reconcile [] 1)) := rfl
  have hrun := past_run.snoc htaken
  refine ⟨_, hrun, fun hsafe => ?_⟩
  have hlease : activated.Lease 10 (.active pane 5) := lease_withLease.mpr rfl
  have hpresent : pane ∈ activated.topology.present :=
    TopologySnapshot.mem_present.mpr ⟨_, List.mem_singleton_self _, rfl⟩
  have hfresh : Fresh activated (.reconcile [] 1) :=
    leasesSafe_iff.mp (hsafe _ List.mem_cons_self)
  obtain ⟨shown, hshown⟩ := hfresh 10 pane 5 hlease (by decide) hpresent
  simp [Shows, PeekState.eligible] at hshown

end Peeked

end VdeTmux.Daemon
