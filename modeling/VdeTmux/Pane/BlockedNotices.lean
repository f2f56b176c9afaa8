import VdeTmux.Pane.Bookkeeping
import VdeTmux.Pane.Reads

/-!
# Notices of blocked panes

A pane that becomes blocked is noticed under the version of its record, and the notice belongs to
that one stretch of being blocked. Later versions of the same stretch keep the notice; once the
stretch ended, whatever ended it, no later stretch takes the notice up again.
-/

open Foundation Foundation.Text
namespace VdeTmux.Pane

/-- What a pane says about its notice: the record, and the version last noticed. -/
structure Notice where
  record : Option PaneState
  noticed : Option StateVersion

namespace Notice
open CanonicalStateRuntime (occurrenceEnded zipRecords)

def noticedAfter (previous : Option PaneState) (candidate : PaneState)
    (noticed : Option StateVersion) : Option StateVersion :=
  if recordBadge previous ≠ some .blocked ∧ resolveBadge candidate = .blocked then
    some candidate.version
  else if resolveBadge candidate ≠ .blocked ∨ occurrenceEnded previous (some candidate) = true then
    none
  else noticed

/-- A candidate continues the record of its pane, or is the first one under a new id. -/
def Continues (fresh : StateId → Prop) (previous : Option PaneState) (candidate : PaneState) :
    Prop :=
  match previous with
  | none => fresh candidate.stateId
  | some s => candidate.stateId = s.stateId ∧ candidate.revision = s.revision + 1

/-- What one change does to the notice of a pane. -/
inductive Step (fresh : StateId → Prop) (notice : Notice) : Notice → Prop
  | changed (candidate : PaneState) (continues : Continues fresh notice.record candidate) :
    Step fresh notice ⟨some candidate, noticedAfter notice.record candidate notice.noticed⟩
  | projected (s candidate : PaneState) (record : notice.record = some s)
      (stateId : candidate.stateId = s.stateId) (agentEpoch : candidate.agentEpoch = s.agentEpoch)
      (revision : candidate.revision = s.revision + 1)
      (blocked : resolveBadge candidate = .blocked → resolveBadge s = .blocked) :
    Step fresh notice ⟨some candidate, notice.noticed⟩
  | removed : Step fresh notice ⟨none, none⟩

/-- The pane is in the stretch the version names. -/
def Blocked (version : StateVersion) (record : Option PaneState) : Prop :=
  ∃ s, record = some s ∧ s.stateId = version.stateId ∧ s.agentEpoch = version.agentEpoch ∧
    resolveBadge s = .blocked

structure Holds (version : StateVersion) (notice : Notice) : Prop where
  blocked : Blocked version notice.record
  revision : ∀ s, notice.record = some s → version.revision ≤ s.revision
  noticed : notice.noticed = some version

structure Over (version : StateVersion) (notice : Notice) : Prop where
  later : ∀ s, notice.record = some s → s.stateId = version.stateId →
    version.revision < s.revision
  quiet : notice.noticed = some version → recordBadge notice.record ≠ some .blocked

theorem occurrenceEnded_eq_false {s candidate : PaneState} :
    occurrenceEnded (some s) (some candidate) = false ↔
      s.stateId = candidate.stateId ∧ s.agentEpoch = candidate.agentEpoch := by
  simp [occurrenceEnded, zipRecords]

section
variable {version : StateVersion} {fresh : StateId → Prop} {notice notice' : Notice}

theorem Over.gone : Over version ⟨none, none⟩ := by
  constructor
  · intro s hs
    cases hs
  · intro hnone
    cases hnone

theorem Holds.step (h : Holds version notice) (hstep : Step fresh notice notice') :
    Holds version notice' ∨ Over version notice' ∧ ¬Blocked version notice'.record := by
  obtain ⟨s, hs, hid, hepoch, hblocked⟩ := h.blocked
  have hrevision := h.revision s hs
  cases hstep with
  | changed candidate continues =>
    rw [hs] at continues
    obtain ⟨hid', hrevision'⟩ := continues
    have hbefore : recordBadge notice.record = some .blocked := by
      rw [hs]
      exact congrArg some hblocked
    have hafter : noticedAfter notice.record candidate notice.noticed =
        if resolveBadge candidate ≠ .blocked ∨
          occurrenceEnded notice.record (some candidate) = true then none
        else notice.noticed := if_neg fun hnew => hnew.1 hbefore
    rw [hafter]
    by_cases hstays : resolveBadge candidate = .blocked ∧ candidate.agentEpoch = version.agentEpoch
    · obtain ⟨hblocked', hepoch'⟩ := hstays
      have hended : occurrenceEnded notice.record (some candidate) = false := by
        rw [hs, occurrenceEnded_eq_false]
        exact ⟨hid'.symm, hepoch.trans hepoch'.symm⟩
      refine Or.inl ⟨⟨candidate, rfl, hid'.trans hid, hepoch', hblocked'⟩, ?_, ?_⟩
      · rintro _ ⟨⟩
        omega
      · simp only [hblocked', hended, ne_eq, not_true_eq_false, Bool.false_eq_true, or_self,
          if_false]
        exact h.noticed
    · have hgone : resolveBadge candidate ≠ .blocked ∨
          occurrenceEnded notice.record (some candidate) = true := by
        by_contra hkept
        obtain ⟨hblocked', hsame⟩ := not_or.mp hkept
        rw [Bool.not_eq_true, hs, occurrenceEnded_eq_false] at hsame
        exact hstays ⟨not_not.mp hblocked', hsame.2.symm.trans hepoch⟩
      rw [if_pos hgone]
      refine Or.inr ⟨⟨?_, nofun⟩, ?_⟩
      · rintro _ ⟨⟩ _
        omega
      · rintro ⟨_, ⟨⟩, -, hepoch', hblocked'⟩
        exact hstays ⟨hblocked', hepoch'⟩
  | projected s' candidate record stateId agentEpoch revision blocked =>
    rw [hs] at record
    cases record
    by_cases hstays : resolveBadge candidate = .blocked
    · refine Or.inl ⟨⟨candidate, rfl, stateId.trans hid, agentEpoch.trans hepoch, hstays⟩, ?_,
        h.noticed⟩
      rintro _ ⟨⟩
      omega
    · refine Or.inr ⟨⟨?_, fun _ hbadge => hstays (Option.some.inj hbadge)⟩, ?_⟩
      · rintro _ ⟨⟩ _
        omega
      · rintro ⟨_, ⟨⟩, -, -, hblocked'⟩
        exact hstays hblocked'
  | removed =>
    refine Or.inr ⟨.gone, ?_⟩
    rintro ⟨_, hnone, -⟩
    cases hnone

theorem Over.step (h : Over version notice)
    (hstep : Step (fun stateId => stateId ≠ version.stateId) notice notice') :
    Over version notice' := by
  cases hstep with
  | changed candidate continues =>
    have hlater : candidate.stateId = version.stateId → version.revision < candidate.revision := by
      intro hid
      cases hrecord : notice.record with
      | none =>
        rw [hrecord] at continues
        exact absurd hid continues
      | some s =>
        rw [hrecord] at continues
        obtain ⟨hid', hrevision⟩ := continues
        have hless := h.later s hrecord (hid'.symm.trans hid)
        omega
    refine ⟨fun _ hs => by cases hs; exact hlater, ?_⟩
    intro hnoticed
    unfold noticedAfter at hnoticed
    split_ifs at hnoticed with hnew hgone
    · have hversion := Option.some.inj hnoticed
      have hless := hlater (congrArg StateVersion.stateId hversion)
      have hsame : candidate.revision = version.revision := congrArg StateVersion.revision hversion
      omega
    · have hquiet := h.quiet hnoticed
      exact fun hbadge => hnew ⟨hquiet, Option.some.inj hbadge⟩
  | projected s candidate record stateId agentEpoch revision blocked =>
    refine ⟨?_, fun hnoticed hbadge => h.quiet hnoticed ?_⟩
    · rintro _ ⟨⟩ hid
      have hless := h.later s record (stateId.symm.trans hid)
      omega
    · rw [record]
      exact congrArg some (blocked (Option.some.inj hbadge))
  | removed => exact .gone

theorem Holds.begins {candidate : PaneState} (h : resolveBadge candidate = .blocked) :
    Holds candidate.version ⟨some candidate, some candidate.version⟩ :=
  ⟨⟨candidate, rfl, rfl, rfl, h⟩, fun _ hs => by cases hs; exact le_rfl, rfl⟩

end

end Notice

namespace CanonicalStateRuntime

def notice (runtime : CanonicalStateRuntime) (pane : PaneInstance) : Notice :=
  ⟨runtime.records[pane]?, runtime.notificationGenerations[pane]?⟩

/-- The notification that an event adds, given the records of its pane before and after it. -/
def newNotifications (pane : PaneInstance) (previous current : Option PaneState) :
    List CanonicalNotification :=
  ((current.filter fun s => recordBadge previous ≠ some .blocked ∧ resolveBadge s = .blocked).map
    fun s => ⟨pane, s.version⟩).toList

theorem newNotifications_same (pane : PaneInstance) (current : Option PaneState) :
    newNotifications pane current current = [] := by
  cases current with
  | none => rfl
  | some s => simp [newNotifications, recordBadge, Option.filter]

def posted (runtime : CanonicalStateRuntime) :
    PaneMap PaneState × PaneMap StateVersion × List CanonicalNotification :=
  (runtime.records, runtime.notificationGenerations, runtime.notificationJobs)

theorem notice_of_posted {runtime runtime' : CanonicalStateRuntime}
    (h : runtime'.posted = runtime.posted) (pane : PaneInstance) :
    runtime'.notice pane = runtime.notice pane := by
  simp only [posted, Prod.mk.injEq] at h
  simp only [notice, h.1, h.2.1]

theorem jobs_of_posted {runtime runtime' : CanonicalStateRuntime}
    (h : runtime'.posted = runtime.posted) :
    runtime'.notificationJobs = runtime.notificationJobs := congrArg (·.2.2) h

theorem bumpSnapshotRevision_posted {runtime bumped : CanonicalStateRuntime}
    (h : runtime.bumpSnapshotRevision = .ok bumped) : bumped.posted = runtime.posted := by
  obtain ⟨-, rfl⟩ := bumpSnapshotRevision_eq_ok.mp h
  rfl

theorem bumpIf_posted {draft bumped : CanonicalStateRuntime} {bump : Bool}
    (h : draft.bumpIf bump = .ok bumped) : bumped.posted = draft.posted := by
  unfold bumpIf at h
  split_ifs at h
  · exact bumpSnapshotRevision_posted h
  · cases h
    rfl

theorem preflightProjection_posted [ProjectionFrame] (runtime : CanonicalStateRuntime)
    (responseLimit : ℕ) :
    (runtime.preflightProjection responseLimit).2.posted = runtime.posted := by
  simp only [preflightProjection, posted]

theorem pushTransition_posted (runtime : CanonicalStateRuntime)
    (transition : CanonicalTransition) :
    (runtime.pushTransition transition).posted = runtime.posted := by
  simp only [pushTransition, posted]

theorem enterTriage_posted (runtime : CanonicalStateRuntime) (pane : PaneInstance)
    (current : Option PaneState) : (runtime.enterTriage pane current).posted = runtime.posted := by
  unfold enterTriage
  split_ifs <;> rfl

theorem track_posted (runtime : CanonicalStateRuntime) (pane : PaneInstance)
    (delta : Option CaptureTrackerDelta) : (runtime.track pane delta).posted = runtime.posted := by
  cases delta <;> rfl

theorem advanceTriage_posted (draft : CanonicalStateRuntime × Bool) (pane : PaneInstance) :
    (advanceTriage draft pane).1.posted = draft.1.posted := by
  unfold advanceTriage
  dsimp only
  split_ifs <;> rfl

theorem advanceFlash_posted (draft : CanonicalStateRuntime × Bool) (pane : PaneInstance) :
    (advanceFlash draft pane).1.posted = draft.1.posted := by
  unfold advanceFlash
  dsimp only
  split_ifs <;> rfl

theorem foldl_posted {advance : CanonicalStateRuntime × Bool → PaneInstance →
      CanonicalStateRuntime × Bool}
    (hadvance : ∀ draft pane, (advance draft pane).1.posted = draft.1.posted)
    (panes : List PaneInstance) (draft : CanonicalStateRuntime × Bool) :
    (panes.foldl advance draft).1.posted = draft.1.posted := by
  induction panes generalizing draft with
  | nil => rfl
  | cons pane rest ih => exact (ih _).trans (hadvance draft pane)

theorem commit_posted {α : Type} {runtime : CanonicalStateRuntime}
    {result : Except StoreError (α × CanonicalStateRuntime)}
    (h : ∀ a draft, result = .ok (a, draft) → draft.posted = runtime.posted) :
    (runtime.commit result).2.posted = runtime.posted := by
  rcases commit_snd runtime result with hsame | ⟨a, draft, hresult, hcommit⟩
  · rw [hsame]
  · rw [hcommit]
    exact h a draft hresult

section
variable [Sha256] [ProjectionFrame]

theorem publishInPlace_posted (runtime : CanonicalStateRuntime) :
    runtime.publishInPlace.2.posted = runtime.posted := by
  unfold publishInPlace
  split
  · rfl
  · rename_i bumped hbump
    have hbumped := bumpSnapshotRevision_posted hbump
    split
    · exact hbumped
    · exact (preflightProjection_posted _ _).trans hbumped

theorem publish_posted {draft published : CanonicalStateRuntime}
    (h : draft.publish = .ok published) : published.posted = draft.posted := by
  have hplace := publishInPlace_posted draft
  unfold publish at h
  split at h
  · rename_i heq
    cases h
    rw [heq] at hplace
    exact hplace
  · cases h

theorem settleProjection_posted {draft settled : CanonicalStateRuntime} {bump : Bool}
    (h : draft.settleProjection bump = .ok settled) : settled.posted = draft.posted := by
  obtain ⟨bumped, hbump, h⟩ := bind_eq_ok.mp h
  obtain ⟨-, h⟩ := seq_eq_ok.mp h
  cases h
  rw [preflightProjection_posted, bumpIf_posted hbump]

end

theorem keepLast_of_length_le {α : Type} {limit : ℕ} {l : List α} (h : l.length ≤ limit) :
    keepLast limit l = l := by
  rw [keepLast, Nat.sub_eq_zero_of_le h, List.drop_zero]

theorem shedNotifications_jobs (pane : PaneInstance) (diagnostics : List PaneStateDiagnostic)
    (jobs : List CanonicalNotification) :
    (shedNotifications pane diagnostics jobs).1 = keepLast maxNotificationJobs jobs := by
  induction jobs generalizing diagnostics with
  | nil => rfl
  | cons job rest ih =>
    unfold shedNotifications
    split_ifs with hfull
    · rw [ih, keepLast, keepLast, List.length_cons,
        Nat.sub_add_comm (Nat.le_of_lt_succ hfull), List.drop_succ_cons]
    · exact (keepLast_of_length_le (not_lt.mp hfull)).symm

theorem endOccurrence_noticed (runtime : CanonicalStateRuntime) (pane other : PaneInstance)
    (previous current : Option PaneState) :
    (runtime.endOccurrence pane previous current).notificationGenerations[other]? =
      if other = pane ∧ (recordBadge current ≠ some .blocked ∨
        occurrenceEnded previous current = true) then none
      else runtime.notificationGenerations[other]? := by
  unfold endOccurrence
  split_ifs with hended hboth hboth
  · exact (getElem?_erase _ _ _).trans (if_pos hboth.1)
  · exact (getElem?_erase _ _ _).trans (if_neg fun hother => hboth ⟨hother, hended⟩)
  · exact absurd hboth.2 hended
  · rfl

/-- What the projection of a candidate does to all notices and to the queue. -/
theorem deriveCandidateProjection_notices (runtime : CanonicalStateRuntime) (pane : PaneInstance)
    (previous : Option PaneState) (candidate : PaneState) (event : PaneEvent) (atEpoch : ℤ)
    (hjobs : runtime.notificationJobs.length ≤ maxNotificationJobs) :
    (∀ other, (runtime.deriveCandidateProjection pane previous (some candidate) event
        atEpoch).notificationGenerations[other]? =
      if other = pane then
        Notice.noticedAfter previous candidate runtime.notificationGenerations[pane]?
      else runtime.notificationGenerations[other]?) ∧
    (runtime.deriveCandidateProjection pane previous (some candidate) event
        atEpoch).notificationJobs =
      keepLast maxNotificationJobs
        (runtime.notificationJobs ++ newNotifications pane previous (some candidate)) := by
  have htriage (r : CanonicalStateRuntime) := r.enterTriage_posted pane (some candidate)
  have hended := runtime.endOccurrence_noticed pane
  have hpushed (r : CanonicalStateRuntime) := r.pushTransition_posted
    (canonicalTransition pane previous (some candidate) event atEpoch)
  have hendedJobs : (runtime.endOccurrence pane previous (some candidate)).notificationJobs =
      runtime.notificationJobs := by
    unfold endOccurrence
    split_ifs <;> rfl
  unfold deriveCandidateProjection
  generalize hbase : (runtime.endOccurrence pane previous (some candidate)).pushTransition
    (canonicalTransition pane previous (some candidate) event atEpoch) = base
  have hposted := hpushed (runtime.endOccurrence pane previous (some candidate))
  rw [hbase] at hposted
  simp only [posted, Prod.mk.injEq] at htriage hposted
  rw [(htriage _).2.1, (htriage _).2.2]
  obtain ⟨-, hgenerations, hqueue⟩ := hposted
  rw [hendedJobs] at hqueue
  by_cases hnew : recordBadge previous ≠ some .blocked ∧ resolveBadge candidate = .blocked
  · obtain ⟨hbefore, hblocked⟩ := hnew
    have hdiffers : recordBadge previous ≠ recordBadge (some candidate) := by
      rw [show recordBadge (some candidate) = some .blocked from congrArg some hblocked]
      exact hbefore
    have hadded : newNotifications pane previous (some candidate) =
        [⟨pane, candidate.version⟩] := by
      simp [newNotifications, Option.filter, hbefore, hblocked]
    simp only [announce, hdiffers, if_false, hblocked, if_true, notifyBlocked,
      shedNotifications_jobs, hadded, hqueue, and_true]
    intro other
    rw [getElem?_insert, hgenerations, hended]
    split_ifs with hother hgone
    · simp only [Notice.noticedAfter, hbefore, hblocked, ne_eq, not_false_eq_true, and_self,
        if_true]
    · exact absurd hgone.1 hother
    · rfl
  · have hkept : (base.announce pane previous (some candidate)).notificationGenerations =
        base.notificationGenerations ∧
        (base.announce pane previous (some candidate)).notificationJobs =
          base.notificationJobs := by
      unfold announce
      dsimp only
      split_ifs with hsame hblocked
      · exact ⟨rfl, rfl⟩
      · refine absurd ⟨fun hbefore => hsame ?_, hblocked⟩ hnew
        exact hbefore.trans (congrArg some hblocked).symm
      · exact ⟨rfl, rfl⟩
    have hnone : newNotifications pane previous (some candidate) = [] := by
      unfold newNotifications
      rw [Option.filter_eq_none_iff.mpr fun s hs => ?_]
      · rfl
      · cases hs
        simpa using hnew
    rw [hkept.1, hkept.2, hgenerations, hqueue, hnone, List.append_nil, keepLast_of_length_le hjobs]
    refine ⟨fun other => ?_, rfl⟩
    rw [hended, Notice.noticedAfter, if_neg hnew]
    by_cases hother : other = pane
    · subst hother
      simp only [true_and, if_true]
      exact if_congr (or_congr (not_congr (Option.some_inj)) Iff.rfl) rfl rfl
    · simp only [hother, false_and, if_false]

end CanonicalStateRuntime
end VdeTmux.Pane
