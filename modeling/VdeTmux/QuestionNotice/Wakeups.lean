import Mathlib.Data.List.Nodup
import Mathlib.Order.Basic
import VdeTmux.Foundation.Lists
import VdeTmux.QuestionNotice.Resolution

/-!
# When the resolver wakes up

The next wake-up and the test for a due tick are two readings of one schedule. The probe jobs that
ticks hand to the workers are kept beside the resolver: a worker answers each at most once.
-/

open Foundation VdeTmux.Pane
namespace VdeTmux.QuestionNotice

namespace Candidate

def wakeup (candidate : Candidate) : ℕ :=
  if candidate.stage = .probing ∧ candidate.pending = false then
    min (candidate.nextSample.getD candidate.deadline) candidate.deadline
  else candidate.deadline

def wakes (candidate : Candidate) (now : ℕ) : Bool :=
  candidate.deadline ≤ now ||
    (candidate.stage = .probing && !candidate.pending &&
      candidate.nextSample.any fun due => due ≤ now)

theorem wakes_iff (candidate : Candidate) (now : ℕ) :
    candidate.wakes now = true ↔ candidate.wakeup ≤ now := by
  unfold wakes wakeup
  simp only [Bool.or_eq_true, Bool.and_eq_true, decide_eq_true_eq, Bool.not_eq_true']
  by_cases hopen : candidate.stage = .probing ∧ candidate.pending = false
  · rw [if_pos hopen]
    simp only [hopen, true_and]
    cases candidate.nextSample with
    | none => simp
    | some due =>
      simp only [Option.any_some, decide_eq_true_eq, Option.getD_some]
      omega
  · simp [hopen]

end Candidate

namespace Resolver

def nextWakeup (r : Resolver) : Option ℕ :=
  ((Maps.values r.homeFailures).map Prod.snd ++
    (Maps.values r.candidates).map Candidate.wakeup).min?

def tickDue (r : Resolver) (now : ℕ) : Bool :=
  ((Maps.values r.homeFailures).any fun failure => failure.2 ≤ now) ||
    (Maps.values r.candidates).any fun candidate => candidate.wakes now

theorem tickDue_iff {r : Resolver} {now : ℕ} :
    r.tickDue now = true ↔
      (∃ (home : String) (failure : ℕ × ℕ),
        r.homeFailures[home]? = some failure ∧ failure.2 ≤ now) ∨
      ∃ (owner : String) (c : Candidate), r.candidates[owner]? = some c ∧ c.wakeup ≤ now := by
  simp only [tickDue, Bool.or_eq_true, List.any_eq_true, Maps.mem_values, decide_eq_true_eq,
    Candidate.wakes_iff]
  constructor
  · rintro (⟨failure, ⟨home, hfailure⟩, hdue⟩ | ⟨c, ⟨owner, hc⟩, hdue⟩)
    · exact Or.inl ⟨home, failure, hfailure, hdue⟩
    · exact Or.inr ⟨owner, c, hc, hdue⟩
  · rintro (⟨home, failure, hfailure, hdue⟩ | ⟨owner, c, hc, hdue⟩)
    · exact Or.inl ⟨failure, ⟨home, hfailure⟩, hdue⟩
    · exact Or.inr ⟨c, ⟨owner, hc⟩, hdue⟩

theorem tickDue_iff_nextWakeup (r : Resolver) (now : ℕ) :
    r.tickDue now = true ↔ ∃ t, r.nextWakeup = some t ∧ t ≤ now := by
  rw [nextWakeup, exists_min?_le]
  simp only [tickDue, Bool.or_eq_true, List.any_eq_true, decide_eq_true_eq, Candidate.wakes_iff,
    List.mem_append, List.mem_map]
  constructor
  · rintro (⟨failure, hfailure, hdue⟩ | ⟨c, hc, hdue⟩)
    · exact ⟨failure.2, Or.inl ⟨failure, hfailure, rfl⟩, hdue⟩
    · exact ⟨c.wakeup, Or.inr ⟨c, hc, rfl⟩, hdue⟩
  · rintro ⟨t, ⟨failure, hfailure, rfl⟩ | ⟨c, hc, rfl⟩, hdue⟩
    · exact Or.inl ⟨failure, hfailure, hdue⟩
    · exact Or.inr ⟨c, hc, hdue⟩

theorem getElem?_due {r : Resolver} {now : ℕ} {owner : String} {c' : Candidate}
    (hc : (r.due now).2.candidates[owner]? = some c') :
    ∃ c, r.candidates[owner]? = some c ∧ now < c.deadline ∧
      (c.sampleDue now = true ∧ c' = c.probe ∨ c.sampleDue now = false ∧ c' = c) := by
  unfold due at hc
  dsimp only at hc
  rw [Std.ExtTreeMap.getElem?_filterMap'] at hc
  obtain ⟨c, hbefore, htick⟩ := Option.bind_eq_some_iff.mp hc
  unfold Candidate.tick at htick
  split_ifs at htick with hlate hdue
  · exact ⟨c, hbefore, by omega, Or.inl ⟨hdue, (Option.some_inj.mp htick).symm⟩⟩
  · exact ⟨c, hbefore, by omega, Or.inr ⟨by simpa using hdue, (Option.some_inj.mp htick).symm⟩⟩

theorem getElem?_recoveryDue {r : Resolver} {now : ℕ} {home : String} {failure : ℕ × ℕ}
    (h : (r.recoveryDue now).2.homeFailures[home]? = some failure) : now < failure.2 := by
  unfold recoveryDue at h
  dsimp only at h
  rw [Std.ExtTreeMap.getElem?_map] at h
  obtain ⟨before, -, hmade⟩ := Option.map_eq_some_iff.mp h
  split_ifs at hmade with hahead
  · exact hmade ▸ hahead
  · subst hmade
    simp [recoveryDelay]

theorem tickDue_after_tick {r : Resolver} {now : ℕ}
    (h : ∀ (owner : String) (c : Candidate), r.candidates[owner]? = some c →
      c.pending = false → c.samples < sampleLimit) :
    ((r.recoveryDue now).2.due now).2.tickDue now = false := by
  by_contra hdue
  rw [Bool.not_eq_false] at hdue
  rcases tickDue_iff.mp hdue with ⟨home, failure, hfailure, hle⟩ | ⟨owner, c', hc', hle⟩
  · have hahead : now < failure.2 := getElem?_recoveryDue hfailure
    omega
  · obtain ⟨c, hc, hdeadline, ⟨-, rfl⟩ | ⟨hidle, rfl⟩⟩ := getElem?_due hc'
    · have hwakeup : c.probe.wakeup = c.deadline := if_neg (by simp [Candidate.probe])
      omega
    · have hleft := h owner c' hc
      have hwakes := (c'.wakes_iff now).mpr hle
      simp only [Candidate.wakes, Candidate.sampleDue, Bool.or_eq_true, Bool.and_eq_true,
        decide_eq_true_eq, Bool.not_eq_true'] at hwakes hidle
      rcases hwakes with hover | ⟨⟨hstage, hpending⟩, hsample⟩
      · omega
      · simp [hstage, hpending, hsample, hleft hpending] at hidle

theorem mem_due {r : Resolver} {now : ℕ} {job : Fence × ℕ} :
    job ∈ (r.due now).1 ↔ ∃ (owner : String) (c : Candidate), r.candidates[owner]? = some c ∧
      now < c.deadline ∧ c.sampleDue now = true ∧ job = (c.fence, c.probeId + 1) := by
  simp only [due, List.mem_map, List.mem_filter, Bool.and_eq_true, decide_eq_true_eq, Prod.exists,
    Std.ExtTreeMap.mem_toList_iff_getElem?_eq_some]
  constructor
  · rintro ⟨owner, c, ⟨hc, hdeadline, hdue⟩, rfl⟩
    exact ⟨owner, c, hc, hdeadline, hdue, rfl⟩
  · rintro ⟨owner, c, hc, hdeadline, hdue, rfl⟩
    exact ⟨owner, c, ⟨hc, hdeadline, hdue⟩, rfl⟩

theorem givenTo_due {r : Resolver} (hsound : r.Sound) {now : ℕ} {owner : String} {c : Candidate}
    (hc : r.candidates[owner]? = some c) (hdeadline : now < c.deadline)
    (hdue : c.sampleDue now = true) : givenTo c.fence (r.due now).1 = [c.probeId + 1] := by
  have hrest : givenTo c.fence (((r.candidates.erase owner).toList.filter fun p =>
      now < p.2.deadline && p.2.sampleDue now).map fun p => (p.2.fence, p.2.probeId + 1)) = [] := by
    apply givenTo_eq_nil
    intro job hjob hfence
    obtain ⟨⟨other, c₁⟩, hentry, rfl⟩ := List.mem_map.mp hjob
    have hmem := Std.ExtTreeMap.mem_toList_iff_getElem?_eq_some.mp (List.mem_filter.mp hentry).1
    rw [Maps.getElem?_erase] at hmem
    split_ifs at hmem with hother
    have howner := hsound.keyed other c₁ hmem
    have hfence : c₁.fence = c.fence := hfence
    rw [hfence, hsound.keyed owner c hc] at howner
    exact hother howner.symm
  have hperm := ((Maps.toList_perm hc).filter fun p =>
    now < p.2.deadline && p.2.sampleDue now).map fun p => (p.2.fence, p.2.probeId + 1)
  have hgiven : (givenTo c.fence _).Perm _ := givenTo_perm hperm
  rw [List.filter_cons_of_pos (by simp [hdeadline, hdue]), List.map_cons, givenTo_cons, if_pos rfl,
    hrest, List.perm_singleton] at hgiven
  exact hgiven

theorem givenTo_due_eq_nil {r : Resolver} {now : ℕ} {fence : Fence}
    (h : ∀ (owner : String) (c : Candidate), r.candidates[owner]? = some c → c.fence = fence →
      now < c.deadline → c.sampleDue now = false) : givenTo fence (r.due now).1 = [] := by
  apply givenTo_eq_nil
  rintro job hjob rfl
  obtain ⟨owner, c, hc, hdeadline, hdue, rfl⟩ := mem_due.mp hjob
  simp [h owner c hc rfl hdeadline] at hdue

end Resolver

/-- The part of a candidate that its looks at the screen go through. -/
def Candidate.looks (c : Candidate) : Fence × ℕ × ℕ × ℕ × Bool :=
  (c.fence, c.samples, c.consecutiveNormal, c.probeId, c.pending)

def Operation.looks : Operation → Bool
  | .due _ | .sample .. => true
  | _ => false

def LooksKept (r r' : Resolver) : Prop :=
  ∀ (owner : String) (c' : Candidate), r'.candidates[owner]? = some c' →
    (∃ c, r.candidates[owner]? = some c ∧ c'.looks = c.looks) ∨
      ∃ fence now, c' = Resolver.newCandidate fence now ∧
        fence.generation = r.nextCandidate + 1 ∧ r'.nextCandidate = r.nextCandidate + 1

namespace LooksKept
variable {r r' : Resolver}

theorem of_drops (h : Drops r r') : LooksKept r r' := fun owner c' hc =>
  Or.inl ⟨c', h.subset owner c' hc, rfl⟩

theorem insert {owner : String} {c c' : Candidate} (hc : r.candidates[owner]? = some c)
    (hcandidates : r'.candidates = r.candidates.insert owner c') (hlooks : c'.looks = c.looks) :
    LooksKept r r' := by
  intro other c₁ hc₁
  rw [hcandidates, Maps.getElem?_insert] at hc₁
  split_ifs at hc₁ with hother
  · obtain rfl := Option.some_inj.mp hc₁
    subst hother
    exact Or.inl ⟨c, hc, hlooks⟩
  · exact Or.inl ⟨c₁, hc₁, rfl⟩

theorem checked (r : Resolver) (check : OrderCheck) (proven : List String) (now : ℕ) :
    LooksKept r (r.checked check proven now).2 := by
  have hstep := checked_step r check proven now
  generalize r.checked check proven now = p at hstep
  cases hstep with
  | stale => exact of_drops (.refl r)
  | late => exact of_drops (.cancel r _)
  | unproven =>
    intro owner c' hc'
    exact Or.inl ⟨c', (Drops.cancel r _).subset owner c' hc', rfl⟩
  | armed current before => exact insert before rfl rfl

theorem eligible (r : Resolver) (owner turn : String) (done interrupted : Bool) (now : ℕ) :
    LooksKept r (r.eligible owner turn done interrupted now) := by
  unfold Resolver.eligible
  split
  · exact of_drops (.refl r)
  · rename_i hbefore
    split_ifs
    · exact of_drops (.refl r)
    · exact of_drops (.cancel r _)
    · exact insert hbefore rfl rfl
    · exact of_drops (.refl r)

theorem recordEligibility (r : Resolver) (owner run : String) :
    LooksKept r (r.recordEligibility owner run) := by
  unfold Resolver.recordEligibility
  split
  · exact of_drops (.refl r)
  · rename_i hbefore
    split_ifs
    · exact insert hbefore rfl rfl
    · exact of_drops (.refl r)

theorem recordEvaluatedProjection (r : Resolver) (owner projection : String) :
    LooksKept r (r.recordEvaluatedProjection owner projection) := by
  unfold Resolver.recordEvaluatedProjection
  split
  · exact of_drops (.refl r)
  · rename_i hbefore
    split_ifs
    · exact insert hbefore rfl rfl
    · exact of_drops (.refl r)

variable [Sha256]

theorem ordinary (r : Resolver) (class_ : InputClass) (binding : Binding)
    (session ingress turn : String) (notice : NoticeFence) (journal : JournalView) (now : ℕ) :
    LooksKept r (r.ordinary class_ binding session ingress turn notice journal now).2 := by
  cases class_ with
  | nonAuthoritativeInput => exact of_drops (.refl r)
  | ordinaryPrompt =>
    have hstep := ordinary_step r binding session ingress turn notice journal now
    have henroll := Drops.enroll r binding.locator.homeDigest session
    have hadmitted state := henroll.trans
      (.admitInput _ binding.locator.homeDigest session ingress binding.owner state)
    generalize r.ordinary .ordinaryPrompt binding session ingress turn notice journal now = p at hstep
    cases hstep with
    | idle => exact of_drops (.refl r)
    | lost => exact of_drops henroll
    | repeated => exact of_drops henroll
    | full => exact of_drops (henroll.trans (.unknown _ _ _))
    | exhausted => exact of_drops (henroll.trans (.disable _))
    | distrusted => exact of_drops ((hadmitted _).trans (.unknown _ _ _))
    | unneeded => exact of_drops (hadmitted _)
    | proposing =>
      have hsame := congrArg (· + 1) (enroll_frame r binding.locator.homeDigest session).1
      intro owner c' hc'
      rcases propose_candidates hc' with hold | ⟨check, -, -, hmade, hfresh, hcount, -⟩
      · exact Or.inl ⟨c', (hadmitted _).subset owner c' hold, rfl⟩
      · exact Or.inr ⟨check.fence, now, hmade, hfresh.trans hsame, hcount.trans hsame⟩

theorem perform (r : Resolver) {operation : Operation} (hlooks : operation.looks = false) :
    LooksKept r (r.perform operation) := by
  cases operation with
  | sessionStart => exact of_drops (.sessionStart r _ _ _ _ _ _)
  | issue =>
    intro owner c' hc'
    exact Or.inl ⟨c', (Drops.cancel r _).subset owner c' (issue_candidates hc'), rfl⟩
  | ordinary => exact ordinary r _ _ _ _ _ _ _ _
  | checked => exact checked r _ _ _
  | eligible => exact eligible r _ _ _ _ _
  | recordEligibility => exact recordEligibility r _ _
  | recordEvaluatedProjection => exact recordEvaluatedProjection r _ _
  | due | sample => cases hlooks
  | acknowledged owner' through =>
    exact of_drops ((Drops.cancel r owner').trans (.acknowledged r owner' through))
  | cancel => exact of_drops (.cancel r _)
  | invalidateOwner owner' =>
    exact of_drops ((Drops.cancel r owner').trans (.invalidateOwner r owner'))
  | unknown => exact of_drops (.unknown r _ _)
  | journalFailed => exact of_drops (.journalFailed r _ _ _)
  | rootMismatch => exact of_drops (.rootMismatch r _ _)
  | recoveryDue => exact of_drops (.recoveryDue r _)
  | recovered => exact of_drops (.recovered r _ _)

end LooksKept

/-- A resolver with the jobs no worker has answered, and all it ever gave. -/
structure Prober where
  resolver : Resolver := {}
  jobs : List (Fence × ℕ) := []
  given : List (Fence × ℕ) := []

inductive ProberEvent
  | call (operation : Operation)
  | tick (now : ℕ)
  | answered (fence : Fence) (probeId : ℕ) (verdict : Sample) (now : ℕ)
  | lost (fence : Fence) (probeId : ℕ)

inductive ProberStep [Sha256] : Prober → ProberEvent → Prober → Prop
  | call {s : Prober} {operation : Operation} (other : operation.looks = false) :
    ProberStep s (.call operation) { s with resolver := s.resolver.perform operation }
  | tick {s : Prober} {now : ℕ} :
    ProberStep s (.tick now)
      ⟨(s.resolver.due now).2, s.jobs ++ (s.resolver.due now).1, s.given ++ (s.resolver.due now).1⟩
  -- a worker takes a job from the queue and completes it once
  | answered {s : Prober} {fence : Fence} {probeId : ℕ} {verdict : Sample} {now : ℕ}
      (asked : (fence, probeId) ∈ s.jobs) :
    ProberStep s (.answered fence probeId verdict now)
      ⟨(s.resolver.sample fence probeId verdict now).2, s.jobs.erase (fence, probeId), s.given⟩
  -- the job or its completion did not fit in a queue
  | lost {s : Prober} {fence : Fence} {probeId : ℕ} (asked : (fence, probeId) ∈ s.jobs) :
    ProberStep s (.lost fence probeId) { s with jobs := s.jobs.erase (fence, probeId) }

structure Candidate.Paced (given jobs : List (Fence × ℕ)) (c : Candidate) : Prop where
  numbered : c.probeId = c.samples
  given : givenTo c.fence given = List.range' 1 c.samples
  idle : c.pending = false →
    c.samples = c.consecutiveNormal ∧ c.samples ≤ 1 ∧ givenTo c.fence jobs = []
  asked : c.pending = true →
    (c.samples = c.consecutiveNormal + 1 ∧ c.samples ≤ 2 ∧
        ∀ id ∈ givenTo c.fence jobs, id = c.samples) ∨
      c.samples = 2 ∧ c.consecutiveNormal = 2 ∧ givenTo c.fence jobs = []

structure Prober.Paced (s : Prober) : Prop where
  sound : s.resolver.Sound
  old : ∀ job ∈ s.given, job.1.generation ≤ s.resolver.nextCandidate
  inFlight : s.jobs.Sublist s.given
  counts : ∀ fence, ∃ n ≤ 2, givenTo fence s.given = List.range' 1 n
  candidates : ∀ (owner : String) (c : Candidate),
    s.resolver.candidates[owner]? = some c → c.Paced s.given s.jobs

namespace Candidate.Paced
variable {given jobs : List (Fence × ℕ)} {c c' : Candidate}

theorem of_looks (h : c.Paced given jobs) (hlooks : c'.looks = c.looks) : c'.Paced given jobs := by
  simp only [looks, Prod.mk.injEq] at hlooks
  obtain ⟨hfence, hsamples, hcount, hprobe, hpending⟩ := hlooks
  constructor
  · rw [hprobe, hsamples, h.numbered]
  · rw [hfence, hsamples, h.given]
  · rw [hpending, hfence, hsamples, hcount]
    exact h.idle
  · rw [hpending, hfence, hsamples, hcount]
    exact h.asked

theorem of_sublist {jobs' : List (Fence × ℕ)} (h : c.Paced given jobs) (hjobs : jobs'.Sublist jobs) :
    c.Paced given jobs' := by
  have hgiven : (givenTo c.fence jobs').Sublist (givenTo c.fence jobs) := (hjobs.filter _).map _
  refine ⟨h.numbered, h.given, fun hpending => ?_, fun hpending => ?_⟩
  · obtain ⟨hcount, hle, hnone⟩ := h.idle hpending
    exact ⟨hcount, hle, List.sublist_nil.mp (hnone ▸ hgiven)⟩
  · rcases h.asked hpending with ⟨hcount, hle, hall⟩ | ⟨hsamples, hcount, hnone⟩
    · exact Or.inl ⟨hcount, hle, fun id hid => hall id (hgiven.subset hid)⟩
    · exact Or.inr ⟨hsamples, hcount, List.sublist_nil.mp (hnone ▸ hgiven)⟩

theorem newCandidate {fence : Fence} {now : ℕ} (hgiven : givenTo fence given = [])
    (hjobs : givenTo fence jobs = []) : (Resolver.newCandidate fence now).Paced given jobs where
  numbered := rfl
  given := hgiven
  idle := fun _ => ⟨rfl, Nat.zero_le _, hjobs⟩
  asked := fun hpending => by cases hpending

theorem append (h : c.Paced given jobs) {new : List (Fence × ℕ)} (hnew : givenTo c.fence new = []) :
    c.Paced (given ++ new) (jobs ++ new) := by
  refine ⟨h.numbered, ?_, ?_, ?_⟩
  · rw [givenTo_append, hnew, List.append_nil, h.given]
  · rw [givenTo_append, hnew, List.append_nil]
    exact h.idle
  · rw [givenTo_append, hnew, List.append_nil]
    exact h.asked

theorem probe (h : c.Paced given jobs) (hpending : c.pending = false) {new : List (Fence × ℕ)}
    (hnew : givenTo c.fence new = [c.probeId + 1]) :
    c.probe.Paced (given ++ new) (jobs ++ new) := by
  obtain ⟨hcount, hle, hnone⟩ := h.idle hpending
  refine ⟨congrArg (· + 1) h.numbered, ?_, fun hidle => ?_, fun _ => Or.inl ⟨?_, ?_, ?_⟩⟩
  · change givenTo c.fence (given ++ new) = List.range' 1 (c.samples + 1)
    rw [givenTo_append, hnew, h.given, List.range'_concat, h.numbered, Nat.one_mul, Nat.add_comm 1]
  · cases hidle
  · exact congrArg (· + 1) hcount
  · exact Nat.succ_le_succ hle
  · intro id hid
    change id ∈ givenTo c.fence (jobs ++ new) at hid
    rw [givenTo_append, hnone, List.nil_append, hnew, List.mem_singleton] at hid
    rw [hid, h.numbered]
    rfl

end Candidate.Paced

theorem getElem?_sample {r : Resolver} {fence : Fence} {probeId : ℕ} {verdict : Sample} {now : ℕ}
    {owner : String} {c' : Candidate}
    (hc' : (r.sample fence probeId verdict now).2.candidates[owner]? = some c') :
    r.candidates[owner]? = some c' ∨
      ∃ c, r.candidates[owner]? = some c ∧ c.fence = fence ∧ c.probeId = probeId ∧
        c.pending = true ∧ c'.fence = c.fence ∧ c'.samples = c.samples ∧ c'.probeId = c.probeId ∧
        c'.consecutiveNormal = c.consecutiveNormal + 1 ∧
        c'.pending = decide (c.consecutiveNormal + 1 = 2) := by
  unfold Resolver.sample at hc'
  split_ifs at hc' with hcurrent
  · exact Or.inl hc'
  · rw [Bool.not_eq_false, fenceCurrent_iff] at hcurrent
    obtain ⟨-, -, ⟨c, hc, hfence⟩, -⟩ := hcurrent
    rw [hc] at hc'
    dsimp only at hc'
    split_ifs at hc' with hgate hreject hsecond
    · exact Or.inl hc'
    · exact Or.inl ((Drops.cancel r _).subset owner c' hc')
    all_goals
      rw [Maps.getElem?_insert] at hc'
      split_ifs at hc' with howner
      · simp only [not_or, ne_eq, not_not, Bool.not_eq_false] at hgate
        obtain rfl := Option.some_inj.mp hc'
        subst howner
        exact Or.inr ⟨c, hc, hfence, hgate.2.1, hgate.2.2, rfl, rfl, rfl, rfl, by simp [hsecond]⟩
      · exact Or.inl hc'

namespace Prober.Paced
variable {s : Prober}

theorem nodup (h : s.Paced) : s.jobs.Nodup := by
  refine h.inFlight.nodup (nodup_of_givenTo fun fence => ?_)
  obtain ⟨n, -, hgiven⟩ := h.counts fence
  rw [hgiven]
  exact List.nodup_range'

theorem given_fresh (h : s.Paced) {fence : Fence}
    (hfresh : s.resolver.nextCandidate < fence.generation) : givenTo fence s.given = [] := by
  apply givenTo_eq_nil
  rintro job hjob rfl
  have hold := h.old job hjob
  omega

theorem call [Sha256] (h : s.Paced) {operation : Operation} (hother : operation.looks = false) :
    Prober.Paced { s with resolver := s.resolver.perform operation } where
  sound := perform_sound h.sound
  old := fun job hjob => (h.old job hjob).trans (perform_frame s.resolver operation).counter
  inFlight := h.inFlight
  counts := h.counts
  candidates := by
    intro owner c' hc'
    rcases LooksKept.perform s.resolver hother owner c' hc' with
      ⟨c, hc, hlooks⟩ | ⟨fence, now, rfl, hfresh, -⟩
    · exact (h.candidates owner c hc).of_looks hlooks
    · have hgiven : givenTo fence s.given = [] := h.given_fresh (by omega)
      have hjobs := (h.inFlight.filter fun p => p.1 = fence).map Prod.snd
      change (givenTo fence s.jobs).Sublist (givenTo fence s.given) at hjobs
      rw [hgiven, List.sublist_nil] at hjobs
      exact .newCandidate hgiven hjobs

theorem due_idle {now : ℕ} {job : Fence × ℕ} (hsound : s.resolver.Sound)
    (hjob : job ∈ (s.resolver.due now).1) :
    ∃ c, s.resolver.candidates[job.1.binding.owner]? = some c ∧ c.fence = job.1 ∧
      now < c.deadline ∧ c.sampleDue now = true ∧ c.pending = false ∧ job.2 = c.probeId + 1 := by
  obtain ⟨owner, c, hc, hdeadline, hdue, rfl⟩ := Resolver.mem_due.mp hjob
  obtain rfl := hsound.keyed owner c hc
  have hidle := hdue
  simp only [Candidate.sampleDue, Bool.and_eq_true, Bool.not_eq_true'] at hidle
  exact ⟨c, hc, rfl, hdeadline, hdue, hidle.1.1.2, rfl⟩

theorem tick [Sha256] (h : s.Paced) (now : ℕ) :
    Prober.Paced ⟨(s.resolver.due now).2, s.jobs ++ (s.resolver.due now).1,
      s.given ++ (s.resolver.due now).1⟩ where
  sound := by
    have hsound : (s.resolver.perform (.due now)).Sound := perform_sound h.sound
    exact hsound
  old := by
    intro job hjob
    rcases List.mem_append.mp hjob with hold | hnew
    · exact h.old job hold
    · obtain ⟨c, hc, hfence, -⟩ := due_idle h.sound hnew
      exact hfence ▸ h.sound.counted _ c hc
  inFlight := h.inFlight.append (.refl _)
  counts := by
    intro fence
    rw [givenTo_append]
    by_cases hnew : givenTo fence (s.resolver.due now).1 = []
    · rw [hnew, List.append_nil]
      exact h.counts fence
    · obtain ⟨id, hid⟩ := List.exists_mem_of_ne_nil _ hnew
      obtain ⟨c, hc, rfl, hdeadline, hdue, hpending, -⟩ := due_idle h.sound (mem_givenTo.mp hid)
      have hpaced := h.candidates _ c hc
      refine ⟨c.samples + 1, Nat.succ_le_succ (hpaced.idle hpending).2.1, ?_⟩
      rw [Resolver.givenTo_due h.sound hc hdeadline hdue, hpaced.given, hpaced.numbered,
        List.range'_concat, Nat.one_mul, Nat.add_comm 1]
  candidates := by
    intro owner c' hc'
    obtain ⟨c, hc, hdeadline, ⟨hdue, rfl⟩ | ⟨hidle, rfl⟩⟩ := Resolver.getElem?_due hc'
    · have hnew := Resolver.givenTo_due h.sound hc hdeadline hdue
      simp only [Candidate.sampleDue, Bool.and_eq_true, Bool.not_eq_true'] at hdue
      exact (h.candidates owner c hc).probe hdue.1.1.2 hnew
    · refine (h.candidates owner c' hc).append (Resolver.givenTo_due_eq_nil ?_)
      intro other c₁ hc₁ hfence hdeadline₁
      have howner : other = owner := by
        rw [← h.sound.keyed other c₁ hc₁, hfence, h.sound.keyed owner c' hc]
      subst howner
      obtain rfl := Option.some_inj.mp (hc.symm.trans hc₁)
      exact hidle

theorem lost (h : s.Paced) (job : Fence × ℕ) :
    Prober.Paced { s with jobs := s.jobs.erase job } where
  sound := h.sound
  old := h.old
  inFlight := List.erase_sublist.trans h.inFlight
  counts := h.counts
  candidates := fun owner c hc => (h.candidates owner c hc).of_sublist List.erase_sublist

theorem answered [Sha256] (h : s.Paced) {fence : Fence} {probeId : ℕ} (verdict : Sample) (now : ℕ)
    (hasked : (fence, probeId) ∈ s.jobs) :
    Prober.Paced ⟨(s.resolver.sample fence probeId verdict now).2, s.jobs.erase (fence, probeId),
      s.given⟩ where
  sound := by
    have hsound : (s.resolver.perform (.sample fence probeId verdict now)).Sound :=
      perform_sound h.sound
    exact hsound
  old := fun job hjob => (h.old job hjob).trans
    (perform_frame s.resolver (.sample fence probeId verdict now)).counter
  inFlight := List.erase_sublist.trans h.inFlight
  counts := h.counts
  candidates := by
    intro owner c' hc'
    rcases getElem?_sample hc' with
      hsame | ⟨c, hc, rfl, rfl, hpending, hfence, hsamples, hprobe, hcount, hpending'⟩
    · exact (h.candidates owner c' hsame).of_sublist List.erase_sublist
    · have hpaced := h.candidates owner c hc
      have hid : c.probeId ∈ givenTo c.fence s.jobs := mem_givenTo.mpr hasked
      rcases hpaced.asked hpending with ⟨hahead, hle, hall⟩ | ⟨-, -, hnone⟩
      · -- the job was the only one of the candidate
        have hnone : givenTo c.fence (s.jobs.erase (c.fence, c.probeId)) = [] := by
          refine List.eq_nil_iff_forall_not_mem.mpr fun id hleft => ?_
          have hleft := mem_givenTo.mp hleft
          have hsame := hall id (mem_givenTo.mpr (List.mem_of_mem_erase hleft))
          rw [hsame, ← hpaced.numbered] at hleft
          exact h.nodup.not_mem_erase hleft
        refine ⟨by rw [hprobe, hsamples, hpaced.numbered], by rw [hfence, hsamples, hpaced.given],
          fun hidle => ?_, fun hdone => ?_⟩
        · rw [hpending', decide_eq_false_iff_not] at hidle
          exact ⟨by omega, by omega, hfence ▸ hnone⟩
        · rw [hpending', decide_eq_true_eq] at hdone
          exact Or.inr ⟨by omega, by omega, hfence ▸ hnone⟩
      · simp [hnone] at hid

theorem step [Sha256] {event : ProberEvent} {s' : Prober} (h : s.Paced)
    (hstep : ProberStep s event s') : s'.Paced := by
  cases hstep with
  | call other => exact h.call other
  | tick => exact h.tick _
  | answered asked => exact h.answered _ _ asked
  | lost => exact h.lost _

theorem start : Prober.Paced {} where
  sound := sound_start
  old := fun job hjob => by cases hjob
  inFlight := .refl _
  counts := fun fence => ⟨0, Nat.zero_le _, rfl⟩
  candidates := fun owner c hc => by simp at hc

end Prober.Paced

def Prober.Reachable [Sha256] (s : Prober) : Prop := ∃ past, Trace ProberStep {} past s

theorem Prober.Reachable.paced [Sha256] {s : Prober} (h : s.Reachable) : s.Paced := by
  obtain ⟨past, hrun⟩ := h
  exact hrun.invariant .start fun s event s' hpaced hstep => hpaced.step hstep

/-- The two readings of the schedule agree, a tick leaves nothing due, and a candidate is given few
jobs, one at a time. -/
theorem wakeups_agree [Sha256] {s : Prober} (h : s.Reachable) (now : ℕ) :
    (s.resolver.tickDue now = true ↔ ∃ t, s.resolver.nextWakeup = some t ∧ t ≤ now) ∧
    ((s.resolver.recoveryDue now).2.due now).2.tickDue now = false ∧
    (∀ t, ((s.resolver.recoveryDue now).2.due now).2.nextWakeup = some t → now < t) ∧
    (∀ fence, (givenTo fence s.given).length ≤ sampleLimit ∧
      (givenTo fence s.given).Pairwise (· < ·)) ∧
    ∀ job ∈ (s.resolver.due now).1, givenTo job.1 s.jobs = [] ∧
      ∃ c, s.resolver.candidates[job.1.binding.owner]? = some c ∧ c.fence = job.1 ∧
        c.pending = false := by
  have hpaced := h.paced
  have hidle : ((s.resolver.recoveryDue now).2.due now).2.tickDue now = false := by
    apply Resolver.tickDue_after_tick
    intro owner c hc hpending
    have hle := ((hpaced.candidates owner c hc).idle hpending).2.1
    exact Nat.lt_of_le_of_lt hle (by decide)
  refine ⟨s.resolver.tickDue_iff_nextWakeup now, hidle, fun t ht => ?_, fun fence => ?_, ?_⟩
  · by_contra hpast
    have hdue := (Resolver.tickDue_iff_nextWakeup _ now).mpr ⟨t, ht, Nat.le_of_not_lt hpast⟩
    simp [hidle] at hdue
  · obtain ⟨n, hn, hgiven⟩ := hpaced.counts fence
    rw [hgiven, List.length_range']
    exact ⟨hn.trans (by decide), List.pairwise_lt_range'⟩
  · intro job hjob
    obtain ⟨c, hc, hfence, -, -, hpending, -⟩ := Prober.Paced.due_idle hpaced.sound hjob
    exact ⟨hfence ▸ ((hpaced.candidates _ c hc).idle hpending).2.2, c, hc, hfence, hpending⟩

section
open Example
variable [Sha256]

def lookedOnce : Prober := ⟨waiting (filled 0) 0 true once, [], [(fence, 1)]⟩

def lookingTwice : Prober :=
  ⟨waiting (filled 0) 0 true once.probe, [(fence, 2)], [(fence, 1), (fence, 2)]⟩

theorem due_job {resolved : Bool} {c : Candidate} {now : ℕ} (hlive : now < c.deadline)
    (hdue : c.sampleDue now = true) :
    ((waiting (filled 0) 0 resolved c).due now).1 = [(c.fence, c.probeId + 1)] := by
  have hlist : (waiting (filled 0) 0 resolved c).candidates.toList = [("owner", c)] := rfl
  unfold Resolver.due
  rw [hlist, List.filter_cons_of_pos (by simp [hlive, hdue]), List.filter_nil]
  rfl

theorem tick_probes {c : Candidate} {now : ℕ} {given : List (Fence × ℕ)} (hlive : now < c.deadline)
    (hdue : c.sampleDue now = true) :
    ProberStep ⟨waiting (filled 0) 0 true c, [], given⟩ (.tick now)
      ⟨waiting (filled 0) 0 true c.probe, [(c.fence, c.probeId + 1)],
        given ++ [(c.fence, c.probeId + 1)]⟩ := by
  have hstep : ProberStep ⟨waiting (filled 0) 0 true c, [], given⟩ (.tick now) _ := .tick
  rwa [due_job hlive hdue, due_probe (filled 0) 0 hlive hdue] at hstep

theorem tick_lookingTwice : ProberStep lookedOnce (.tick 450) lookingTwice :=
  tick_probes once_due.1 once_due.2

theorem lookedOnce_reachable : lookedOnce.Reachable := by
  have hcall {r r' : Resolver} {operation : Operation} (hlooks : operation.looks = false)
      (h : r.perform operation = r') :
      ProberStep { resolver := r } (.call operation) { resolver := r' } := h ▸ .call hlooks
  have hunknown : ProberStep {} (.call (.unknown home "old")) { resolver := resolver (filled 0) 0 } :=
    hcall rfl unknown_filled
  have hstarted : ProberStep { resolver := resolver (filled 0) 0 }
      (.call (.sessionStart home "new" .startup (some binding) quiet true))
      { resolver := started (filled 0) 0 } := hcall rfl (sessionStart_started (filled 0) 0)
  have hasked : ProberStep { resolver := started (filled 0) 0 }
      (.call (.issue binding home "new" "asked" 1 0)) { resolver := asked (filled 0) 0 } :=
    hcall rfl (issue_asked (filled 0) 0)
  have hproposed : ProberStep { resolver := asked (filled 0) 0 }
      (.call (.ordinary .ordinaryPrompt binding "new" "ingress" "submitted" ⟨0, 1⟩ quiet 0))
      { resolver := waiting (filled 0) 0 false proposed } :=
    hcall rfl (congrArg Prod.snd (ordinary_proposed (filled 0) 0 (by decide)))
  have harmed : ProberStep { resolver := waiting (filled 0) 0 false proposed }
      (.call (.checked ⟨fence, ["asked"]⟩ ["asked"] 0))
      { resolver := waiting (filled 0) 0 true armed } :=
    hcall rfl (congrArg Prod.snd (checked_armed (filled 0) 0))
  have hprobing : ProberStep { resolver := waiting (filled 0) 0 true armed }
      (.call (.eligible "owner" "submitted" true false 0))
      { resolver := waiting (filled 0) 0 true probing } :=
    hcall rfl (eligible_probing (filled 0) 0)
  have hlooking : ProberStep { resolver := waiting (filled 0) 0 true probing } (.tick 150)
      ⟨waiting (filled 0) 0 true probing.probe, [(fence, 1)], [(fence, 1)]⟩ :=
    tick_probes probing_due.1 probing_due.2
  have hanswered : ProberStep
      ⟨waiting (filled 0) 0 true probing.probe, [(fence, 1)], [(fence, 1)]⟩
      (.answered fence 1 .normalComposer 150) lookedOnce := by
    have hstep : ProberStep ⟨waiting (filled 0) 0 true probing.probe, [(fence, 1)], [(fence, 1)]⟩
        (.answered fence 1 .normalComposer 150) _ := .answered (List.mem_singleton_self (fence, 1))
    rw [sample_once, List.erase_cons_head] at hstep
    exact hstep
  exact ⟨_, .snoc (.snoc (.snoc (.snoc (.snoc (.snoc (.snoc (.snoc .nil hunknown) hstarted) hasked)
    hproposed) harmed) hprobing) hlooking) hanswered⟩

theorem lookedOnce_due : lookedOnce.resolver.tickDue 450 = true := by
  have hwakeup : once.wakeup ≤ 450 := by
    simp [Candidate.wakeup, once, Candidate.probe, probing, armed, proposed, Resolver.newCandidate]
  exact Resolver.tickDue_iff.mpr (Or.inr ⟨"owner", once, waiting_candidate (filled 0) 0 true once,
    hwakeup⟩)

end

/-- A tick that is due gives a candidate its second job after the first was answered. -/
theorem wakeups_agree_looks :
    (∃ t, (@lookedOnce .constant).resolver.nextWakeup = some t ∧ t ≤ 450) ∧
    ((@lookedOnce .constant).resolver.due 450).1 = [(@Example.fence .constant, 2)] ∧
    givenTo (@Example.fence .constant) (@lookedOnce .constant).jobs = [] ∧
    givenTo (@Example.fence .constant) (@lookingTwice .constant).given = [1, 2] ∧
    (givenTo (@Example.fence .constant) (@lookingTwice .constant).given).length ≤ sampleLimit ∧
    (((@lookingTwice .constant).resolver.recoveryDue 450).2.due 450).2.tickDue 450 = false := by
  let _ : Sha256 := .constant
  obtain ⟨hnext, -, -, -, hjobs⟩ := wakeups_agree lookedOnce_reachable 450
  have htwice : lookingTwice.Reachable :=
    ⟨_, lookedOnce_reachable.choose_spec.snoc tick_lookingTwice⟩
  obtain ⟨-, hidle, -, hgiven, -⟩ := wakeups_agree htwice 450
  have hdue : (lookedOnce.resolver.due 450).1 = [(Example.fence, 2)] :=
    due_job Example.once_due.1 Example.once_due.2
  refine ⟨hnext.mp lookedOnce_due, hdue, ?_, ?_, (hgiven Example.fence).1, hidle⟩
  · exact (hjobs (Example.fence, 2) (hdue ▸ List.mem_singleton_self _)).1
  · simp [givenTo, lookingTwice]

end VdeTmux.QuestionNotice
