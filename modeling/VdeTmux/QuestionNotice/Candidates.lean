import VdeTmux.QuestionNotice.Resolver

/-!
# How candidates come about

What each operation does to the candidates: a helper only drops some, and what is there after an
operation was there before or comes from one of a few sources.
-/

open Foundation VdeTmux.Pane
namespace VdeTmux.QuestionNotice

/-! ## What the parts of an operation do to the candidates -/

structure Frame (r r' : Resolver) : Prop where
  counter : r.nextCandidate ≤ r'.nextCandidate
  off : r'.disabled = true → r.disabled = true ∨ ∀ owner : String, r'.candidates[owner]? = none
  failing : ∀ home ∈ r'.homeFailures, home ∈ r.homeFailures ∨
    ∀ (owner : String) (c : Candidate), r'.candidates[owner]? = some c → c.fence.home ≠ home

theorem Frame.of_eq {r r' : Resolver} (hcounter : r.nextCandidate ≤ r'.nextCandidate)
    (hdisabled : r'.disabled = r.disabled) (hfailures : r'.homeFailures = r.homeFailures) :
    Frame r r' where
  counter := hcounter
  off := fun h => Or.inl (hdisabled ▸ h)
  failing := fun _ hhome => Or.inl (hfailures ▸ hhome)

theorem Frame.refl (r : Resolver) : Frame r r := .of_eq (Nat.le_refl _) rfl rfl

structure Drops (r r' : Resolver) : Prop where
  subset : ∀ (owner : String) (c : Candidate),
    r'.candidates[owner]? = some c → r.candidates[owner]? = some c
  orders : ∀ (key : String × ℕ) (o : Order), r'.orders[key]? = some o → r.orders[key]? = some o
  frame : Frame r r'

namespace Drops
variable {r r' r'' : Resolver}

theorem of_eq (hcandidates : r'.candidates = r.candidates)
    (hcounter : r'.nextCandidate = r.nextCandidate) (horders : r'.orders = r.orders)
    (hdisabled : r'.disabled = r.disabled) (hfailures : r'.homeFailures = r.homeFailures) :
    Drops r r' where
  subset := fun _ _ hc => hcandidates ▸ hc
  orders := fun _ _ ho => horders ▸ ho
  frame := .of_eq hcounter.ge hdisabled hfailures

theorem refl (r : Resolver) : Drops r r := of_eq rfl rfl rfl rfl rfl

theorem sessions (r : Resolver) (sessions : Std.ExtTreeMap (String × String) Session Maps.lex) :
    Drops r { r with sessions := sessions } := of_eq rfl rfl rfl rfl rfl

theorem trans (h : Drops r r') (h' : Drops r' r'') : Drops r r'' where
  subset := fun owner c hc => h.subset owner c (h'.subset owner c hc)
  orders := fun key o ho => h.orders key o (h'.orders key o ho)
  frame := by
    refine ⟨h.frame.counter.trans h'.frame.counter, fun hoff => ?_, fun home hhome => ?_⟩
    · rcases h'.frame.off hoff with hoff' | hempty
      · rcases h.frame.off hoff' with hoff'' | hempty
        · exact Or.inl hoff''
        · refine Or.inr fun owner => Option.eq_none_iff_forall_ne_some.mpr fun c hc => ?_
          simpa [hempty owner] using h'.subset owner c hc
      · exact Or.inr hempty
    · rcases h'.frame.failing home hhome with hhome' | hgone
      · rcases h.frame.failing home hhome' with hhome'' | hgone
        · exact Or.inl hhome''
        · exact Or.inr fun owner c hc => hgone owner c (h'.subset owner c hc)
      · exact Or.inr hgone

theorem none (h : Drops r r') {owner : String} (hnone : r.candidates[owner]? = .none) :
    r'.candidates[owner]? = .none := by
  refine Option.eq_none_iff_forall_ne_some.mpr fun c hc => ?_
  simpa [hnone] using h.subset owner c hc

theorem disable (r : Resolver) : Drops r r.disable where
  subset := fun owner c hc => by simp [Resolver.disable] at hc
  orders := fun _ _ ho => ho
  frame := ⟨Nat.le_refl _, fun _ => Or.inr fun owner => by simp [Resolver.disable],
    fun _ hhome => Or.inl hhome⟩

theorem disable_none (r : Resolver) (owner : String) : r.disable.candidates[owner]? = .none := by
  simp [Resolver.disable]

theorem cancel (r : Resolver) (owner : String) : Drops r (r.cancel owner) where
  subset := fun other c hc => by
    rw [Resolver.cancel, Maps.getElem?_erase] at hc
    split_ifs at hc
    exact hc
  orders := fun _ _ ho => ho
  frame := .of_eq (Nat.le_refl _) rfl rfl

theorem cancel_none (r : Resolver) (owner : String) :
    (r.cancel owner).candidates[owner]? = .none := by
  simp [Resolver.cancel]

theorem retain (r : Resolver) (keep : Candidate → Bool) : Drops r (r.retainCandidates keep) where
  subset := fun _ _ hc => (Maps.getElem?_filter_eq_some.mp hc).1
  orders := fun _ _ ho => ho
  frame := .of_eq (Nat.le_refl _) rfl rfl

theorem unknown (r : Resolver) (home session : String) : Drops r (r.unknown home session) := by
  unfold Resolver.unknown
  split
  · split_ifs
    · exact disable r
    · exact (sessions r _).trans (retain _ _)
  · exact (sessions r _).trans (retain _ _)

theorem unknown_gone {home session owner : String} {c : Candidate}
    (hc : (r.unknown home session).candidates[owner]? = some c) :
    ¬(c.fence.home = home ∧ c.fence.session = session) := by
  have hretained {keep : Candidate → Bool} {r : Resolver}
      (hc : (r.retainCandidates keep).candidates[owner]? = some c) : keep c = true :=
    (Maps.getElem?_filter_eq_some.mp hc).2
  unfold Resolver.unknown at hc
  split at hc
  · split_ifs at hc
    · simp [Resolver.disable] at hc
    · have hkeep := hretained hc
      simp only [ne_eq, Bool.or_eq_true, decide_eq_true_eq] at hkeep
      tauto
  · have hkeep := hretained hc
    simp only [ne_eq, Bool.or_eq_true, decide_eq_true_eq] at hkeep
    tauto

theorem suspended {home : String} {failure : ℕ × ℕ} {ticket : ℕ} {owner : String} {c : Candidate}
    (hc : (({ r with
      nextFailure := ticket
      homeFailures := r.homeFailures.insert home failure } : Resolver).retainCandidates fun c =>
        c.fence.home ≠ home).candidates[owner]? = some c) :
    r.candidates[owner]? = some c ∧ c.fence.home ≠ home := by
  obtain ⟨hc, hkeep⟩ := Maps.getElem?_filter_eq_some.mp hc
  exact ⟨hc, by simpa using hkeep⟩

theorem journalFailed (r : Resolver) (home session : Option String) (now : ℕ) :
    Drops r (r.journalFailed home session now) := by
  unfold Resolver.journalFailed
  split
  · exact disable r
  · exact unknown r _ _
  · rename_i home
    split_ifs
    · exact disable r
    · refine ⟨fun owner c hc => (suspended hc).1, fun _ _ ho => ho, Nat.le_refl _, Or.inl, ?_⟩
      intro other hother
      rcases Std.ExtTreeMap.mem_insert.mp hother with heq | hold
      · obtain rfl := Std.LawfulEqCmp.eq_of_compare heq
        exact Or.inr fun owner c hc => (suspended hc).2
      · exact Or.inl hold

theorem journalFailed_gone {home session : Option String} {now : ℕ} {owner : String} {c : Candidate}
    (hc : (r.journalFailed home session now).candidates[owner]? = some c) :
    ∃ hit, home = some hit ∧ (c.fence.home = hit → ∃ other, session = some other ∧
      c.fence.session ≠ other) := by
  unfold Resolver.journalFailed at hc
  split at hc
  · simp [Resolver.disable] at hc
  · exact ⟨_, rfl, fun hhome => ⟨_, rfl, fun hsession => unknown_gone hc ⟨hhome, hsession⟩⟩⟩
  · split_ifs at hc
    · simp [Resolver.disable] at hc
    · exact ⟨_, rfl, fun hhome => absurd hhome (suspended hc).2⟩

theorem rootMismatch (r : Resolver) (home : String) (now : ℕ) :
    Drops r (r.rootMismatch home now) := by
  unfold Resolver.rootMismatch
  split_ifs
  · exact refl r
  · exact journalFailed r _ _ _

theorem recoveryDue (r : Resolver) (now : ℕ) : Drops r (r.recoveryDue now).2 where
  subset := fun _ _ hc => hc
  orders := fun _ _ ho => ho
  frame := ⟨Nat.le_refl _, Or.inl, fun _ hhome => Or.inl (Std.ExtTreeMap.mem_map.mp hhome)⟩

theorem recovered (r : Resolver) (home : String) (ticket : ℕ) : Drops r (r.recovered home ticket) := by
  unfold Resolver.recovered
  split_ifs
  · refine ⟨fun _ _ hc => (Maps.getElem?_filter_eq_some.mp hc).1, fun _ _ ho => ho, Nat.le_refl _,
      Or.inl, fun other hother => ?_⟩
    exact Or.inl (Std.ExtTreeMap.mem_of_mem_erase hother)
  · exact refl r

theorem invalidateOwner (r : Resolver) (owner : String) :
    Drops (r.cancel owner) (r.invalidateOwner owner) :=
  of_eq rfl rfl rfl rfl rfl

theorem startOver (r : Resolver) (source : SessionSource) (binding : Binding) :
    Drops (r.cancel binding.owner) (r.startOver source (some binding)) := by
  unfold Resolver.startOver
  dsimp only
  split_ifs
  · exact refl _
  · exact (cancel _ _).trans (invalidateOwner _ _)

theorem sessionStart (r : Resolver) (home session : String) (source : SessionSource)
    (binding : Option Binding) (journal : JournalView) (verified : Bool) :
    Drops r (r.sessionStart home session source binding journal verified) := by
  have hover : Drops r (r.startOver source binding) := by
    cases binding with
    | none => exact refl r
    | some binding => exact (cancel r _).trans (startOver r source binding)
  unfold Resolver.sessionStart
  split
  · exact refl r
  · split
    · dsimp only
      split_ifs
      · exact unknown r _ _
      · exact refl r
    · split_ifs
      · exact disable r
      · exact hover.trans (of_eq rfl rfl rfl rfl rfl)

theorem acknowledged (r : Resolver) (owner : String) (through : ℕ) :
    Drops (r.cancel owner) (r.acknowledged owner through) where
  subset := fun _ _ hc => hc
  orders := fun _ _ ho => (Maps.getElem?_filter_eq_some.mp ho).1
  frame := .of_eq (Nat.le_refl _) rfl rfl

theorem admitInput (r : Resolver) (home session ingress owner : String) (state : Session) :
    Drops r (r.admitInput home session ingress owner state) := by
  have hcounted : Drops r { r with
      sessions := r.sessions.insert (home, session)
        { state with ingresses := ingress :: state.ingresses }
      totalIngresses := r.totalIngresses + 1 } := of_eq rfl rfl rfl rfl rfl
  exact hcounted.trans (cancel _ owner)

theorem enroll (r : Resolver) (home session : String) : Drops r (r.enroll home session) := by
  unfold Resolver.enroll
  split_ifs
  · exact refl r
  · exact unknown r _ _

end Drops

/-! ## The branches of an ordinary input -/

theorem unknown_frame (r : Resolver) (home session : String) :
    (r.unknown home session).nextCandidate = r.nextCandidate ∧
      (r.unknown home session).homeFailures = r.homeFailures := by
  unfold Resolver.unknown
  split
  · split_ifs <;> exact ⟨rfl, rfl⟩
  · exact ⟨rfl, rfl⟩

theorem enroll_frame (r : Resolver) (home session : String) :
    (r.enroll home session).nextCandidate = r.nextCandidate ∧
      (r.enroll home session).homeFailures = r.homeFailures := by
  unfold Resolver.enroll
  split_ifs
  · exact ⟨rfl, rfl⟩
  · exact unknown_frame r home session

theorem enroll_cases (r : Resolver) (home session : String) :
    r.enroll home session = r ∧ (home, session) ∈ r.sessions ∨
      (home, session) ∉ r.sessions ∧
        ((r.enroll home session).sessions[(home, session)]? = some ⟨.historyUnknown, none, 0, []⟩ ∧
            (r.enroll home session).disabled = r.disabled ∨
          (r.enroll home session).sessions[(home, session)]? = none ∧
            ∀ owner : String, (r.enroll home session).candidates[owner]? = none) := by
  by_cases hknown : (home, session) ∈ r.sessions
  · exact Or.inl ⟨by simp [Resolver.enroll, hknown], hknown⟩
  · refine Or.inr ⟨hknown, ?_⟩
    have hnone := Std.ExtTreeMap.getElem?_eq_none hknown
    rw [Resolver.enroll, if_neg hknown, Resolver.unknown, hnone]
    dsimp only
    split_ifs
    · exact Or.inr ⟨hnone, Drops.disable_none r⟩
    · exact Or.inl ⟨by simp [Resolver.retainCandidates], rfl⟩

theorem enroll_disabled {r : Resolver} {home session : String} {state : Session}
    (h : (r.enroll home session).sessions[(home, session)]? = some state) :
    (r.enroll home session).disabled = r.disabled := by
  rcases enroll_cases r home session with ⟨hsame, -⟩ | ⟨-, ⟨-, hsame⟩ | ⟨hnone, -⟩⟩
  · rw [hsame]
  · exact hsame
  · rw [hnone] at h
    cases h

section
variable [Sha256]

inductive OrdinaryStep (r : Resolver) (binding : Binding) (session ingress turn : String)
    (notice : NoticeFence) (journal : JournalView) (now : ℕ) : Option OrderCheck × Resolver → Prop
  | idle (disabled : r.disabled = true) :
    OrdinaryStep r binding session ingress turn notice journal now (none, r)
  | lost (missing : (r.enroll binding.locator.homeDigest session).sessions[
        (binding.locator.homeDigest, session)]? = none) :
    OrdinaryStep r binding session ingress turn notice journal now
      (none, r.enroll binding.locator.homeDigest session)
  | repeated {state : Session} (known : (r.enroll binding.locator.homeDigest session).sessions[
        (binding.locator.homeDigest, session)]? = some state) (seen : ingress ∈ state.ingresses) :
    OrdinaryStep r binding session ingress turn notice journal now
      (none, r.enroll binding.locator.homeDigest session)
  | full {state : Session} (known : (r.enroll binding.locator.homeDigest session).sessions[
        (binding.locator.homeDigest, session)]? = some state) (new : ingress ∉ state.ingresses)
      (limit : sessionIngressLimit ≤ state.ingresses.length) :
    OrdinaryStep r binding session ingress turn notice journal now
      (none, (r.enroll binding.locator.homeDigest session).unknown binding.locator.homeDigest session)
  | exhausted :
    OrdinaryStep r binding session ingress turn notice journal now
      (none, (r.enroll binding.locator.homeDigest session).disable)
  | distrusted {state : Session} (known : (r.enroll binding.locator.homeDigest session).sessions[
        (binding.locator.homeDigest, session)]? = some state) :
    OrdinaryStep r binding session ingress turn notice journal now
      (none, ((r.enroll binding.locator.homeDigest session).admitInput binding.locator.homeDigest session
        ingress binding.owner state).unknown binding.locator.homeDigest session)
  | unneeded {state : Session} (known : (r.enroll binding.locator.homeDigest session).sessions[
        (binding.locator.homeDigest, session)]? = some state) :
    OrdinaryStep r binding session ingress turn notice journal now
      (none, (r.enroll binding.locator.homeDigest session).admitInput binding.locator.homeDigest session
        ingress binding.owner state)
  | proposing {state : Session} (known : (r.enroll binding.locator.homeDigest session).sessions[
        (binding.locator.homeDigest, session)]? = some state) (enabled : r.disabled = false)
      (healthy : binding.locator.homeDigest ∉ r.homeFailures) :
    OrdinaryStep r binding session ingress turn notice journal now
      (((r.enroll binding.locator.homeDigest session).admitInput binding.locator.homeDigest session
        ingress binding.owner state).propose binding binding.locator.homeDigest session ingress turn
          notice journal now)

theorem ordinary_step (r : Resolver) (binding : Binding) (session ingress turn : String)
    (notice : NoticeFence) (journal : JournalView) (now : ℕ) :
    OrdinaryStep r binding session ingress turn notice journal now
      (r.ordinary .ordinaryPrompt binding session ingress turn notice journal now) := by
  simp only [Resolver.ordinary, reduceCtorEq, if_false]
  split
  · rename_i hdisabled
    exact .idle hdisabled
  · rename_i henabled
    split
    · rename_i hmissing
      exact .lost hmissing
    · rename_i state hstate
      split
      · rename_i hseen
        exact .repeated hstate hseen
      · rename_i hnew
        split
        · rename_i hlimit
          exact .full hstate hnew hlimit
        · split
          · exact .exhausted
          · split
            · exact .distrusted hstate
            · split
              · exact .unneeded hstate
              · rename_i hready
                refine .proposing hstate (by simpa using henabled) fun hfailing => hready (Or.inl ?_)
                exact (enroll_frame r _ _).2 ▸ hfailing

end

theorem propose_candidates {r : Resolver} {binding : Binding} {home session ingress turn : String}
    {notice : NoticeFence} {journal : JournalView} {now : ℕ} {owner : String} {c' : Candidate}
    (hc : (r.propose binding home session ingress turn notice journal now).2.candidates[owner]? =
      some c') :
    r.candidates[owner]? = some c' ∨
      ∃ check, binding.owner = owner ∧
        (r.propose binding home session ingress turn notice journal now).1 = some check ∧
        c' = Resolver.newCandidate check.fence now ∧
        check.fence.generation = r.nextCandidate + 1 ∧
        (r.propose binding home session ingress turn notice journal now).2.nextCandidate =
          r.nextCandidate + 1 ∧
        check.fence.binding = binding ∧ check.fence.home = home ∧ check.fence.session = session ∧
        check.fence.turn = turn ∧ check.fence.epoch = journal.epoch ∧
        check.fence.acknowledged = notice.acknowledged ∧ check.fence.latest = notice.latest := by
  unfold Resolver.propose at hc ⊢
  dsimp only at hc ⊢
  split_ifs at hc ⊢
  · exact Or.inl hc
  · simp [Resolver.disable] at hc
  · rw [Maps.getElem?_insert] at hc
    split_ifs at hc with howner
    · cases hc
      exact Or.inr ⟨_, howner.symm, rfl, rfl, rfl, rfl, rfl, rfl, rfl, rfl, rfl, rfl, rfl⟩
    · exact Or.inl hc

theorem propose_orders {r : Resolver} {binding : Binding} {home session ingress turn : String}
    {notice : NoticeFence} {journal : JournalView} {now : ℕ} {key : String × ℕ} {o : Order}
    (ho : (r.propose binding home session ingress turn notice journal now).2.orders[key]? = some o) :
    r.orders[key]? = some o := by
  unfold Resolver.propose at ho
  dsimp only at ho
  split_ifs at ho <;> exact ho

theorem fenceCurrent_iff {r : Resolver} {fence : Fence} :
    r.fenceCurrent fence = true ↔ r.disabled = false ∧ fence.home ∉ r.homeFailures ∧
      (∃ c, r.candidates[fence.binding.owner]? = some c ∧ c.fence = fence) ∧
      r.trusts fence.home fence.session fence.binding fence.epoch = true := by
  simp only [Resolver.fenceCurrent, Bool.and_eq_true, Bool.not_eq_true', Option.any_eq_true,
    decide_eq_true_eq, Std.ExtTreeMap.mem_iff_contains, Bool.not_eq_true, and_assoc]

inductive CheckedStep (r : Resolver) (check : OrderCheck) (proven : List String) (now : ℕ) :
    Bool × Resolver → Prop
  | stale : CheckedStep r check proven now (false, r)
  | late : CheckedStep r check proven now (false, r.cancel check.fence.binding.owner)
  | unproven (current : r.fenceCurrent check.fence = true) :
    CheckedStep r check proven now
      (false, (r.resolveOrders check proven).cancel check.fence.binding.owner)
  | armed {c : Candidate} (current : r.fenceCurrent check.fence = true)
      (before : r.candidates[check.fence.binding.owner]? = some c) (same : c.fence = check.fence)
      (stage : c.stage = .checkingOrder) :
    CheckedStep r check proven now
      (true,
        { r.resolveOrders check proven with
          candidates := (r.resolveOrders check proven).candidates.insert check.fence.binding.owner
            { c with
              through := (r.resolveOrders check proven).resolvedPrefix check.fence
              stage := .armed
              created := now
              deadline := now + armedLimit } })

theorem checked_step (r : Resolver) (check : OrderCheck) (proven : List String) (now : ℕ) :
    CheckedStep r check proven now (r.checked check proven now) := by
  unfold Resolver.checked
  split
  · exact .stale
  · rename_i hcurrent
    have hcurrent : r.fenceCurrent check.fence = true := by simpa using hcurrent
    obtain ⟨-, -, ⟨c, hbefore, hsame⟩, -⟩ := fenceCurrent_iff.mp hcurrent
    rw [hbefore]
    dsimp only
    split_ifs with hstage
    · exact .late
    · exact .unproven hcurrent
    · simp only [not_or, ne_eq, not_not] at hstage
      exact .armed hcurrent hbefore hsame hstage.1

inductive IssueStep (r : Resolver) (binding : Binding) (home session turn : String)
    (order epoch : ℕ) : Resolver → Prop
  | ordered (trusted : r.trusts home session binding epoch = true) :
    IssueStep r binding home session turn order epoch
      { r.cancel binding.owner with
        orders := r.orders.insert (binding.owner, order)
          ⟨session, turn, r.generation, false, home, epoch⟩ }
  | distrusted :
    IssueStep r binding home session turn order epoch
      ((r.cancel binding.owner).unknown home session)

theorem issue_step (r : Resolver) (binding : Binding) (home session turn : String)
    (order epoch : ℕ) :
    IssueStep r binding home session turn order epoch
      (r.issue binding home session turn order epoch) := by
  unfold Resolver.issue
  dsimp only
  split_ifs with htrusted
  · exact .ordered htrusted
  · exact .distrusted

theorem issue_candidates {r : Resolver} {binding : Binding} {home session turn : String}
    {order epoch : ℕ} {owner : String} {c : Candidate}
    (hc : (r.issue binding home session turn order epoch).candidates[owner]? = some c) :
    (r.cancel binding.owner).candidates[owner]? = some c := by
  have hstep := issue_step r binding home session turn order epoch
  generalize r.issue binding home session turn order epoch = r' at hstep hc
  cases hstep with
  | ordered => exact hc
  | distrusted => exact (Drops.unknown _ home session).subset owner c hc

/-! ## Where a candidate comes from -/

/-- The verdict of a sample that passes every gate for the fence. -/
def accepted (r : Resolver) (operation : Operation) (fence : Fence) : Option Sample :=
  match operation with
  | .sample sampled probeId verdict _ =>
    if sampled = fence ∧ r.fenceCurrent fence = true ∧
        (r.candidates[fence.binding.owner]?.any fun c =>
          c.stage = .probing && c.probeId = probeId && c.pending) = true then
      some verdict
    else none
  | _ => none

inductive CandidateStep [Sha256] (r : Resolver) (operation : Operation) (owner : String)
    (c' : Candidate) : Prop
  | kept (same : r.candidates[owner]? = some c') (quiet : accepted r operation c'.fence = none)
  | proposed {binding : Binding} {session ingress turn : String} {notice : NoticeFence}
      {journal : JournalView} {now : ℕ} {check : OrderCheck}
      (input : operation = .ordinary .ordinaryPrompt binding session ingress turn notice journal now)
      (answer : (r.ordinary .ordinaryPrompt binding session ingress turn notice journal now).1 =
        some check)
      (enabled : r.disabled = false) (healthy : c'.fence.home ∉ r.homeFailures)
      (owned : binding.owner = owner) (made : c' = Resolver.newCandidate check.fence now)
      (fresh : check.fence.generation = r.nextCandidate + 1)
      (counted : (r.perform operation).nextCandidate = r.nextCandidate + 1)
      (fields : check.fence.binding = binding ∧ check.fence.home = binding.locator.homeDigest ∧
        check.fence.session = session ∧ check.fence.turn = turn ∧
        check.fence.epoch = journal.epoch ∧ check.fence.acknowledged = notice.acknowledged ∧ check.fence.latest = notice.latest)
  | armed {c : Candidate} {check : OrderCheck} {proven : List String} {now through : ℕ}
      (check_ : operation = .checked check proven now) (answer : (r.checked check proven now).1 = true)
      (before : r.candidates[owner]? = some c) (same : c.fence = check.fence)
      (stage : c.stage = .checkingOrder)
      (made : c' = { c with
        through := through
        stage := .armed
        created := now
        deadline := now + armedLimit })
  | eligible {c : Candidate} {now : ℕ} (done : operation = .eligible owner c.fence.turn true false now)
      (before : r.candidates[owner]? = some c) (stage : c.stage = .armed) (current : now < c.deadline)
      (made : c' = { c with
        stage := .probing
        deadline := now + probeLimit
        nextSample := some (now + settleDelay) })
  | probed {c : Candidate} {now : ℕ} (tick : operation = .due now)
      (before : r.candidates[owner]? = some c) (made : c' = c.probe)
  | sampled {c : Candidate} (before : r.candidates[owner]? = some c)
      (verdict : accepted r operation c.fence = some .normalComposer) (fence : c'.fence = c.fence)
      (stage : c'.stage = c.stage) (count : c'.consecutiveNormal = c.consecutiveNormal + 1)
  | recorded {c : Candidate} (before : r.candidates[owner]? = some c)
      (quiet : accepted r operation c.fence = none) (fence : c'.fence = c.fence)
      (stage : c'.stage = c.stage) (count : c'.consecutiveNormal = c.consecutiveNormal)

namespace CandidateStep
variable [Sha256] {r : Resolver} {operation : Operation} {owner : String} {c' : Candidate}

theorem of_drops {r' : Resolver} (h : Drops r r') (hquiet : ∀ fence, accepted r operation fence = none)
    (hc : r'.candidates[owner]? = some c') : CandidateStep r operation owner c' :=
  .kept (h.subset owner c' hc) (hquiet _)

theorem of_ordinary {class_ : InputClass} {binding : Binding} {session ingress turn : String}
    {notice : NoticeFence} {journal : JournalView} {now : ℕ}
    (hc : (r.ordinary class_ binding session ingress turn notice journal now).2.candidates[owner]? =
      some c') :
    CandidateStep r (.ordinary class_ binding session ingress turn notice journal now) owner c' := by
  cases class_ with
  | nonAuthoritativeInput => exact .of_drops (.refl _) (fun _ => rfl) hc
  | ordinaryPrompt =>
    have hstep := ordinary_step r binding session ingress turn notice journal now
    have henroll := Drops.enroll r binding.locator.homeDigest session
    have hadmitted state := henroll.trans
      (.admitInput _ binding.locator.homeDigest session ingress binding.owner state)
    generalize hrun : r.ordinary .ordinaryPrompt binding session ingress turn notice journal now = p
      at hstep hc
    cases hstep with
    | idle => exact .of_drops (.refl _) (fun _ => rfl) hc
    | lost => exact .of_drops henroll (fun _ => rfl) hc
    | repeated => exact .of_drops henroll (fun _ => rfl) hc
    | full => exact .of_drops (henroll.trans (.unknown _ _ _)) (fun _ => rfl) hc
    | exhausted => exact .of_drops (henroll.trans (.disable _)) (fun _ => rfl) hc
    | distrusted => exact .of_drops ((hadmitted _).trans (.unknown _ _ _)) (fun _ => rfl) hc
    | unneeded => exact .of_drops (hadmitted _) (fun _ => rfl) hc
    | proposing _ enabled healthy =>
      rcases propose_candidates hc with hold | ⟨check, howner, hanswer, hmade, hfresh, hcount, hfields⟩
      · exact .of_drops (hadmitted _) (fun _ => rfl) hold
      · have hsame := congrArg (· + 1) (enroll_frame r binding.locator.homeDigest session).1
        refine .proposed rfl (by rw [hrun, hanswer]) enabled ?_ howner hmade (hfresh.trans hsame) ?_
          hfields
        · rw [hmade]
          exact hfields.2.1 ▸ healthy
        · rw [Resolver.perform, hrun]
          exact hcount.trans hsame

theorem of_checked {check : OrderCheck} {proven : List String} {now : ℕ}
    (hc : (r.checked check proven now).2.candidates[owner]? = some c') :
    CandidateStep r (.checked check proven now) owner c' := by
  have hkept {r' : Resolver} (h : Drops r r') (hc : r'.candidates[owner]? = some c') :
      CandidateStep r (.checked check proven now) owner c' := .of_drops h (fun _ => rfl) hc
  have hstep := checked_step r check proven now
  generalize hrun : r.checked check proven now = p at hstep hc
  cases hstep with
  | stale => exact hkept (.refl _) hc
  | late => exact hkept (.cancel _ _) hc
  | unproven => exact hkept (.cancel r check.fence.binding.owner) hc
  | armed current before same stage =>
    dsimp only at hc
    rw [Maps.getElem?_insert] at hc
    split_ifs at hc with howner
    · cases hc
      subst howner
      exact .armed rfl (by rw [hrun]) before same stage rfl
    · exact hkept (.refl _) hc

theorem of_eligible {owner' turn : String} {done interrupted : Bool} {now : ℕ}
    (hc : (r.eligible owner' turn done interrupted now).candidates[owner]? = some c') :
    CandidateStep r (.eligible owner' turn done interrupted now) owner c' := by
  have hkept {r' : Resolver} (h : Drops r r') (hc : r'.candidates[owner]? = some c') :
      CandidateStep r (.eligible owner' turn done interrupted now) owner c' :=
    .of_drops h (fun _ => rfl) hc
  unfold Resolver.eligible at hc
  split at hc
  · exact hkept (.refl _) hc
  · rename_i c hbefore
    split_ifs at hc with hturn hover hstage
    · exact hkept (.refl _) hc
    · exact hkept (.cancel _ _) hc
    · rw [Maps.getElem?_insert] at hc
      split_ifs at hc with howner
      · cases hc
        subst howner
        simp only [not_or, Bool.not_eq_true, not_le, ne_eq, not_not] at hover hturn
        obtain ⟨rfl, hcurrent⟩ := hover
        obtain ⟨hstage, rfl⟩ := hstage
        subst hturn
        exact .eligible rfl hbefore hstage hcurrent rfl
      · exact hkept (.refl _) hc
    · exact hkept (.refl _) hc

theorem of_due {now : ℕ} (hc : (r.due now).2.candidates[owner]? = some c') :
    CandidateStep r (.due now) owner c' := by
  unfold Resolver.due at hc
  dsimp only at hc
  rw [Std.ExtTreeMap.getElem?_filterMap'] at hc
  obtain ⟨c, hbefore, htick⟩ := Option.bind_eq_some_iff.mp hc
  unfold Candidate.tick at htick
  split_ifs at htick
  · cases htick
    exact .probed rfl hbefore rfl
  · cases htick
    exact .kept hbefore rfl

theorem of_recordEligibility {owner' run : String}
    (hc : (r.recordEligibility owner' run).candidates[owner]? = some c') :
    CandidateStep r (.recordEligibility owner' run) owner c' := by
  unfold Resolver.recordEligibility at hc
  split at hc
  · exact .kept hc rfl
  · rename_i c hbefore
    split_ifs at hc
    · rw [Maps.getElem?_insert] at hc
      split_ifs at hc with howner
      · cases hc
        subst howner
        exact .recorded hbefore rfl rfl rfl rfl
      · exact .kept hc rfl
    · exact .kept hc rfl

theorem of_recordEvaluatedProjection {owner' projection : String}
    (hc : (r.recordEvaluatedProjection owner' projection).candidates[owner]? = some c') :
    CandidateStep r (.recordEvaluatedProjection owner' projection) owner c' := by
  unfold Resolver.recordEvaluatedProjection at hc
  split at hc
  · exact .kept hc rfl
  · rename_i c hbefore
    split_ifs at hc
    · rw [Maps.getElem?_insert] at hc
      split_ifs at hc with howner
      · cases hc
        subst howner
        exact .recorded hbefore rfl rfl rfl rfl
      · exact .kept hc rfl
    · exact .kept hc rfl

theorem of_sample {fence : Fence} {probeId : ℕ} {verdict : Sample} {now : ℕ}
    (hkeyed : ∀ c, r.candidates[owner]? = some c → c.fence.binding.owner = owner)
    (hc : (r.sample fence probeId verdict now).2.candidates[owner]? = some c') :
    CandidateStep r (.sample fence probeId verdict now) owner c' := by
  have hother (hne : owner ≠ fence.binding.owner) (hsame : r.candidates[owner]? = some c') :
      CandidateStep r (.sample fence probeId verdict now) owner c' := by
    refine .kept hsame ?_
    have hfence : ¬fence = c'.fence := fun h => hne (h ▸ (hkeyed c' hsame).symm)
    simp [accepted, hfence]
  have hgate (hshut : ¬(r.fenceCurrent fence = true ∧
      (r.candidates[fence.binding.owner]?.any fun c =>
        c.stage = .probing && c.probeId = probeId && c.pending) = true))
      (hsame : r.candidates[owner]? = some c') :
      CandidateStep r (.sample fence probeId verdict now) owner c' := by
    refine .kept hsame ?_
    unfold accepted
    dsimp only
    rw [if_neg]
    rintro ⟨rfl, hopen⟩
    exact hshut hopen
  unfold Resolver.sample at hc
  split at hc
  · rename_i hstale
    exact hgate (by simp [hstale]) hc
  · rename_i hcurrent
    have hcurrent : r.fenceCurrent fence = true := by simpa using hcurrent
    have hverdict (c : Candidate) (hbefore : r.candidates[fence.binding.owner]? = some c)
        (hopen : ¬(c.stage ≠ .probing ∨ c.probeId ≠ probeId ∨ c.pending = false))
        (haccept : ¬(c.deadline ≤ now ∨ verdict ≠ .normalComposer)) :
        accepted r (.sample fence probeId verdict now) c.fence = some .normalComposer := by
      obtain ⟨-, -, ⟨c₀, hbefore₀, hsame⟩, -⟩ := fenceCurrent_iff.mp hcurrent
      obtain rfl : c₀ = c := Option.some_inj.mp (hbefore₀.symm.trans hbefore)
      simp only [not_or, ne_eq, not_not, Bool.not_eq_false] at hopen haccept
      obtain ⟨hstage, hprobe, hpending⟩ := hopen
      simp [accepted, hsame, hcurrent, hbefore, hstage, hprobe, hpending, haccept.2]
    split at hc
    · rename_i hmissing
      exact hgate (by simp [hmissing]) hc
    · rename_i c hbefore
      split_ifs at hc with hshut hreject hsecond
      · refine hgate ?_ hc
        rintro ⟨-, hopen⟩
        simp only [hbefore, Option.any_some, Bool.and_eq_true, decide_eq_true_eq] at hopen
        simp [hopen] at hshut
      · rw [Resolver.cancel, Maps.getElem?_erase] at hc
        split_ifs at hc with howner
        exact hother howner hc
      · rw [Maps.getElem?_insert] at hc
        split_ifs at hc with howner
        · cases hc
          subst howner
          exact .sampled hbefore (hverdict c hbefore hshut hreject) rfl rfl rfl
        · exact hother howner hc
      · rw [Maps.getElem?_insert] at hc
        split_ifs at hc with howner
        · cases hc
          subst howner
          exact .sampled hbefore (hverdict c hbefore hshut hreject) rfl rfl rfl
        · exact hother howner hc

end CandidateStep

theorem perform_candidates [Sha256] {r : Resolver} {operation : Operation} {owner : String}
    {c' : Candidate} (hkeyed : ∀ c, r.candidates[owner]? = some c → c.fence.binding.owner = owner)
    (hc : (r.perform operation).candidates[owner]? = some c') :
    CandidateStep r operation owner c' := by
  cases operation with
  | sessionStart => exact .of_drops (.sessionStart r _ _ _ _ _ _) (fun _ => rfl) hc
  | issue => exact .of_drops (.cancel r _) (fun _ => rfl) (issue_candidates hc)
  | ordinary => exact .of_ordinary hc
  | checked => exact .of_checked hc
  | eligible => exact .of_eligible hc
  | due => exact .of_due hc
  | recordEligibility => exact .of_recordEligibility hc
  | recordEvaluatedProjection => exact .of_recordEvaluatedProjection hc
  | sample => exact .of_sample hkeyed hc
  | acknowledged owner' through =>
    exact .of_drops ((Drops.cancel r owner').trans (.acknowledged r owner' through)) (fun _ => rfl) hc
  | cancel => exact .of_drops (.cancel r _) (fun _ => rfl) hc
  | invalidateOwner owner' =>
    exact .of_drops ((Drops.cancel r owner').trans (.invalidateOwner r owner')) (fun _ => rfl) hc
  | unknown => exact .of_drops (.unknown r _ _) (fun _ => rfl) hc
  | journalFailed => exact .of_drops (.journalFailed r _ _ _) (fun _ => rfl) hc
  | rootMismatch => exact .of_drops (.rootMismatch r _ _) (fun _ => rfl) hc
  | recoveryDue => exact .of_drops (.recoveryDue r _) (fun _ => rfl) hc
  | recovered => exact .of_drops (.recovered r _ _) (fun _ => rfl) hc

/-! ## Operations that touch nothing but the candidates -/

theorem eligible_waiting (r : Resolver) (owner turn : String) (done interrupted : Bool) (now : ℕ) :
    ∃ candidates, r.eligible owner turn done interrupted now = { r with candidates := candidates } := by
  unfold Resolver.eligible
  split
  · exact ⟨_, rfl⟩
  · split_ifs <;> exact ⟨_, rfl⟩

theorem due_waiting (r : Resolver) (now : ℕ) :
    ∃ candidates, (r.due now).2 = { r with candidates := candidates } := ⟨_, rfl⟩

theorem recordEligibility_waiting (r : Resolver) (owner run : String) :
    ∃ candidates, r.recordEligibility owner run = { r with candidates := candidates } := by
  unfold Resolver.recordEligibility
  split
  · exact ⟨_, rfl⟩
  · split_ifs <;> exact ⟨_, rfl⟩

theorem recordEvaluatedProjection_waiting (r : Resolver) (owner projection : String) :
    ∃ candidates, r.recordEvaluatedProjection owner projection = { r with candidates := candidates } := by
  unfold Resolver.recordEvaluatedProjection
  split
  · exact ⟨_, rfl⟩
  · split_ifs <;> exact ⟨_, rfl⟩

theorem sample_waiting (r : Resolver) (fence : Fence) (probeId : ℕ) (verdict : Sample) (now : ℕ) :
    ∃ candidates, (r.sample fence probeId verdict now).2 = { r with candidates := candidates } := by
  unfold Resolver.sample
  split_ifs
  · exact ⟨_, rfl⟩
  · split
    · exact ⟨_, rfl⟩
    · split_ifs <;> exact ⟨_, rfl⟩

/-! ## Where an order comes from -/

inductive OrderStep (r : Resolver) (operation : Operation) (key : String × ℕ) (o' : Order) : Prop
  | kept (same : r.orders[key]? = some o')
  | issued {binding : Binding} {home session turn : String} {epoch : ℕ}
      (input : operation = .issue binding home session turn key.2 epoch)
      (owned : binding.owner = key.1) (trusted : r.trusts home session binding epoch = true)
      (made : o' = ⟨session, turn, r.generation, false, home, epoch⟩)
  | resolved {o : Order} {check : OrderCheck} {proven : List String} {now : ℕ}
      (input : operation = .checked check proven now) (before : r.orders[key]? = some o)
      (current : r.fenceCurrent check.fence = true) (proves : r.resolves check proven key o = true)
      (made : o' = { o with resolved := true })

namespace OrderStep
variable {r : Resolver} {operation : Operation} {key : String × ℕ} {o' : Order}

theorem of_drops {r' : Resolver} (h : Drops r r') (ho : r'.orders[key]? = some o') :
    OrderStep r operation key o' := .kept (h.orders key o' ho)

theorem of_issue {binding : Binding} {home session turn : String} {order epoch : ℕ}
    (ho : (r.issue binding home session turn order epoch).orders[key]? = some o') :
    OrderStep r (.issue binding home session turn order epoch) key o' := by
  have hstep := issue_step r binding home session turn order epoch
  generalize r.issue binding home session turn order epoch = r' at hstep ho
  cases hstep with
  | distrusted => exact .of_drops ((Drops.cancel r _).trans (.unknown _ home session)) ho
  | ordered trusted =>
    rw [Maps.getElem?_insert] at ho
    split_ifs at ho with hkey
    · subst hkey
      exact .issued rfl rfl trusted (Option.some_inj.mp ho).symm
    · exact .kept ho

theorem of_resolveOrders {check : OrderCheck} {proven : List String} {now : ℕ}
    (hcurrent : r.fenceCurrent check.fence = true)
    (ho : (r.resolveOrders check proven).orders[key]? = some o') :
    OrderStep r (.checked check proven now) key o' := by
  rw [Resolver.resolveOrders, Std.ExtTreeMap.getElem?_map] at ho
  obtain ⟨o, hbefore, hmade⟩ := Option.map_eq_some_iff.mp ho
  split_ifs at hmade with hproves
  · exact .resolved rfl hbefore hcurrent hproves hmade.symm
  · exact .kept (hmade ▸ hbefore)

theorem of_checked {check : OrderCheck} {proven : List String} {now : ℕ}
    (ho : (r.checked check proven now).2.orders[key]? = some o') :
    OrderStep r (.checked check proven now) key o' := by
  have hstep := checked_step r check proven now
  generalize r.checked check proven now = p at hstep ho
  cases hstep with
  | stale => exact .kept ho
  | late => exact .kept ho
  | unproven current => exact .of_resolveOrders current ho
  | armed current => exact .of_resolveOrders current ho

theorem of_ordinary [Sha256] {class_ : InputClass} {binding : Binding} {session ingress turn : String}
    {notice : NoticeFence} {journal : JournalView} {now : ℕ}
    (ho : (r.ordinary class_ binding session ingress turn notice journal now).2.orders[key]? =
      some o') :
    OrderStep r (.ordinary class_ binding session ingress turn notice journal now) key o' := by
  cases class_ with
  | nonAuthoritativeInput => exact .kept ho
  | ordinaryPrompt =>
    have hstep := ordinary_step r binding session ingress turn notice journal now
    have henroll := Drops.enroll r binding.locator.homeDigest session
    have hadmitted state := henroll.trans
      (.admitInput _ binding.locator.homeDigest session ingress binding.owner state)
    generalize r.ordinary .ordinaryPrompt binding session ingress turn notice journal now = p
      at hstep ho
    cases hstep with
    | idle => exact .kept ho
    | lost => exact .of_drops henroll ho
    | repeated => exact .of_drops henroll ho
    | full => exact .of_drops (henroll.trans (.unknown _ _ _)) ho
    | exhausted => exact .of_drops (henroll.trans (.disable _)) ho
    | distrusted => exact .of_drops ((hadmitted _).trans (.unknown _ _ _)) ho
    | unneeded => exact .of_drops (hadmitted _) ho
    | proposing => exact .of_drops (hadmitted _) (propose_orders ho)

end OrderStep

theorem perform_orders [Sha256] {r : Resolver} {operation : Operation} {key : String × ℕ}
    {o' : Order} (ho : (r.perform operation).orders[key]? = some o') :
    OrderStep r operation key o' := by
  have hwaiting {r' : Resolver} (h : ∃ candidates, r' = { r with candidates := candidates })
      (ho : r'.orders[key]? = some o') : OrderStep r operation key o' := by
    obtain ⟨candidates, rfl⟩ := h
    exact .kept ho
  cases operation with
  | sessionStart => exact .of_drops (.sessionStart r _ _ _ _ _ _) ho
  | issue => exact .of_issue ho
  | ordinary => exact .of_ordinary ho
  | checked => exact .of_checked ho
  | eligible => exact hwaiting (eligible_waiting r _ _ _ _ _) ho
  | due => exact hwaiting (due_waiting r _) ho
  | recordEligibility => exact hwaiting (recordEligibility_waiting r _ _) ho
  | recordEvaluatedProjection => exact hwaiting (recordEvaluatedProjection_waiting r _ _) ho
  | sample => exact hwaiting (sample_waiting r _ _ _ _) ho
  | acknowledged owner' through =>
    exact .of_drops ((Drops.cancel r owner').trans (.acknowledged r owner' through)) ho
  | cancel => exact .of_drops (.cancel r _) ho
  | invalidateOwner owner' =>
    exact .of_drops ((Drops.cancel r owner').trans (.invalidateOwner r owner')) ho
  | unknown => exact .of_drops (.unknown r _ _) ho
  | journalFailed => exact .of_drops (.journalFailed r _ _ _) ho
  | rootMismatch => exact .of_drops (.rootMismatch r _ _) ho
  | recoveryDue => exact .of_drops (.recoveryDue r _) ho
  | recovered => exact .of_drops (.recovered r _ _) ho

/-! ## What blocks candidates -/

theorem ordinary_frame [Sha256] (r : Resolver) (class_ : InputClass) (binding : Binding)
    (session ingress turn : String) (notice : NoticeFence) (journal : JournalView) (now : ℕ) :
    Frame r (r.ordinary class_ binding session ingress turn notice journal now).2 := by
  cases class_ with
  | nonAuthoritativeInput => exact .refl r
  | ordinaryPrompt =>
    have hstep := ordinary_step r binding session ingress turn notice journal now
    have henroll := Drops.enroll r binding.locator.homeDigest session
    have hadmitted state := henroll.trans
      (.admitInput _ binding.locator.homeDigest session ingress binding.owner state)
    generalize r.ordinary .ordinaryPrompt binding session ingress turn notice journal now = p at hstep
    cases hstep with
    | idle => exact .refl r
    | lost => exact henroll.frame
    | repeated => exact henroll.frame
    | full => exact (henroll.trans (.unknown _ _ _)).frame
    | exhausted => exact (henroll.trans (.disable _)).frame
    | distrusted => exact ((hadmitted _).trans (.unknown _ _ _)).frame
    | unneeded => exact (hadmitted _).frame
    | proposing known =>
      obtain ⟨hcounter, hfailures⟩ := enroll_frame r binding.locator.homeDigest session
      unfold Resolver.propose
      dsimp only
      split_ifs
      · exact (hadmitted _).frame
      · exact ((hadmitted _).trans (.disable _)).frame
      · exact .of_eq (hcounter ▸ Nat.le_succ _) (enroll_disabled known) hfailures

theorem checked_frame (r : Resolver) (check : OrderCheck) (proven : List String) (now : ℕ) :
    Frame r (r.checked check proven now).2 := by
  have hstep := checked_step r check proven now
  generalize r.checked check proven now = p at hstep
  cases hstep with
  | stale => exact .refl r
  | late => exact .of_eq (Nat.le_refl _) rfl rfl
  | unproven => exact .of_eq (Nat.le_refl _) rfl rfl
  | armed => exact .of_eq (Nat.le_refl _) rfl rfl

theorem issue_frame (r : Resolver) (binding : Binding) (home session turn : String)
    (order epoch : ℕ) : Frame r (r.issue binding home session turn order epoch) := by
  have hstep := issue_step r binding home session turn order epoch
  generalize r.issue binding home session turn order epoch = r' at hstep
  cases hstep with
  | ordered => exact .of_eq (Nat.le_refl _) rfl rfl
  | distrusted => exact ((Drops.cancel r _).trans (.unknown _ home session)).frame

theorem perform_frame [Sha256] (r : Resolver) (operation : Operation) :
    Frame r (r.perform operation) := by
  have hwaiting {r' : Resolver} (h : ∃ candidates, r' = { r with candidates := candidates }) :
      Frame r r' := by
    obtain ⟨candidates, rfl⟩ := h
    exact .of_eq (Nat.le_refl _) rfl rfl
  cases operation with
  | sessionStart => exact (Drops.sessionStart r _ _ _ _ _ _).frame
  | issue => exact issue_frame r _ _ _ _ _ _
  | ordinary => exact ordinary_frame r _ _ _ _ _ _ _ _
  | checked => exact checked_frame r _ _ _
  | eligible => exact hwaiting (eligible_waiting r _ _ _ _ _)
  | due => exact hwaiting (due_waiting r _)
  | recordEligibility => exact hwaiting (recordEligibility_waiting r _ _)
  | recordEvaluatedProjection => exact hwaiting (recordEvaluatedProjection_waiting r _ _)
  | sample => exact hwaiting (sample_waiting r _ _ _ _)
  | acknowledged owner' through =>
    exact ((Drops.cancel r owner').trans (.acknowledged r owner' through)).frame
  | cancel => exact (Drops.cancel r _).frame
  | invalidateOwner owner' => exact ((Drops.cancel r owner').trans (.invalidateOwner r owner')).frame
  | unknown => exact (Drops.unknown r _ _).frame
  | journalFailed => exact (Drops.journalFailed r _ _ _).frame
  | rootMismatch => exact (Drops.rootMismatch r _ _).frame
  | recoveryDue => exact (Drops.recoveryDue r _).frame
  | recovered => exact (Drops.recovered r _ _).frame

/-! ## What every state keeps -/

/-- Candidates are kept under their owner, and none is there that is blocked. -/
structure Resolver.Sound (r : Resolver) : Prop where
  keyed : ∀ (owner : String) (c : Candidate),
    r.candidates[owner]? = some c → c.fence.binding.owner = owner
  counted : ∀ (owner : String) (c : Candidate),
    r.candidates[owner]? = some c → c.fence.generation ≤ r.nextCandidate
  off : r.disabled = true → ∀ owner : String, r.candidates[owner]? = none
  healthy : ∀ (owner : String) (c : Candidate),
    r.candidates[owner]? = some c → c.fence.home ∉ r.homeFailures

theorem sound_start : Resolver.Sound {} where
  keyed := fun owner c hc => by simp at hc
  counted := fun owner c hc => by simp at hc
  off := nofun
  healthy := fun owner c hc => by simp at hc

theorem CandidateStep.fence_kept [Sha256] {r : Resolver} {operation : Operation} {owner : String}
    {c' : Candidate} (h : CandidateStep r operation owner c') :
    (∃ c, r.candidates[owner]? = some c ∧ c'.fence = c.fence) ∨
      c'.fence.generation = r.nextCandidate + 1 ∧
        (r.perform operation).nextCandidate = r.nextCandidate + 1 ∧
        c'.fence.binding.owner = owner ∧ r.disabled = false ∧ c'.fence.home ∉ r.homeFailures := by
  cases h with
  | kept same => exact Or.inl ⟨c', same, rfl⟩
  | proposed _ _ enabled healthy owned made fresh counted fields =>
    refine Or.inr ⟨made ▸ fresh, counted, ?_, enabled, healthy⟩
    rw [made]
    exact (congrArg Binding.owner fields.1).trans owned
  | armed _ _ before _ _ made => exact Or.inl ⟨_, before, made ▸ rfl⟩
  | eligible _ before _ _ made => exact Or.inl ⟨_, before, made ▸ rfl⟩
  | probed _ before made => exact Or.inl ⟨_, before, made ▸ rfl⟩
  | sampled before _ fence => exact Or.inl ⟨_, before, fence⟩
  | recorded before _ fence => exact Or.inl ⟨_, before, fence⟩

theorem perform_sound [Sha256] {r : Resolver} {operation : Operation} (h : r.Sound) :
    (r.perform operation).Sound := by
  have hsource (owner : String) (c' : Candidate)
      (hc : (r.perform operation).candidates[owner]? = some c') :=
    (perform_candidates (h.keyed owner) hc).fence_kept
  have hframe := perform_frame r operation
  refine ⟨fun owner c' hc => ?_, fun owner c' hc => ?_, fun hoff owner => ?_, fun owner c' hc hfail => ?_⟩
  · rcases hsource owner c' hc with ⟨c, hbefore, hfence⟩ | ⟨-, -, howned, -⟩
    · rw [hfence]
      exact h.keyed owner c hbefore
    · exact howned
  · rcases hsource owner c' hc with ⟨c, hbefore, hfence⟩ | ⟨hfresh, hcounted, -⟩
    · rw [hfence]
      exact (h.counted owner c hbefore).trans hframe.counter
    · exact (hfresh.trans hcounted.symm).le
  · rcases hframe.off hoff with hdisabled | hnone
    · refine Option.eq_none_iff_forall_ne_some.mpr fun c' hc => ?_
      rcases hsource owner c' hc with ⟨c, hbefore, -⟩ | ⟨-, -, -, henabled, -⟩
      · simp [h.off hdisabled owner] at hbefore
      · simp [hdisabled] at henabled
    · exact hnone owner
  · rcases hframe.failing c'.fence.home hfail with hbefore | hgone
    · rcases hsource owner c' hc with ⟨c, hc₀, hfence⟩ | ⟨-, -, -, -, hhealthy⟩
      · exact h.healthy owner c hc₀ (hfence ▸ hbefore)
      · exact hhealthy hbefore
    · exact hgone owner c' hc rfl

end VdeTmux.QuestionNotice
