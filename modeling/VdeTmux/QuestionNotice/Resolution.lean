import VdeTmux.QuestionNotice.Candidates

/-!
# What stands behind a final guard

A history is kept with the steps it is made of. Each candidate is backed by the input that made
it, the check, the eligibility and the samples since, and each resolved order by its issue and a
check that proved its turn.
-/

open Foundation VdeTmux.Pane
namespace VdeTmux.QuestionNotice

/-! ## Sessions whose history is unknown -/

def Lost (r : Resolver) (home session : String) : Prop :=
  ∃ state, r.sessions[(home, session)]? = some state ∧ state.trust = .historyUnknown

def Keeps (r r' : Resolver) : Prop := ∀ home session, Lost r home session → Lost r' home session

namespace Keeps
variable {r r' r'' : Resolver}

theorem of_eq (h : r'.sessions = r.sessions) : Keeps r r' := fun _ _ ⟨state, hstate, hlost⟩ =>
  ⟨state, h ▸ hstate, hlost⟩

theorem refl (r : Resolver) : Keeps r r := of_eq rfl

theorem trans (h : Keeps r r') (h' : Keeps r' r'') : Keeps r r'' := fun home session hlost =>
  h' home session (h home session hlost)

theorem insert {home session : String} {state' : Session}
    (hsessions : r'.sessions = r.sessions.insert (home, session) state')
    (htrust : ∀ state, r.sessions[(home, session)]? = some state → state.trust = .historyUnknown →
      state'.trust = .historyUnknown) : Keeps r r' := by
  rintro home' session' ⟨state, hstate, hlost⟩
  simp only [Lost, hsessions, Maps.getElem?_insert]
  split_ifs with hkey
  · cases hkey
    exact ⟨state', rfl, htrust state hstate hlost⟩
  · exact ⟨state, hstate, hlost⟩

theorem map {f : String × String → Session → Session}
    (hsessions : r'.sessions = r.sessions.map f)
    (htrust : ∀ key state, state.trust = .historyUnknown → (f key state).trust = .historyUnknown) :
    Keeps r r' := by
  rintro home session ⟨state, hstate, hlost⟩
  exact ⟨f (home, session) state, by rw [hsessions, Std.ExtTreeMap.getElem?_map, hstate]; rfl,
    htrust _ state hlost⟩

theorem unknown (r : Resolver) (home session : String) : Keeps r (r.unknown home session) := by
  unfold Resolver.unknown
  split
  · split_ifs
    · exact of_eq rfl
    · exact insert rfl fun _ _ _ => rfl
  · exact insert rfl fun _ _ _ => rfl

theorem enroll (r : Resolver) (home session : String) : Keeps r (r.enroll home session) := by
  unfold Resolver.enroll
  split_ifs
  · exact refl r
  · exact unknown r home session

theorem invalidateOwner (r : Resolver) (owner : String) : Keeps r (r.invalidateOwner owner) :=
  map rfl fun _ state hlost => by
    split_ifs
    · rfl
    · exact hlost

theorem journalFailed (r : Resolver) (home session : Option String) (now : ℕ) :
    Keeps r (r.journalFailed home session now) := by
  unfold Resolver.journalFailed
  split
  · exact of_eq rfl
  · exact unknown r _ _
  · split_ifs <;> exact of_eq rfl

theorem rootMismatch (r : Resolver) (home : String) (now : ℕ) :
    Keeps r (r.rootMismatch home now) := by
  unfold Resolver.rootMismatch
  split_ifs
  · exact refl r
  · exact journalFailed r _ _ _

theorem recovered (r : Resolver) (home : String) (ticket : ℕ) : Keeps r (r.recovered home ticket) := by
  unfold Resolver.recovered
  split_ifs
  · refine map rfl fun key state hlost => ?_
    split_ifs
    · rfl
    · exact hlost
  · exact refl r

theorem sessionStart (r : Resolver) (home session : String) (source : SessionSource)
    (binding : Option Binding) (journal : JournalView) (verified : Bool) :
    Keeps r (r.sessionStart home session source binding journal verified) := by
  have hover : Keeps r (r.startOver source binding) := by
    unfold Resolver.startOver
    split
    · exact refl r
    · split_ifs
      · exact of_eq rfl
      · exact (of_eq rfl).trans (invalidateOwner (r.cancel _) _)
  have hsame (hnone : r.sessions[(home, session)]? = none) :
      (r.startOver source binding).sessions[(home, session)]? = none := by
    unfold Resolver.startOver
    split
    · exact hnone
    · split_ifs
      · exact hnone
      · simp [Resolver.invalidateOwner, Resolver.cancel, Std.ExtTreeMap.getElem?_map, hnone]
  unfold Resolver.sessionStart
  split
  · exact refl r
  · split
    · dsimp only
      split_ifs
      · exact unknown r _ _
      · exact refl r
    · rename_i hnone
      split_ifs
      · exact of_eq rfl
      · refine hover.trans (insert rfl fun state hstate _ => ?_)
        rw [hsame hnone] at hstate
        cases hstate

theorem issue (r : Resolver) (binding : Binding) (home session turn : String) (order epoch : ℕ) :
    Keeps r (r.issue binding home session turn order epoch) := by
  have hstep := issue_step r binding home session turn order epoch
  generalize r.issue binding home session turn order epoch = r' at hstep
  cases hstep with
  | ordered => exact of_eq rfl
  | distrusted =>
    have hcancel : Keeps r (r.cancel binding.owner) := of_eq rfl
    exact hcancel.trans (unknown _ home session)

theorem admitInput {home session ingress owner : String} {state : Session}
    (hstate : r.sessions[(home, session)]? = some state) :
    Keeps r (r.admitInput home session ingress owner state) :=
  insert rfl fun state' hstate' hlost => by
    rw [Option.some_inj.mp (hstate.symm.trans hstate')]
    exact hlost

theorem ordinary [Sha256] (r : Resolver) (class_ : InputClass) (binding : Binding)
    (session ingress turn : String) (notice : NoticeFence) (journal : JournalView) (now : ℕ) :
    Keeps r (r.ordinary class_ binding session ingress turn notice journal now).2 := by
  cases class_ with
  | nonAuthoritativeInput => exact refl r
  | ordinaryPrompt =>
    have hstep := ordinary_step r binding session ingress turn notice journal now
    have henroll := enroll r binding.locator.homeDigest session
    have hadmitted (state : Session) (known : (r.enroll binding.locator.homeDigest session).sessions[
        (binding.locator.homeDigest, session)]? = some state) :
        Keeps r ((r.enroll binding.locator.homeDigest session).admitInput binding.locator.homeDigest
          session ingress binding.owner state) := henroll.trans (admitInput known)
    generalize r.ordinary .ordinaryPrompt binding session ingress turn notice journal now = p at hstep
    cases hstep with
    | idle => exact refl r
    | lost => exact henroll
    | repeated => exact henroll
    | full => exact henroll.trans (unknown _ _ _)
    | exhausted => exact henroll.trans (of_eq rfl)
    | distrusted known => exact (hadmitted _ known).trans (unknown _ _ _)
    | unneeded known => exact hadmitted _ known
    | proposing known =>
      refine (hadmitted _ known).trans ?_
      unfold Resolver.propose
      dsimp only
      split_ifs <;> exact of_eq rfl

theorem checked (r : Resolver) (check : OrderCheck) (proven : List String) (now : ℕ) :
    Keeps r (r.checked check proven now).2 := by
  have hstep := checked_step r check proven now
  generalize r.checked check proven now = p at hstep
  cases hstep <;> exact of_eq rfl

theorem perform [Sha256] (r : Resolver) (operation : Operation) : Keeps r (r.perform operation) := by
  have hwaiting {r' : Resolver} (h : ∃ candidates, r' = { r with candidates := candidates }) :
      Keeps r r' := by
    obtain ⟨candidates, rfl⟩ := h
    exact of_eq rfl
  cases operation with
  | sessionStart => exact sessionStart r _ _ _ _ _ _
  | issue => exact issue r _ _ _ _ _ _
  | ordinary => exact ordinary r _ _ _ _ _ _ _ _
  | checked => exact checked r _ _ _
  | eligible => exact hwaiting (eligible_waiting r _ _ _ _ _)
  | due => exact hwaiting (due_waiting r _)
  | recordEligibility => exact hwaiting (recordEligibility_waiting r _ _)
  | recordEvaluatedProjection => exact hwaiting (recordEvaluatedProjection_waiting r _ _)
  | sample => exact hwaiting (sample_waiting r _ _ _ _)
  | acknowledged => exact of_eq rfl
  | cancel => exact of_eq rfl
  | invalidateOwner => exact invalidateOwner r _
  | unknown => exact unknown r _ _
  | journalFailed => exact journalFailed r _ _ _
  | rootMismatch => exact rootMismatch r _ _
  | recoveryDue => exact of_eq rfl
  | recovered => exact recovered r _ _

end Keeps

theorem unknown_same {r : Resolver} {home session : String} {state : Session}
    (hstate : r.sessions[(home, session)]? = some state) (hlost : state.trust = .historyUnknown)
    (hapart : ∀ (owner : String) (c : Candidate), r.candidates[owner]? = some c →
      ¬(c.fence.home = home ∧ c.fence.session = session)) : r.unknown home session = r := by
  have hdistrust : state.distrust = state := by
    cases state
    cases hlost
    rfl
  have hkept : r.candidates.filter
      (fun _ c => c.fence.home ≠ home || c.fence.session ≠ session) = r.candidates := by
    refine Std.ExtTreeMap.filter_eq_self_iff.mpr fun owner howner => ?_
    have := hapart _ _ (Std.ExtTreeMap.getElem?_eq_some_getElem howner)
    simp only [ne_eq, Bool.or_eq_true, decide_eq_true_eq]
    tauto
  unfold Resolver.unknown
  rw [hstate]
  simp only [Resolver.retainCandidates, hdistrust, Maps.insert_same hstate, hkept]

/-! ## What a guard and a check read -/

theorem of_resolves {r : Resolver} {check : OrderCheck} {proven : List String} {key : String × ℕ}
    {o : Order} (h : r.resolves check proven key o = true) :
    check.fence.binding.owner = key.1 ∧ o.turn ≠ check.fence.turn ∧ o.turn ∈ proven := by
  simp only [Resolver.resolves, Bool.and_eq_true, decide_eq_true_eq, List.contains_iff_mem] at h
  tauto

theorem prefixFrom_settled {r : Resolver} {fence : Fence} {n start order : ℕ}
    (hlow : start < order) (hhigh : order ≤ r.prefixFrom fence n start) :
    ∃ o, r.orders[(fence.binding.owner, order)]? = some o ∧ r.settled fence o = true := by
  induction n generalizing start with
  | zero =>
    simp only [Resolver.prefixFrom] at hhigh
    omega
  | succ n ih =>
    simp only [Resolver.prefixFrom] at hhigh
    split_ifs at hhigh with hsettled
    · by_cases hnext : order = start + 1
      · rw [hnext]
        exact (by simpa [Option.any_eq_true] using hsettled)
      · exact ih (by omega) hhigh
    · omega

theorem of_settled {r : Resolver} {fence : Fence} {o : Order} (h : r.settled fence o = true) :
    o.resolved = true ∧ o.home = fence.home ∧ o.epoch = fence.epoch := by
  simp only [Resolver.settled, Bool.and_eq_true, decide_eq_true_eq] at h
  tauto

theorem prefixFrom_le (r : Resolver) (fence : Fence) (n start : ℕ) :
    r.prefixFrom fence n start ≤ start + n := by
  induction n generalizing start with
  | zero => exact Nat.le_refl _
  | succ n ih =>
    simp only [Resolver.prefixFrom]
    split_ifs
    · have := ih (start + 1)
      omega
    · omega

theorem of_finalGuard {r : Resolver} {fence : Fence} {through now : ℕ} {notice : NoticeFence}
    {journal : JournalView} (h : r.finalGuard fence through notice journal now = true) :
    r.fenceCurrent fence = true ∧ r.resolvedPrefix fence = through ∧
      ∃ c, r.candidates[fence.binding.owner]? = some c ∧ c.fence = fence ∧ c.stage = .probing ∧
        c.consecutiveNormal = 2 := by
  simp only [Resolver.finalGuard, Bool.and_eq_true, decide_eq_true_eq, Option.any_eq_true] at h
  obtain ⟨⟨⟨⟨⟨⟨hcurrent, -⟩, -⟩, -⟩, -⟩, hprefix⟩, c, hc, ⟨⟨⟨hstage, hcount⟩, -⟩, -⟩, -⟩ := h
  obtain ⟨-, -, ⟨c₁, hc₁, hfence⟩, -⟩ := fenceCurrent_iff.mp hcurrent
  obtain rfl := Option.some_inj.mp (hc.symm.trans hc₁)
  exact ⟨hcurrent, hprefix, c, hc, hfence, hstage, hcount⟩

section
variable [Sha256]

/-! ## What happens to a fence -/

def Creates (r : Resolver) (fence : Fence) : Operation → Prop
  | .ordinary class_ binding session ingress turn notice journal now =>
    ∃ check, (r.ordinary class_ binding session ingress turn notice journal now).1 = some check ∧
      check.fence = fence
  | _ => False

def Confirms (r : Resolver) (fence : Fence) : Operation → Prop
  | .checked check proven now => check.fence = fence ∧ (r.checked check proven now).1 = true
  | _ => False

def Finishes (r : Resolver) (fence : Fence) : Operation → Prop
  | .eligible owner turn done interrupted now =>
    owner = fence.binding.owner ∧ turn = fence.turn ∧ done = true ∧ interrupted = false ∧
      ∃ c, r.candidates[owner]? = some c ∧ c.fence = fence ∧ c.stage = .armed ∧ now < c.deadline
  | _ => False

inductive Touches (r : Resolver) (fence : Fence) : Operation → Prop
  | issue {binding : Binding} {home session turn : String} {order epoch : ℕ}
    (owned : binding.owner = fence.binding.owner) :
    Touches r fence (.issue binding home session turn order epoch)
  | cancel : Touches r fence (.cancel fence.binding.owner)
  | invalidateOwner : Touches r fence (.invalidateOwner fence.binding.owner)
  | acknowledged {through : ℕ} : Touches r fence (.acknowledged fence.binding.owner through)
  | ordinary {binding : Binding} {session ingress turn : String} {notice : NoticeFence}
    {journal : JournalView} {now : ℕ} (owned : binding.owner = fence.binding.owner)
    (new : ∀ state, r.sessions[(binding.locator.homeDigest, session)]? = some state →
      ingress ∉ state.ingresses) :
    Touches r fence (.ordinary .ordinaryPrompt binding session ingress turn notice journal now)
  | sessionStart {home session : String} {source : SessionSource} {binding : Binding}
    {journal : JournalView} {verified : Bool} (owned : binding.owner = fence.binding.owner)
    (enabled : r.disabled = false) (healthy : home ∉ r.homeFailures)
    (new : (home, session) ∉ r.sessions) :
    Touches r fence (.sessionStart home session source (some binding) journal verified)
  | unknown : Touches r fence (.unknown fence.home fence.session)
  | journalFailed {home session : Option String} {now : ℕ} (hit : home = none ∨
      home = some fence.home ∧ (session = none ∨ session = some fence.session)) :
    Touches r fence (.journalFailed home session now)
  | rootMismatch {now : ℕ} : Touches r fence (.rootMismatch fence.home now)

/-! ## The steps that stay clear of the two gaps -/

/-- An input a full session has no room for finds no candidate that waits for another session. -/
def HasRoom (r : Resolver) : Operation → Prop
  | .ordinary .ordinaryPrompt binding session ingress _ _ _ _ =>
    ∀ state c, r.sessions[(binding.locator.homeDigest, session)]? = some state →
      ingress ∉ state.ingresses → sessionIngressLimit ≤ state.ingresses.length →
      r.candidates[binding.owner]? = some c →
      c.fence.home = binding.locator.homeDigest ∧ c.fence.session = session
  | _ => True

/-- The turn of a new input has no order that is resolved and waits to be acknowledged. -/
def FreshTurn (r : Resolver) : Operation → Prop
  | .ordinary .ordinaryPrompt binding session ingress turn notice journal _ =>
    (∀ state, r.sessions[(binding.locator.homeDigest, session)]? = some state →
      ingress ∉ state.ingresses) →
    ∀ (order : ℕ) (o : Order), r.orders[(binding.owner, order)]? = some o →
      notice.acknowledged < order → order ≤ notice.latest → o.resolved = true →
      o.home = binding.locator.homeDigest → o.epoch = journal.epoch → o.turn ≠ turn
  | _ => True

theorem ordinary_gone {r : Resolver} {binding : Binding} {session ingress turn : String}
    {notice : NoticeFence} {journal : JournalView} {now : ℕ} {c' : Candidate} (hsound : r.Sound)
    (hroom : HasRoom r (.ordinary .ordinaryPrompt binding session ingress turn notice journal now))
    (hnew : ∀ state, r.sessions[(binding.locator.homeDigest, session)]? = some state →
      ingress ∉ state.ingresses)
    (hc : (r.ordinary .ordinaryPrompt binding session ingress turn notice journal now).2.candidates[
      binding.owner]? = some c') :
    c'.fence.generation = r.nextCandidate + 1 := by
  have hstep := ordinary_step r binding session ingress turn notice journal now
  have hcases := enroll_cases r binding.locator.homeDigest session
  have hadmitted (r : Resolver) (state : Session) (c : Candidate) (hc : (r.admitInput
      binding.locator.homeDigest session ingress binding.owner state).candidates[binding.owner]? =
        some c) : False := by
    simp [Resolver.admitInput, Resolver.cancel] at hc
  generalize r.ordinary .ordinaryPrompt binding session ingress turn notice journal now = p
    at hstep hc
  cases hstep with
  | idle disabled => simp [hsound.off disabled] at hc
  | lost missing =>
    rcases hcases with ⟨hsame, hmem⟩ | ⟨-, ⟨hfound, -⟩ | ⟨-, hnone⟩⟩
    · rw [hsame] at missing
      rw [Std.ExtTreeMap.mem_iff_isSome_getElem?, missing] at hmem
      cases hmem
    · rw [hfound] at missing
      cases missing
    · rw [hnone] at hc
      cases hc
  | repeated known seen =>
    rcases hcases with ⟨hsame, -⟩ | ⟨-, ⟨hfound, -⟩ | ⟨hnone, -⟩⟩
    · rw [hsame] at known
      exact absurd seen (hnew _ known)
    · rw [hfound] at known
      cases known
      simp at seen
    · rw [hnone] at known
      cases known
  | full known new limit =>
    rcases hcases with ⟨hsame, -⟩ | ⟨-, ⟨hfound, -⟩ | ⟨hnone, -⟩⟩
    · rw [hsame] at known hc
      have hbefore := (Drops.unknown r _ _).subset _ _ hc
      exact absurd (hroom _ _ known new limit hbefore) (Drops.unknown_gone hc)
    · rw [hfound] at known
      cases known
      simp [sessionIngressLimit] at limit
    · rw [hnone] at known
      cases known
  | exhausted => simp [Resolver.disable] at hc
  | distrusted => exact (hadmitted _ _ _ ((Drops.unknown _ _ _).subset _ _ hc)).elim
  | unneeded => exact (hadmitted _ _ _ hc).elim
  | proposing =>
    rcases propose_candidates hc with hold | ⟨check, -, -, hmade, hfresh, -⟩
    · exact (hadmitted _ _ _ hold).elim
    · rw [hmade]
      exact hfresh.trans (congrArg (· + 1) (enroll_frame r _ _).1)

theorem touched_gone {r : Resolver} {fence : Fence} {operation : Operation} {c' : Candidate}
    (hsound : r.Sound) (hroom : HasRoom r operation) (hcounted : fence.generation ≤ r.nextCandidate)
    (h : Touches r fence operation)
    (hc : (r.perform operation).candidates[fence.binding.owner]? = some c') : c'.fence ≠ fence := by
  have hcancelled {r' : Resolver} (h : Drops (r.cancel fence.binding.owner) r')
      (hc : r'.candidates[fence.binding.owner]? = some c') : c'.fence ≠ fence := by
    simp [h.none (Drops.cancel_none r _)] at hc
  intro hfence
  cases h with
  | issue owned =>
    have hnone := issue_candidates hc
    rw [owned] at hnone
    simp [Resolver.cancel] at hnone
  | cancel => exact hcancelled (.refl _) hc hfence
  | invalidateOwner => exact hcancelled (.invalidateOwner r _) hc hfence
  | acknowledged => exact hcancelled (.acknowledged r _ _) hc hfence
  | ordinary owned new =>
    rw [← owned] at hc
    have hfresh := ordinary_gone hsound hroom new hc
    rw [hfence] at hfresh
    omega
  | @sessionStart home session source binding journal verified owned enabled healthy new =>
    rw [Resolver.perform, Resolver.sessionStart, if_neg (by simp [enabled, healthy]),
      Std.ExtTreeMap.getElem?_eq_none new] at hc
    dsimp only at hc
    split_ifs at hc
    · simp [Resolver.disable] at hc
    · rw [← owned] at hcancelled hc
      exact hcancelled (.startOver r source binding) hc hfence
  | unknown => exact Drops.unknown_gone hc (by simp [hfence])
  | journalFailed hit =>
    obtain ⟨home, rfl, hmissed⟩ := Drops.journalFailed_gone hc
    rcases hit with hnone | ⟨hhome, hscope⟩
    · cases hnone
    · cases hhome
      obtain ⟨other, rfl, hother⟩ := hmissed (by rw [hfence])
      rcases hscope with hnone | hsession
      · cases hnone
      · cases hsession
        exact hother (by rw [hfence])
  | rootMismatch =>
    rw [Resolver.perform, Resolver.rootMismatch] at hc
    split_ifs at hc with hfailing
    · exact hsound.healthy _ _ hc (hfence ▸ hfailing)
    · obtain ⟨home, hhome, hmissed⟩ := Drops.journalFailed_gone hc
      obtain ⟨other, hnone, -⟩ := hmissed (by rw [hfence]; exact Option.some_inj.mp hhome)
      cases hnone

/-! ## What happened since a candidate was made -/

structure Since (c : Candidate) (since : List (Resolver × Operation)) : Prop where
  checked : c.stage ≠ .checkingOrder → ∃ e ∈ since, Confirms e.1 c.fence e.2
  finished : c.stage = .probing → ∃ e ∈ since, Finishes e.1 c.fence e.2
  samples : (since.filterMap fun e => accepted e.1 e.2 c.fence) =
    List.replicate c.consecutiveNormal .normalComposer
  untouched : ∀ e ∈ since, ¬Touches e.1 c.fence e.2

theorem Since.start (fence : Fence) (now : ℕ) : Since (Resolver.newCandidate fence now) [] where
  checked := fun h => by simp [Resolver.newCandidate] at h
  finished := fun h => by simp [Resolver.newCandidate] at h
  samples := by simp [Resolver.newCandidate]
  untouched := by simp

theorem Since.snoc {c c' : Candidate} {since : List (Resolver × Operation)} {r : Resolver}
    {operation : Operation} (h : Since c since) (hfence : c'.fence = c.fence)
    (hchecked : c'.stage ≠ .checkingOrder → c.stage ≠ .checkingOrder ∨ Confirms r c.fence operation)
    (hfinished : c'.stage = .probing → c.stage = .probing ∨ Finishes r c.fence operation)
    (hsamples : List.replicate c'.consecutiveNormal .normalComposer =
      (accepted r operation c.fence).toList ++ List.replicate c.consecutiveNormal .normalComposer)
    (huntouched : ¬Touches r c.fence operation) : Since c' ((r, operation) :: since) where
  checked := by
    intro hstage
    rw [hfence]
    rcases hchecked hstage with hbefore | hnow
    · obtain ⟨e, he, hconfirms⟩ := h.checked hbefore
      exact ⟨e, List.mem_cons_of_mem _ he, hconfirms⟩
    · exact ⟨_, List.mem_cons_self, hnow⟩
  finished := by
    intro hstage
    rw [hfence]
    rcases hfinished hstage with hbefore | hnow
    · obtain ⟨e, he, hfinishes⟩ := h.finished hbefore
      exact ⟨e, List.mem_cons_of_mem _ he, hfinishes⟩
    · exact ⟨_, List.mem_cons_self, hnow⟩
  samples := by
    rw [hfence, hsamples, ← h.samples, List.filterMap_cons]
    cases accepted r operation c.fence <;> rfl
  untouched := by
    rw [hfence]
    exact List.forall_mem_cons.mpr ⟨huntouched, h.untouched⟩

def Backed (past : List (Resolver × Operation)) (c : Candidate) : Prop :=
  ∃ since r operation before, past = since ++ (r, operation) :: before ∧
    Creates r c.fence operation ∧ Since c since

theorem perform_backed {past : List (Resolver × Operation)} {r : Resolver} {operation : Operation}
    {owner : String} {c' : Candidate} (hsound : r.Sound) (hroom : HasRoom r operation)
    (hbacked : ∀ c, r.candidates[owner]? = some c → Backed past c)
    (hc : (r.perform operation).candidates[owner]? = some c') :
    Backed ((r, operation) :: past) c' := by
  have hsource := perform_candidates (hsound.keyed owner) hc
  have hsnoc {c : Candidate} (hbefore : r.candidates[owner]? = some c) (hfence : c'.fence = c.fence)
      (hchecked : c'.stage ≠ .checkingOrder →
        c.stage ≠ .checkingOrder ∨ Confirms r c.fence operation)
      (hfinished : c'.stage = .probing → c.stage = .probing ∨ Finishes r c.fence operation)
      (hsamples : List.replicate c'.consecutiveNormal .normalComposer =
        (accepted r operation c.fence).toList ++
          List.replicate c.consecutiveNormal .normalComposer) :
      Backed ((r, operation) :: past) c' := by
    obtain ⟨since, r₀, made, before, hpast, hcreates, hsince⟩ := hbacked c hbefore
    refine ⟨(r, operation) :: since, r₀, made, before, by rw [hpast]; rfl, hfence ▸ hcreates,
      hsince.snoc hfence hchecked hfinished hsamples fun htouches => ?_⟩
    have howner := hsound.keyed owner c hbefore
    exact touched_gone hsound hroom (hsound.counted owner c hbefore) htouches (howner ▸ hc) hfence
  cases hsource with
  | kept same quiet => exact hsnoc same rfl Or.inl Or.inl (by rw [quiet]; rfl)
  | proposed input answer _ _ _ made =>
    refine ⟨[], r, operation, past, rfl, ?_, made ▸ Since.start _ _⟩
    rw [input, made]
    exact ⟨_, answer, rfl⟩
  | armed input answer before same stage made =>
    subst made
    refine hsnoc before rfl (fun _ => Or.inr ?_) (fun h => by cases h) (by rw [input]; rfl)
    rw [input]
    exact ⟨same.symm, answer⟩
  | @eligible c now input before stage current made =>
    subst made
    refine hsnoc before rfl (fun _ => Or.inl (by simp [stage])) (fun _ => Or.inr ?_)
      (by rw [input]; rfl)
    rw [input]
    exact ⟨(hsound.keyed owner c before).symm, rfl, rfl, rfl, c, before, rfl, stage, current⟩
  | probed input before made =>
    subst made
    exact hsnoc before rfl Or.inl Or.inl (by rw [input]; rfl)
  | sampled before verdict fence stage count =>
    refine hsnoc before fence (stage ▸ Or.inl) (stage ▸ Or.inl) ?_
    rw [verdict, count]
    rfl
  | recorded before quiet fence stage count =>
    refine hsnoc before fence (stage ▸ Or.inl) (stage ▸ Or.inl) ?_
    rw [quiet, count]
    rfl

theorem run_sound {past : List (Resolver × Operation)} {r : Resolver}
    (h : Trace Resolver.Step {} past r) : r.Sound :=
  h.invariant sound_start fun _ _ _ hsound hstep => hstep ▸ perform_sound hsound

theorem run_backed {past : List (Resolver × Operation)} {r : Resolver}
    (h : Trace Resolver.Step {} past r) (hroom : ∀ e ∈ past, HasRoom e.1 e.2) (owner : String)
    (c : Candidate) (hc : r.candidates[owner]? = some c) : Backed past c := by
  induction h generalizing owner c with
  | nil => simp at hc
  | snoc before taken ih =>
    obtain ⟨hnow, hbefore⟩ := List.forall_mem_cons.mp hroom
    cases taken
    exact perform_backed (run_sound before) hnow (ih hbefore owner) hc

/-! ## What stands behind an order -/

theorem run_counter {past : List (Resolver × Operation)} {r : Resolver}
    (h : Trace Resolver.Step {} past r) (e : Resolver × Operation) (he : e ∈ past) :
    e.1.nextCandidate ≤ r.nextCandidate := by
  induction h with
  | nil => cases he
  | @snoc past r _ operation before taken ih =>
    cases taken
    have hstep := (perform_frame r operation).counter
    rcases List.mem_cons.mp he with rfl | hpast
    · exact hstep
    · exact (ih hpast).trans hstep

theorem run_generation {past : List (Resolver × Operation)} {r : Resolver}
    (h : Trace Resolver.Step {} past r) {owner : String} {e : Resolver × Operation} {c₀ c : Candidate}
    (he : e ∈ past) (hc₀ : e.1.candidates[owner]? = some c₀) (hc : r.candidates[owner]? = some c) :
    c₀.fence.generation ≤ c.fence.generation := by
  induction h generalizing c with
  | nil => cases he
  | @snoc past r _ operation before taken ih =>
    cases taken
    rcases (perform_candidates ((run_sound before).keyed owner) hc).fence_kept with
      ⟨c₁, hc₁, hfence⟩ | ⟨hfresh, -⟩
    · rw [hfence]
      rcases List.mem_cons.mp he with rfl | hpast
      · rw [Option.some_inj.mp (hc₀.symm.trans hc₁)]
      · exact ih hpast hc₁
    · have hcounted : c₀.fence.generation ≤ r.nextCandidate := by
        rcases List.mem_cons.mp he with rfl | hpast
        · exact (run_sound before).counted owner c₀ hc₀
        · obtain ⟨earlier, hearlier⟩ := before.reached hpast
          exact ((run_sound hearlier).counted owner c₀ hc₀).trans (run_counter before e hpast)
      omega

def Issued (past : List (Resolver × Operation)) (key : String × ℕ) (o : Order) : Prop :=
  ∃ r binding, (r, Operation.issue binding o.home o.session o.turn key.2 o.epoch) ∈ past ∧
    binding.owner = key.1 ∧ r.trusts o.home o.session binding o.epoch = true

def TurnProven (past : List (Resolver × Operation)) (owner : String) (o : Order) : Prop :=
  ∃ r check proven now, (r, Operation.checked check proven now) ∈ past ∧
    r.fenceCurrent check.fence = true ∧ check.fence.binding.owner = owner ∧ o.turn ∈ proven ∧
    o.turn ≠ check.fence.turn

theorem run_orders {past : List (Resolver × Operation)} {r : Resolver}
    (h : Trace Resolver.Step {} past r) (key : String × ℕ) (o : Order)
    (ho : r.orders[key]? = some o) :
    Issued past key o ∧ (o.resolved = true → TurnProven past key.1 o) := by
  induction h generalizing o with
  | nil => simp at ho
  | @snoc past r _ operation before taken ih =>
    cases taken
    have hmore {o : Order} (h : Issued past key o) : Issued ((r, operation) :: past) key o := by
      obtain ⟨r₀, binding, hmem, hrest⟩ := h
      exact ⟨r₀, binding, List.mem_cons_of_mem _ hmem, hrest⟩
    cases perform_orders ho with
    | kept same =>
      obtain ⟨hissued, hproven⟩ := ih o same
      refine ⟨hmore hissued, fun hresolved => ?_⟩
      obtain ⟨r₀, check, proven, now, hmem, hrest⟩ := hproven hresolved
      exact ⟨r₀, check, proven, now, List.mem_cons_of_mem _ hmem, hrest⟩
    | issued input owned trusted made =>
      subst made
      refine ⟨⟨r, _, List.mem_cons.mpr (Or.inl (by rw [input])), owned, trusted⟩, fun hresolved => ?_⟩
      cases hresolved
    | @resolved o₀ check proven now input before current proves made =>
      subst made
      obtain ⟨howner, hturn, hmem⟩ := of_resolves proves
      refine ⟨hmore (ih o₀ before).1, fun _ => ⟨r, check, proven, now, ?_, current, howner, hmem, hturn⟩⟩
      rw [input]
      exact List.mem_cons_self

/-- The resolved orders a candidate would acknowledge are not of the turn it was made in. -/
def TurnsApart (r : Resolver) : Prop :=
  ∀ (owner : String) (c : Candidate) (order : ℕ) (o : Order),
    r.candidates[owner]? = some c → r.orders[(owner, order)]? = some o →
    c.fence.acknowledged < order → order ≤ c.fence.latest → o.resolved = true →
    o.home = c.fence.home → o.epoch = c.fence.epoch → o.turn ≠ c.fence.turn

theorem ordinary_new {r : Resolver} {binding : Binding} {session ingress turn : String}
    {notice : NoticeFence} {journal : JournalView} {now : ℕ} {check : OrderCheck}
    (h : (r.ordinary .ordinaryPrompt binding session ingress turn notice journal now).1 =
      some check) (state : Session)
    (hstate : r.sessions[(binding.locator.homeDigest, session)]? = some state) :
    ingress ∉ state.ingresses := by
  intro hseen
  have hknown : (binding.locator.homeDigest, session) ∈ r.sessions :=
    Std.ExtTreeMap.mem_iff_isSome_getElem?.mpr (by rw [hstate]; rfl)
  have henroll : r.enroll binding.locator.homeDigest session = r := if_pos hknown
  simp only [Resolver.ordinary, reduceCtorEq, if_false, henroll, hstate, if_pos hseen] at h
  split_ifs at h

theorem perform_turnsApart {r : Resolver} {operation : Operation} (hsound : r.Sound)
    (hfresh : FreshTurn r operation) (h : TurnsApart r) : TurnsApart (r.perform operation) := by
  intro owner c' order o' hc ho hlow hhigh hresolved hhome hepoch
  have hsource := perform_candidates (hsound.keyed owner) hc
  have hold {c : Candidate} (hbefore : r.candidates[owner]? = some c) (hfence : c'.fence = c.fence) :
      o'.turn ≠ c'.fence.turn := by
    rw [hfence] at hlow hhigh hhome hepoch ⊢
    cases perform_orders ho with
    | kept same => exact h owner c order o' hbefore same hlow hhigh hresolved hhome hepoch
    | issued _ _ _ made =>
      subst made
      cases hresolved
    | resolved _ _ current proves made =>
      obtain ⟨howner, hturn, -⟩ := of_resolves proves
      obtain ⟨-, -, ⟨c₁, hc₁, hsame⟩, -⟩ := fenceCurrent_iff.mp current
      rw [howner] at hc₁
      rw [made, Option.some_inj.mp (hbefore.symm.trans hc₁), hsame]
      exact hturn
  cases hsource with
  | kept same => exact hold same rfl
  | proposed input answer _ _ owned made fresh _ fields =>
    obtain ⟨-, hhome', -, hturn, hepoch', hacknowledged, hlatest⟩ := fields
    subst input owned made
    cases perform_orders ho with
    | issued input => cases input
    | resolved input => cases input
    | kept same =>
      simp only [Resolver.newCandidate, hhome', hturn, hepoch', hacknowledged, hlatest] at *
      exact hfresh (ordinary_new answer) order o' same hlow hhigh hresolved hhome hepoch
  | armed _ _ before _ _ made => exact hold before (made ▸ rfl)
  | eligible _ before _ _ made => exact hold before (made ▸ rfl)
  | probed _ before made => exact hold before (made ▸ rfl)
  | sampled before _ fence => exact hold before fence
  | recorded before _ fence => exact hold before fence

theorem run_turnsApart {past : List (Resolver × Operation)} {r : Resolver}
    (h : Trace Resolver.Step {} past r) (hfresh : ∀ e ∈ past, FreshTurn e.1 e.2) : TurnsApart r := by
  induction h with
  | nil => intro owner c order o hc; simp at hc
  | snoc before taken ih =>
    obtain ⟨hnow, hbefore⟩ := List.forall_mem_cons.mp hfresh
    cases taken
    exact perform_turnsApart (run_sound before) hnow (ih hbefore)

theorem run_lost {r r' : Resolver} {later : List (Resolver × Operation)} {home session : String}
    (h : Trace Resolver.Step r later r') (hlost : Lost r home session) : Lost r' home session :=
  h.invariant hlost fun s i _ hbefore hstep => hstep ▸ Keeps.perform s i home session hbefore

/-! ## The final guard -/

def OrderProven (past : List (Resolver × Operation)) (fence : Fence) (order : ℕ) (o : Order) :
    Prop :=
  (∃ r binding, (r, Operation.issue binding fence.home o.session o.turn order fence.epoch) ∈ past ∧
    binding.owner = fence.binding.owner ∧
    r.trusts fence.home o.session binding fence.epoch = true) ∧
  ∃ r check proven now, (r, Operation.checked check proven now) ∈ past ∧
    r.fenceCurrent check.fence = true ∧ check.fence.binding.owner = fence.binding.owner ∧
    check.fence.generation ≤ fence.generation ∧ o.turn ∈ proven ∧ o.turn ≠ check.fence.turn

/-- What the history holds about a fence the guard lets pass. -/
def Proven (past : List (Resolver × Operation)) (r : Resolver) (fence : Fence) (through : ℕ) :
    Prop :=
  (∃ since r₀ operation before, past = since ++ (r₀, operation) :: before ∧
    Creates r₀ fence operation ∧
    (∃ e ∈ since, Confirms e.1 fence e.2) ∧ (∃ e ∈ since, Finishes e.1 fence e.2) ∧
    (since.filterMap fun e => accepted e.1 e.2 fence) = [.normalComposer, .normalComposer] ∧
    ∀ e ∈ since, ¬Touches e.1 fence e.2) ∧
  ∀ order, fence.acknowledged < order → order ≤ through →
    ∃ o, r.orders[(fence.binding.owner, order)]? = some o ∧ OrderProven past fence order o

theorem orderProven {past : List (Resolver × Operation)} {r : Resolver} {c : Candidate} {order : ℕ}
    (h : Trace Resolver.Step {} past r) (hc : r.candidates[c.fence.binding.owner]? = some c)
    (hlow : c.fence.acknowledged < order) (hhigh : order ≤ r.resolvedPrefix c.fence) :
    ∃ o, r.orders[(c.fence.binding.owner, order)]? = some o ∧ OrderProven past c.fence order o := by
  obtain ⟨o, ho, hsettled⟩ := prefixFrom_settled hlow hhigh
  obtain ⟨hresolved, hhome, hepoch⟩ := of_settled hsettled
  obtain ⟨⟨r₀, binding, hissue, howner, htrusted⟩, hproven⟩ := run_orders h _ o ho
  obtain ⟨r₁, check, proven, now, hcheck, hcurrent, hsame, hmem, hturn⟩ := hproven hresolved
  rw [hhome, hepoch] at hissue htrusted
  refine ⟨o, ho, ⟨r₀, binding, hissue, howner, htrusted⟩, r₁, check, proven, now, hcheck, hcurrent,
    hsame, ?_, hmem, hturn⟩
  obtain ⟨-, -, ⟨c₀, hc₀, hfence⟩, -⟩ := fenceCurrent_iff.mp hcurrent
  rw [← hfence]
  rw [hsame] at hc₀
  exact run_generation h hcheck hc₀ hc

theorem turn_apart {past : List (Resolver × Operation)} {r : Resolver} {c : Candidate} {order : ℕ}
    {o : Order} (h : Trace Resolver.Step {} past r) (hfresh : ∀ e ∈ past, FreshTurn e.1 e.2)
    (hc : r.candidates[c.fence.binding.owner]? = some c) (hlow : c.fence.acknowledged < order)
    (hhigh : order ≤ r.resolvedPrefix c.fence)
    (ho : r.orders[(c.fence.binding.owner, order)]? = some o) : o.turn ≠ c.fence.turn := by
  obtain ⟨o', ho', hsettled⟩ := prefixFrom_settled hlow hhigh
  obtain rfl := Option.some_inj.mp (ho'.symm.trans ho)
  obtain ⟨hresolved, hhome, hepoch⟩ := of_settled hsettled
  have hbound := prefixFrom_le r c.fence (c.fence.latest - c.fence.acknowledged) c.fence.acknowledged
  have hlatest : order ≤ c.fence.latest := by
    unfold Resolver.resolvedPrefix at hhigh
    omega
  exact run_turnsApart h hfresh _ c order o' hc ho hlow hlatest hresolved hhome hepoch

/-- A final guard passes only what the history has proven, and a lost session stays lost. -/
theorem finalGuard_proven {past : List (Resolver × Operation)} {r : Resolver}
    (h : Trace Resolver.Step {} past r) (hroom : ∀ e ∈ past, HasRoom e.1 e.2) :
    (∀ fence through notice journal now,
      r.finalGuard fence through notice journal now = true →
        Proven past r fence through ∧
        ((∀ e ∈ past, FreshTurn e.1 e.2) → ∀ (order : ℕ) (o : Order), fence.acknowledged < order →
          order ≤ through → r.orders[(fence.binding.owner, order)]? = some o →
          o.turn ≠ fence.turn)) ∧
    ∀ home session, Lost r home session → ∀ later r', Trace Resolver.Step r later r' →
      Lost r' home session ∧ ∀ fence through notice journal now,
        r'.finalGuard fence through notice journal now = true →
          ¬(fence.home = home ∧ fence.session = session) := by
  constructor
  · intro fence through notice journal now hguard
    obtain ⟨-, rfl, c, hc, rfl, hstage, hcount⟩ := of_finalGuard hguard
    obtain ⟨since, r₀, operation, before, hpast, hcreates, hsince⟩ := run_backed h hroom _ c hc
    have hsamples : (since.filterMap fun e => accepted e.1 e.2 c.fence) =
        [.normalComposer, .normalComposer] := by
      rw [hsince.samples, hcount]
      rfl
    refine ⟨⟨⟨since, r₀, operation, before, hpast, hcreates, hsince.checked (by simp [hstage]),
      hsince.finished hstage, hsamples, hsince.untouched⟩, fun order => orderProven h hc⟩, ?_⟩
    intro hfresh order o hlow hhigh ho
    exact turn_apart h hfresh hc hlow hhigh ho
  · intro home session hlost later r' hlater
    have hlost' := run_lost hlater hlost
    refine ⟨hlost', fun fence through notice journal now hguard hsame => ?_⟩
    obtain ⟨rfl, rfl⟩ := hsame
    obtain ⟨-, -, -, htrusts⟩ := fenceCurrent_iff.mp (of_finalGuard hguard).1
    obtain ⟨state, hstate, hunknown⟩ := hlost'
    simp [Resolver.trusts, hstate, hunknown] at htrusts

end

/-! ## A run to a final guard -/

namespace Example

def ingresses : ℕ → List String
  | 0 => []
  | n + 1 => String.ofList (List.replicate n 'x') :: ingresses n

def filled (n : ℕ) : Session := ⟨.historyUnknown, none, 0, ingresses n⟩

theorem ingresses_length (n : ℕ) : (ingresses n).length = n := by
  induction n with
  | zero => rfl
  | succ n ih => simp [ingresses, ih]

theorem ingresses_short {n : ℕ} {ingress : String} (h : ingress ∈ ingresses n) :
    ∃ k < n, ingress = String.ofList (List.replicate k 'x') := by
  induction n with
  | zero => cases h
  | succ n ih =>
    rcases List.mem_cons.mp h with rfl | hmem
    · exact ⟨n, Nat.lt_succ_self n, rfl⟩
    · obtain ⟨k, hk, rfl⟩ := ih hmem
      exact ⟨k, by omega, rfl⟩

theorem ingresses_new (n : ℕ) : String.ofList (List.replicate n 'x') ∉ ingresses n := by
  intro hmem
  obtain ⟨k, hk, heq⟩ := ingresses_short hmem
  have hlength := congrArg (fun s => s.toList.length) heq
  simp only [String.toList_ofList, List.length_replicate] at hlength
  omega

theorem late_new (n : ℕ) : "late" ∉ (filled n).ingresses := by
  intro hmem
  obtain ⟨k, -, heq⟩ := ingresses_short hmem
  have hfirst := congrArg (fun s => s.toList.all (· = 'x')) heq
  simp at hfirst

section
variable [Sha256]

def binding : Binding where
  owner := "owner"
  pane := ⟨"%1", 1⟩
  process := ⟨1, "start"⟩
  executable := ⟨⟨1, "start"⟩, ⟨0, 0, 0, 0, 0, 0, 0⟩⟩
  profile := .v01600
  locator := ⟨"/home", "/transcript", 0, 0⟩

def home : String := binding.locator.homeDigest

def fence : Fence := ⟨1, "ingress", binding, home, "new", "submitted", 0, 0, 1⟩

def quiet : JournalView := ⟨0, false, false⟩

def fresh : Session := ⟨.trusted, some binding, 0, []⟩

def order (resolved : Bool) : Order := ⟨"new", "asked", 1, resolved, home, 0⟩

/-- A resolver that has seen one other session of the home. -/
def resolver (old : Session) (total : ℕ) : Resolver :=
  { sessions := (∅ : Std.ExtTreeMap (String × String) Session Maps.lex).insert (home, "old") old
    totalIngresses := total }

def started (old : Session) (total : ℕ) : Resolver :=
  { resolver old total with
    sessions := (resolver old total).sessions.insert (home, "new") fresh }

def asked (old : Session) (total : ℕ) : Resolver :=
  { started old total with
    orders := (∅ : Std.ExtTreeMap (String × ℕ) Order Maps.lex).insert ("owner", 1) (order false) }

def waiting (old : Session) (total : ℕ) (resolved : Bool) (c : Candidate) : Resolver :=
  { asked old total with
    nextCandidate := 1
    totalIngresses := total + 1
    sessions := (asked old total).sessions.insert (home, "new")
      { fresh with ingresses := ["ingress"] }
    orders := (∅ : Std.ExtTreeMap (String × ℕ) Order Maps.lex).insert ("owner", 1) (order resolved)
    candidates := (∅ : Std.ExtTreeMap String Candidate).insert "owner" c }

def proposed : Candidate := Resolver.newCandidate fence 0

def armed : Candidate := { proposed with through := 1, stage := .armed, deadline := armedLimit }

def probing : Candidate :=
  { armed with stage := .probing, deadline := probeLimit, nextSample := some 150 }

def once : Candidate :=
  { probing.probe with consecutiveNormal := 1, pending := false, nextSample := some 450 }

def twice : Candidate := { once.probe with consecutiveNormal := 2, pending := true }

variable (old : Session) (total : ℕ)

theorem sessionStart_started :
    (resolver old total).sessionStart home "new" .startup (some binding) quiet true =
      started old total := by
  simp [Resolver.sessionStart, resolver, started, Std.ExtTreeMap.size_insert, sessionLimit,
    Resolver.startOver, Resolver.cancel, Resolver.startTrust, quiet, fresh]

theorem issue_asked :
    (started old total).issue binding home "new" "asked" 1 0 = asked old total := by
  simp [Resolver.issue, Resolver.cancel, Resolver.trusts, resolver, started, asked, order, fresh,
    binding]

theorem waiting_candidate (resolved : Bool) (c : Candidate) :
    (waiting old total resolved c).candidates["owner"]? = some c := by
  simp [waiting]

theorem waiting_insert (resolved : Bool) (c c' : Candidate) :
    { waiting old total resolved c with
      candidates := (waiting old total resolved c).candidates.insert "owner" c' } =
      waiting old total resolved c' := by
  simp [waiting, Maps.insert_insert]

theorem waiting_current (resolved : Bool) {c : Candidate} (hc : c.fence = fence) :
    (waiting old total resolved c).fenceCurrent fence = true := by
  refine fenceCurrent_iff.mpr ⟨rfl, ?_, ⟨c, waiting_candidate old total resolved c, hc⟩, ?_⟩
  · simp [waiting, asked, started, resolver]
  · simp [waiting, Resolver.trusts, fresh, fence]

theorem waiting_prefix (c : Candidate) :
    (waiting old total true c).resolvedPrefix fence = 1 := by
  simp [Resolver.resolvedPrefix, Resolver.prefixFrom, waiting, asked, started, resolver, fence,
    order, binding, Resolver.settled, fresh, sameOwner]

theorem ordinary_proposed (htotal : total < ingressLimit) :
    (asked old total).ordinary .ordinaryPrompt binding "new" "ingress" "submitted" ⟨0, 1⟩ quiet 0 =
      (some ⟨fence, ["asked"]⟩, waiting old total false proposed) := by
  have henroll : (asked old total).enroll home "new" = asked old total := by
    simp [Resolver.enroll, asked, started]
  have hknown : (asked old total).sessions[(home, "new")]? = some fresh := by simp [asked, started]
  have hadmitted : (asked old total).admitInput home "new" "ingress" "owner" fresh =
      { waiting old total false proposed with nextCandidate := 0, candidates := ∅ } := by
    simp [Resolver.admitInput, Resolver.cancel, asked, started, resolver, waiting, fresh]
  have hlist : (waiting old total false proposed).orders.toList = [(("owner", 1), order false)] :=
    rfl
  have hturns : ({ waiting old total false proposed with nextCandidate := 0, candidates := ∅ } :
      Resolver).issuedTurns "owner" home "new" "submitted" 0 ⟨0, 1⟩ = ["asked"] := by
    unfold Resolver.issuedTurns
    rw [hlist]
    simp [waiting, asked, started, resolver, order]
  have hpropose : ({ waiting old total false proposed with nextCandidate := 0, candidates := ∅ } :
      Resolver).propose binding home "new" "ingress" "submitted" ⟨0, 1⟩ quiet 0 =
      (some ⟨fence, ["asked"]⟩, waiting old total false proposed) := by
    unfold Resolver.propose
    rw [show binding.owner = "owner" from rfl, show quiet.epoch = 0 from rfl, hturns]
    rfl
  unfold Resolver.ordinary
  simp only [reduceCtorEq, if_false]
  rw [if_neg (by simp [asked, started, resolver]), show binding.locator.homeDigest = home from rfl,
    henroll, hknown]
  dsimp only
  rw [if_neg (by simp [fresh]), if_neg (by simp [fresh, sessionIngressLimit]),
    if_neg (by simpa [asked, started, resolver] using htotal), if_neg (by simp [fresh, quiet]),
    show binding.owner = "owner" from rfl, hadmitted,
    if_neg (by simp [waiting, asked, started, resolver, quiet]), hpropose]

theorem checked_armed :
    (waiting old total false proposed).checked ⟨fence, ["asked"]⟩ ["asked"] 0 =
      (true, waiting old total true armed) := by
  have hresolve : (waiting old total false proposed).resolveOrders ⟨fence, ["asked"]⟩ ["asked"] =
      waiting old total true proposed := by
    simp [Resolver.resolveOrders, waiting, asked, started, resolver, Maps.map_insert,
      Maps.map_empty, Resolver.resolves, fence, order, binding]
  unfold Resolver.checked
  rw [waiting_current old total false rfl, show fence.binding.owner = "owner" from rfl,
    waiting_candidate]
  simp only [reduceCtorEq, if_false]
  rw [if_neg (by simp [proposed, Resolver.newCandidate, probeLimit]), hresolve, waiting_prefix,
    if_neg (by simp [fence]), waiting_insert]
  rfl

theorem eligible_probing :
    (waiting old total true armed).eligible "owner" "submitted" true false 0 =
      waiting old total true probing := by
  unfold Resolver.eligible
  rw [waiting_candidate]
  dsimp only
  rw [if_neg (by simp [armed, proposed, Resolver.newCandidate, fence]),
    if_neg (by simp [armed, armedLimit]), if_pos (by simp [armed]), waiting_insert]
  rfl

theorem due_probe {c : Candidate} {now : ℕ} (hlive : now < c.deadline)
    (hdue : c.sampleDue now = true) :
    ((waiting old total true c).due now).2 = waiting old total true c.probe := by
  have htick : c.tick now = some c.probe := by
    rw [Candidate.tick, if_neg (by omega), if_pos hdue]
  have hticked : ((∅ : Std.ExtTreeMap String Candidate).insert "owner" c).filterMap
      (fun _ candidate => candidate.tick now) =
        (∅ : Std.ExtTreeMap String Candidate).insert "owner" c.probe := by
    have hinsert := Maps.filterMap_insert (∅ : Std.ExtTreeMap String Candidate) (a := "owner")
      (f := fun _ (candidate : Candidate) => candidate.tick now) htick
    rw [hinsert, Maps.filterMap_empty]
  simp only [Resolver.due, waiting, hticked]

theorem probing_due : 150 < probing.deadline ∧ probing.sampleDue 150 = true := by
  refine ⟨by simp [probing, probeLimit], ?_⟩
  simp [Candidate.sampleDue, probing, armed, proposed, Resolver.newCandidate, sampleLimit]

theorem once_due : 450 < once.deadline ∧ once.sampleDue 450 = true := by
  refine ⟨by simp [once, Candidate.probe, probing, probeLimit], ?_⟩
  simp [Candidate.sampleDue, once, Candidate.probe, probing, armed, proposed,
    Resolver.newCandidate, sampleLimit]

theorem sample_once :
    ((waiting old total true probing.probe).sample fence 1 .normalComposer 150).2 =
      waiting old total true once := by
  unfold Resolver.sample
  rw [waiting_current old total true rfl, show fence.binding.owner = "owner" from rfl,
    waiting_candidate]
  simp only [reduceCtorEq, if_false]
  rw [if_neg (by simp [Candidate.probe, probing, armed, proposed, Resolver.newCandidate]),
    if_neg (by simp [Candidate.probe, probing, probeLimit]),
    if_neg (by simp [Candidate.probe, probing, armed, proposed, Resolver.newCandidate]),
    waiting_insert]
  rfl

theorem sample_twice :
    ((waiting old total true once.probe).sample fence 2 .normalComposer 450).2 =
      waiting old total true twice := by
  unfold Resolver.sample
  rw [waiting_current old total true rfl, show fence.binding.owner = "owner" from rfl,
    waiting_candidate]
  simp only [reduceCtorEq, if_false]
  rw [if_neg (by simp [Candidate.probe, once, probing, armed, proposed, Resolver.newCandidate]),
    if_neg (by simp [Candidate.probe, once, probing, probeLimit]),
    if_pos (by simp [Candidate.probe, once]), waiting_insert]
  rfl

theorem guard_twice :
    (waiting old total true twice).finalGuard fence 1 ⟨0, 1⟩ quiet 450 = true := by
  unfold Resolver.finalGuard
  rw [waiting_current old total true rfl, show fence.binding.owner = "owner" from rfl,
    waiting_candidate, waiting_prefix]
  rfl

/-- From the start of the session to the second look at the screen, newest step first. -/
def steps : List (Resolver × Operation) :=
  [(waiting old total true once.probe, .sample fence 2 .normalComposer 450),
    (waiting old total true once, .due 450),
    (waiting old total true probing.probe, .sample fence 1 .normalComposer 150),
    (waiting old total true probing, .due 150),
    (waiting old total true armed, .eligible "owner" "submitted" true false 0),
    (waiting old total false proposed, .checked ⟨fence, ["asked"]⟩ ["asked"] 0),
    (asked old total,
      .ordinary .ordinaryPrompt binding "new" "ingress" "submitted" ⟨0, 1⟩ quiet 0),
    (started old total, .issue binding home "new" "asked" 1 0),
    (resolver old total, .sessionStart home "new" .startup (some binding) quiet true)]

theorem steps_run (htotal : total < ingressLimit) :
    Trace Resolver.Step (resolver old total) (steps old total) (waiting old total true twice) := by
  have hproposed := congrArg Prod.snd (ordinary_proposed old total htotal)
  have harmed := congrArg Prod.snd (checked_armed old total)
  refine .snoc (.snoc (.snoc (.snoc (.snoc (.snoc (.snoc (.snoc (.snoc .nil ?_) ?_) ?_) ?_) ?_) ?_)
    ?_) ?_) ?_
  · exact sessionStart_started old total
  · exact issue_asked old total
  · exact hproposed
  · exact harmed
  · exact eligible_probing old total
  · exact due_probe old total probing_due.1 probing_due.2
  · exact sample_once old total
  · exact due_probe old total once_due.1 once_due.2
  · exact sample_twice old total

theorem steps_room : ∀ e ∈ steps old total, HasRoom e.1 e.2 := by
  simp only [steps, List.forall_mem_cons]
  refine ⟨trivial, trivial, trivial, trivial, trivial, trivial, ?_, trivial, trivial, by simp⟩
  intro state c hstate _ hlimit
  have hfresh : (asked old total).sessions[(home, "new")]? = some fresh := by simp [asked, started]
  cases hfresh.symm.trans hstate
  simp [fresh, sessionIngressLimit] at hlimit

theorem steps_fresh : ∀ e ∈ steps old total, FreshTurn e.1 e.2 := by
  simp only [steps, List.forall_mem_cons]
  refine ⟨trivial, trivial, trivial, trivial, trivial, trivial, ?_, trivial, trivial, by simp⟩
  intro _ number o ho _ _ hresolved
  simp only [asked, Maps.getElem?_insert] at ho
  split_ifs at ho
  · cases ho
    cases hresolved
  · simp at ho

theorem unknown_filled : ({} : Resolver).unknown home "old" = resolver (filled 0) 0 := by
  have hempty : (∅ : Std.ExtTreeMap String Candidate).filter
      (fun _ c => c.fence.home ≠ home || c.fence.session ≠ "old") = ∅ :=
    Std.ExtTreeMap.filter_eq_empty_iff.mpr fun _ h => absurd h Std.ExtTreeMap.not_mem_empty
  simp only [Resolver.unknown, Resolver.retainCandidates, hempty]
  simp [sessionLimit, resolver, filled, ingresses]

theorem ordinary_filled {n : ℕ} (hroom : n < sessionIngressLimit) :
    ((resolver (filled n) n).ordinary .ordinaryPrompt binding "old"
      (String.ofList (List.replicate n 'x')) "other" ⟨0, 0⟩ quiet 0).2 =
      resolver (filled (n + 1)) (n + 1) := by
  have henroll : (resolver (filled n) n).enroll home "old" = resolver (filled n) n := by
    simp [Resolver.enroll, resolver]
  have hknown : (resolver (filled n) n).sessions[(home, "old")]? = some (filled n) := by
    simp [resolver]
  have hlimit : n < ingressLimit := by
    unfold sessionIngressLimit at hroom
    unfold ingressLimit
    omega
  have hadmitted : (resolver (filled n) n).admitInput home "old" (String.ofList (List.replicate n 'x'))
      binding.owner (filled n) = resolver (filled (n + 1)) (n + 1) := by
    simp [Resolver.admitInput, Resolver.cancel, resolver, Maps.insert_insert, filled, ingresses]
  have hunknown : (resolver (filled (n + 1)) (n + 1)).unknown home "old" =
      resolver (filled (n + 1)) (n + 1) := by
    have hold : (resolver (filled (n + 1)) (n + 1)).sessions[(home, "old")]? =
        some (filled (n + 1)) := by simp [resolver]
    refine unknown_same hold rfl fun owner c hc => ?_
    simp [resolver] at hc
  unfold Resolver.ordinary
  simp only [reduceCtorEq, if_false]
  rw [if_neg (by simp [resolver]), show binding.locator.homeDigest = home from rfl, henroll, hknown]
  dsimp only
  rw [if_neg (show _ ∉ (filled n).ingresses from ingresses_new n),
    if_neg (by simpa [filled, ingresses_length] using hroom),
    if_neg (by simpa [resolver] using hlimit), if_pos (by simp [filled]), hadmitted, hunknown]

theorem filled_run {n : ℕ} (hroom : n ≤ sessionIngressLimit) :
    ∃ past, Trace Resolver.Step {} past (resolver (filled n) n) := by
  induction n with
  | zero => exact ⟨[({}, .unknown home "old")], .snoc .nil unknown_filled⟩
  | succ n ih =>
    obtain ⟨past, hpast⟩ := ih (by omega)
    have hstep : Resolver.Step (resolver (filled n) n) (.ordinary .ordinaryPrompt binding "old"
        (String.ofList (List.replicate n 'x')) "other" ⟨0, 0⟩ quiet 0)
        (resolver (filled (n + 1)) (n + 1)) := ordinary_filled (by omega)
    exact ⟨_, hpast.snoc hstep⟩

theorem late_known (n : ℕ) :
    (waiting (filled n) n true twice).sessions[(home, "old")]? = some (filled n) := by
  simp only [waiting, asked, started, resolver, Maps.getElem?_insert]
  simp

theorem ordinary_late {n : ℕ} (hfull : sessionIngressLimit ≤ n) :
    (waiting (filled n) n true twice).ordinary .ordinaryPrompt binding "old" "late" "later" ⟨0, 1⟩
        quiet 450 = (none, waiting (filled n) n true twice) := by
  have hknown := late_known n
  generalize hstate : waiting (filled n) n true twice = r at hknown ⊢
  have henroll : r.enroll home "old" = r := by
    simp [Resolver.enroll, ← hstate, waiting, asked, started, resolver]
  have hunknown : r.unknown home "old" = r := by
    refine unknown_same hknown rfl fun owner c hc => ?_
    rw [← hstate, waiting, Maps.getElem?_insert] at hc
    split_ifs at hc
    · cases hc
      exact fun hsame => absurd hsame.2 (show ("new" : String) ≠ "old" by decide)
    · simp at hc
  unfold Resolver.ordinary
  simp only [reduceCtorEq, if_false]
  rw [if_neg (by simp [← hstate, waiting, asked, started, resolver]),
    show binding.locator.homeDigest = home from rfl, henroll, hknown]
  dsimp only
  rw [if_neg (late_new n), if_pos (by simpa [filled, ingresses_length] using hfull), hunknown]

end

/-- The run above meets the conditions, and its guard has what stands behind it. -/
theorem guard_proven : ∃ past r, @Trace _ _ (@Resolver.Step .constant) {} past r ∧
    r.finalGuard (@fence .constant) 1 ⟨0, 1⟩ quiet 450 = true ∧
    @Proven .constant past r (@fence .constant) 1 ∧
    ∀ (order : ℕ) (o : Order), 0 < order → order ≤ 1 → r.orders[("owner", order)]? = some o →
      o.turn ≠ "submitted" := by
  let _ : Sha256 := .constant
  have hfirst : Resolver.Step {} (.unknown home "old") (resolver (filled 0) 0) := unknown_filled
  have hrun := (Trace.snoc .nil hfirst).append (steps_run (filled 0) 0 (by decide))
  have hguard := guard_twice (filled 0) 0
  obtain ⟨hproven, hturns⟩ := (finalGuard_proven hrun (List.forall_mem_append.mpr
    ⟨steps_room (filled 0) 0, by simp [HasRoom]⟩)).1 _ _ _ _ _ hguard
  exact ⟨_, _, hrun, hguard, hproven, hturns (List.forall_mem_append.mpr
    ⟨steps_fresh (filled 0) 0, by simp [FreshTurn]⟩)⟩

/-- After an input for a full session the guard still passes. -/
theorem guard_unproven : ¬∀ past r, @Trace _ _ (@Resolver.Step .constant) {} past r →
    ∀ fence through notice journal now, r.finalGuard fence through notice journal now = true →
      @Proven .constant past r fence through := by
  let _ : Sha256 := .constant
  intro hclaim
  obtain ⟨n, hfull, htotal, past, hpast⟩ : ∃ n, sessionIngressLimit ≤ n ∧ n < ingressLimit ∧
      ∃ past, Trace Resolver.Step {} past (resolver (filled n) n) :=
    ⟨sessionIngressLimit, Nat.le_refl _, by decide, filled_run (Nat.le_refl _)⟩
  have hlate : Resolver.Step (waiting (filled n) n true twice)
      (.ordinary .ordinaryPrompt binding "old" "late" "later" ⟨0, 1⟩ quiet 450)
      (waiting (filled n) n true twice) := congrArg Prod.snd (ordinary_late hfull)
  have hrun := (hpast.append (steps_run (filled n) n htotal)).snoc hlate
  obtain ⟨⟨since, r, operation, before, hsplit, hcreates, -, -, -, huntouched⟩, -⟩ :=
    hclaim _ _ hrun _ _ _ _ _ (guard_twice _ _)
  cases since with
  | nil =>
    obtain ⟨hhead, -⟩ := List.cons.inj hsplit
    cases hhead
    obtain ⟨check, hanswer, -⟩ := hcreates
    rw [ordinary_late hfull] at hanswer
    cases hanswer
  | cons e since =>
    obtain ⟨hhead, -⟩ := List.cons.inj hsplit
    refine huntouched e List.mem_cons_self (hhead ▸ Touches.ordinary rfl fun state hstate => ?_)
    cases (late_known n).symm.trans hstate
    exact late_new n

end Example

end VdeTmux.QuestionNotice
