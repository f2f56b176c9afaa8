import VdeTmux.Daemon.DeferredResponses

/-!
# Waiters

Whoever waits for a mutation is told its outcome or that the daemon stops, and is told once.
-/

open Foundation VdeTmux.Pane
namespace VdeTmux.Daemon

namespace ProductionV2Coordinator
variable {s s' : ProductionV2Coordinator} {mutation : V2AcceptedMutation} {patience : Patience}

def told (s : ProductionV2Coordinator) : List ℕ :=
  s.seen.answers.map Prod.fst

structure Waiting (s : ProductionV2Coordinator) : Prop where
  once : s.seen.registered.Nodup
  numbered : ∀ acceptedSeq ∈ s.seen.registered, acceptedSeq < s.router.nextAcceptedSeq
  waiters : s.waiters.Sublist s.seen.registered
  impatient : ∀ acceptedSeq ∈ s.impatient, acceptedSeq ∈ s.seen.registered
  oneAnswer : s.told.Nodup
  registered : ∀ acceptedSeq ∈ s.told, acceptedSeq ∈ s.seen.registered
  everyone : ∀ acceptedSeq ∈ s.seen.registered, acceptedSeq ∈ s.waiters ∨ acceptedSeq ∈ s.told
  untold : ∀ acceptedSeq ∈ s.waiters, acceptedSeq ∈ s.told → acceptedSeq ∈ s.timedOut
  timedOut : ∀ acceptedSeq ∈ s.timedOut, acceptedSeq ∈ s.told

namespace Waiting

theorem allotted (h : Waiting s) (hrouter : s'.router.nextAcceptedSeq = s.router.nextAcceptedSeq + 1)
    (hwaiters : s'.waiters = s.waiters ++ patience.registers s.router.nextAcceptedSeq)
    (himpatient : s'.impatient = s.impatient ++ patience.hurries s.router.nextAcceptedSeq)
    (hregistered : s'.seen.registered =
      s.seen.registered ++ patience.registers s.router.nextAcceptedSeq)
    (hanswers : s'.seen.answers = s.seen.answers) (htimedOut : s'.timedOut = s.timedOut) :
    Waiting s' := by
  have htold : s'.told = s.told := congrArg (List.map Prod.fst) hanswers
  have hnew {acceptedSeq : ℕ} (hseq : acceptedSeq ∈ patience.registers s.router.nextAcceptedSeq) :
      acceptedSeq = s.router.nextAcceptedSeq := by
    cases patience with
    | silent => cases hseq
    | patient | impatient => exact List.mem_singleton.mp hseq
  have hhurries {acceptedSeq : ℕ} (hseq : acceptedSeq ∈ patience.hurries s.router.nextAcceptedSeq) :
      acceptedSeq ∈ patience.registers s.router.nextAcceptedSeq := by
    cases patience with
    | silent | patient => cases hseq
    | impatient => exact hseq
  have honce : (patience.registers s.router.nextAcceptedSeq).Nodup := by
    cases patience with
    | silent => exact List.nodup_nil
    | patient | impatient => exact List.nodup_singleton _
  refine ⟨?_, fun acceptedSeq hseq => ?_, ?_, fun acceptedSeq hseq => ?_, htold ▸ h.oneAnswer,
    fun acceptedSeq hseq => ?_, fun acceptedSeq hseq => ?_, fun acceptedSeq hseq htoldSeq => ?_,
    fun acceptedSeq hseq => ?_⟩
  · rw [hregistered]
    refine List.nodup_append.mpr ⟨h.once, honce, fun a ha b hb => ?_⟩
    rw [hnew hb]
    exact (h.numbered a ha).ne
  · rw [hrouter]
    rw [hregistered] at hseq
    rcases List.mem_append.mp hseq with hseq | hseq
    · exact (h.numbered acceptedSeq hseq).trans (Nat.lt_succ_self _)
    · rw [hnew hseq]
      exact Nat.lt_succ_self _
  · rw [hwaiters, hregistered]
    exact h.waiters.append_right _
  · rw [hregistered]
    rw [himpatient] at hseq
    rcases List.mem_append.mp hseq with hseq | hseq
    · exact List.mem_append_left _ (h.impatient acceptedSeq hseq)
    · exact List.mem_append_right _ (hhurries hseq)
  · rw [htold] at hseq
    rw [hregistered]
    exact List.mem_append_left _ (h.registered acceptedSeq hseq)
  · rw [hregistered] at hseq
    rw [hwaiters, htold, List.mem_append]
    rcases List.mem_append.mp hseq with hseq | hseq
    · exact (h.everyone acceptedSeq hseq).imp Or.inl id
    · exact Or.inl (Or.inr hseq)
  · rw [htold] at htoldSeq
    rw [htimedOut]
    rw [hwaiters] at hseq
    rcases List.mem_append.mp hseq with hseq | hseq
    · exact h.untold acceptedSeq hseq htoldSeq
    · have hlt := h.numbered acceptedSeq (h.registered acceptedSeq htoldSeq)
      exact absurd (hnew hseq) hlt.ne
  · rw [htold]
    rw [htimedOut] at hseq
    exact h.timedOut acceptedSeq hseq

theorem accepting (h : Waiting s) (ha : Accepting s mutation patience s') : Waiting s' := by
  cases ha with
  | refused => exact { h with }
  | taken ht =>
    cases ht with
    | queued | enqueued => exact h.allotted rfl rfl rfl rfl rfl rfl

theorem told_send (gone : List ℕ) (message : RouterMessage) :
    (s.send gone message).told = s.told ++ gone.filter (· ∉ s.timedOut) := by
  simp [told, send, Function.comp_def]

theorem sent (h : Waiting s) {kept gone : List ℕ} (message : RouterMessage)
    (hkept : kept.Sublist s.waiters) (honce : gone.Nodup)
    (hsplit : ∀ acceptedSeq, acceptedSeq ∈ s.waiters ↔ acceptedSeq ∈ kept ∨ acceptedSeq ∈ gone)
    (hapart : ∀ acceptedSeq ∈ kept, acceptedSeq ∉ gone) :
    Waiting ({ s with waiters := kept }.send gone message) := by
  have htold : ({ s with waiters := kept }.send gone message).told =
      s.told ++ gone.filter (· ∉ s.timedOut) := told_send gone message
  have hgone {acceptedSeq : ℕ} (hseq : acceptedSeq ∈ gone.filter (· ∉ s.timedOut)) :
      acceptedSeq ∈ gone ∧ acceptedSeq ∉ s.timedOut := by
    simpa using hseq
  refine { h with
    waiters := hkept.trans h.waiters, oneAnswer := ?_, registered := fun acceptedSeq hseq => ?_,
    everyone := fun acceptedSeq hseq => ?_, untold := fun acceptedSeq hseq htoldSeq => ?_,
    timedOut := fun acceptedSeq hseq => ?_ }
  · rw [htold]
    refine List.nodup_append.mpr ⟨h.oneAnswer, honce.filter _, fun a ha b hb heq => ?_⟩
    subst heq
    obtain ⟨hin, hnot⟩ := hgone hb
    exact hnot (h.untold a ((hsplit a).mpr (Or.inr hin)) ha)
  · rw [htold] at hseq
    rcases List.mem_append.mp hseq with hseq | hseq
    · exact h.registered acceptedSeq hseq
    · exact h.waiters.subset ((hsplit acceptedSeq).mpr (Or.inr (hgone hseq).1))
  · rw [htold]
    rcases h.everyone acceptedSeq hseq with hwaits | htoldSeq
    · rcases (hsplit acceptedSeq).mp hwaits with hin | hin
      · exact Or.inl hin
      · by_cases htimedOut : acceptedSeq ∈ s.timedOut
        · exact Or.inr (List.mem_append_left _ (h.timedOut acceptedSeq htimedOut))
        · exact Or.inr (List.mem_append_right _ (by simpa using ⟨hin, htimedOut⟩))
    · exact Or.inr (List.mem_append_left _ htoldSeq)
  · rw [htold] at htoldSeq
    rcases List.mem_append.mp htoldSeq with htoldSeq | htoldSeq
    · exact h.untold acceptedSeq (hkept.subset hseq) htoldSeq
    · exact absurd (hgone htoldSeq).1 (hapart acceptedSeq hseq)
  · rw [htold]
    exact List.mem_append_left _ (h.timedOut acceptedSeq hseq)

theorem answered (h : Waiting s) (acceptedSeq : ℕ) (response : RouterMessage) :
    Waiting (s.answer acceptedSeq response) := by
  unfold answer
  split_ifs with hwaits
  · refine h.sent response List.filter_sublist (List.nodup_singleton _) (fun other => ?_)
      fun other hother => ?_
    · by_cases hother : other = acceptedSeq
      · simp [hother, hwaits]
      · simp [hother]
    · simpa using (List.mem_filter.mp hother).2
  · exact h

theorem drained (h : Waiting s) (kind : StopKind) : Waiting (s.drainWaiters kind) := by
  have honce := h.waiters.nodup h.once
  cases kind with
  | failStop message =>
    exact h.sent _ (List.nil_sublist _) honce (fun _ => by simp) fun _ hseq => by cases hseq
  | shutdown current =>
    refine h.sent _ List.filter_sublist (honce.filter _) (fun acceptedSeq => ?_)
      fun acceptedSeq hseq => ?_
    · by_cases hcurrent : some acceptedSeq = current
      · simp [hcurrent]
      · simp [hcurrent]
    · have hcurrent := (List.mem_filter.mp hseq).2
      simp only [decide_eq_true_eq] at hcurrent
      simp [hcurrent]

theorem gaveUp {acceptedSeq : ℕ} (h : Waiting s) (hwaits : acceptedSeq ∈ s.impatient)
    (hnone : acceptedSeq ∉ s.told) :
    Waiting { s with
      timedOut := s.timedOut ++ [acceptedSeq]
      seen := { s.seen with
        answers := s.seen.answers ++ [(acceptedSeq, responseUnavailable)] } } := by
  have htold : (s.seen.answers ++ [(acceptedSeq, responseUnavailable)]).map Prod.fst =
      s.told ++ [acceptedSeq] := by
    simp [told]
  refine { h with
    oneAnswer := ?_, registered := fun other hother => ?_, everyone := fun other hother => ?_,
    untold := fun other hother htoldOther => ?_, timedOut := fun other hother => ?_ }
  · rw [told, htold]
    refine List.nodup_append.mpr ⟨h.oneAnswer, List.nodup_singleton _, fun a ha b hb => ?_⟩
    rw [List.mem_singleton.mp hb]
    exact fun heq => hnone (heq ▸ ha)
  · rw [told, htold] at hother
    rcases List.mem_append.mp hother with hother | hother
    · exact h.registered other hother
    · rw [List.mem_singleton.mp hother]
      exact h.impatient acceptedSeq hwaits
  · rw [told, htold]
    exact (h.everyone other hother).imp id (List.mem_append_left _)
  · rw [told, htold] at htoldOther
    rcases List.mem_append.mp htoldOther with htoldOther | htoldOther
    · exact List.mem_append_left _ (h.untold other hother htoldOther)
    · exact List.mem_append_right _ htoldOther
  · rw [told, htold]
    rcases List.mem_append.mp hother with hother | hother
    · exact List.mem_append_left _ (h.timedOut other hother)
    · exact List.mem_append_right _ hother

theorem move (h : Waiting s) (hmove : Move s s') : Waiting s' := by
  cases hmove with
  | accept _ _ _ _ ha => exact h.accepting ha
  | forward completion _ ht =>
    have hreported : Waiting (s.reported completion.originalAcceptedSeq) := { h with }
    exact hreported.accepting (.taken ht)
  | giveUp acceptedSeq hwaits hnew hnone =>
    exact h.gaveUp hwaits hnone
  | finish m completion =>
    have hfinished : Waiting (s.finished m completion) := { h with }
    exact hfinished.answered _ _
  | answer m response => exact h.answered _ _
  | drain kind => exact { h.drained kind with }
  | _ => exact { h with }

end Waiting

/-- What a waiting thread may be told: the response of its own mutation, that it has waited too
long, or that the daemon stops. -/
def MayHear (s : ProductionV2Coordinator) (answer : ℕ × RouterMessage) : Prop :=
  answer ∈ s.seen.responses ∨
    answer.1 ∈ s.impatient ∧ answer.2 = responseUnavailable ∨
      ∃ kind, s.stop = some (kind, .finished) ∧ answer.2 = stopMessage kind

theorem MayHear.mono {answer : ℕ × RouterMessage} (h : MayHear s answer)
    (hresponses : s.seen.responses ⊆ s'.seen.responses) (himpatient : s.impatient ⊆ s'.impatient)
    (hstop : ∀ kind, s.stop = some (kind, .finished) → s'.stop = some (kind, .finished)) :
    MayHear s' answer :=
  h.imp (hresponses ·) (Or.imp (And.imp_left (himpatient ·)) fun ⟨kind, hkind, heq⟩ =>
    ⟨kind, hstop kind hkind, heq⟩)

def Truthful (s : ProductionV2Coordinator) : Prop :=
  ∀ answer ∈ s.seen.answers, MayHear s answer

namespace Truthful

theorem quiet (h : Truthful s) (hanswers : s'.seen.answers = s.seen.answers)
    (hresponses : s.seen.responses ⊆ s'.seen.responses) (himpatient : s.impatient ⊆ s'.impatient)
    (hstop : ∀ kind, s.stop = some (kind, .finished) → s'.stop = some (kind, .finished)) :
    Truthful s' := by
  intro answer hanswer
  rw [hanswers] at hanswer
  exact (h answer hanswer).mono hresponses himpatient hstop

theorem accepting (h : Truthful s) (ha : Accepting s mutation patience s') : Truthful s' := by
  cases ha with
  | refused => exact h
  | taken ht =>
    cases ht with
    | queued | enqueued =>
      exact h.quiet rfl (List.Subset.refl _) (List.subset_append_left _ _) fun _ => id

theorem sent {kept gone : List ℕ} {message : RouterMessage} (h : Truthful s)
    (hmessage : ∀ acceptedSeq ∈ gone, MayHear s (acceptedSeq, message)) :
    Truthful ({ s with waiters := kept }.send gone message) := by
  intro answer hanswer
  rcases List.mem_append.mp hanswer with hanswer | hanswer
  · exact h answer hanswer
  · obtain ⟨acceptedSeq, hseq, rfl⟩ := List.mem_map.mp hanswer
    exact hmessage acceptedSeq (List.mem_of_mem_filter hseq)

theorem answered {acceptedSeq : ℕ} {response : RouterMessage} (h : Truthful s)
    (hresponse : (acceptedSeq, response) ∈ s.seen.responses) :
    Truthful (s.answer acceptedSeq response) := by
  unfold answer
  split_ifs
  · refine h.sent fun other hother => Or.inl ?_
    rw [List.mem_singleton.mp hother]
    exact hresponse
  · exact h

theorem move (h : Truthful s) (heffects : Effects s) (hmove : Move s s') : Truthful s' := by
  cases hmove with
  | accept _ _ _ _ ha => exact h.accepting ha
  | forward completion _ ht =>
    have hreported : Truthful (s.reported completion.originalAcceptedSeq) := h
    exact hreported.accepting (.taken ht)
  | giveUp acceptedSeq hwaits =>
    intro answer hanswer
    rcases List.mem_append.mp hanswer with hanswer | hanswer
    · exact h answer hanswer
    · rw [List.mem_singleton.mp hanswer]
      exact Or.inr (Or.inl ⟨hwaits, rfl⟩)
  | finish m completion =>
    have hfinished : Truthful (s.finished m completion) :=
      h.quiet rfl (List.subset_append_left _ _) (List.Subset.refl _) fun _ => id
    exact hfinished.answered (List.mem_append_right _ (List.mem_singleton_self _))
  | applied m response =>
    refine h.quiet rfl ?_ (List.Subset.refl _) fun _ => id
    simp only [applied]
    split_ifs
    · exact List.Subset.refl _
    · exact List.subset_append_left _ _
  | answer m response hprogress hdone =>
    exact h.answered ((heffects.returned m response hprogress).2.resolve_left hdone)
  | beginStop kind hstop =>
    refine h.quiet rfl (List.Subset.refl _) (List.Subset.refl _) fun _ hfinished => ?_
    rw [hstop] at hfinished
    cases hfinished
  | markFatal kind hstop | clearQueue kind hstop =>
    refine h.quiet rfl (List.Subset.refl _) (List.Subset.refl _) fun _ hfinished => ?_
    rw [hstop] at hfinished
    cases hfinished
  | drain kind hstop =>
    have hstopped : Truthful { s with stop := some (kind, .finished) } := by
      refine h.quiet rfl (List.Subset.refl _) (List.Subset.refl _) fun _ hfinished => ?_
      rw [hstop] at hfinished
      cases hfinished
    cases kind with
    | failStop | shutdown => exact hstopped.sent fun _ _ => Or.inr (Or.inr ⟨_, rfl, rfl⟩)
  | _ => exact h

end Truthful

def unfinished (s : ProductionV2Coordinator) : List V2SequencedMutation :=
  s.progress.working ++ s.batch ++ s.router.bootstrapFifo ++ s.queue.items

structure Stopping (s : ProductionV2Coordinator) : Prop where
  /-- While stopping is under way the request that asked for it is being applied. -/
  graceful : ∀ acceptedSeq stage, s.stop = some (.shutdown (some acceptedSeq), stage) →
    stage ≠ .finished → ∃ m, s.progress = .applying m ∧ m.acceptedSeq = acceptedSeq ∧
      isShutdownRequest m.mutation = true
  /-- After it only that request is answered. -/
  last : ∀ kind, s.stop = some (kind, .finished) → s.applier ≠ .failed →
    ∀ acceptedSeq ∈ s.waiters, ∃ m ∈ s.progress.working, m.acceptedSeq = acceptedSeq ∧
      isShutdownRequest m.mutation = true
  /-- Before it whoever waits waits for a mutation that is not done. -/
  waits : s.shutdown = false → s.applier ≠ .failed → ∀ acceptedSeq ∈ s.waiters,
    acceptedSeq ∈ s.deferredResponses ∨ ∃ m ∈ s.unfinished, m.acceptedSeq = acceptedSeq

namespace Stopping

theorem same (h : Stopping s) (hstop : s'.stop = s.stop) (hwaiters : s'.waiters ⊆ s.waiters)
    (hprogress : ∀ m, s.progress = .applying m → s'.progress = .applying m)
    (hworking : ∀ m, m ∈ s.progress.working → m ∈ s'.progress.working)
    (hfailed : s'.applier ≠ .failed → s.applier ≠ .failed)
    (hopen : s'.shutdown = false → s.shutdown = false)
    (hdeferred : s.deferredResponses ⊆ s'.deferredResponses)
    (hunfinished : s.unfinished ⊆ s'.unfinished) : Stopping s' := by
  refine ⟨fun acceptedSeq stage hs hstage => ?_, fun kind hs ha acceptedSeq hseq => ?_,
    fun hs ha acceptedSeq hseq => ?_⟩
  · obtain ⟨m, hm, hrest⟩ := h.graceful acceptedSeq stage (hstop ▸ hs) hstage
    exact ⟨m, hprogress m hm, hrest⟩
  · obtain ⟨m, hm, hrest⟩ := h.last kind (hstop ▸ hs) (hfailed ha) acceptedSeq (hwaiters hseq)
    exact ⟨m, hworking m hm, hrest⟩
  · refine (h.waits (hopen hs) (hfailed ha) acceptedSeq (hwaiters hseq)).imp (hdeferred ·) ?_
    exact fun ⟨m, hm, hseq⟩ => ⟨m, hunfinished hm, hseq⟩

theorem shutdown_exclusive {mutation : V2AcceptedMutation}
    (h : isShutdownRequest mutation = true) : isSidebarCommand mutation = false ∧
      finishedEffect mutation = none := by
  cases mutation with
  | external message =>
    have hkind : message.kind = some .shutdown := by simpa [isShutdownRequest] using h
    simp [isSidebarCommand, hkind, finishedEffect]
  | internal => cases h

theorem taken (h : Stopping s) (hphases : Phases s)
    (hopen : patience ≠ .silent → s.shutdown = false) (ht : Taken s mutation patience s') :
    Stopping s' := by
  have hwaiters : s'.waiters = s.waiters ++ patience.registers s.router.nextAcceptedSeq := by
    cases ht with
    | queued | enqueued => rfl
  have hunfinished (m : V2SequencedMutation) : m ∈ s'.unfinished ↔
      m ∈ s.unfinished ∨ m = s.nextSequenced mutation := by
    cases ht with
    | queued => simp [unfinished, queued, allotted, or_assoc, or_left_comm, or_comm]
    | enqueued => simp [unfinished, enqueued, allotted, V2Router.allocated, or_assoc]
  have hsame : s'.stop = s.stop ∧ s'.progress = s.progress ∧ s'.applier = s.applier ∧
      s'.shutdown = s.shutdown ∧ s'.deferredResponses = s.deferredResponses := by
    cases ht with
    | queued | enqueued => exact ⟨rfl, rfl, rfl, rfl, rfl⟩
  obtain ⟨hstop, hprogress, happlier, hshutdown, hdeferred⟩ := hsame
  refine ⟨?_, fun kind hs ha acceptedSeq hseq => ?_, fun hs ha acceptedSeq hseq => ?_⟩
  · rw [hstop, hprogress]
    exact h.graceful
  · have hsilent : patience = .silent := by
      by_contra hpatience
      have hflagged := hphases.flagged _ (hstop ▸ hs)
      rw [hopen hpatience] at hflagged
      cases hflagged
    rw [hwaiters, hsilent, Patience.registers, List.append_nil] at hseq
    rw [hprogress]
    exact h.last kind (hstop ▸ hs) (happlier ▸ ha) acceptedSeq hseq
  · rw [hdeferred]
    rw [hwaiters] at hseq
    rcases List.mem_append.mp hseq with hseq | hseq
    · refine (h.waits (hshutdown ▸ hs) (happlier ▸ ha) acceptedSeq hseq).imp id fun hwaits => ?_
      obtain ⟨m, hm, hrest⟩ := hwaits
      exact ⟨m, (hunfinished m).mpr (Or.inl hm), hrest⟩
    · refine Or.inr ⟨s.nextSequenced mutation, (hunfinished _).mpr (Or.inr rfl), ?_⟩
      cases patience with
      | silent => cases hseq
      | patient | impatient => exact (List.mem_singleton.mp hseq).symm

theorem mem_waiters_answer {acceptedSeq other : ℕ} {response : RouterMessage} :
    other ∈ (s.answer acceptedSeq response).waiters ↔ other ∈ s.waiters ∧ other ≠ acceptedSeq := by
  unfold answer
  split_ifs with hwaits
  · simp [send]
  · refine ⟨fun hother => ⟨hother, ?_⟩, And.left⟩
    rintro rfl
    exact hwaits hother

theorem begun {kind : StopKind} (hstoppable : s.stoppable kind = true) :
    Stopping { s with shutdown := true, stop := some (kind, .flagged) } := by
  refine ⟨fun acceptedSeq stage hs hstage => ?_, nofun, nofun⟩
  obtain ⟨rfl, rfl⟩ := Prod.mk.inj (Option.some.inj hs)
  simp only [stoppable] at hstoppable
  split at hstoppable
  · rename_i m hprogress
    obtain ⟨hrequest, heq⟩ := Bool.and_eq_true_iff.mp hstoppable
    exact ⟨m, hprogress, beq_iff_eq.mp heq, hrequest⟩
  · cases hstoppable

theorem advanced {kind : StopKind} {stage stage' : StopStage} (h : Stopping s)
    (hphases : Phases s) (hstop : s.stop = some (kind, stage)) (hstage : stage ≠ .finished)
    (hstop' : s'.stop = some (kind, stage')) (hprogress : s'.progress = s.progress)
    (hshutdown : s'.shutdown = s.shutdown)
    (hlast : stage' = .finished → ∀ acceptedSeq ∈ s'.waiters, kind = .shutdown (some acceptedSeq)) :
    Stopping s' := by
  have hflagged : s'.shutdown = true := hshutdown.trans (hphases.flagged _ hstop)
  refine ⟨fun acceptedSeq stage'' hs _ => ?_, fun kind' hs _ acceptedSeq hseq => ?_,
    fun hs => ?_⟩
  · rw [hstop'] at hs
    obtain ⟨rfl, rfl⟩ := Prod.mk.inj (Option.some.inj hs)
    rw [hprogress]
    exact h.graceful acceptedSeq stage hstop hstage
  · rw [hstop'] at hs
    obtain ⟨rfl, rfl⟩ := Prod.mk.inj (Option.some.inj hs)
    obtain rfl := hlast rfl acceptedSeq hseq
    obtain ⟨m, hm, hrest⟩ := h.graceful acceptedSeq stage hstop hstage
    refine ⟨m, ?_, hrest⟩
    rw [hprogress, hm]
    exact List.mem_singleton_self m
  · rw [hflagged] at hs
    cases hs

theorem finished {m : V2SequencedMutation} {completion : SidebarEffectCompletion} (h : Stopping s)
    (hprogress : s.progress = .applying m)
    (hfinished : finishedEffect m.mutation = some completion) :
    Stopping ((s.finished m completion).answer completion.originalAcceptedSeq
      completion.originalResponse) := by
  have hsame : ∀ s' : ProductionV2Coordinator, s' = (s.finished m completion).answer
      completion.originalAcceptedSeq completion.originalResponse → s'.stop = s.stop ∧
        s'.progress = .effectFinished m ∧ s'.applier = s.applier ∧ s'.shutdown = s.shutdown ∧
        s'.unfinished = s.unfinished ∧ s'.deferredResponses =
          s.deferredResponses.filter (· ≠ completion.originalAcceptedSeq) := by
    rintro s' rfl
    unfold answer
    split_ifs
    all_goals simp [send, ProductionV2Coordinator.finished, unfinished, Progress.working, hprogress]
  obtain ⟨hstop, hprogress', happlier, hshutdown, hunfinished, hdeferred⟩ := hsame _ rfl
  refine ⟨fun acceptedSeq stage hs hstage => ?_, fun kind hs ha acceptedSeq hseq => ?_,
    fun hs ha acceptedSeq hseq => ?_⟩
  · obtain ⟨m', hm', -, hrequest⟩ := h.graceful acceptedSeq stage (hstop ▸ hs) hstage
    rw [hprogress] at hm'
    cases hm'
    rw [(shutdown_exclusive hrequest).2] at hfinished
    cases hfinished
  · obtain ⟨m', hm', hrest⟩ := h.last kind (hstop ▸ hs) (happlier ▸ ha) acceptedSeq
      (mem_waiters_answer.mp hseq).1
    rw [hprogress] at hm'
    exact ⟨m', hprogress' ▸ hm', hrest⟩
  · obtain ⟨hin, hne⟩ := mem_waiters_answer.mp hseq
    rw [hunfinished, hdeferred]
    refine (h.waits (hshutdown ▸ hs) (happlier ▸ ha) acceptedSeq hin).imp (fun hd => ?_) id
    exact List.mem_filter.mpr ⟨hd, by simpa using hne⟩

theorem returns {m : V2SequencedMutation} (h : Stopping s) (response : RouterMessage)
    (hprogress : s.progress = .applying m ∧ finishedEffect m.mutation = none ∧
      s.returnable m = true ∨ s.progress = .effectFinished m) : Stopping (s.applied m response) := by
  have hworking : s.progress.working = [m] := by
    rcases hprogress with ⟨hprogress, -⟩ | hprogress
    all_goals rw [hprogress, Progress.working]
  refine ⟨fun acceptedSeq stage hs hstage => ?_, fun kind hs ha acceptedSeq hseq => ?_,
    fun hs ha acceptedSeq hseq => ?_⟩
  · have hstop : s.stop = some (.shutdown (some acceptedSeq), stage) := hs
    obtain ⟨m', hm', rfl, -⟩ := h.graceful acceptedSeq stage hstop hstage
    rcases hprogress with ⟨hprogress, -, hreturnable⟩ | hprogress
    · rw [hprogress] at hm'
      cases hm'
      simp [returnable, hstop, hstage] at hreturnable
    · rw [hprogress] at hm'
      cases hm'
  · obtain ⟨m', hm', hrest⟩ := h.last kind hs ha acceptedSeq hseq
    rw [hworking] at hm'
    exact ⟨m', hm', hrest⟩
  · have hunfinished : (s.applied m response).unfinished = s.unfinished := by
      rw [unfinished, unfinished, hworking]
      rfl
    rw [hunfinished]
    exact h.waits hs ha acceptedSeq hseq

theorem completed {m : V2SequencedMutation} {response : RouterMessage} (h : Stopping s)
    (horder : Order s) (heffects : Effects s) (hprogress : s.progress = .returned m response)
    (hdone : m.acceptedSeq ∈ s.deferredResponses ∨ m.acceptedSeq ∉ s.waiters) :
    Stopping (s.settled m) := by
  refine ⟨fun acceptedSeq stage hs hstage => ?_, fun kind hs ha acceptedSeq hseq => ?_,
    fun hs ha acceptedSeq hseq => ?_⟩
  · obtain ⟨m', hm', -⟩ := h.graceful acceptedSeq stage hs hstage
    rw [hprogress] at hm'
    cases hm'
  · exfalso
    obtain ⟨m', hm', rfl, hrequest⟩ := h.last kind hs ha acceptedSeq hseq
    rw [hprogress] at hm'
    obtain rfl := List.mem_singleton.mp hm'
    have hdeferred := hdone.resolve_right (not_not.mpr hseq)
    obtain ⟨m₂, heq, hcommand, happlied⟩ := heffects.command _ hdeferred
    rw [hprogress] at happlied
    have hm₂ := happlied.resolve_right nofun
    obtain rfl := horder.applied_unique hm₂ (heffects.returned _ _ hprogress).1 heq
    rw [(shutdown_exclusive hrequest).1] at hcommand
    cases hcommand
  · rcases h.waits hs ha acceptedSeq hseq with hdeferred | ⟨m', hm', rfl⟩
    · exact Or.inl hdeferred
    · simp only [unfinished, hprogress, Progress.working, List.cons_append, List.nil_append,
        List.append_assoc, List.mem_cons] at hm'
      rcases hm' with rfl | hm'
      · exact Or.inl (hdone.resolve_right (not_not.mpr hseq))
      · refine Or.inr ⟨m', ?_, rfl⟩
        simp only [unfinished, settled, List.append_assoc]
        exact List.mem_append_right _ hm'

theorem move (h : Stopping s) (hphases : Phases s) (horder : Order s) (heffects : Effects s)
    (hmove : Move s s') : Stopping s' := by
  have hsubset {l : List ℕ} : l ⊆ l := List.Subset.refl l
  cases hmove with
  | accept _ _ hopen _ ha =>
    cases ha with
    | refused => exact { h with }
    | taken ht => exact h.taken hphases hopen ht
  | forward completion _ ht =>
    have hreported : Stopping (s.reported completion.originalAcceptedSeq) := { h with }
    have hphases' : Phases (s.reported completion.originalAcceptedSeq) := { hphases with }
    exact hreported.taken hphases' (fun hsilent => absurd rfl hsilent) ht
  | giveUp | forwardFailed | hydrate => exact { h with }
  | takeFifo queued happlier =>
    obtain ⟨hbatch, -⟩ := hphases.ready _ _ happlier nofun
    refine h.same rfl hsubset (fun _ => id) (fun _ => id) (fun _ => ?_) id hsubset ?_
    · rw [happlier]
      exact nofun
    · simp [unfinished, hbatch]
  | turn queued queued' point happlier | goBack queued happlier | serve queued happlier =>
    refine h.same rfl hsubset (fun _ => id) (fun _ => id) (fun _ => ?_) id hsubset
      (List.Subset.refl _)
    rw [happlier]
    exact nofun
  | fail point queued happlier hidle =>
    refine ⟨fun acceptedSeq stage hs hstage => ?_, fun _ _ hfailed => absurd rfl hfailed,
      fun _ hfailed => absurd rfl hfailed⟩
    obtain ⟨m, hm, -⟩ := h.graceful acceptedSeq stage hs hstage
    rcases hidle with hidle | ⟨m', response, hidle⟩
    all_goals
      rw [hidle] at hm
      cases hm
  | popBatch queued m batch happlier hidle hbatch =>
    refine h.same rfl hsubset (fun m' hm' => ?_) (fun m' hm' => ?_) id id hsubset ?_
    · rw [hidle] at hm'
      cases hm'
    · rw [hidle] at hm'
      cases hm'
    · simp [unfinished, hidle, hbatch, Progress.working]
  | popQueue m items happlier hidle hitems =>
    obtain ⟨hfifo, hbatch⟩ := hphases.late (hphases.phase.mp happlier)
    refine h.same rfl hsubset (fun m' hm' => ?_) (fun m' hm' => ?_) id id hsubset ?_
    · rw [hidle] at hm'
      cases hm'
    · rw [hidle] at hm'
      cases hm'
    · simp [unfinished, hidle, hbatch, hfifo, hitems, Progress.working]
  | defer m =>
    exact h.same rfl hsubset (fun _ => id) (fun _ => id) id id (List.subset_append_left _ _)
      (List.Subset.refl _)
  | finish m completion hprogress hfinished => exact h.finished hprogress hfinished
  | applied m response hprogress => exact h.returns response hprogress
  | answer m response =>
    have hwaiters : (s.answer m.acceptedSeq response).waiters ⊆ s.waiters :=
      fun _ hseq => (mem_waiters_answer.mp hseq).1
    revert hwaiters
    unfold answer
    split_ifs
    · intro hwaiters
      exact h.same rfl hwaiters (fun _ => id) (fun _ => id) id id hsubset (List.Subset.refl _)
    · exact fun _ => h
  | complete m response hprogress hdone => exact h.completed horder heffects hprogress hdone
  | release m hprogress =>
    refine h.same rfl hsubset (fun m' hm' => ?_) (fun m' hm' => ?_) id id hsubset ?_
    · rw [hprogress] at hm'
      cases hm'
    · rw [hprogress] at hm'
      cases hm'
    · simp [unfinished, hprogress, Progress.working]
  | beginStop kind _ hstoppable => exact begun hstoppable
  | markFatal kind hstop | clearQueue kind hstop =>
    exact h.advanced hphases hstop nofun rfl rfl rfl nofun
  | drain kind hstop =>
    cases kind with
    | failStop message =>
      exact h.advanced hphases hstop nofun rfl rfl rfl fun _ _ hseq => by cases hseq
    | shutdown current =>
      refine h.advanced hphases hstop nofun rfl rfl rfl fun _ acceptedSeq hseq => ?_
      have hcurrent : some acceptedSeq = current := by simpa using (List.mem_filter.mp hseq).2
      exact congrArg StopKind.shutdown hcurrent.symm

end Stopping

end ProductionV2Coordinator

end VdeTmux.Daemon
