import VdeTmux.Daemon.MutationOrder

/-!
# Deferred responses

A sidebar command is answered when the effect it asked for is finished: once, and not by the thread
that applied it.
-/

open Foundation VdeTmux.Pane
namespace VdeTmux.Daemon

namespace ProductionV2Coordinator
variable {s s' : ProductionV2Coordinator} {mutation : V2AcceptedMutation} {patience : Patience}

def awaited (s : ProductionV2Coordinator) : List ℕ :=
  (s.progress.unanswered ++ s.batch ++ s.router.bootstrapFifo ++ s.queue.items).filterMap
    fun m => (finishedEffect m.mutation).map SidebarEffectCompletion.originalAcceptedSeq

structure Effects (s : ProductionV2Coordinator) : Prop where
  command : ∀ acceptedSeq ∈ s.deferredResponses, ∃ m, m.acceptedSeq = acceptedSeq ∧
    isSidebarCommand m.mutation = true ∧ (m ∈ s.seen.applied ∨ s.progress = .applying m)
  deferred : ∀ acceptedSeq ∈ s.sidebarJobs ++ s.awaited, acceptedSeq ∈ s.deferredResponses
  once : (s.sidebarJobs ++ s.awaited).Nodup
  fresh : ∀ response ∈ s.seen.responses, response.1 ∉ s.deferredResponses
  applied : ∀ response ∈ s.seen.responses, ∃ m ∈ s.seen.applied, m.acceptedSeq = response.1
  oneResponse : (s.seen.responses.map Prod.fst).Nodup
  returned : ∀ m response, s.progress = .returned m response → m ∈ s.seen.applied ∧
    (m.acceptedSeq ∈ s.deferredResponses ∨ (m.acceptedSeq, response) ∈ s.seen.responses)
  tracked : s.shutdown = false → s.applier ≠ .failed → s.forwarderFailed = false →
    ∀ acceptedSeq ∈ s.deferredResponses, acceptedSeq ∈ s.sidebarJobs ++ s.awaited

namespace Effects

theorem fewer (h : Effects s) (hdeferred : s'.deferredResponses = s.deferredResponses)
    (hjobs : s'.sidebarJobs.Sublist s.sidebarJobs) (hawaited : s'.awaited.Sublist s.awaited)
    (hresponses : s'.seen.responses = s.seen.responses) (happlied : s'.seen.applied = s.seen.applied)
    (happlying : ∀ m, s.progress = .applying m → s'.progress = .applying m)
    (hreturned : ∀ m response, s'.progress = .returned m response →
      s.progress = .returned m response)
    (htracked : s'.shutdown = false → s'.applier ≠ .failed → s'.forwarderFailed = false →
      s'.sidebarJobs = s.sidebarJobs ∧ s'.awaited = s.awaited ∧ s.shutdown = false ∧
        s.applier ≠ .failed ∧ s.forwarderFailed = false) : Effects s' where
  command acceptedSeq hseq := by
    rw [hdeferred] at hseq
    obtain ⟨m, hm, hcommand, hwhere⟩ := h.command acceptedSeq hseq
    exact ⟨m, hm, hcommand, hwhere.imp (happlied ▸ ·) (happlying m)⟩
  deferred acceptedSeq hseq := by
    rw [hdeferred]
    exact h.deferred acceptedSeq ((hjobs.append hawaited).subset hseq)
  once := h.once.sublist (hjobs.append hawaited)
  fresh := by rw [hresponses, hdeferred]; exact h.fresh
  applied := by rw [hresponses, happlied]; exact h.applied
  oneResponse := by rw [hresponses]; exact h.oneResponse
  returned m response hprogress := by
    rw [hresponses, happlied, hdeferred]
    exact h.returned m response (hreturned m response hprogress)
  tracked hs ha hf := by
    obtain ⟨hjobs, hawaited, hs, ha, hf⟩ := htracked hs ha hf
    rw [hdeferred, hjobs, hawaited]
    exact h.tracked hs ha hf

theorem same (h : Effects s) (hdeferred : s'.deferredResponses = s.deferredResponses)
    (hjobs : s'.sidebarJobs = s.sidebarJobs) (hawaited : s'.awaited = s.awaited)
    (hresponses : s'.seen.responses = s.seen.responses) (happlied : s'.seen.applied = s.seen.applied)
    (happlying : ∀ m, s.progress = .applying m → s'.progress = .applying m)
    (hreturned : ∀ m response, s'.progress = .returned m response →
      s.progress = .returned m response)
    (hopen : s'.shutdown = false → s.shutdown = false)
    (hfailed : s'.applier ≠ .failed → s.applier ≠ .failed)
    (hforwarder : s'.forwarderFailed = s.forwarderFailed) : Effects s' :=
  h.fewer hdeferred (hjobs ▸ List.Sublist.refl _) (hawaited ▸ List.Sublist.refl _) hresponses
    happlied happlying hreturned
    fun hs ha hf => ⟨hjobs, hawaited, hopen hs, hfailed ha, hforwarder ▸ hf⟩

theorem awaited_bootstrapFailed : s.bootstrapFailed.awaited.Sublist s.awaited := by
  unfold awaited
  refine List.Sublist.filterMap _ ?_
  simp [bootstrapFailed, Progress.unanswered]

theorem awaited_cleared {queue : ProductionQueue} (hqueue : queue.items = [])
    {stop : Option (StopKind × StopStage)} :
    { s with queue := queue, stop := stop }.awaited.Sublist s.awaited := by
  unfold awaited
  refine List.Sublist.filterMap _ ?_
  simp [hqueue]

theorem awaited_queued (h : s.queue.items = []) : (s.queued mutation patience).awaited =
    s.awaited ++ ((finishedEffect mutation).map
      SidebarEffectCompletion.originalAcceptedSeq).toList := by
  cases hfinished : finishedEffect mutation with
  | none | some => simp [awaited, queued, allotted, nextSequenced, h, hfinished]

theorem awaited_enqueued : (s.enqueued mutation patience).awaited =
    s.awaited ++ ((finishedEffect mutation).map
      SidebarEffectCompletion.originalAcceptedSeq).toList := by
  cases hfinished : finishedEffect mutation with
  | none | some =>
    simp [awaited, enqueued, allotted, V2Router.allocated, nextSequenced, hfinished]

theorem awaited_taken (hphases : Phases s) (ht : Taken s mutation patience s') :
    s'.awaited = s.awaited ++ ((finishedEffect mutation).map
      SidebarEffectCompletion.originalAcceptedSeq).toList := by
  cases ht with
  | queued hphase => exact awaited_queued (hphases.early hphase)
  | enqueued => exact awaited_enqueued

theorem accepting (h : Effects s) (hphases : Phases s) (hproducible : finishedEffect mutation = none)
    (ha : Accepting s mutation patience s') : Effects s' := by
  cases ha with
  | refused => exact { h with }
  | taken ht =>
    have hawaited := awaited_taken hphases ht
    rw [hproducible, Option.map_none, Option.toList_none, List.append_nil] at hawaited
    cases ht with
    | queued | enqueued =>
      exact h.same rfl rfl hawaited rfl rfl (fun _ => id) (fun _ _ => id) id id rfl

theorem answered (h : Effects s) (acceptedSeq : ℕ) (response : RouterMessage) :
    Effects (s.answer acceptedSeq response) := by
  unfold answer
  split_ifs
  · exact { h with }
  · exact h

theorem forwarded {completion : SidebarEffectCompletion} (h : Effects s) (hphases : Phases s)
    (hjob : completion.originalAcceptedSeq ∈ s.sidebarJobs)
    (ht : Taken (s.reported completion.originalAcceptedSeq)
      (.internal (.sidebarEffectCompleted completion)) .silent s') : Effects s' := by
  have hreported : Phases (s.reported completion.originalAcceptedSeq) := { hphases with }
  have hawaited : s'.awaited = s.awaited ++ [completion.originalAcceptedSeq] :=
    awaited_taken hreported ht
  have hjobs : s'.sidebarJobs = s.sidebarJobs.filter (· ≠ completion.originalAcceptedSeq) := by
    cases ht with
    | queued | enqueued => rfl
  have hmem (acceptedSeq : ℕ) : acceptedSeq ∈ s'.sidebarJobs ++ s'.awaited ↔
      acceptedSeq ∈ s.sidebarJobs ++ s.awaited := by
    rw [hawaited, hjobs]
    by_cases hseq : acceptedSeq = completion.originalAcceptedSeq
    · simp [hseq, hjob]
    · simp [hseq]
  obtain ⟨hjobsOnce, hawaitedOnce, hapart⟩ := List.nodup_append.mp h.once
  have honce : (s'.sidebarJobs ++ s'.awaited).Nodup := by
    rw [hawaited, hjobs]
    refine List.nodup_append.mpr ⟨hjobsOnce.filter _, List.nodup_append.mpr ⟨hawaitedOnce,
      List.nodup_singleton _, ?_⟩, ?_⟩
    · intro a ha b hb
      rw [List.mem_singleton.mp hb]
      exact (hapart _ hjob a ha).symm
    · intro a ha b hb
      obtain ⟨hin, hne⟩ := List.mem_filter.mp ha
      rcases List.mem_append.mp hb with hb | hb
      · exact hapart a hin b hb
      · rw [List.mem_singleton.mp hb]
        simpa using hne
  cases ht with
  | queued | enqueued =>
    exact { h with
      deferred := fun acceptedSeq hseq => h.deferred acceptedSeq ((hmem acceptedSeq).mp hseq)
      once := honce
      tracked := fun hs ha hf acceptedSeq hseq =>
        (hmem acceptedSeq).mpr (h.tracked hs ha hf acceptedSeq hseq) }

theorem put_off {m : V2SequencedMutation} (h : Effects s) (horder : Order s)
    (hprogress : s.progress = .applying m) (hcommand : isSidebarCommand m.mutation = true)
    (hnew : m.acceptedSeq ∉ s.deferredResponses) :
    Effects { s with
      deferredResponses := s.deferredResponses ++ [m.acceptedSeq]
      sidebarJobs := s.sidebarJobs ++ [m.acceptedSeq] } := by
  have hpending : m ∈ s.progress.pending := by simp [hprogress, Progress.pending]
  have hpermutation : (s.sidebarJobs ++ [m.acceptedSeq] ++ s.awaited).Perm
      (m.acceptedSeq :: (s.sidebarJobs ++ s.awaited)) := by
    rw [List.append_assoc]
    exact List.perm_middle
  have hmem (acceptedSeq : ℕ) : acceptedSeq ∈ s.sidebarJobs ++ [m.acceptedSeq] ++ s.awaited ↔
      acceptedSeq = m.acceptedSeq ∨ acceptedSeq ∈ s.sidebarJobs ++ s.awaited := by
    rw [hpermutation.mem_iff, List.mem_cons]
  refine { h with
    command := fun acceptedSeq hseq => ?_, deferred := fun acceptedSeq hseq => ?_, once := ?_,
    fresh := fun response hresponse hseq => ?_, returned := fun m' response hreturned => ?_,
    tracked := fun hs ha hf acceptedSeq hseq => (hmem acceptedSeq).mpr ?_ }
  · rcases List.mem_append.mp hseq with hseq | hseq
    · exact h.command acceptedSeq hseq
    · exact ⟨m, (List.mem_singleton.mp hseq).symm, hcommand, Or.inr hprogress⟩
  · rcases (hmem acceptedSeq).mp hseq with rfl | hseq
    · exact List.mem_append_right _ (List.mem_singleton_self _)
    · exact List.mem_append_left _ (h.deferred acceptedSeq hseq)
  · exact hpermutation.nodup_iff.mpr
      (List.nodup_cons.mpr ⟨fun hseq => hnew (h.deferred _ hseq), h.once⟩)
  · rcases List.mem_append.mp hseq with hseq | hseq
    · exact h.fresh response hresponse hseq
    · obtain ⟨m', hm', heq⟩ := h.applied response hresponse
      exact horder.not_applied hpending hm' (heq.trans (List.mem_singleton.mp hseq))
  · have hidle : s.progress = .returned m' response := hreturned
    rw [hprogress] at hidle
    cases hidle
  · rcases List.mem_append.mp hseq with hseq | hseq
    · exact Or.inr (h.tracked hs ha hf acceptedSeq hseq)
    · exact Or.inl (List.mem_singleton.mp hseq)

theorem not_command {mutation : V2AcceptedMutation} {completion : SidebarEffectCompletion}
    (h : finishedEffect mutation = some completion) : isSidebarCommand mutation = false := by
  cases mutation with
  | external => cases h
  | internal => rfl

theorem finished {m : V2SequencedMutation} {completion : SidebarEffectCompletion} (h : Effects s)
    (hprogress : s.progress = .applying m)
    (hfinished : finishedEffect m.mutation = some completion) :
    Effects (s.finished m completion) := by
  have hawaited : s.awaited = completion.originalAcceptedSeq :: (s.finished m completion).awaited := by
    simp [awaited, ProductionV2Coordinator.finished, hprogress, Progress.unanswered, hfinished]
  have hmem (acceptedSeq : ℕ) : acceptedSeq ∈ s.sidebarJobs ++ s.awaited ↔
      acceptedSeq = completion.originalAcceptedSeq ∨
        acceptedSeq ∈ s.sidebarJobs ++ (s.finished m completion).awaited := by
    rw [hawaited, List.perm_middle.mem_iff, List.mem_cons]
  have honce := h.once
  rw [hawaited, List.perm_middle.nodup_iff, List.nodup_cons] at honce
  have hdeferred := h.deferred _ ((hmem _).mpr (Or.inl rfl))
  have hcommand (acceptedSeq : ℕ) (hseq : acceptedSeq ∈ s.deferredResponses) :
      ∃ m ∈ s.seen.applied, m.acceptedSeq = acceptedSeq ∧ isSidebarCommand m.mutation = true := by
    obtain ⟨m', hm', hcommand, happlied | happlying⟩ := h.command acceptedSeq hseq
    · exact ⟨m', happlied, hm', hcommand⟩
    · rw [hprogress] at happlying
      cases happlying
      rw [not_command hfinished] at hcommand
      cases hcommand
  refine ⟨fun acceptedSeq hseq => ?_, fun acceptedSeq hseq => ?_, honce.2,
    fun response hresponse hseq => ?_, fun response hresponse => ?_, ?_,
    fun _ _ hreturned => (by cases hreturned), fun hs ha hf acceptedSeq hseq => ?_⟩
  · obtain ⟨m', happlied, hm', hm''⟩ := hcommand acceptedSeq (List.mem_of_mem_filter hseq)
    exact ⟨m', hm', hm'', Or.inl happlied⟩
  · refine List.mem_filter.mpr ⟨h.deferred acceptedSeq ((hmem acceptedSeq).mpr (Or.inr hseq)), ?_⟩
    simp only [decide_not, Bool.not_eq_true', decide_eq_false_iff_not]
    rintro rfl
    exact honce.1 hseq
  · obtain ⟨hin, hne⟩ := List.mem_filter.mp hseq
    rcases List.mem_append.mp hresponse with hresponse | hresponse
    · exact h.fresh response hresponse hin
    · rw [List.mem_singleton.mp hresponse] at hne
      simp at hne
  · rcases List.mem_append.mp hresponse with hresponse | hresponse
    · exact h.applied response hresponse
    · obtain ⟨m', happlied, hm', -⟩ := hcommand _ hdeferred
      rw [List.mem_singleton.mp hresponse]
      exact ⟨m', happlied, hm'⟩
  · have hnew : completion.originalAcceptedSeq ∉ s.seen.responses.map Prod.fst := by
      intro hseq
      obtain ⟨response, hresponse, heq⟩ := List.mem_map.mp hseq
      exact h.fresh response hresponse (heq ▸ hdeferred)
    simp only [ProductionV2Coordinator.finished, List.map_append, List.map_cons, List.map_nil]
    refine List.nodup_append.mpr ⟨h.oneResponse, List.nodup_singleton _, fun a ha b hb => ?_⟩
    rw [List.mem_singleton.mp hb]
    exact fun heq => hnew (heq ▸ ha)
  · obtain ⟨hin, hne⟩ := List.mem_filter.mp hseq
    rcases (hmem acceptedSeq).mp (h.tracked hs ha hf acceptedSeq hin) with rfl | hseq
    · simp at hne
    · exact hseq

theorem returns {m : V2SequencedMutation} (h : Effects s) (horder : Order s)
    (response : RouterMessage) (hprogress : s.progress = .applying m ∧
      finishedEffect m.mutation = none ∧ s.returnable m = true ∨ s.progress = .effectFinished m) :
    Effects (s.applied m response) := by
  have hpending : m ∈ s.progress.pending := by
    rcases hprogress with ⟨hprogress, -⟩ | hprogress
    all_goals simp [hprogress, Progress.pending]
  have hawaited : (s.applied m response).awaited = s.awaited := by
    rcases hprogress with ⟨hprogress, hfinished, -⟩ | hprogress
    · simp [awaited, ProductionV2Coordinator.applied, hprogress, Progress.unanswered, hfinished]
    · simp [awaited, ProductionV2Coordinator.applied, hprogress, Progress.unanswered]
  have hmem (m' : V2SequencedMutation) : m' ∈ (s.applied m response).seen.applied ↔
      m' ∈ s.seen.applied ∨ m' = m := by
    simp [ProductionV2Coordinator.applied]
  have happlying (m' : V2SequencedMutation) (h' : s.progress = .applying m') : m' = m := by
    rcases hprogress with ⟨hprogress, -⟩ | hprogress
    all_goals
      rw [hprogress] at h'
      cases h'
    rfl
  have hresponses (answer : ℕ × RouterMessage)
      (hanswer : answer ∈ (s.applied m response).seen.responses) : answer ∈ s.seen.responses ∨
        answer = (m.acceptedSeq, response) ∧ m.acceptedSeq ∉ s.deferredResponses := by
    simp only [ProductionV2Coordinator.applied] at hanswer
    split_ifs at hanswer with hdeferred
    · exact Or.inl hanswer
    · exact (List.mem_append.mp hanswer).imp id fun h => ⟨List.mem_singleton.mp h, hdeferred⟩
  refine ⟨fun acceptedSeq hseq => ?_, ?_, ?_, fun answer hanswer => ?_, fun answer hanswer => ?_,
    ?_, fun m' response' hreturned => ?_, fun hs ha hf => ?_⟩
  · obtain ⟨m', hm', hcommand, happlied⟩ := h.command acceptedSeq hseq
    exact ⟨m', hm', hcommand, Or.inl ((hmem m').mpr (happlied.imp id (happlying m')))⟩
  · rw [hawaited]
    exact h.deferred
  · rw [hawaited]
    exact h.once
  · rcases hresponses answer hanswer with hanswer | ⟨rfl, hdeferred⟩
    · exact h.fresh answer hanswer
    · exact hdeferred
  · rcases hresponses answer hanswer with hanswer | ⟨rfl, -⟩
    · obtain ⟨m', happlied, heq⟩ := h.applied answer hanswer
      exact ⟨m', (hmem m').mpr (Or.inl happlied), heq⟩
    · exact ⟨m, (hmem m).mpr (Or.inr rfl), rfl⟩
  · simp only [ProductionV2Coordinator.applied]
    split_ifs
    · exact h.oneResponse
    · simp only [List.map_append, List.map_cons, List.map_nil]
      refine List.nodup_append.mpr ⟨h.oneResponse, List.nodup_singleton _, fun a ha b hb => ?_⟩
      obtain ⟨answer, hanswer, rfl⟩ := List.mem_map.mp ha
      obtain ⟨m', happlied, heq⟩ := h.applied answer hanswer
      rw [List.mem_singleton.mp hb, ← heq]
      exact horder.not_applied hpending happlied
  · cases hreturned
    refine ⟨(hmem m).mpr (Or.inr rfl), ?_⟩
    simp only [ProductionV2Coordinator.applied]
    split_ifs with hdeferred
    · exact Or.inl hdeferred
    · exact Or.inr (List.mem_append_right _ (List.mem_singleton_self _))
  · rw [hawaited]
    exact h.tracked hs ha hf

theorem move (h : Effects s) (hphases : Phases s) (horder : Order s) (hmove : Move s s') :
    Effects s' := by
  cases hmove with
  | accept _ _ _ hproducible ha => exact h.accepting hphases hproducible ha
  | forward completion hjob ht => exact h.forwarded hphases hjob ht
  | forwardFailed acceptedSeq =>
    exact h.fewer rfl List.filter_sublist (List.Sublist.refl _) rfl rfl (fun _ => id)
      (fun _ _ => id) nofun
  | giveUp | markFatal | hydrate => exact { h with }
  | takeFifo queued happlier =>
    obtain ⟨hbatch, -⟩ := hphases.ready _ _ happlier nofun
    refine h.same rfl rfl ?_ rfl rfl (fun _ => id) (fun _ _ => id) id (fun _ => ?_) rfl
    · simp [awaited, hbatch]
    · rw [happlier]
      exact nofun
  | turn queued queued' point happlier | goBack queued happlier | serve queued happlier =>
    refine h.same rfl rfl rfl rfl rfl (fun _ => id) (fun _ _ => id) id (fun _ => ?_) rfl
    rw [happlier]
    exact nofun
  | fail point queued happlier hidle =>
    refine h.fewer rfl (List.Sublist.refl _) awaited_bootstrapFailed rfl rfl
      (fun m hprogress => ?_) (fun _ _ hreturned => by cases hreturned)
      fun _ hfailed => absurd rfl hfailed
    rcases hidle with hidle | ⟨m', response, hidle⟩
    all_goals
      rw [hidle] at hprogress
      cases hprogress
  | popBatch queued m batch happlier hidle hbatch =>
    refine h.same rfl rfl ?_ rfl rfl (fun m' hprogress => ?_)
      (fun _ _ hreturned => by cases hreturned) id id rfl
    · simp [awaited, hidle, hbatch, Progress.unanswered]
    · rw [hidle] at hprogress
      cases hprogress
  | popQueue m items happlier hidle hitems =>
    obtain ⟨hfifo, hbatch⟩ := hphases.late (hphases.phase.mp happlier)
    refine h.same rfl rfl ?_ rfl rfl (fun m' hprogress => ?_)
      (fun _ _ hreturned => by cases hreturned) id id rfl
    · simp [awaited, hidle, hbatch, hfifo, hitems, Progress.unanswered]
    · rw [hidle] at hprogress
      cases hprogress
  | defer m hprogress hcommand hnew => exact h.put_off horder hprogress hcommand hnew
  | finish m completion hprogress hfinished => exact (h.finished hprogress hfinished).answered _ _
  | applied m response hprogress => exact h.returns horder response hprogress
  | answer m response => exact h.answered _ _
  | complete m response hprogress =>
    have hsettled : (s.settled m).progress.unanswered = [] ∧
        ∀ m' response', (s.settled m).progress ≠ .returned m' response' := by
      unfold settled
      dsimp only
      split_ifs
      all_goals exact ⟨rfl, fun _ _ => nofun⟩
    refine h.same rfl rfl ?_ rfl rfl (fun m' happlying => ?_)
      (fun m' response' hreturned => absurd hreturned (hsettled.2 m' response')) id id rfl
    · rw [awaited, hsettled.1, awaited, hprogress]
      rfl
    · rw [hprogress] at happlying
      cases happlying
  | release m hprogress =>
    refine h.same rfl rfl ?_ rfl rfl (fun m' happlying => ?_)
      (fun _ _ hreturned => by cases hreturned) id id rfl
    · simp [awaited, hprogress, Progress.unanswered]
    · rw [hprogress] at happlying
      cases happlying
  | beginStop => exact { h with tracked := nofun }
  | clearQueue kind hstop =>
    refine h.fewer rfl (List.Sublist.refl _) (awaited_cleared rfl) rfl rfl (fun _ => id)
      (fun _ _ => id) fun hs => ?_
    have hshutdown := hphases.flagged _ hstop
    rw [hshutdown] at hs
    cases hs
  | drain kind =>
    cases kind with
    | failStop | shutdown => exact { h with }

end Effects

end ProductionV2Coordinator

end VdeTmux.Daemon
