import Mathlib.Data.List.Nodup
import VdeTmux.Daemon.SequencerSteps

/-!
# The order of mutations

Accepted mutations wait in the order of their numbers, in the bootstrap FIFO or in the queue, and
neither ever holds more than it has room for.
-/

open Foundation VdeTmux.Pane
namespace VdeTmux.Daemon

namespace ProductionV2Coordinator
variable {s s' : ProductionV2Coordinator} {mutation : V2AcceptedMutation} {patience : Patience}

/-- Which of the two queues is in use, and what stopping starts with. -/
structure Phases (s : ProductionV2Coordinator) : Prop where
  phase : s.applier = .worker ↔ s.router.phase = .serving
  early : s.router.phase ≠ .serving → s.queue.items = []
  late : s.router.phase = .serving → s.router.bootstrapFifo = [] ∧ s.batch = []
  ready : ∀ point queued, s.applier = .bootstrap point queued → point ≠ .apply →
    s.batch = [] ∧ s.progress = .idle
  flagged : ∀ stop, s.stop = some stop → s.shutdown = true

namespace Phases

theorem taken (h : Phases s) (ht : Taken s mutation patience s') : Phases s' := by
  cases ht with
  | queued hphase => exact { h with late := fun hserving => absurd hserving hphase }
  | enqueued hphase => exact { h with early := fun hearly => absurd hphase hearly }

theorem accepting (h : Phases s) (ha : Accepting s mutation patience s') : Phases s' := by
  cases ha with
  | refused => exact { h with }
  | taken ht => exact h.taken ht

theorem answered (h : Phases s) (acceptedSeq : ℕ) (response : RouterMessage) :
    Phases (s.answer acceptedSeq response) := by
  unfold answer
  split_ifs
  · exact { h with }
  · exact h

theorem bootstrapping {point : BootstrapPoint} {queued : Bool} (h : Phases s)
    (happlier : s.applier = .bootstrap point queued) : s.router.phase ≠ .serving := by
  refine h.phase.not.mp ?_
  rw [happlier]
  exact nofun

theorem busy (h : Phases s) (hprogress : s.progress ≠ .idle) {point : BootstrapPoint}
    {queued : Bool} (happlier : s.applier = .bootstrap point queued) (hpoint : point ≠ .apply) :
    False :=
  hprogress (h.ready point queued happlier hpoint).2

theorem move (h : Phases s) (hmove : Move s s') : Phases s' := by
  cases hmove with
  | accept _ _ _ _ ha => exact h.accepting ha
  | forward completion _ ht =>
    have hreported : Phases (s.reported completion.originalAcceptedSeq) := { h with }
    exact hreported.taken ht
  | giveUp | forwardFailed | defer => exact { h with }
  | beginStop => exact { h with flagged := fun _ _ => rfl }
  | markFatal kind hstop => exact { h with flagged := fun _ _ => h.flagged _ hstop }
  | hydrate hphase =>
    have hnot : s.router.phase ≠ .serving := by
      rw [hphase]
      exact nofun
    have hworker : s.applier ≠ .worker := h.phase.not.mpr hnot
    exact { h with
      phase := ⟨fun happlier => absurd happlier hworker, nofun⟩
      early := fun _ => h.early hnot
      late := nofun }
  | takeFifo queued happlier =>
    have hnot := h.bootstrapping happlier
    exact { h with
      phase := ⟨nofun, fun hserving => absurd hserving hnot⟩
      late := fun hserving => absurd hserving hnot
      ready := fun point queued' happlier' hpoint => by cases happlier'; exact absurd rfl hpoint }
  | turn queued queued' point happlier hidle hbatch =>
    have hnot := h.bootstrapping happlier
    exact { h with
      phase := ⟨nofun, fun hserving => absurd hserving hnot⟩
      ready := fun _ _ _ _ => ⟨hbatch, hidle⟩ }
  | goBack queued happlier =>
    have hnot := h.bootstrapping happlier
    exact { h with
      phase := ⟨nofun, fun hserving => absurd hserving hnot⟩
      ready := fun _ _ _ _ => h.ready _ _ happlier nofun }
  | fail point queued happlier =>
    have hnot := h.bootstrapping happlier
    exact { h with
      phase := ⟨nofun, fun hserving => absurd hserving hnot⟩
      late := fun hserving => absurd hserving hnot
      ready := nofun }
  | serve queued happlier hfifo =>
    exact { h with
      phase := ⟨fun _ => rfl, fun _ => rfl⟩
      early := fun hearly => absurd rfl hearly
      late := fun _ => ⟨hfifo, (h.ready _ _ happlier nofun).1⟩
      ready := nofun }
  | popBatch queued m batch happlier =>
    have hnot := h.bootstrapping happlier
    exact { h with
      late := fun hserving => absurd hserving hnot
      ready := fun point queued' happlier' hpoint => by
        rw [happlier] at happlier'
        cases happlier'
        exact absurd rfl hpoint }
  | popQueue m items happlier =>
    exact { h with
      early := fun hearly => absurd (h.phase.mp happlier) hearly
      ready := fun point queued happlier' _ => by rw [happlier] at happlier'; cases happlier' }
  | finish m completion hprogress =>
    have hbusy : s.progress ≠ .idle := by rw [hprogress]; exact nofun
    have hfinished : Phases (s.finished m completion) := { h with
      ready := fun _ _ happlier hpoint => (h.busy hbusy happlier hpoint).elim }
    exact hfinished.answered _ _
  | applied m response hprogress =>
    have hbusy : s.progress ≠ .idle := by
      rcases hprogress with ⟨hprogress, -⟩ | hprogress
      all_goals rw [hprogress]; exact nofun
    exact { h with
      ready := fun _ _ happlier hpoint => (h.busy hbusy happlier hpoint).elim }
  | answer m response => exact h.answered _ _
  | complete m response hprogress =>
    have hbusy : s.progress ≠ .idle := by rw [hprogress]; exact nofun
    exact { h with
      ready := fun _ _ happlier hpoint => (h.busy hbusy happlier hpoint).elim }
  | release m => exact { h with ready := fun p q ha hp => ⟨(h.ready p q ha hp).1, rfl⟩ }
  | clearQueue kind hstop =>
    exact { h with early := fun _ => rfl, flagged := fun _ _ => h.flagged _ hstop }
  | drain kind hstop =>
    cases kind with
    | failStop | shutdown => exact { h with flagged := fun _ _ => h.flagged _ hstop }

end Phases

/-- The mutations that are applied, then those that wait, in the order they are applied in. -/
def line (s : ProductionV2Coordinator) : List V2SequencedMutation :=
  s.seen.applied ++ s.progress.pending ++ s.batch ++ s.router.bootstrapFifo ++ s.queue.items

structure Order (s : ProductionV2Coordinator) : Prop where
  next : s.router.nextAcceptedSeq = s.seen.accepted.length + 1
  numbered : s.seen.accepted.map V2SequencedMutation.acceptedSeq =
    List.range' 1 s.seen.accepted.length
  inOrder : s.line.Sublist s.seen.accepted
  kept : s.shutdown = false → s.applier ≠ .failed → s.line = s.seen.accepted

namespace Order

theorem same (h : Order s) (hnext : s'.router.nextAcceptedSeq = s.router.nextAcceptedSeq)
    (haccepted : s'.seen.accepted = s.seen.accepted) (hline : s'.line = s.line)
    (hopen : s'.shutdown = false → s.shutdown = false)
    (hfailed : s'.applier ≠ .failed → s.applier ≠ .failed) : Order s' where
  next := by rw [hnext, haccepted, h.next]
  numbered := by rw [haccepted, h.numbered]
  inOrder := by rw [hline, haccepted]; exact h.inOrder
  kept hs ha := by rw [hline, haccepted]; exact h.kept (hopen hs) (hfailed ha)

theorem line_queued (h : s.queue.items = []) :
    (s.queued mutation patience).line = s.line ++ [s.nextSequenced mutation] := by
  simp [line, queued, allotted, h]

theorem line_enqueued :
    (s.enqueued mutation patience).line = s.line ++ [s.nextSequenced mutation] := by
  simp [line, enqueued, allotted, V2Router.allocated]

theorem append (h : Order s)
    (hnext : s'.router.nextAcceptedSeq = s.router.nextAcceptedSeq + 1)
    (haccepted : s'.seen.accepted = s.seen.accepted ++ [s.nextSequenced mutation])
    (hline : s'.line = s.line ++ [s.nextSequenced mutation])
    (hopen : s'.shutdown = s.shutdown) (happlier : s'.applier = s.applier) : Order s' where
  next := by rw [hnext, haccepted, h.next, List.length_append, List.length_singleton]
  numbered := by
    rw [haccepted, List.map_append, h.numbered, List.length_append, List.length_singleton,
      List.range'_concat]
    simp [nextSequenced, h.next, Nat.add_comm]
  inOrder := by
    rw [hline, haccepted]
    exact h.inOrder.append_right _
  kept hs ha := by
    rw [hline, haccepted, h.kept (hopen ▸ hs) (happlier ▸ ha)]

theorem taken (h : Order s) (hphases : Phases s) (ht : Taken s mutation patience s') :
    Order s' := by
  cases ht with
  | queued hphase => exact h.append rfl rfl (line_queued (hphases.early hphase)) rfl rfl
  | enqueued => exact h.append rfl rfl line_enqueued rfl rfl

theorem accepting (h : Order s) (hphases : Phases s) (ha : Accepting s mutation patience s') :
    Order s' := by
  cases ha with
  | refused => exact h.same rfl rfl rfl id id
  | taken ht => exact h.taken hphases ht

theorem answered (h : Order s) (acceptedSeq : ℕ) (response : RouterMessage) :
    Order (s.answer acceptedSeq response) := by
  unfold answer
  split_ifs
  · exact h.same rfl rfl rfl id id
  · exact h

theorem move (h : Order s) (hphases : Phases s) (hmove : Move s s') : Order s' := by
  cases hmove with
  | accept _ _ _ _ ha => exact h.accepting hphases ha
  | forward completion _ ht =>
    have hreported : Order (s.reported completion.originalAcceptedSeq) := h.same rfl rfl rfl id id
    exact hreported.taken { hphases with } ht
  | giveUp | forwardFailed | defer | markFatal | hydrate => exact h.same rfl rfl rfl id id
  | takeFifo queued happlier =>
    obtain ⟨hbatch, -⟩ := hphases.ready _ _ happlier nofun
    refine h.same rfl rfl ?_ id fun _ => by rw [happlier]; exact nofun
    simp [line, hbatch]
  | turn queued queued' point happlier | goBack queued happlier | serve queued happlier =>
    exact h.same rfl rfl rfl id fun _ => by rw [happlier]; exact nofun
  | fail point queued happlier hidle =>
    refine ⟨h.next, h.numbered, List.Sublist.trans ?_ h.inOrder, fun _ hfailed => absurd rfl hfailed⟩
    simp [line, bootstrapFailed, Progress.pending]
  | popBatch queued m batch happlier hidle hbatch =>
    refine h.same rfl rfl ?_ id id
    simp [line, hidle, hbatch, Progress.pending]
  | popQueue m items happlier hidle hitems =>
    obtain ⟨hfifo, hbatch⟩ := hphases.late (hphases.phase.mp happlier)
    refine h.same rfl rfl ?_ id id
    simp [line, hidle, hbatch, hfifo, hitems, Progress.pending]
  | finish m completion hprogress =>
    have hfinished : Order (s.finished m completion) := by
      refine h.same rfl rfl ?_ id id
      simp [line, finished, hprogress, Progress.pending]
    exact hfinished.answered _ _
  | applied m response hprogress =>
    refine h.same rfl rfl ?_ id id
    rcases hprogress with ⟨hprogress, -⟩ | hprogress
    all_goals simp [line, ProductionV2Coordinator.applied, hprogress, Progress.pending]
  | answer m response => exact h.answered _ _
  | complete m response hprogress =>
    refine h.same rfl rfl ?_ id id
    have hpending : (s.settled m).progress.pending = [] := by
      unfold settled
      dsimp only
      split_ifs
      all_goals rfl
    rw [line, hpending, line, hprogress]
    rfl
  | release m hprogress =>
    refine h.same rfl rfl ?_ id id
    simp [line, hprogress, Progress.pending]
  | beginStop => exact ⟨h.next, h.numbered, h.inOrder, nofun⟩
  | clearQueue kind hstop =>
    have hshutdown : s.shutdown ≠ false := by
      rw [hphases.flagged _ hstop]
      exact nofun
    refine ⟨h.next, h.numbered, List.Sublist.trans ?_ h.inOrder, fun hs => absurd hs hshutdown⟩
    exact (List.Sublist.refl _).append (List.nil_sublist _)
  | drain kind =>
    cases kind with
    | failStop | shutdown => exact h.same rfl rfl rfl id id

theorem distinct (h : Order s) : (s.line.map V2SequencedMutation.acceptedSeq).Nodup := by
  refine (h.inOrder.map _).nodup ?_
  rw [h.numbered]
  exact List.nodup_range'

theorem not_applied {m m' : V2SequencedMutation} (h : Order s) (hm : m ∈ s.progress.pending)
    (hm' : m' ∈ s.seen.applied) : m'.acceptedSeq ≠ m.acceptedSeq := by
  have hnodup := h.distinct
  simp only [line, List.append_assoc, List.map_append] at hnodup
  exact (List.nodup_append.mp hnodup).2.2 _ (List.mem_map_of_mem hm') _
    (List.mem_append_left _ (List.mem_map_of_mem hm))

theorem applied_unique {m m' : V2SequencedMutation} (h : Order s) (hm : m ∈ s.seen.applied)
    (hm' : m' ∈ s.seen.applied) (heq : m.acceptedSeq = m'.acceptedSeq) : m = m' := by
  have hsub : s.seen.applied.Sublist s.line := by
    simp only [line, List.append_assoc]
    exact List.sublist_append_left _ _
  exact List.inj_on_of_nodup_map (h.distinct.sublist (hsub.map _)) hm hm' heq

end Order

structure Room (s : ProductionV2Coordinator) : Prop where
  fifo : s.router.bootstrapFifo.length ≤ v2BootstrapFifoCapacity
  queue : s.queue.load ≤ v2MutationQueueCapacity
  inFlight : s.queue.inFlight = true ↔ s.applier = .worker ∧ s.progress ≠ .idle

namespace Room

theorem taken (h : Room s) (ht : Taken s mutation patience s') : Room s' := by
  cases ht with
  | queued _ hroom =>
    refine { h with fifo := ?_ }
    exact (List.length_append ..).trans_le hroom
  | enqueued _ hroom =>
    refine { h with queue := ?_ }
    simp only [ProductionQueue.load, enqueued, List.length_append, List.length_singleton]
    simp only [ProductionQueue.load] at hroom
    omega

theorem accepting (h : Room s) (ha : Accepting s mutation patience s') : Room s' := by
  cases ha with
  | refused => exact { h with }
  | taken ht => exact h.taken ht

theorem answered (h : Room s) (acceptedSeq : ℕ) (response : RouterMessage) :
    Room (s.answer acceptedSeq response) := by
  unfold answer
  split_ifs
  · exact { h with }
  · exact h

theorem not_inFlight {applier : Applier} (h : Room s) (happlier : s.applier = applier)
    (hworker : applier ≠ .worker) : ¬s.queue.inFlight = true := by
  intro hflight
  exact hworker (happlier.symm.trans (h.inFlight.mp hflight).1)

theorem move (h : Room s) (hphases : Phases s) (hmove : Move s s') : Room s' := by
  cases hmove with
  | accept _ _ _ _ ha => exact h.accepting ha
  | forward completion _ ht =>
    have hreported : Room (s.reported completion.originalAcceptedSeq) := { h with }
    exact hreported.taken ht
  | giveUp | forwardFailed | defer | markFatal | beginStop | hydrate => exact { h with }
  | takeFifo queued happlier =>
    have hnot := h.not_inFlight happlier nofun
    exact { h with
      fifo := Nat.zero_le _
      inFlight := ⟨fun hflight => absurd hflight hnot, fun hworker => nomatch hworker.1⟩ }
  | turn queued queued' point happlier | goBack queued happlier =>
    have hnot := h.not_inFlight happlier nofun
    exact { h with
      inFlight := ⟨fun hflight => absurd hflight hnot, fun hworker => nomatch hworker.1⟩ }
  | fail point queued happlier =>
    have hnot := h.not_inFlight happlier nofun
    exact { h with
      inFlight := ⟨fun hflight => absurd hflight hnot, fun hworker => nomatch hworker.1⟩ }
  | serve queued happlier hfifo =>
    have hnot := h.not_inFlight happlier nofun
    obtain ⟨-, hidle⟩ := hphases.ready _ _ happlier nofun
    exact { h with
      inFlight := ⟨fun hflight => absurd hflight hnot, fun hworker => absurd hidle hworker.2⟩ }
  | popBatch queued m batch happlier =>
    have hnot := h.not_inFlight happlier nofun
    refine { h with inFlight := ⟨fun hflight => absurd hflight hnot, fun hworker => ?_⟩ }
    rw [happlier] at hworker
    cases hworker.1
  | popQueue m items happlier hidle hitems =>
    refine { h with queue := ?_, inFlight := ⟨fun _ => ⟨happlier, nofun⟩, fun _ => rfl⟩ }
    have hload := h.queue
    simp only [ProductionQueue.load, hitems, List.length_cons] at hload
    simp only [ProductionQueue.load, Bool.toNat_true]
    omega
  | finish m completion hprogress =>
    have hbusy : s.progress ≠ .idle := by rw [hprogress]; exact nofun
    have hfinished : Room (s.finished m completion) := { h with
      inFlight := h.inFlight.trans (and_congr_right fun _ => iff_of_true hbusy nofun) }
    exact hfinished.answered _ _
  | applied m response hprogress =>
    have hbusy : s.progress ≠ .idle := by
      rcases hprogress with ⟨hprogress, -⟩ | hprogress
      all_goals rw [hprogress]; exact nofun
    exact { h with
      inFlight := h.inFlight.trans (and_congr_right fun _ => iff_of_true hbusy nofun) }
  | answer m response => exact h.answered _ _
  | complete m response hprogress =>
    have hbusy : s.progress ≠ .idle := by rw [hprogress]; exact nofun
    refine { h with
      inFlight := h.inFlight.trans (and_congr_right fun hworker => iff_of_true hbusy ?_) }
    simp [settled, hworker]
  | release m hprogress =>
    refine { h with
      queue := ?_, inFlight := ⟨fun hflight => absurd hflight nofun, fun hbusy => absurd rfl hbusy.2⟩ }
    exact (Nat.add_le_add_left (Nat.zero_le _) _).trans h.queue
  | clearQueue =>
    refine { h with queue := ?_ }
    exact (Nat.add_le_add_right (Nat.zero_le _) _).trans h.queue
  | drain kind =>
    cases kind with
    | failStop | shutdown => exact { h with }

end Room

end ProductionV2Coordinator

end VdeTmux.Daemon
