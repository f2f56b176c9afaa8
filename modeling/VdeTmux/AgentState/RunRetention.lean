import VdeTmux.AgentState.RunStore
import VdeTmux.Foundation.Apportion

/-!
# Which runs go

Age, the limits of the panes and the limits of the store all remove from the front of one order.
A run goes when it is too old, when enough newer runs of its pane are recent, or when the store
stays too full although all older ones have gone.
-/

open Foundation VdeTmux.Pane
namespace VdeTmux.AgentState

def Older (a b : RunFile) : Prop :=
  a.record.createdAt < b.record.createdAt ∨
    a.record.createdAt = b.record.createdAt ∧ a.runId < b.runId

instance (a b : RunFile) : Decidable (Older a b) := inferInstanceAs (Decidable (_ ∨ _))

theorem older_irrefl (a : RunFile) : ¬Older a a := by
  rintro (h | ⟨-, h⟩)
  · exact lt_irrefl _ h
  · exact lt_irrefl _ h

theorem Older.trans {a b c : RunFile} (hab : Older a b) (hbc : Older b c) : Older a c := by
  rcases hab with hab | ⟨heq, hab⟩
  · rcases hbc with hbc | ⟨heq', -⟩
    · exact Or.inl (hab.trans hbc)
    · exact Or.inl (heq' ▸ hab)
  · rcases hbc with hbc | ⟨heq', hbc⟩
    · exact Or.inl (heq ▸ hbc)
    · exact Or.inr ⟨heq.trans heq', hab.trans hbc⟩

theorem older_asymm (a b : RunFile) (h : Older a b) : ¬Older b a :=
  fun h' => older_irrefl a (h.trans h')

instance : Std.TransCmp byCreation := inferInstanceAs (Std.TransCmp (compareLex _ _))

theorem byCreation_eq_lt {a b : RunFile} : byCreation a b = .lt ↔ Older a b := by
  rw [byCreation, compareLex_eq_lt, compareOn, compareOn, compare_lt_iff_lt, compare_eq_iff_eq,
    compare_lt_iff_lt]
  exact Iff.rfl

theorem byCreation_eq_eq {a b : RunFile} (h : byCreation a b = .eq) : a.runId = b.runId := by
  rw [byCreation, compareLex_eq_eq] at h
  exact compare_eq_iff_eq.mp h.2

theorem sortBy_older {runs : List RunFile} (h : (runs.map RunFile.runId).Nodup) :
    (sortBy byCreation runs).Pairwise Older := by
  have hnodup : ((sortBy byCreation runs).map RunFile.runId).Nodup :=
    ((sortBy_perm runs).map _).nodup_iff.mpr h
  refine (sortBy_pairwise runs).imp₂ (R := fun a b => (byCreation a b).isLE = true)
    (S := fun a b => a.runId ≠ b.runId) (fun a b hle hne => ?_) (List.pairwise_map.mp hnodup)
  rw [← byCreation_eq_lt]
  rcases hcmp : byCreation a b with _ | _ | _
  · rfl
  · exact absurd (byCreation_eq_eq hcmp) hne
  · rw [hcmp] at hle
    exact Bool.noConfusion hle

theorem sortBy_byCreation_of_older {runs : List RunFile} (h : runs.Pairwise Older) :
    sortBy byCreation runs = runs :=
  List.mergeSort_of_pairwise (h.imp fun hab => by rw [byCreation_eq_lt.mpr hab]; rfl)

section Spec
variable (runs : List RunFile) (now : ℤ) (protectedRunIds : List String)
  (reserve : RunRetentionReserve) (incomingPane : Option PaneInstance)

def Removable (run : RunFile) : Prop :=
  run.record.executionActive = false ∧ run.runId ∉ protectedRunIds

instance (run : RunFile) : Decidable (Removable protectedRunIds run) :=
  inferInstanceAs (Decidable (_ ∧ _))

def Recent (run : RunFile) : Prop := now - runRetentionSeconds ≤ run.record.createdAt

instance (run : RunFile) : Decidable (Recent now run) := inferInstanceAs (Decidable (_ ≤ _))

/-- How many removable runs a pane keeps: one less when it is the pane a run comes in for and it
has a protected one. -/
def paneLimit (pane : PaneInstance) : ℕ :=
  if incomingPane = some pane ∧
      ∃ run ∈ runs, run.record.paneInstance = pane ∧ run.runId ∈ protectedRunIds then 63
  else 64

def Ruled (run : RunFile) : Prop :=
  Removable protectedRunIds run ∧
    (¬Recent now run ∨
      paneLimit runs protectedRunIds incomingPane run.record.paneInstance ≤
        runs.countP fun other => Removable protectedRunIds other ∧ Recent now other ∧
          other.record.paneInstance = run.record.paneInstance ∧ Older run other)

instance (run : RunFile) : Decidable (Ruled runs now protectedRunIds incomingPane run) :=
  inferInstanceAs (Decidable (_ ∧ _))

def Fits (files : List RunFile) : Prop :=
  files.length + reserve.records ≤ runStoreMaxRecords ∧
    (files.map RunFile.size).sum + reserve.bytes ≤ runStoreMaxBytes

instance (files : List RunFile) : Decidable (Fits reserve files) :=
  inferInstanceAs (Decidable (_ ∧ _))

/-- What stays when the rules are followed and all removable runs older than this one go. -/
def sparing (run : RunFile) : List RunFile :=
  runs.filter fun other => ¬(Ruled runs now protectedRunIds incomingPane other ∨
    Removable protectedRunIds other ∧ Older other run)

def Goes (run : RunFile) : Prop :=
  Ruled runs now protectedRunIds incomingPane run ∨
    Removable protectedRunIds run ∧
      ¬Fits reserve (sparing runs now protectedRunIds incomingPane run)

end Spec

section Rules
variable {runs : List RunFile} {now : ℤ} {protectedRunIds : List String}
  {incomingPane : Option PaneInstance}

theorem isRemovable_iff {run : RunFile} :
    isRemovable protectedRunIds.toFinset run = true ↔ Removable protectedRunIds run := by
  simp [isRemovable, Removable]

theorem retentionCutoff_eq (h : 0 ≤ now) : retentionCutoff now = now - runRetentionSeconds := by
  refine max_eq_left ?_
  rw [i64Min, runRetentionSeconds]
  omega

theorem retainedLimit_eq (pane : PaneInstance) :
    retainedLimit protectedRunIds.toFinset incomingPane runs pane =
      paneLimit runs protectedRunIds incomingPane pane := by
  have hiff : protectedCurrentBecomesHistorical protectedRunIds.toFinset incomingPane runs pane
      = true ↔ incomingPane = some pane ∧
        ∃ run ∈ runs, run.record.paneInstance = pane ∧ run.runId ∈ protectedRunIds := by
    simp [protectedCurrentBecomesHistorical]
  rw [retainedLimit, paneLimit]
  by_cases h : protectedCurrentBecomesHistorical protectedRunIds.toFinset incomingPane runs pane
    = true
  · rw [if_pos h, if_pos (hiff.mp h)]
    rfl
  · rw [if_neg h, if_neg (mt hiff.mpr h)]
    rfl

theorem mem_removableRuns {run : RunFile} :
    run ∈ removableRuns protectedRunIds.toFinset runs ↔
      run ∈ runs ∧ Removable protectedRunIds run := by
  rw [removableRuns, mem_sortBy, List.mem_filter, isRemovable_iff]

variable (hids : (runs.map RunFile.runId).Nodup)
include hids

theorem eq_of_runId {a b : RunFile} (ha : a ∈ runs) (hb : b ∈ runs) (h : a.runId = b.runId) :
    a = b :=
  List.inj_on_of_nodup_map hids ha hb h

theorem nodup_filter_runId (p : RunFile → Bool) : ((runs.filter p).map RunFile.runId).Nodup :=
  hids.sublist (List.filter_sublist.map _)

theorem removableRuns_older : (removableRuns protectedRunIds.toFinset runs).Pairwise Older :=
  sortBy_older (nodup_filter_runId hids _)

theorem nodup_removableRuns :
    ((removableRuns protectedRunIds.toFinset runs).map RunFile.runId).Nodup :=
  ((sortBy_perm _).map _).nodup_iff.mpr (nodup_filter_runId hids _)

theorem mem_ids_iff {selected : List RunFile} (hsub : ∀ run ∈ selected, run ∈ runs)
    {run : RunFile} (hrun : run ∈ runs) :
    run.runId ∈ (selected.map RunFile.runId).toFinset ↔ run ∈ selected := by
  rw [List.mem_toFinset, List.mem_map]
  constructor
  · rintro ⟨other, hother, hid⟩
    obtain rfl := eq_of_runId hids (hsub other hother) hrun hid
    exact hother
  · intro hmem
    exact ⟨run, hmem, rfl⟩

theorem mem_expiredIds (hnow : 0 ≤ now) {run : RunFile} (hrun : run ∈ runs) :
    run.runId ∈ expiredIds now (removableRuns protectedRunIds.toFinset runs) ↔
      Removable protectedRunIds run ∧ ¬Recent now run := by
  rw [expiredIds, mem_ids_iff hids (fun other h => (mem_removableRuns.mp
    (List.mem_of_mem_filter h)).1) hrun, List.mem_filter, mem_removableRuns,
    retentionCutoff_eq hnow, Recent]
  simp only [hrun, true_and, decide_eq_true_eq, not_le]

omit hids in
theorem countP_older_add {l : List RunFile} (hl : l.Pairwise Older) {run : RunFile}
    (hrun : run ∈ l) :
    l.countP (fun other => Older other run) + 1 + l.countP (fun other => Older run other) =
      l.length := by
  obtain ⟨front, back, rfl⟩ := List.append_of_mem hrun
  obtain ⟨-, hback, hfront⟩ := List.pairwise_append.mp hl
  obtain ⟨hnewer, -⟩ := List.pairwise_cons.mp hback
  have holder : ∀ other ∈ front, Older other run := fun other h =>
    hfront other h run List.mem_cons_self
  have h₁ : front.countP (fun other => Older other run) = front.length :=
    List.countP_eq_length.mpr fun other h => by simpa using holder other h
  have h₂ : front.countP (fun other => Older run other) = 0 :=
    List.countP_eq_zero.mpr fun other h => by simpa using older_asymm _ _ (holder other h)
  have h₃ : back.countP (fun other => Older other run) = 0 :=
    List.countP_eq_zero.mpr fun other h => by simpa using older_asymm _ _ (hnewer other h)
  have h₄ : back.countP (fun other => Older run other) = back.length :=
    List.countP_eq_length.mpr fun other h => by simpa using hnewer other h
  have hself := older_irrefl run
  simp only [List.countP_append, List.countP_cons, List.length_append, List.length_cons,
    decide_eq_true_eq, hself, if_false, h₁, h₂, h₃, h₄]
  omega

def recentOf (runs : List RunFile) (now : ℤ) (protectedRunIds : List String) (pane : PaneInstance) :
    List RunFile :=
  (removableRuns protectedRunIds.toFinset runs).filter fun run =>
    Recent now run ∧ run.record.paneInstance = pane

theorem recentOf_older (pane : PaneInstance) :
    (recentOf runs now protectedRunIds pane).Pairwise Older :=
  (removableRuns_older hids).sublist List.filter_sublist

theorem paneRuns_eq (hnow : 0 ≤ now) (pane : PaneInstance) :
    paneRuns (expiredIds now (removableRuns protectedRunIds.toFinset runs))
      (removableRuns protectedRunIds.toFinset runs) pane =
      recentOf runs now protectedRunIds pane := by
  have hfilter : ((removableRuns protectedRunIds.toFinset runs).filter fun run =>
      run.runId ∉ expiredIds now (removableRuns protectedRunIds.toFinset runs) ∧
        run.record.paneInstance = pane) = recentOf runs now protectedRunIds pane := by
    refine List.filter_congr fun run hrun => decide_eq_decide.mpr ?_
    obtain ⟨hmem, hremovable⟩ := mem_removableRuns.mp hrun
    rw [mem_expiredIds hids hnow hmem]
    simp only [hremovable, true_and, not_not]
  rw [paneRuns, hfilter, sortBy_byCreation_of_older (recentOf_older hids pane)]

omit hids in
theorem mem_recentOf {pane : PaneInstance} {run : RunFile} :
    run ∈ recentOf runs now protectedRunIds pane ↔ run ∈ runs ∧
      Removable protectedRunIds run ∧ Recent now run ∧ run.record.paneInstance = pane := by
  rw [recentOf, List.mem_filter, mem_removableRuns, decide_eq_true_eq, and_assoc]

omit hids in
theorem countP_recentOf (p : RunFile → Prop) [DecidablePred p] (pane : PaneInstance) :
    (recentOf runs now protectedRunIds pane).countP (fun other => p other) =
      runs.countP fun other => Removable protectedRunIds other ∧ Recent now other ∧
        other.record.paneInstance = pane ∧ p other := by
  rw [recentOf, List.countP_filter, removableRuns, (sortBy_perm _).countP_eq, List.countP_filter]
  refine List.countP_congr fun other _ => ?_
  simp only [Bool.and_eq_true, decide_eq_true_eq, isRemovable_iff]
  tauto

theorem mem_take_excess (limit : ℕ) {pane : PaneInstance} {run : RunFile}
    (hrun : run ∈ recentOf runs now protectedRunIds pane) :
    run ∈ (recentOf runs now protectedRunIds pane).take
        ((recentOf runs now protectedRunIds pane).length - limit) ↔
      limit ≤ runs.countP fun other => Removable protectedRunIds other ∧ Recent now other ∧
        other.record.paneInstance = pane ∧ Older run other := by
  have hold : (recentOf runs now protectedRunIds pane).Pairwise Older := recentOf_older hids pane
  rw [Apportion.mem_take_iff older_irrefl older_asymm hold hrun,
    ← countP_recentOf (fun other => Older run other) pane]
  have hcount := countP_older_add hold hrun
  omega

theorem mem_excessIds (hnow : 0 ≤ now) {run : RunFile} (hrun : run ∈ runs) :
    run.runId ∈ excessIds protectedRunIds.toFinset incomingPane runs
        (removableRuns protectedRunIds.toFinset runs)
        (expiredIds now (removableRuns protectedRunIds.toFinset runs)) ↔
      Removable protectedRunIds run ∧ Recent now run ∧
        paneLimit runs protectedRunIds incomingPane run.record.paneInstance ≤
          runs.countP fun other => Removable protectedRunIds other ∧ Recent now other ∧
            other.record.paneInstance = run.record.paneInstance ∧ Older run other := by
  have hsub : ∀ (pane : PaneInstance) (n : ℕ),
      ∀ other ∈ (recentOf runs now protectedRunIds pane).take n, other ∈ runs :=
    fun pane n other h => (mem_recentOf.mp (List.mem_of_mem_take h)).1
  simp only [excessIds, paneRuns_eq hids hnow, retainedLimit_eq, Finset.mem_biUnion]
  constructor
  · rintro ⟨pane, -, hmem⟩
    rw [mem_ids_iff hids (hsub pane _) hrun] at hmem
    have hrecent := List.mem_of_mem_take hmem
    obtain ⟨-, hremovable, hnew, rfl⟩ := mem_recentOf.mp hrecent
    exact ⟨hremovable, hnew, (mem_take_excess hids _ hrecent).mp hmem⟩
  · rintro ⟨hremovable, hnew, hlimit⟩
    have hrecent := mem_recentOf.mpr ⟨hrun, hremovable, hnew, rfl⟩
    refine ⟨run.record.paneInstance, ?_, ?_⟩
    · rw [List.mem_toFinset]
      refine List.mem_map.mpr ⟨run, List.mem_filter.mpr
        ⟨mem_removableRuns.mpr ⟨hrun, hremovable⟩, ?_⟩, rfl⟩
      rw [decide_eq_true_eq, mem_expiredIds hids hnow hrun]
      exact fun h => h.2 hnew
    · rw [mem_ids_iff hids (hsub _ _) hrun]
      exact (mem_take_excess hids _ hrecent).mpr hlimit

def ruledIds (runs : List RunFile) (now : ℤ) (protectedRunIds : List String)
    (incomingPane : Option PaneInstance) : Finset String :=
  let removable := removableRuns protectedRunIds.toFinset runs
  let expired := expiredIds now removable
  expired ∪ excessIds protectedRunIds.toFinset incomingPane runs removable expired

theorem mem_ruledIds (hnow : 0 ≤ now) {run : RunFile} (hrun : run ∈ runs) :
    run.runId ∈ ruledIds runs now protectedRunIds incomingPane ↔
      Ruled runs now protectedRunIds incomingPane run := by
  rw [ruledIds, Finset.mem_union, mem_expiredIds hids hnow hrun, mem_excessIds hids hnow hrun,
    Ruled]
  tauto

end Rules

end VdeTmux.AgentState
