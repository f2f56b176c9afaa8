import Mathlib.Data.List.Infix
import Mathlib.Tactic.Common

/-!
# The matches of a pattern

Where a pattern occurs in a text, and which of these places a search from the left comes to that
goes on behind each match.
-/

namespace Foundation.Matching

variable {α : Type} [DecidableEq α]

def OccursAt (pattern text : List α) (i : ℕ) : Prop := pattern <+: text.drop i

instance (pattern text : List α) (i : ℕ) : Decidable (OccursAt pattern text i) :=
  inferInstanceAs (Decidable (_ <+: _))

/-- The matches of the rest of a text that begins at an index, when the next places are skipped. -/
def matchesFrom (pattern : List α) : ℕ → ℕ → List α → List ℕ
  | _, _, [] => []
  | index, skip + 1, _ :: rest => matchesFrom pattern (index + 1) skip rest
  | index, 0, c :: rest =>
    if pattern.isPrefixOf (c :: rest) then
      index :: matchesFrom pattern (index + 1) (pattern.length - 1) rest
    else matchesFrom pattern (index + 1) 0 rest

def matchIndices (pattern text : List α) : List ℕ := matchesFrom pattern 0 0 text

theorem matchesFrom_bounds (pattern : List α) (index skip : ℕ) (text : List α) :
    ∀ i ∈ matchesFrom pattern index skip text,
      index + skip ≤ i ∧ i < index + text.length ∧ OccursAt pattern text (i - index) := by
  fun_induction matchesFrom pattern index skip text with
  | case1 index skip => exact fun i hi => absurd hi List.not_mem_nil
  | case2 index skip c rest ih =>
    intro i hi
    obtain ⟨hle, hlt, hoccurs⟩ := ih i hi
    have hsub : i - index = (i - (index + 1)) + 1 := by omega
    rw [List.length_cons]
    refine ⟨by omega, by omega, ?_⟩
    rw [OccursAt, hsub, List.drop_succ_cons]
    exact hoccurs
  | case3 index c rest hprefix ih =>
    intro i hi
    rw [List.length_cons]
    rcases List.mem_cons.mp hi with rfl | hi
    · refine ⟨le_rfl, by omega, ?_⟩
      rw [OccursAt, Nat.sub_self, List.drop_zero]
      exact List.isPrefixOf_iff_prefix.mp hprefix
    · obtain ⟨hle, hlt, hoccurs⟩ := ih i hi
      have hsub : i - index = (i - (index + 1)) + 1 := by omega
      refine ⟨by omega, by omega, ?_⟩
      rw [OccursAt, hsub, List.drop_succ_cons]
      exact hoccurs
  | case4 index c rest hprefix ih =>
    intro i hi
    obtain ⟨hle, hlt, hoccurs⟩ := ih i hi
    have hsub : i - index = (i - (index + 1)) + 1 := by omega
    rw [List.length_cons]
    refine ⟨by omega, by omega, ?_⟩
    rw [OccursAt, hsub, List.drop_succ_cons]
    exact hoccurs

theorem mem_matchesFrom {pattern : List α} (hpattern : pattern ≠ []) (index skip : ℕ)
    (text : List α) {i : ℕ} (hoccurs : OccursAt pattern text i) :
    i < skip ∨ index + i ∈ matchesFrom pattern index skip text ∨
      ∃ j ∈ matchesFrom pattern index skip text, j < index + i ∧ index + i < j + pattern.length := by
  fun_induction matchesFrom pattern index skip text generalizing i with
  | case1 index skip =>
    rw [OccursAt, List.drop_nil, List.prefix_nil] at hoccurs
    exact absurd hoccurs hpattern
  | case2 index skip c rest ih =>
    cases i with
    | zero => exact Or.inl (Nat.succ_pos _)
    | succ i =>
      rw [OccursAt, List.drop_succ_cons] at hoccurs
      rcases ih hoccurs with hlt | hmem | ⟨j, hj, hbefore, hover⟩
      · exact Or.inl (Nat.succ_lt_succ hlt)
      · exact Or.inr (Or.inl (by rwa [Nat.add_right_comm] at hmem))
      · exact Or.inr (Or.inr ⟨j, hj, by omega, by omega⟩)
  | case3 index c rest hprefix ih =>
    cases i with
    | zero => exact Or.inr (Or.inl List.mem_cons_self)
    | succ i =>
      rw [OccursAt, List.drop_succ_cons] at hoccurs
      rcases ih hoccurs with hlt | hmem | ⟨j, hj, hbefore, hover⟩
      · exact Or.inr (Or.inr ⟨index, List.mem_cons_self, by omega, by omega⟩)
      · exact Or.inr (Or.inl (List.mem_cons_of_mem _ (by rwa [Nat.add_right_comm] at hmem)))
      · exact Or.inr (Or.inr ⟨j, List.mem_cons_of_mem _ hj, by omega, by omega⟩)
  | case4 index c rest hprefix ih =>
    cases i with
    | zero =>
      rw [OccursAt, List.drop_zero] at hoccurs
      exact absurd (List.isPrefixOf_iff_prefix.mpr hoccurs) hprefix
    | succ i =>
      rw [OccursAt, List.drop_succ_cons] at hoccurs
      rcases ih hoccurs with hlt | hmem | ⟨j, hj, hbefore, hover⟩
      · exact absurd hlt (Nat.not_lt_zero _)
      · exact Or.inr (Or.inl (by rwa [Nat.add_right_comm] at hmem))
      · exact Or.inr (Or.inr ⟨j, hj, by omega, by omega⟩)

variable {pattern text : List α}

theorem occursAt_of_mem {i : ℕ} (h : i ∈ matchIndices pattern text) : OccursAt pattern text i :=
  (matchesFrom_bounds pattern 0 0 text i h).2.2

/-- A search from the left misses an occurrence only for a match that it begins in. -/
theorem mem_or_overlapped (hpattern : pattern ≠ []) {i : ℕ} (h : OccursAt pattern text i) :
    i ∈ matchIndices pattern text ∨
      ∃ j ∈ matchIndices pattern text, j < i ∧ i < j + pattern.length := by
  rcases mem_matchesFrom hpattern 0 0 text h with hlt | hmem | hover
  · exact absurd hlt (Nat.not_lt_zero _)
  · exact Or.inl (by rwa [Nat.zero_add] at hmem)
  · obtain ⟨j, hj, hbefore, hbehind⟩ := hover
    exact Or.inr ⟨j, hj, by omega, by omega⟩

end Foundation.Matching
