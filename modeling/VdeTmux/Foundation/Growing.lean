import Mathlib.Tactic.Common
import Mathlib.Algebra.Order.Group.Nat

/-!
# Growing an interval

An interval of positions grows by one on the left and one on the right as long as the grown interval
fits. It ends where it can grow on neither side.
-/

namespace Foundation.Growing

variable (fits : ℕ → ℕ → Bool) (len : ℕ)

def growStep (block : ℕ × ℕ) : ℕ × ℕ :=
  let start := if 0 < block.1 ∧ fits (block.1 - 1) block.2 = true then block.1 - 1 else block.1
  let stop := if block.2 < len ∧ fits start (block.2 + 1) = true then block.2 + 1 else block.2
  (start, stop)

theorem growStep_cases (start stop : ℕ) :
    let next := growStep fits len (start, stop)
    (next.1 = start ∧ (0 < start → fits (start - 1) stop = false) ∨
      next.1 + 1 = start ∧ fits next.1 stop = true) ∧
    (next.2 = stop ∧ (stop < len → fits next.1 (stop + 1) = false) ∨
      next.2 = stop + 1 ∧ stop < len ∧ fits next.1 (stop + 1) = true) := by
  intro next
  constructor
  · by_cases h : 0 < start ∧ fits (start - 1) stop = true
    · have hnext : next.1 = start - 1 := if_pos h
      right
      rw [hnext]
      exact ⟨by omega, h.2⟩
    · have hnext : next.1 = start := if_neg h
      left
      exact ⟨hnext, fun hpos => Bool.eq_false_iff.mpr fun hfits => h ⟨hpos, hfits⟩⟩
  · by_cases h : stop < len ∧ fits next.1 (stop + 1) = true
    · exact Or.inr ⟨if_pos h, h⟩
    · exact Or.inl ⟨if_neg h, fun hlt => Bool.eq_false_iff.mpr fun hfits => h ⟨hlt, hfits⟩⟩

variable {fits len}

theorem growStep_lt {block : ℕ × ℕ} (h : growStep fits len block ≠ block) :
    (growStep fits len block).1 + (len - (growStep fits len block).2) <
      block.1 + (len - block.2) := by
  obtain ⟨start, stop⟩ := block
  obtain ⟨hstart, hstop⟩ := growStep_cases fits len start stop
  generalize growStep fits len (start, stop) = next at h hstart hstop
  obtain ⟨start', stop'⟩ := next
  dsimp only at hstart hstop ⊢
  rcases hstart with ⟨rfl, -⟩ | ⟨hstart, -⟩
  · rcases hstop with ⟨rfl, -⟩ | ⟨hstop, hlt, -⟩
    · exact absurd rfl h
    · omega
  · rcases hstop with ⟨hstop, -⟩ | ⟨hstop, hlt, -⟩ <;> omega

variable (fits len)

def grow (block : ℕ × ℕ) : ℕ × ℕ :=
  if growStep fits len block = block then block else grow (growStep fits len block)
termination_by block.1 + (len - block.2)
decreasing_by exact growStep_lt ‹_›

structure Maximal (block : ℕ × ℕ) : Prop where
  left : 0 < block.1 → fits (block.1 - 1) block.2 = false
  right : block.2 < len → fits block.1 (block.2 + 1) = false

variable {fits len}

theorem maximal_of_fixed {block : ℕ × ℕ} (h : growStep fits len block = block) :
    Maximal fits len block := by
  obtain ⟨start, stop⟩ := block
  obtain ⟨hstart, hstop⟩ := growStep_cases fits len start stop
  rw [h] at hstart hstop
  dsimp only at hstart hstop
  constructor
  · rcases hstart with ⟨-, hleft⟩ | ⟨hless, -⟩
    · exact hleft
    · omega
  · rcases hstop with ⟨-, hright⟩ | ⟨hmore, -⟩
    · exact hright
    · omega

theorem grow_maximal (block : ℕ × ℕ) : Maximal fits len (grow fits len block) := by
  induction block using grow.induct fits len with
  | case1 block hfixed =>
    rw [grow, if_pos hfixed]
    exact maximal_of_fixed hfixed
  | case2 block hgrown ih =>
    rw [grow, if_neg hgrown]
    exact ih

theorem grow_keeps {P : ℕ × ℕ → Prop} (hstep : ∀ block, P block → P (growStep fits len block))
    {block : ℕ × ℕ} (h : P block) : P (grow fits len block) := by
  induction block using grow.induct fits len with
  | case1 block hfixed =>
    rw [grow, if_pos hfixed]
    exact h
  | case2 block hgrown ih =>
    rw [grow, if_neg hgrown]
    exact ih (hstep block h)

theorem grow_contains {block : ℕ × ℕ} {position : ℕ} (hstart : block.1 ≤ position)
    (hstop : position < block.2) (hlen : block.2 ≤ len) :
    (grow fits len block).1 ≤ position ∧ position < (grow fits len block).2 ∧
      (grow fits len block).2 ≤ len := by
  apply grow_keeps (P := fun block => block.1 ≤ position ∧ position < block.2 ∧ block.2 ≤ len)
  · rintro ⟨start, stop⟩ ⟨hstart, hstop, hlen⟩
    obtain ⟨hleft, hright⟩ := growStep_cases fits len start stop
    dsimp only at hstart hstop hlen hleft hright
    refine ⟨?_, ?_, ?_⟩
    · rcases hleft with ⟨heq, -⟩ | ⟨heq, -⟩ <;> omega
    · rcases hright with ⟨heq, -⟩ | ⟨heq, -, -⟩ <;> omega
    · rcases hright with ⟨heq, -⟩ | ⟨heq, hlt, -⟩ <;> omega
  · exact ⟨hstart, hstop, hlen⟩

theorem grow_fits {block : ℕ × ℕ} (h : fits block.1 block.2 = true) :
    fits (grow fits len block).1 (grow fits len block).2 = true := by
  apply grow_keeps (P := fun block => fits block.1 block.2 = true)
  · rintro ⟨start, stop⟩ hfits
    obtain ⟨hleft, hright⟩ := growStep_cases fits len start stop
    dsimp only at hfits hleft hright ⊢
    have hleft' : fits (growStep fits len (start, stop)).1 stop = true := by
      rcases hleft with ⟨heq, -⟩ | ⟨-, hfits'⟩
      · rw [heq]
        exact hfits
      · exact hfits'
    rcases hright with ⟨heq, -⟩ | ⟨heq, -, hfits'⟩
    · rw [heq]
      exact hleft'
    · rw [heq]
      exact hfits'
  · exact h

end Foundation.Growing
