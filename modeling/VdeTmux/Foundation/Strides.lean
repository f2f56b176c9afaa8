import Mathlib.Data.List.Range
import Mathlib.Data.Nat.ModEq
import Mathlib.Data.List.NodupEquivFin

/-!
# Strides around a cycle

A walk around a cycle by a stride prime to its length comes to every place once before it is back.
-/

namespace Foundation

def strides (n stride start : ℕ) : List ℕ :=
  (List.range n).map fun k => (start + (k + 1) * stride) % n

theorem length_strides (n stride start : ℕ) : (strides n stride start).length = n := by
  simp [strides]

theorem strides_perm {n stride : ℕ} (h : Nat.Coprime n stride) (start : ℕ) :
    (strides n stride start).Perm (List.range n) := by
  have hnodup : (strides n stride start).Nodup := by
    refine List.Nodup.map_on (fun a ha b hb hab => ?_) List.nodup_range
    have hmul : (a + 1) * stride ≡ (b + 1) * stride [MOD n] :=
      Nat.ModEq.add_left_cancel (Nat.ModEq.refl start) hab
    have hsucc : a + 1 ≡ b + 1 [MOD n] := Nat.ModEq.cancel_right_of_coprime h hmul
    have hmod : a ≡ b [MOD n] := Nat.ModEq.add_right_cancel (Nat.ModEq.refl 1) hsucc
    exact Nat.ModEq.eq_of_lt_of_lt hmod (List.mem_range.mp ha) (List.mem_range.mp hb)
  have hsub : strides n stride start ⊆ List.range n := by
    intro place hplace
    obtain ⟨k, hk, rfl⟩ := List.mem_map.mp hplace
    have hn : 0 < n := Nat.zero_lt_of_lt (List.mem_range.mp hk)
    exact List.mem_range.mpr (Nat.mod_lt _ hn)
  exact (List.subperm_of_subset hnodup hsub).perm_of_length_le (by simp [length_strides])

theorem getLast?_strides {n stride start : ℕ} (hstart : start < n) :
    (strides n stride start).getLast? = some start := by
  obtain ⟨m, rfl⟩ : ∃ m, n = m + 1 := ⟨n - 1, by omega⟩
  rw [strides, List.range_succ, List.map_append, List.map_singleton, List.getLast?_concat,
    Nat.add_mul_mod_self_left, Nat.mod_eq_of_lt hstart]

end Foundation
