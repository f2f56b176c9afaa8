import Mathlib.Tactic.Common
import Mathlib.Data.List.Basic

/-!
# Matching copies from the end of a list

Copies of keys are matched one after the other, each with the last element of its key that is
still free. Which elements are matched in the end depends only on how many copies of each key
there are: those with fewer later elements of their key than copies.
-/

namespace Foundation.Occurrences

variable {α κ : Type} [DecidableEq κ] {key : α → Option κ} {l : List α}

/-- How many elements behind a position have the key. -/
def later (key : α → Option κ) (l : List α) (i : ℕ) (k : κ) : ℕ :=
  (l.drop (i + 1)).countP fun a => key a = some k

def lastUnused (key : α → Option κ) (l : List α) (used : List ℕ) (k : κ) : Option ℕ :=
  (l.zipIdx.reverse.find? fun entry => entry.2 ∉ used && key entry.1 = some k).map (·.2)

theorem countP_drop_anti (q : α → Bool) {i j : ℕ} (h : i ≤ j) :
    (l.drop j).countP q ≤ (l.drop i).countP q := by
  obtain ⟨d, rfl⟩ := Nat.exists_eq_add_of_le h
  rw [← List.drop_drop]
  exact (List.drop_sublist d _).countP_le

theorem later_lt {i j : ℕ} {a : α} {k : κ} (hij : i < j) (hj : l[j]? = some a)
    (hk : key a = some k) : later key l j k < later key l i k := by
  obtain ⟨hlt, rfl⟩ := List.getElem?_eq_some_iff.mp hj
  have hmono := countP_drop_anti (l := l) (fun a => key a = some k) (Nat.succ_le_of_lt hij)
  rw [List.drop_eq_getElem_cons hlt, List.countP_cons_of_pos (by simpa using hk)] at hmono
  exact hmono

theorem next_later {i n : ℕ} {k : κ} (h : later key l i k = n + 1) :
    ∃ j a, i < j ∧ l[j]? = some a ∧ key a = some k ∧ later key l j k = n := by
  unfold later at h
  induction hlen : l.length - (i + 1) generalizing i with
  | zero =>
    rw [List.drop_eq_nil_of_le (by omega)] at h
    cases h
  | succ d ih =>
    have hlt : i + 1 < l.length := by omega
    rw [List.drop_eq_getElem_cons hlt] at h
    by_cases hk : key l[i + 1] = some k
    · rw [List.countP_cons_of_pos (by simpa using hk)] at h
      exact ⟨i + 1, l[i + 1], by omega, List.getElem?_eq_getElem hlt, hk, by unfold later; omega⟩
    · rw [List.countP_cons_of_neg (by simpa using hk)] at h
      obtain ⟨j, a, hij, hj, hkey, hlater⟩ := ih h (by omega)
      exact ⟨j, a, by omega, hj, hkey, hlater⟩

theorem lastUnused_eq_some {used : List ℕ} {k : κ} {found : ℕ}
    (h : lastUnused key l used k = some found) :
    found ∉ used ∧ (∃ a, l[found]? = some a ∧ key a = some k) ∧
      ∀ j a, found < j → l[j]? = some a → key a = some k → j ∈ used := by
  obtain ⟨⟨a, i⟩, hfind, rfl⟩ := Option.map_eq_some_iff.mp h
  obtain ⟨hq, before, after, hsplit, hbefore⟩ := List.find?_eq_some_iff_append.mp hfind
  simp only [Bool.and_eq_true, decide_eq_true_eq] at hq
  have hreverse := congrArg List.reverse hsplit
  rw [List.reverse_reverse, List.reverse_append, List.reverse_cons, List.append_assoc] at hreverse
  have hget (j : ℕ) : l.zipIdx[j]? = l[j]?.map fun b => (b, j) := by simp
  have hi : after.reverse.length = i := by
    have hat := hget after.reverse.length
    rw [hreverse, List.getElem?_append_right (Nat.le_refl _), Nat.sub_self] at hat
    obtain ⟨b, -, hb⟩ := Option.map_eq_some_iff.mp hat.symm
    exact (Prod.mk.inj hb).2
  refine ⟨hq.1, ⟨a, ?_, hq.2⟩, fun j b hj hb hk => ?_⟩
  · have hat := hget i
    rw [hreverse, List.getElem?_append_right (by omega), hi, Nat.sub_self] at hat
    obtain ⟨b, hb, heq⟩ := Option.map_eq_some_iff.mp hat.symm
    rw [hb, (Prod.mk.inj heq).1]
  · have hat := hget j
    rw [hb, hreverse, List.getElem?_append_right (by omega), hi] at hat
    have hmem : (b, j) ∈ before := by
      obtain ⟨d, hd⟩ := Nat.exists_eq_add_of_lt hj
      rw [show j - i = d + 1 by omega, List.cons_append, List.getElem?_cons_succ,
        List.nil_append] at hat
      exact List.mem_reverse.mp (List.mem_of_getElem? hat)
    have hnot := hbefore _ hmem
    simp only [Bool.not_eq_true', Bool.and_eq_false_iff, decide_eq_false_iff_not, hk, not_true,
      or_false, not_not] at hnot
    exact hnot

theorem lastUnused_eq_none {used : List ℕ} {k : κ} (h : lastUnused key l used k = none) (j : ℕ)
    (a : α) (hj : l[j]? = some a) (hk : key a = some k) : j ∈ used := by
  have hmem : (a, j) ∈ l.zipIdx.reverse :=
    List.mem_reverse.mpr (List.mem_zipIdx_iff_getElem?.mpr hj)
  have hnone := List.find?_eq_none.mp (Option.map_eq_none_iff.mp h) (a, j) hmem
  simpa [hk] using hnone

/-- The used positions are those with fewer later elements of their key than copies. -/
structure Matched (key : α → Option κ) (l : List α) (copies : κ → ℕ) (used : List ℕ) : Prop where
  nodup : used.Nodup
  keyed : ∀ i ∈ used, ∃ a k, l[i]? = some a ∧ key a = some k
  exact : ∀ i a k, l[i]? = some a → key a = some k → (i ∈ used ↔ later key l i k < copies k)

theorem Matched.nil : Matched key l (fun _ => 0) [] where
  nodup := List.nodup_nil
  keyed := List.forall_mem_nil _
  exact _ _ _ _ _ := by simp

def added (copies : κ → ℕ) (k : κ) : κ → ℕ := fun k' => if k' = k then copies k' + 1 else copies k'

theorem added_self (copies : κ → ℕ) (k : κ) : added copies k k = copies k + 1 := if_pos rfl

theorem added_of_ne {copies : κ → ℕ} {k k' : κ} (h : k' ≠ k) : added copies k k' = copies k' :=
  if_neg h

namespace Matched
variable {copies : κ → ℕ} {used : List ℕ} {k : κ} {found : ℕ}

theorem found_later (h : Matched key l copies used) (hfound : lastUnused key l used k = some found) :
    later key l found k = copies k := by
  obtain ⟨hnot, ⟨a, ha, hk⟩, hlast⟩ := lastUnused_eq_some hfound
  have hge : copies k ≤ later key l found k :=
    Nat.le_of_not_lt fun hlt => hnot ((h.exact found a k ha hk).mpr hlt)
  refine Nat.le_antisymm (Nat.le_of_not_lt fun hlt => ?_) hge
  obtain ⟨n, hn⟩ := Nat.exists_eq_add_of_lt hlt
  obtain ⟨j, b, hj, hb, hkey, hlater⟩ := next_later (n := copies k + n) hn
  have hused := (h.exact j b k hb hkey).mp (hlast j b hj hb hkey)
  omega

theorem cons (h : Matched key l copies used) (hfound : lastUnused key l used k = some found) :
    Matched key l (added copies k) (found :: used) := by
  have hlater := h.found_later hfound
  obtain ⟨hnot, ⟨a, ha, hk⟩, hlast⟩ := lastUnused_eq_some hfound
  refine ⟨List.nodup_cons.mpr ⟨hnot, h.nodup⟩, ?_, fun i b k' hb hkey => ?_⟩
  · exact List.forall_mem_cons.mpr ⟨⟨a, k, ha, hk⟩, h.keyed⟩
  · rw [List.mem_cons]
    by_cases hsame : k' = k
    · subst hsame
      rw [added_self]
      rcases Nat.lt_trichotomy i found with hlt | rfl | hgt
      · have hmore := later_lt hlt ha hk
        have hfree := (h.exact i b k' hb hkey).not.mpr (by omega)
        exact iff_of_false (not_or.mpr ⟨by omega, hfree⟩) (by omega)
      · exact iff_of_true (Or.inl rfl) (by omega)
      · have hless := later_lt hgt hb hkey
        exact iff_of_true (Or.inr (hlast i b hgt hb hkey)) (by omega)
    · rw [added_of_ne hsame, ← h.exact i b k' hb hkey]
      refine or_iff_right fun heq => hsame ?_
      rw [heq, ha] at hb
      cases hb
      exact Option.some.inj (hkey.symm.trans hk)

theorem miss (h : Matched key l copies used) (hnone : lastUnused key l used k = none) :
    Matched key l (added copies k) used := by
  refine ⟨h.nodup, h.keyed, fun i a k' ha hkey => ?_⟩
  by_cases hsame : k' = k
  · subst hsame
    have hused := lastUnused_eq_none hnone i a ha hkey
    have hlt := (h.exact i a k' ha hkey).mp hused
    rw [added_self]
    exact iff_of_true hused (by omega)
  · rw [added_of_ne hsame]
    exact h.exact i a k' ha hkey

end Matched

end Foundation.Occurrences
