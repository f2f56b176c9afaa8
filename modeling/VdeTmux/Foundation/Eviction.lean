import Mathlib.Data.Finset.Card
import Mathlib.Tactic.Common

/-!
# Eviction from the front

A queue gives up its entries from the front until enough is gone. When more gone entries never
undo that, an entry goes if and only if it is not enough that all entries before it go.
-/

namespace Foundation.Eviction

variable {α κ : Type} [DecidableEq κ] (enough : Finset κ → Bool) (key : α → κ)

def evict : List α → Finset κ → Finset κ
  | [], gone => gone
  | a :: queue, gone => if enough gone then gone else evict queue (insert (key a) gone)

theorem subset_evict (queue : List α) (gone : Finset κ) : gone ⊆ evict enough key queue gone := by
  induction queue generalizing gone with
  | nil => exact Finset.Subset.refl _
  | cons a queue ih =>
    simp only [evict]
    split_ifs
    · exact Finset.Subset.refl _
    · exact (Finset.subset_insert _ _).trans (ih _)

theorem mem_of_mem_evict {queue : List α} {gone : Finset κ} {k : κ}
    (h : k ∈ evict enough key queue gone) : k ∈ gone ∨ ∃ a ∈ queue, key a = k := by
  induction queue generalizing gone with
  | nil => exact Or.inl h
  | cons a queue ih =>
    simp only [evict] at h
    split_ifs at h
    · exact Or.inl h
    · rcases ih h with hgone | ⟨b, hb, hkey⟩
      · rcases Finset.mem_insert.mp hgone with rfl | hgone
        · exact Or.inr ⟨a, List.mem_cons_self, rfl⟩
        · exact Or.inl hgone
      · exact Or.inr ⟨b, List.mem_cons_of_mem _ hb, hkey⟩

variable {enough key} {R : α → α → Prop} [DecidableRel R]

theorem mem_evict_iff (hmono : ∀ {s t : Finset κ}, s ⊆ t → enough s = true → enough t = true)
    (hirrefl : ∀ a, ¬R a a) (hasymm : ∀ a b, R a b → ¬R b a) {queue : List α}
    (hqueue : queue.Pairwise R) (hkeys : (queue.map key).Nodup) {gone : Finset κ} {a : α}
    (ha : a ∈ queue) (hgone : key a ∉ gone) :
    key a ∈ evict enough key queue gone ↔
      enough (gone ∪ ((queue.filter fun b => R b a).map key).toFinset) = false := by
  induction queue generalizing gone with
  | nil => cases ha
  | cons b queue ih =>
    obtain ⟨hb, hqueue⟩ := List.pairwise_cons.mp hqueue
    obtain ⟨hbkey, hkeys⟩ := List.nodup_cons.mp hkeys
    simp only [evict]
    rcases List.mem_cons.mp ha with rfl | hmem
    · have hnone : (queue.filter fun b => R b a) = [] :=
        List.filter_eq_nil_iff.mpr fun c hc => by simpa using hasymm _ _ (hb c hc)
      rw [List.filter_cons_of_neg (by simpa using hirrefl a), hnone, List.map_nil,
        List.toFinset_nil, Finset.union_empty]
      split_ifs with henough
      · simp [henough, hgone]
      · simpa [henough] using subset_evict enough key queue _ (Finset.mem_insert_self _ _)
    · have hunion : gone ∪ (((b :: queue).filter fun b => R b a).map key).toFinset =
          insert (key b) gone ∪ ((queue.filter fun b => R b a).map key).toFinset := by
        rw [List.filter_cons_of_pos (by simpa using hb a hmem), List.map_cons,
          List.toFinset_cons, Finset.union_insert, Finset.insert_union]
      split_ifs with henough
      · have hall := hmono Finset.subset_union_left henough
          (t := gone ∪ (((b :: queue).filter fun b => R b a).map key).toFinset)
        simp [hgone, hall]
      · have hne : key a ≠ key b := fun h => hbkey (h ▸ List.mem_map_of_mem hmem)
        rw [ih hqueue hkeys hmem (by simp [hne, hgone]), hunion]

omit [DecidableRel R] in
/-- What a condition that is closed under going back keeps of a sorted list is its front. -/
theorem filter_prefix {p : α → Bool} {l : List α} (hl : l.Pairwise R)
    (hback : ∀ a ∈ l, ∀ b ∈ l, R a b → p b = true → p a = true) : l.filter p <+: l := by
  induction l with
  | nil => exact List.prefix_refl _
  | cons a l ih =>
    obtain ⟨ha, hl⟩ := List.pairwise_cons.mp hl
    have hrest := ih hl fun b hb c hc =>
      hback b (List.mem_cons_of_mem _ hb) c (List.mem_cons_of_mem _ hc)
    cases hp : p a with
    | true => simpa [List.filter_cons_of_pos hp] using hrest
    | false =>
      have hnone : l.filter p = [] := List.filter_eq_nil_iff.mpr fun b hb hpb => by
        have := hback a List.mem_cons_self b (List.mem_cons_of_mem _ hb) (ha b hb) hpb
        rw [hp] at this
        exact Bool.noConfusion this
      rw [List.filter_cons_of_neg (by simp [hp]), hnone]
      exact List.nil_prefix

end Foundation.Eviction
