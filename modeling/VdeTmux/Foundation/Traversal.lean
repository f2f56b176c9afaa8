import Mathlib.Data.Finset.Card
import Mathlib.Data.Finset.SDiff
import Mathlib.Logic.Relation

/-!
# Walks over a graph with cycles

A stack of nodes to come, and the nodes that were there. A node that was there is dropped; another
one is visited and its children go on the stack. Every node that can be reached is visited once.
-/

namespace Foundation.Traversal

variable {α : Type} [DecidableEq α]

/-- A graph in which only the nodes of a finite set have children. -/
structure Graph (α : Type) where
  children : α → List α
  parents : Finset α
  leaf : ∀ a ∉ parents, children a = []

variable (g : Graph α)

/-- A stack with the children of a node on top, the last one first. -/
def Graph.push (a : α) (stack : List α) : List α := (g.children a).reverse ++ stack

omit [DecidableEq α] in
theorem Graph.mem_push {a b : α} {stack : List α} :
    b ∈ g.push a stack ↔ b ∈ g.children a ∨ b ∈ stack := by
  rw [Graph.push, List.mem_append, List.mem_reverse]

def walk (stack : List α) (visited : Finset α) : List α :=
  match stack with
  | [] => []
  | a :: rest =>
    if a ∈ visited then walk rest visited
    else a :: walk (g.push a rest) (insert a visited)
termination_by ((g.parents \ visited).card, stack.length)
decreasing_by
  · exact Prod.Lex.right _ (Nat.lt_succ_self _)
  · rename_i hnew
    by_cases hparent : a ∈ g.parents
    · refine Prod.Lex.left _ _ (Finset.card_lt_card ?_)
      refine ⟨Finset.sdiff_subset_sdiff (Finset.Subset.refl _) (Finset.subset_insert _ _), ?_⟩
      intro h
      have hold := h (Finset.mem_sdiff.mpr ⟨hparent, hnew⟩)
      exact (Finset.mem_sdiff.mp hold).2 (Finset.mem_insert_self _ _)
    · have hsame : g.parents \ insert a visited = g.parents \ visited := by
        rw [Finset.sdiff_insert_of_notMem hparent]
      rw [hsame, Graph.push, g.leaf a hparent]
      exact Prod.Lex.right _ (Nat.lt_succ_self _)

def Reach (a b : α) : Prop := Relation.ReflTransGen (fun x y => y ∈ g.children x) a b

theorem reach_of_mem_walk {stack : List α} {visited : Finset α} {b : α}
    (h : b ∈ walk g stack visited) : ∃ a ∈ stack, Reach g a b := by
  fun_induction walk g stack visited with
  | case1 visited => cases h
  | case2 visited a rest hold ih =>
    obtain ⟨c, hc, hreach⟩ := ih h
    exact ⟨c, List.mem_cons_of_mem _ hc, hreach⟩
  | case3 visited a rest hnew ih =>
    rcases List.mem_cons.mp h with rfl | h
    · exact ⟨b, List.mem_cons_self, .refl⟩
    · obtain ⟨c, hc, hreach⟩ := ih h
      rcases (g.mem_push).mp hc with hc | hc
      · exact ⟨a, List.mem_cons_self, .head hc hreach⟩
      · exact ⟨c, List.mem_cons_of_mem _ hc, hreach⟩

theorem walk_closed {stack : List α} {visited : Finset α}
    (h : ∀ a ∈ visited, ∀ b ∈ g.children a, b ∈ visited ∨ b ∈ stack) :
    (∀ a ∈ stack, a ∈ visited ∨ a ∈ walk g stack visited) ∧
      ∀ a, a ∈ visited ∨ a ∈ walk g stack visited →
        ∀ b ∈ g.children a, b ∈ visited ∨ b ∈ walk g stack visited := by
  fun_induction walk g stack visited with
  | case1 visited =>
    refine ⟨fun a ha => absurd ha List.not_mem_nil, fun a ha b hb => ?_⟩
    rcases ha with ha | ha
    · exact Or.inl ((h a ha b hb).resolve_right List.not_mem_nil)
    · cases ha
  | case2 visited a rest hold ih =>
    obtain ⟨hstack, hclosed⟩ := ih fun c hc b hb => by
      rcases h c hc b hb with hb | hb
      · exact Or.inl hb
      · rcases List.mem_cons.mp hb with rfl | hb
        · exact Or.inl hold
        · exact Or.inr hb
    refine ⟨fun c hc => ?_, hclosed⟩
    rcases List.mem_cons.mp hc with rfl | hc
    · exact Or.inl hold
    · exact hstack c hc
  | case3 visited a rest hnew ih =>
    have hmove : ∀ c, c ∈ insert a visited ∨
        c ∈ walk g (g.push a rest) (insert a visited) ↔
          c ∈ visited ∨ c ∈ a :: walk g (g.push a rest) (insert a visited) := by
      intro c
      rw [Finset.mem_insert, List.mem_cons]
      tauto
    obtain ⟨hstack, hclosed⟩ := ih fun c hc b hb => by
      rcases Finset.mem_insert.mp hc with rfl | hc
      · exact Or.inr ((g.mem_push).mpr (Or.inl hb))
      · rcases h c hc b hb with hb | hb
        · exact Or.inl (Finset.mem_insert_of_mem hb)
        · rcases List.mem_cons.mp hb with rfl | hb
          · exact Or.inl (Finset.mem_insert_self _ _)
          · exact Or.inr ((g.mem_push).mpr (Or.inr hb))
    refine ⟨fun c hc => (hmove c).mp ?_, fun c hc b hb =>
      (hmove b).mp (hclosed c ((hmove c).mpr hc) b hb)⟩
    rcases List.mem_cons.mp hc with rfl | hc
    · exact Or.inl (Finset.mem_insert_self _ _)
    · exact hstack c ((g.mem_push).mpr (Or.inr hc))

/-- A walk from a root visits exactly what can be reached from it. -/
theorem mem_walk_iff {root b : α} : b ∈ walk g [root] ∅ ↔ Reach g root b := by
  constructor
  · intro h
    obtain ⟨a, ha, hreach⟩ := reach_of_mem_walk g h
    obtain rfl := List.mem_singleton.mp ha
    exact hreach
  · intro h
    have hnone : ∀ a ∈ (∅ : Finset α), ∀ b ∈ g.children a, b ∈ (∅ : Finset α) ∨ b ∈ [root] :=
      fun a ha => absurd ha (Finset.notMem_empty _)
    obtain ⟨hstack, hclosed⟩ := walk_closed g hnone
    have hall : b ∈ (∅ : Finset α) ∨ b ∈ walk g [root] ∅ := by
      induction h with
      | refl => exact hstack root (List.mem_singleton_self _)
      | tail _ hchild ih => exact hclosed _ ih _ hchild
    exact hall.resolve_left (Finset.notMem_empty _)

end Foundation.Traversal
