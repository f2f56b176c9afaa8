import Mathlib.Tactic.Common
import Mathlib.Data.List.Basic

/-!
# Globs

Patterns with one sign for any sequence and one for any single item. Besides the matches of a
pattern, the held matches are studied: in those the sign for any sequence, when it stands in front
of itself in the text, stands for that one item.
-/

namespace Foundation.Glob

variable {α : Type} {many one : α}

inductive Matches (many one : α) : List α → List α → Prop
  | nil : Matches many one [] []
  | item {c p t} (hmany : c ≠ many) (hone : c ≠ one) (h : Matches many one p t) :
      Matches many one (c :: p) (c :: t)
  | one {x p t} (h : Matches many one p t) : Matches many one (one :: p) (x :: t)
  | many {u v p} (h : Matches many one p v) : Matches many one (many :: p) (u ++ v)

def Takes (one : α) (c x : α) : Prop := c = x ∨ c = one

inductive Held (many one : α) : List α → List α → Prop
  | nil : Held many one [] []
  | item {c x p t} (hc : Takes one c x) (h : Held many one p t) : Held many one (c :: p) (x :: t)
  | many {u v p} (hfree : (u ++ v).head? ≠ some many) (h : Held many one p v) :
      Held many one (many :: p) (u ++ v)

variable {p t : List α} {c x : α}

theorem Held.matches (h : Held many one p t) (hne : many ≠ one) : Matches many one p t := by
  induction h with
  | nil => exact .nil
  | @item c x p t hc _ ih =>
    by_cases hone : c = one
    · subst hone
      exact .one ih
    · obtain rfl := hc.resolve_right hone
      by_cases hmany : c = many
      · subst hmany
        exact Matches.many (u := [c]) ih
      · exact .item hmany hone ih
  | many _ _ ih => exact .many ih

theorem Matches.held (h : Matches many one p t) (hfree : many ∉ t) : Held many one p t := by
  induction h with
  | nil => exact .nil
  | item _ _ _ ih => exact .item (Or.inl rfl) (ih fun hmem => hfree (List.mem_cons_of_mem _ hmem))
  | one _ ih => exact .item (Or.inr rfl) (ih fun hmem => hfree (List.mem_cons_of_mem _ hmem))
  | many _ ih =>
    refine .many (fun hhead => ?_) (ih fun hmem => hfree (List.mem_append_right _ hmem))
    exact hfree (List.mem_of_head? hhead)

theorem held_nil : Held many one [] t ↔ t = [] := by
  constructor
  · intro h
    cases h
    rfl
  · rintro rfl
    exact .nil

theorem held_item (hne : many ≠ one) (hc : Takes one c x) :
    Held many one (c :: p) (x :: t) ↔ Held many one p t := by
  refine ⟨fun h => ?_, .item hc⟩
  generalize htext : x :: t = text at h
  cases h with
  | item _ h =>
    cases htext
    exact h
  | many hfree h =>
    rw [← htext] at hfree
    rcases hc with rfl | rfl
    · exact absurd rfl hfree
    · exact absurd rfl hne

theorem held_many (hne : many ≠ one) (hfree : t.head? ≠ some many) :
    Held many one (many :: p) t ↔ ∃ k, Held many one p (t.drop k) := by
  constructor
  · intro h
    cases h with
    | item hc h =>
      rcases hc with rfl | rfl
      · exact absurd rfl hfree
      · exact absurd rfl hne
    | @many u v _ _ h =>
      refine ⟨u.length, ?_⟩
      rw [List.drop_left]
      exact h
  · rintro ⟨k, h⟩
    rw [← List.take_append_drop k t] at hfree ⊢
    exact .many hfree h

theorem held_rest (h : Held many one (c :: p) t) : ∃ k, Held many one p (t.drop k) := by
  cases h with
  | item _ h => exact ⟨1, h⟩
  | @many u v _ _ h =>
    refine ⟨u.length, ?_⟩
    rw [List.drop_left]
    exact h

theorem not_held (hc : ¬Takes one c x) (hmany : c ≠ many) : ¬Held many one (c :: p) (x :: t) := by
  intro h
  generalize htext : x :: t = text at h
  cases h with
  | item htakes _ =>
    cases htext
    exact hc htakes
  | many => exact hmany rfl

theorem held_end : Held many one p [] ↔ ∀ c ∈ p, c = many := by
  induction p with
  | nil => exact iff_of_true .nil (List.forall_mem_nil _)
  | cons c p ih =>
    rw [List.forall_mem_cons, ← ih]
    constructor
    · intro h
      generalize htext : ([] : List α) = text at h
      cases h with
      | item => cases htext
      | @many u v _ _ h =>
        refine ⟨rfl, ?_⟩
        rw [(List.append_eq_nil_iff.mp htext.symm).1, List.nil_append]
        exact h
    · rintro ⟨rfl, h⟩
      exact Held.many (u := []) (by simp) h

/-- Starting anywhere later, the start of the pattern ends no earlier. -/
theorem held_later {start read rest text : List α} (hne : many ≠ one)
    (hread : List.Forall₂ (Takes one) start read) {k : ℕ}
    (h : Held many one (start ++ rest) ((read ++ text).drop k)) :
    ∃ j, Held many one rest (text.drop j) := by
  induction hread generalizing k with
  | nil => exact ⟨k, h⟩
  | @cons c x start read hc _ ih =>
    cases k with
    | zero => exact ih (k := 0) ((held_item hne hc).mp h)
    | succ k =>
      rw [List.cons_append, List.cons_append, List.drop_succ_cons] at h
      generalize hlater : (read ++ text).drop k = later at h
      cases h with
      | @item _ y _ t _ h =>
        refine ih (k := k + 1) ?_
        rw [← List.drop_drop, hlater]
        exact h
      | @many u v _ _ h =>
        refine ih (k := k + u.length) ?_
        rw [← List.drop_drop, hlater, List.drop_left]
        exact h

end Foundation.Glob
