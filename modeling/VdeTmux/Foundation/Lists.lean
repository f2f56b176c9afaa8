import Mathlib.Tactic.Common

/-!
# In-place list updates

The first element with a property is found and rewritten, as a mutable iterator does it.
-/

namespace Foundation

variable {α β : Type}

def updateFirst (p : α → Bool) (f : α → α) : List α → List α
  | [] => []
  | a :: l => if p a then f a :: l else a :: updateFirst p f l

example : updateFirst (· == 2) (· + 1) [1, 2, 2] = [1, 3, 2] := by simp [updateFirst]

theorem mem_updateFirst {p : α → Bool} {f : α → α} {l : List α} {x : α}
    (h : x ∈ updateFirst p f l) : x ∈ l ∨ ∃ a ∈ l, p a = true ∧ x = f a := by
  induction l with
  | nil => simp [updateFirst] at h
  | cons a l ih =>
    simp only [updateFirst] at h
    split_ifs at h with ha
    · rcases List.mem_cons.mp h with rfl | hx
      · exact Or.inr ⟨a, List.mem_cons_self, ha, rfl⟩
      · exact Or.inl (List.mem_cons_of_mem a hx)
    · rcases List.mem_cons.mp h with rfl | hx
      · exact Or.inl List.mem_cons_self
      · rcases ih hx with hx | ⟨b, hb, hp, rfl⟩
        · exact Or.inl (List.mem_cons_of_mem a hx)
        · exact Or.inr ⟨b, List.mem_cons_of_mem a hb, hp, rfl⟩

theorem mem_or_updateFirst {p : α → Bool} {f : α → α} {l : List α} {x : α} (h : x ∈ l) :
    x ∈ updateFirst p f l ∨ f x ∈ updateFirst p f l := by
  induction l with
  | nil => simp at h
  | cons a l ih =>
    simp only [updateFirst]
    split_ifs with ha
    · rcases List.mem_cons.mp h with rfl | hx
      · exact Or.inr List.mem_cons_self
      · exact Or.inl (List.mem_cons_of_mem _ hx)
    · rcases List.mem_cons.mp h with rfl | hx
      · exact Or.inl List.mem_cons_self
      · exact (ih hx).imp (List.mem_cons_of_mem a) (List.mem_cons_of_mem a)

theorem map_updateFirst {p : α → Bool} {f : α → α} {g : α → β} (hg : ∀ a, g (f a) = g a)
    (l : List α) : (updateFirst p f l).map g = l.map g := by
  induction l with
  | nil => rfl
  | cons a l ih =>
    simp only [updateFirst]
    split_ifs
    · simp [hg]
    · simp [ih]

theorem length_updateFirst (p : α → Bool) (f : α → α) (l : List α) :
    (updateFirst p f l).length = l.length := by
  induction l with
  | nil => rfl
  | cons a l ih =>
    simp only [updateFirst]
    split_ifs
    · rfl
    · simp [ih]

theorem nodup_map_append_singleton {g : α → β} {l : List α} {a : α} (h : (l.map g).Nodup)
    (ha : ∀ x ∈ l, g x ≠ g a) : ((l ++ [a]).map g).Nodup := by
  rw [List.map_append, List.map_singleton, List.nodup_append]
  refine ⟨h, by simp, ?_⟩
  rintro y hy z hz rfl
  obtain ⟨x, hx, hgx⟩ := List.mem_map.mp hy
  exact ha x hx (hgx.trans (List.mem_singleton.mp hz))

theorem exists_min?_le {l : List ℕ} {bound : ℕ} :
    (∃ t, l.min? = some t ∧ t ≤ bound) ↔ ∃ t ∈ l, t ≤ bound := by
  constructor
  · rintro ⟨t, hmin, hle⟩
    exact ⟨t, List.min?_mem hmin, hle⟩
  · rintro ⟨t, ht, hle⟩
    obtain ⟨least, hleast⟩ := Option.isSome_iff_exists.mp (List.isSome_min?_of_mem ht)
    exact ⟨least, hleast, Nat.le_trans ((List.min?_eq_some_iff.mp hleast).2 t ht) hle⟩

section
variable {κ : Type} [DecidableEq κ]

def givenTo (key : κ) (l : List (κ × β)) : List β := (l.filter fun p => p.1 = key).map Prod.snd

@[simp] theorem givenTo_nil (key : κ) : givenTo key ([] : List (κ × β)) = [] := rfl

theorem givenTo_cons (key : κ) (p : κ × β) (l : List (κ × β)) :
    givenTo key (p :: l) = if p.1 = key then p.2 :: givenTo key l else givenTo key l := by
  by_cases hkey : p.1 = key <;> simp [givenTo, hkey]

theorem givenTo_append (key : κ) (l l' : List (κ × β)) :
    givenTo key (l ++ l') = givenTo key l ++ givenTo key l' := by simp [givenTo]

theorem mem_givenTo {key : κ} {l : List (κ × β)} {b : β} : b ∈ givenTo key l ↔ (key, b) ∈ l := by
  simp [givenTo]

theorem givenTo_eq_nil {key : κ} {l : List (κ × β)} (h : ∀ p ∈ l, p.1 ≠ key) :
    givenTo key l = [] := by
  refine List.eq_nil_iff_forall_not_mem.mpr fun b hb => ?_
  exact h _ (mem_givenTo.mp hb) rfl

theorem givenTo_perm {key : κ} {l l' : List (κ × β)} (h : l.Perm l') :
    (givenTo key l).Perm (givenTo key l') := (h.filter _).map _

theorem nodup_of_givenTo {l : List (κ × β)} (h : ∀ key, (givenTo key l).Nodup) : l.Nodup := by
  induction l with
  | nil => exact List.nodup_nil
  | cons p l ih =>
    refine List.nodup_cons.mpr ⟨fun hp => ?_, ih fun key => ?_⟩
    · have hfirst := h p.1
      rw [givenTo_cons, if_pos rfl] at hfirst
      exact (List.nodup_cons.mp hfirst).1 (mem_givenTo.mpr hp)
    · have hall := h key
      rw [givenTo_cons] at hall
      split_ifs at hall
      · exact (List.nodup_cons.mp hall).2
      · exact hall

end

theorem append_separator_inj {sep : α} {front front' back back' : List α} (h : sep ∉ front)
    (h' : sep ∉ front') (heq : front ++ sep :: back = front' ++ sep :: back') :
    front = front' ∧ back = back' := by
  induction front generalizing front' with
  | nil =>
    cases front' with
    | nil => exact ⟨rfl, (List.cons.inj heq).2⟩
    | cons a front' => exact absurd (List.cons.inj heq).1 (List.ne_of_not_mem_cons h')
  | cons a front ih =>
    cases front' with
    | nil => exact absurd (List.cons.inj heq).1.symm (List.ne_of_not_mem_cons h)
    | cons b front' =>
      obtain ⟨rfl, htail⟩ := List.cons.inj heq
      obtain ⟨rfl, hback⟩ := ih (List.not_mem_of_not_mem_cons h)
        (List.not_mem_of_not_mem_cons h') htail
      exact ⟨rfl, hback⟩

/-- A place in a list with one more element is in the list, or it is the last one. -/
theorem exists_split_concat {l : List α} {b : α} {p : List α → α → List α → Prop} :
    (∃ front a back, l ++ [b] = front ++ a :: back ∧ p front a back) ↔
      (∃ front a back, l = front ++ a :: back ∧ p front a (back ++ [b])) ∨ p l b [] := by
  constructor
  · rintro ⟨front, a, back, hsplit, hp⟩
    rcases List.eq_nil_or_concat back with rfl | ⟨back, last, rfl⟩
    · obtain ⟨rfl, hlast⟩ := List.append_inj' hsplit rfl
      obtain rfl := (List.cons.inj hlast).1
      exact Or.inr hp
    · rw [List.concat_eq_append] at hp
      rw [List.concat_eq_append, ← List.cons_append, ← List.append_assoc] at hsplit
      obtain ⟨hfront, hlast⟩ := List.append_inj' hsplit rfl
      obtain rfl := (List.cons.inj hlast).1
      exact Or.inl ⟨front, a, back, hfront, hp⟩
  · rintro (⟨front, a, back, rfl, hp⟩ | hp)
    · refine ⟨front, a, back ++ [b], ?_, hp⟩
      rw [List.append_assoc, List.cons_append]
    · exact ⟨l, b, [], rfl, hp⟩

end Foundation
