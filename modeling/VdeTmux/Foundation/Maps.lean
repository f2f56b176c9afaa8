import Mathlib.Tactic.Common
import Mathlib.Algebra.Order.BigOperators.Group.List
import Mathlib.Algebra.Order.Ring.Nat
import Mathlib.Algebra.BigOperators.Group.List.Basic

/-!
# Ordered maps

Facts about `ExtTreeMap` with a comparison that decides equality.
-/

namespace Foundation.Maps

variable {α β : Type} {cmp : α → α → Ordering} [Std.TransCmp cmp] [Std.LawfulEqCmp cmp]

theorem erase_insert {m : Std.ExtTreeMap α β cmp} {a : α} {b : β} (h : a ∉ m) :
    (m.insert a b).erase a = m := by
  refine Std.ExtTreeMap.ext_getElem? fun {k} => ?_
  rw [Std.ExtTreeMap.getElem?_erase, Std.ExtTreeMap.getElem?_insert]
  split
  · rename_i heq
    obtain rfl := Std.LawfulEqCmp.eq_of_compare heq
    exact (Std.ExtTreeMap.getElem?_eq_none h).symm
  · rfl

theorem any_toList_eq_false {m : Std.ExtTreeMap α β cmp} {p : α → β → Bool}
    (h : (m.toList.any fun e => p e.1 e.2) = false) : (m.filter fun a b => !p a b) = m := by
  refine Std.ExtTreeMap.filter_eq_self_iff.mpr fun a ha => ?_
  have hmem : (m.getKey a ha, m[a]) ∈ m.toList := by
    refine Std.ExtTreeMap.mem_toList_iff_getElem?_eq_some.mpr ?_
    rw [Std.ExtTreeMap.getKey_eq, Std.ExtTreeMap.getElem?_eq_some_getElem ha]
  simpa using List.any_eq_false.mp h _ hmem

theorem getElem?_insert [DecidableEq α] (m : Std.ExtTreeMap α β cmp) (a k : α) (b : β) :
    (m.insert a b)[k]? = if k = a then some b else m[k]? := by
  simp only [Std.ExtTreeMap.getElem?_insert, Std.LawfulEqCmp.compare_eq_iff_eq, @eq_comm _ a k]

theorem getElem?_erase [DecidableEq α] (m : Std.ExtTreeMap α β cmp) (a k : α) :
    (m.erase a)[k]? = if k = a then none else m[k]? := by
  simp only [Std.ExtTreeMap.getElem?_erase, Std.LawfulEqCmp.compare_eq_iff_eq, @eq_comm _ a k]

theorem getElem?_filter_eq_some {m : Std.ExtTreeMap α β cmp} {p : α → β → Bool} {k : α} {b : β} :
    (m.filter p)[k]? = some b ↔ m[k]? = some b ∧ p k b = true := by
  rw [Std.ExtTreeMap.getElem?_filter', Option.filter_eq_some_iff]

omit [Std.LawfulEqCmp cmp] in
theorem mem_iff_exists {m : Std.ExtTreeMap α β cmp} {k : α} : k ∈ m ↔ ∃ b, m[k]? = some b := by
  rw [Std.ExtTreeMap.mem_iff_isSome_getElem?, Option.isSome_iff_exists]

theorem map_insert [DecidableEq α] {γ : Type} (m : Std.ExtTreeMap α β cmp) (a : α) (b : β)
    (f : α → β → γ) : (m.insert a b).map f = (m.map f).insert a (f a b) := by
  refine Std.ExtTreeMap.ext_getElem? fun {k} => ?_
  rw [Std.ExtTreeMap.getElem?_map, getElem?_insert, getElem?_insert]
  split_ifs with hk
  · rw [hk]
    rfl
  · rw [Std.ExtTreeMap.getElem?_map]

theorem filterMap_insert [DecidableEq α] {γ : Type} (m : Std.ExtTreeMap α β cmp) {a : α} {b : β}
    {f : α → β → Option γ} {c : γ} (h : f a b = some c) :
    (m.insert a b).filterMap f = (m.filterMap f).insert a c := by
  refine Std.ExtTreeMap.ext_getElem? fun {k} => ?_
  rw [Std.ExtTreeMap.getElem?_filterMap', getElem?_insert, getElem?_insert]
  split_ifs with hk
  · rw [hk]
    exact h
  · rw [Std.ExtTreeMap.getElem?_filterMap']

theorem insert_insert [DecidableEq α] (m : Std.ExtTreeMap α β cmp) (a : α) (b c : β) :
    (m.insert a b).insert a c = m.insert a c := by
  refine Std.ExtTreeMap.ext_getElem? fun {k} => ?_
  simp only [getElem?_insert]
  split_ifs <;> rfl

omit [Std.LawfulEqCmp cmp] in
theorem map_empty {γ : Type} (f : α → β → γ) : (∅ : Std.ExtTreeMap α β cmp).map f = ∅ :=
  Std.ExtTreeMap.map_eq_empty_iff.mpr rfl

omit [Std.LawfulEqCmp cmp] in
theorem filterMap_empty {γ : Type} (f : α → β → Option γ) :
    (∅ : Std.ExtTreeMap α β cmp).filterMap f = ∅ :=
  Std.ExtTreeMap.filterMap_eq_empty_iff.mpr fun _ h => absurd h Std.ExtTreeMap.not_mem_empty

theorem insert_same [DecidableEq α] {m : Std.ExtTreeMap α β cmp} {a : α} {b : β}
    (h : m[a]? = some b) : m.insert a b = m := by
  refine Std.ExtTreeMap.ext_getElem? fun {k} => ?_
  rw [getElem?_insert]
  split_ifs with hk
  · rw [hk, h]
  · rfl

def values (m : Std.ExtTreeMap α β cmp) : List β := m.toList.map Prod.snd

theorem mem_values {m : Std.ExtTreeMap α β cmp} {b : β} : b ∈ values m ↔ ∃ k : α, m[k]? = some b := by
  simp only [values, List.mem_map, Prod.exists, Std.ExtTreeMap.mem_toList_iff_getElem?_eq_some]
  constructor
  · rintro ⟨k, b', h, rfl⟩
    exact ⟨k, h⟩
  · rintro ⟨k, h⟩
    exact ⟨k, b, h, rfl⟩

def total (m : Std.ExtTreeMap α β cmp) (f : α → β → ℕ) : ℕ := (m.toList.map fun e => f e.1 e.2).sum

theorem nodup_toList (m : Std.ExtTreeMap α β cmp) : m.toList.Nodup := by
  refine Std.ExtTreeMap.distinct_keys_toList.imp ?_
  rintro a _ hne rfl
  exact hne Std.ReflCmp.compare_self

omit [Std.LawfulEqCmp cmp] in
theorem nodup_toList_set (s : Std.ExtTreeSet α cmp) : s.toList.Nodup := by
  refine Std.ExtTreeSet.distinct_toList.imp ?_
  rintro a _ hne rfl
  exact hne Std.ReflCmp.compare_self

theorem toList_perm [DecidableEq α] {m : Std.ExtTreeMap α β cmp} {a : α} {b : β}
    (h : m[a]? = some b) : m.toList.Perm ((a, b) :: (m.erase a).toList) := by
  have herased : (a, b) ∉ (m.erase a).toList := by
    rw [Std.ExtTreeMap.mem_toList_iff_getElem?_eq_some, getElem?_erase]
    simp
  refine (List.perm_ext_iff_of_nodup (nodup_toList m)
    (List.nodup_cons.mpr ⟨herased, nodup_toList _⟩)).mpr ?_
  rintro ⟨k, v⟩
  rw [List.mem_cons, Std.ExtTreeMap.mem_toList_iff_getElem?_eq_some,
    Std.ExtTreeMap.mem_toList_iff_getElem?_eq_some, getElem?_erase]
  split_ifs with hk
  · subst hk
    simp [h, eq_comm]
  · simp [hk]

theorem total_eq_add [DecidableEq α] {m : Std.ExtTreeMap α β cmp} {a : α} {b : β}
    (h : m[a]? = some b) (f : α → β → ℕ) : total m f = f a b + total (m.erase a) f := by
  have hperm := (toList_perm h).map fun e => f e.1 e.2
  exact hperm.sum_eq

theorem total_insert [DecidableEq α] (m : Std.ExtTreeMap α β cmp) (a : α) (b : β)
    (f : α → β → ℕ) : total (m.insert a b) f = f a b + total (m.erase a) f := by
  have herase : (m.insert a b).erase a = m.erase a := by
    refine Std.ExtTreeMap.ext_getElem? fun {k} => ?_
    simp only [getElem?_erase, getElem?_insert]
    split_ifs <;> rfl
  rw [total_eq_add (Std.ExtTreeMap.getElem?_insert_self) f, herase]

theorem erase_of_none [DecidableEq α] {m : Std.ExtTreeMap α β cmp} {a : α} (h : m[a]? = none) :
    m.erase a = m := by
  refine Std.ExtTreeMap.ext_getElem? fun {k} => ?_
  rw [getElem?_erase]
  split_ifs with hk
  · rw [hk, h]
  · rfl

theorem total_filter_le (m : Std.ExtTreeMap α β cmp) (p : α → β → Bool) (f : α → β → ℕ) :
    total (m.filter p) f ≤ total m f := by
  unfold total
  rw [Std.ExtTreeMap.toList_filter]
  exact (List.filter_sublist.map _).sum_le_sum (by simp)

theorem size_le_of_subset {γ : Type} {m : Std.ExtTreeMap α β cmp} {m' : Std.ExtTreeMap α γ cmp}
    (h : ∀ k ∈ m', k ∈ m) : m'.size ≤ m.size := by
  rw [← Std.ExtTreeMap.length_keys, ← Std.ExtTreeMap.length_keys]
  refine (List.subperm_of_subset Std.ExtTreeMap.nodup_keys fun k hk => ?_).length_le
  rw [Std.ExtTreeMap.mem_keys] at hk ⊢
  exact h k hk

omit [Std.LawfulEqCmp cmp] in
theorem nodup_keys (m : Std.ExtTreeMap α β cmp) :
    (m.toList.map Prod.fst).Nodup := by
  rw [Std.ExtTreeMap.map_fst_toList_eq_keys]
  exact Std.ExtTreeMap.nodup_keys

theorem eq_of_sorted {l l' : List (α × β)} (hl : l.Pairwise fun a b => cmp a.1 b.1 = .lt)
    (hl' : l'.Pairwise fun a b => cmp a.1 b.1 = .lt) (h : ∀ x, x ∈ l ↔ x ∈ l') : l = l' := by
  have hnodup {l : List (α × β)} (hl : l.Pairwise fun a b => cmp a.1 b.1 = .lt) : l.Nodup := by
    refine hl.imp fun {a b} hlt heq => ?_
    subst heq
    cases hlt.symm.trans Std.ReflCmp.compare_self
  refine ((List.perm_ext_iff_of_nodup (hnodup hl) (hnodup hl')).mpr h).eq_of_pairwise ?_ hl hl'
  intro a b _ _ hab hba
  exact absurd hba (Std.OrientedCmp.not_lt_of_lt hab)

/-- A map of pairs with distinct keys holds these pairs. -/
theorem toList_ofList_perm {l : List (α × β)} (h : (l.map Prod.fst).Nodup) :
    (Std.ExtTreeMap.ofList l cmp).toList.Perm l := by
  have hdistinct : l.Pairwise fun a b => ¬cmp a.1 b.1 = .eq :=
    (List.pairwise_map.mp h).imp fun hne heq => hne (Std.LawfulEqCmp.eq_of_compare heq)
  have hnodup : l.Nodup := (List.pairwise_map.mp h).imp fun hne heq => hne (congrArg _ heq)
  refine (List.perm_ext_iff_of_nodup (nodup_toList _) hnodup).mpr ?_
  rintro ⟨k, v⟩
  rw [Std.ExtTreeMap.mem_toList_iff_getElem?_eq_some]
  have hmem (v' : β) (hv : (k, v') ∈ l) : (Std.ExtTreeMap.ofList l cmp)[k]? = some v' :=
    Std.ExtTreeMap.getElem?_ofList_of_mem Std.ReflCmp.compare_self hdistinct hv
  refine ⟨fun hget => ?_, hmem v⟩
  have hk : k ∈ Std.ExtTreeMap.ofList l cmp := mem_iff_exists.mpr ⟨v, hget⟩
  classical
  have hkeys := Std.ExtTreeMap.mem_ofList.mp hk
  rw [List.contains_iff_mem] at hkeys
  obtain ⟨⟨k', v'⟩, hin, rfl⟩ := List.mem_map.mp hkeys
  obtain rfl : v' = v := Option.some_inj.mp ((hmem v' hin).symm.trans hget)
  exact hin

abbrev lex [Ord α] [Ord β] : α × β → α × β → Ordering :=
  compareLex (compareOn Prod.fst) (compareOn Prod.snd)

instance [Ord α] [Ord β] [Std.TransOrd α] [Std.TransOrd β] :
    Std.TransCmp (lex (α := α) (β := β)) :=
  inferInstanceAs (Std.TransCmp (compareLex (compareOn Prod.fst) (compareOn Prod.snd)))

instance [Ord α] [Ord β] [Std.LawfulEqOrd α] [Std.LawfulEqOrd β] :
    Std.LawfulEqCmp (lex (α := α) (β := β)) where
  compare_self {a} := by simp [lex, compareLex, compareOn]
  eq_of_compare {a b} h := by
    obtain ⟨hfst, hsnd⟩ := compareLex_eq_eq.mp h
    exact Prod.ext (Std.LawfulEqOrd.eq_of_compare hfst) (Std.LawfulEqOrd.eq_of_compare hsnd)

end Foundation.Maps
