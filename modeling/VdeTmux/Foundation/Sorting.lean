import Mathlib.Data.List.Sort
import Mathlib.Data.List.Nodup
import Mathlib.Logic.Equiv.Basic

/-!
# Stored orders

Sorting by a comparison that decides equality, and the exchange of two neighbours of a list
without repetitions. An exchange is the map of `Equiv.swap`, so that it commutes with filters
that treat both alike.
-/

namespace Foundation

variable {α : Type}

def sortBy (cmp : α → α → Ordering) (l : List α) : List α := l.mergeSort fun a b => (cmp a b).isLE

instance lawfulEqCmp_compareLex {first second : α → α → Ordering} [Std.ReflCmp first]
    [Std.LawfulEqCmp second] : Std.LawfulEqCmp (compareLex first second) where
  compare_self := compareLex_eq_eq.mpr ⟨Std.ReflCmp.compare_self, Std.ReflCmp.compare_self⟩
  eq_of_compare h := Std.LawfulEqCmp.eq_of_compare (compareLex_eq_eq.mp h).2

theorem compareLex_eq_lt {first second : α → α → Ordering} {a b : α} :
    compareLex first second a b = .lt ↔ first a b = .lt ∨ first a b = .eq ∧ second a b = .lt :=
  Ordering.then_eq_lt

section SortBy
variable {cmp cmp' : α → α → Ordering}

theorem sortBy_perm (l : List α) : (sortBy cmp l).Perm l := List.mergeSort_perm l _

@[simp] theorem mem_sortBy {l : List α} {a : α} : a ∈ sortBy cmp l ↔ a ∈ l := (sortBy_perm l).mem_iff

theorem nodup_sortBy {l : List α} : (sortBy cmp l).Nodup ↔ l.Nodup := (sortBy_perm l).nodup_iff

theorem map_sortBy {β : Type} {f : α → β} {cmp₂ : β → β → Ordering}
    (h : ∀ a b, cmp a b = cmp₂ (f a) (f b)) (l : List α) :
    (sortBy cmp l).map f = sortBy cmp₂ (l.map f) :=
  List.map_mergeSort fun a _ b _ => by rw [h]

theorem sortBy_pairwise [Std.TransCmp cmp] (l : List α) :
    (sortBy cmp l).Pairwise fun a b => (cmp a b).isLE := by
  refine List.pairwise_mergeSort ?_ ?_ l
  · intro a b c hab hbc
    exact Std.TransCmp.isLE_trans hab hbc
  · intro a b
    rw [Bool.or_eq_true]
    by_cases h : (cmp a b).isLE = true
    · exact Or.inl h
    · exact Or.inr (Std.OrientedCmp.isGE_iff_isLE.mp (by
        rw [Ordering.isLE_iff_ne_gt, not_not] at h
        simp [h]))

theorem eq_sortBy [Std.TransCmp cmp] [Std.LawfulEqCmp cmp] {l l' : List α} (hperm : l'.Perm l)
    (hsorted : l'.Pairwise fun a b => (cmp a b).isLE) : l' = sortBy cmp l := by
  refine (hperm.trans (sortBy_perm l).symm).eq_of_pairwise ?_ hsorted (sortBy_pairwise l)
  intro a b _ _ hab hba
  exact Std.LawfulEqCmp.eq_of_compare (Std.OrientedCmp.isLE_antisymm hab hba)

theorem sortBy_congr [Std.TransCmp cmp] [Std.LawfulEqCmp cmp] {l l' : List α}
    (hperm : l.Perm l') : sortBy cmp l = sortBy cmp l' :=
  eq_sortBy ((sortBy_perm l).trans hperm) (sortBy_pairwise l)

theorem pairwise_sortBy_iff [Std.TransCmp cmp] [Std.LawfulEqCmp cmp] {l : List α} (hl : l.Nodup)
    {R : α → α → Prop} :
    (sortBy cmp l).Pairwise R ↔ ∀ a ∈ l, ∀ b ∈ l, cmp a b = .lt → R a b := by
  have hsorted : (sortBy cmp l).Pairwise fun a b => (cmp a b).isLE := sortBy_pairwise l
  have hnodup : (sortBy cmp l).Nodup := nodup_sortBy.mpr hl
  constructor
  · intro hR a ha b hb hlt
    obtain ⟨i, hi, rfl⟩ := List.getElem_of_mem ((mem_sortBy.mpr ha : a ∈ sortBy cmp l))
    obtain ⟨j, hj, rfl⟩ := List.getElem_of_mem ((mem_sortBy.mpr hb : b ∈ sortBy cmp l))
    rcases Nat.lt_trichotomy i j with hij | rfl | hij
    · exact List.pairwise_iff_getElem.mp hR i j hi hj hij
    · cases hlt.symm.trans (Std.ReflCmp.compare_self : cmp _ _ = .eq)
    · have hle := List.pairwise_iff_getElem.mp hsorted j i hj hi hij
      exact absurd hle (Std.OrientedCmp.not_isLE_of_lt hlt)
  · intro h
    refine (hsorted.and hnodup).imp_of_mem fun {a b} ha hb hab => ?_
    refine h a (mem_sortBy.mp ha) b (mem_sortBy.mp hb) ?_
    rcases Ordering.isLE_iff_eq_lt_or_eq_eq.mp hab.1 with hlt | heq
    · exact hlt
    · exact absurd (Std.LawfulEqCmp.eq_of_compare heq) hab.2

theorem getLast?_sortBy [Std.TransCmp cmp] [Std.LawfulEqCmp cmp] {l : List α} {a : α}
    (hl : l.Nodup) (ha : a ∈ l) (hmax : ∀ b ∈ l, b ≠ a → (cmp b a).isLE) :
    (sortBy cmp l).getLast? = some a := by
  obtain ⟨front, back, rfl⟩ := List.append_of_mem ha
  have hperm : (front ++ a :: back).Perm ((front ++ back) ++ [a]) := by
    rw [List.append_assoc]
    exact (List.perm_append_singleton a back).symm.append_left front
  have hsorted : sortBy cmp (front ++ back) ++ [a] = sortBy cmp (front ++ a :: back) := by
    refine eq_sortBy (((sortBy_perm _).append_right [a]).trans hperm.symm) ?_
    refine List.pairwise_append.mpr ⟨sortBy_pairwise _, List.pairwise_singleton _ a, ?_⟩
    intro b hb c hc
    obtain rfl := List.mem_singleton.mp hc
    have hmem : b ∈ front ++ back := mem_sortBy.mp hb
    have hnot := (List.nodup_cons.mp ((hperm.trans (List.perm_append_singleton c _)).nodup_iff.mp
      hl)).1
    refine hmax b ?_ fun heq => hnot (heq ▸ hmem)
    exact hperm.mem_iff.mpr (List.mem_append_left _ hmem)
  rw [← hsorted, List.getLast?_concat]

theorem sortBy_eq_self [Std.TransCmp cmp] [Std.LawfulEqCmp cmp] {l : List α}
    (h : l.Pairwise fun a b => (cmp a b).isLE) : sortBy cmp l = l :=
  (eq_sortBy (List.Perm.refl l) h).symm

theorem idxOf_lt_iff [BEq α] [LawfulBEq α] [Std.OrientedCmp cmp] [Std.LawfulEqCmp cmp] {l : List α}
    (hl : l.Pairwise fun a b => (cmp a b).isLE) {a b : α} (ha : a ∈ l) (hb : b ∈ l) :
    l.idxOf a < l.idxOf b ↔ cmp a b = .lt := by
  have hle {a b : α} (ha : a ∈ l) (hb : b ∈ l) (h : l.idxOf a < l.idxOf b) : (cmp a b).isLE := by
    have hpair := List.pairwise_iff_getElem.mp hl _ _ (List.idxOf_lt_length_of_mem ha)
      (List.idxOf_lt_length_of_mem hb) h
    rwa [List.getElem_idxOf, List.getElem_idxOf] at hpair
  constructor
  · intro h
    rcases Ordering.isLE_iff_eq_lt_or_eq_eq.mp (hle ha hb h) with hlt | heq
    · exact hlt
    · obtain rfl := Std.LawfulEqCmp.eq_of_compare heq
      exact absurd h (Nat.lt_irrefl _)
  · intro hlt
    rcases Nat.lt_trichotomy (l.idxOf a) (l.idxOf b) with h | h | h
    · exact h
    · obtain rfl := (List.idxOf_inj ha).mp h
      cases hlt.symm.trans Std.ReflCmp.compare_self
    · exact absurd (hle hb ha h) (Std.OrientedCmp.not_isLE_of_lt hlt)

theorem sortBy_pair [Std.TransCmp cmp] {l : List α} {a b : α} (hab : (cmp a b).isLE)
    (h : [a, b].Sublist l) : [a, b].Sublist (sortBy cmp l) := by
  refine List.pair_sublist_mergeSort ?_ ?_ hab h
  · intro a b c hab hbc
    exact Std.TransCmp.isLE_trans hab hbc
  · intro a b
    rw [Bool.or_eq_true]
    by_cases h : (cmp a b).isLE = true
    · exact Or.inl h
    · exact Or.inr (Std.OrientedCmp.isGE_iff_isLE.mp (by
        rw [Ordering.isLE_iff_ne_gt, not_not] at h
        simp [h]))

theorem idxOf_lt_of_pair [DecidableEq α] {l : List α} (hl : l.Nodup) {a b : α}
    (h : [a, b].Sublist l) : l.idxOf a < l.idxOf b := by
  have hpair : l.Pairwise fun a b => l.idxOf a < l.idxOf b := by
    refine List.pairwise_iff_getElem.mpr fun i j hi hj hij => ?_
    rwa [hl.idxOf_getElem, hl.idxOf_getElem]
  exact List.pairwise_iff_forall_sublist.mp hpair h

theorem sortBy_stable [DecidableEq α] {tie : α → α → Ordering} [Std.TransCmp cmp]
    [Std.TransCmp tie] [Std.LawfulEqCmp tie] {l : List α} (hl : l.Pairwise fun a b => tie a b = .lt) :
    sortBy cmp l = sortBy (compareLex cmp tie) l := by
  have hnodup : l.Nodup := hl.imp fun {a b} hlt => by
    rintro rfl
    cases hlt.symm.trans Std.ReflCmp.compare_self
  refine eq_sortBy (sortBy_perm l) (List.pairwise_iff_forall_sublist.mpr fun {a b} hab => ?_)
  have hle := List.pairwise_iff_forall_sublist.mp (sortBy_pairwise l) hab
  rw [Ordering.isLE_iff_eq_lt_or_eq_eq, compareLex_eq_lt]
  rcases Ordering.isLE_iff_eq_lt_or_eq_eq.mp hle with hlt | heq
  · exact Or.inl (Or.inl hlt)
  · have hsorted : (sortBy cmp l).Nodup := nodup_sortBy.mpr hnodup
    have hne : a ≠ b := List.pairwise_iff_forall_sublist.mp hsorted hab
    obtain ⟨front, back, rfl⟩ := List.append_of_mem (mem_sortBy.mp (hab.subset List.mem_cons_self))
    have hb := mem_sortBy.mp (hab.subset (List.mem_cons_of_mem _ List.mem_cons_self))
    rcases List.mem_append.mp hb with hfront | hback
    · have hpair : [b, a].Sublist (front ++ a :: back) :=
        (List.singleton_sublist.mpr hfront).append
          (List.singleton_sublist.mpr List.mem_cons_self)
      have hswap : [b, a].Sublist (sortBy cmp (front ++ a :: back)) :=
        sortBy_pair (by simp [Std.OrientedCmp.eq_comm.mp heq]) hpair
      exact absurd (idxOf_lt_of_pair hsorted hab) (Nat.lt_asymm (idxOf_lt_of_pair hsorted hswap))
    · have hback : b ∈ back := (List.mem_cons.mp hback).resolve_left (Ne.symm hne)
      obtain ⟨-, hcons, -⟩ := List.pairwise_append.mp hl
      exact Or.inl (Or.inr ⟨heq, (List.pairwise_cons.mp hcons).1 b hback⟩)
end SortBy

section FirstOccurrences
variable [DecidableEq α] {front back : List α} {a b : α}

theorem idxOf_append_lt_of_mem (ha : a ∈ front) (hb : b ∈ front) :
    (front ++ back).idxOf a < (front ++ back).idxOf b ↔ front.idxOf a < front.idxOf b := by
  rw [List.idxOf_append, List.idxOf_append, if_pos ha, if_pos hb]

theorem idxOf_append_lt_of_not_mem (ha : a ∉ front) (hb : b ∉ front) :
    (front ++ back).idxOf a < (front ++ back).idxOf b ↔ back.idxOf a < back.idxOf b := by
  rw [List.idxOf_append, List.idxOf_append, if_neg ha, if_neg hb, Nat.add_lt_add_iff_right]

theorem idxOf_append_lt (ha : a ∈ front) (hb : b ∉ front) :
    (front ++ back).idxOf a < (front ++ back).idxOf b := by
  rw [List.idxOf_append, List.idxOf_append, if_pos ha, if_neg hb]
  exact Nat.lt_of_lt_of_le (List.idxOf_lt_length_of_mem ha) (Nat.le_add_left _ _)

theorem idxOf_map_of_injective {β : Type} [DecidableEq β] {f : α → β} (hf : Function.Injective f)
    (l : List α) (a : α) : (l.map f).idxOf (f a) = l.idxOf a := by
  induction l with
  | nil => rfl
  | cons b l ih => rw [List.map_cons, List.idxOf_cons, List.idxOf_cons, ih, hf.beq_eq]

end FirstOccurrences

section Missing
variable [DecidableEq α]

def appendMissing (listed more : List α) : List α :=
  more.foldl (fun listed a => if a ∈ listed then listed else listed ++ [a]) listed

theorem appendMissing_eq {more : List α} (hmore : more.Nodup) (listed : List α) :
    appendMissing listed more = listed ++ more.filter (· ∉ listed) := by
  induction more generalizing listed with
  | nil => simp [appendMissing]
  | cons a more ih =>
    obtain ⟨ha, hmore⟩ := List.nodup_cons.mp hmore
    have hstep : appendMissing listed (a :: more) =
        appendMissing (if a ∈ listed then listed else listed ++ [a]) more := rfl
    rw [hstep, ih hmore]
    by_cases h : a ∈ listed
    · simp [h]
    · have hrest : more.filter (· ∉ listed ++ [a]) = more.filter (· ∉ listed) := by
        refine List.filter_congr fun b hb => ?_
        have hne : b ≠ a := fun heq => ha (heq ▸ hb)
        simp [hne]
      rw [if_neg h, hrest, List.filter_cons_of_pos (by simpa using h)]
      simp

theorem nodup_appendMissing {listed more : List α} (hlisted : listed.Nodup)
    (hmore : more.Nodup) : (appendMissing listed more).Nodup := by
  rw [appendMissing_eq hmore]
  refine List.nodup_append.mpr ⟨hlisted, hmore.filter _, ?_⟩
  rintro a ha b hb rfl
  simpa [ha] using (List.mem_filter.mp hb).2

theorem mem_appendMissing {listed more : List α} (hmore : more.Nodup) {a : α} :
    a ∈ appendMissing listed more ↔ a ∈ listed ∨ a ∈ more := by
  rw [appendMissing_eq hmore, List.mem_append, List.mem_filter]
  by_cases h : a ∈ listed
  · simp [h]
  · simp [h]

end Missing

section Neighbours

theorem infix_pair_iff {l : List α} {x y : α} :
    [x, y] <:+: l ↔ ∃ i, l[i]? = some x ∧ l[i + 1]? = some y := by
  constructor
  · rintro ⟨s, t, rfl⟩
    refine ⟨s.length, ?_, ?_⟩
    · simp
    · simp
  · rintro ⟨i, hx, hy⟩
    obtain ⟨hi, hx⟩ := List.getElem?_eq_some_iff.mp hx
    obtain ⟨hi', hy⟩ := List.getElem?_eq_some_iff.mp hy
    refine ⟨l.take i, l.drop (i + 2), ?_⟩
    have hdrop : l.drop i = x :: y :: l.drop (i + 2) := by
      rw [List.drop_eq_getElem_cons hi, List.drop_eq_getElem_cons hi', hx, hy]
    rw [List.append_assoc]
    exact (congrArg (l.take i ++ ·) hdrop).symm.trans (List.take_append_drop i l)

theorem ne_of_infix_pair {l : List α} {x y : α} (hl : l.Nodup) (h : [x, y] <:+: l) : x ≠ y := by
  have hpair := hl.sublist h.sublist
  simpa using hpair

variable [DecidableEq α]

theorem idxOf?_eq_ite (l : List α) (a : α) :
    l.idxOf? a = if a ∈ l then some (l.idxOf a) else none := by
  induction l with
  | nil => rfl
  | cons b l ih =>
    rw [List.idxOf?_cons, List.idxOf_cons, ih]
    by_cases hb : b = a
    · simp [hb]
    · by_cases ha : a ∈ l
      · simp [ha, beq_false_of_ne hb]
      · simp [hb, ha, Ne.symm hb]

theorem infix_pair_iff_idxOf {l : List α} {x y : α} (hl : l.Nodup) (hx : x ∈ l) (hy : y ∈ l) :
    [x, y] <:+: l ↔ l.idxOf y = l.idxOf x + 1 := by
  rw [infix_pair_iff]
  constructor
  · rintro ⟨i, hxi, hyi⟩
    obtain ⟨hi, rfl⟩ := List.getElem?_eq_some_iff.mp hxi
    obtain ⟨hi', rfl⟩ := List.getElem?_eq_some_iff.mp hyi
    rw [hl.idxOf_getElem, hl.idxOf_getElem]
  · intro h
    refine ⟨l.idxOf x, List.getElem?_idxOf hx, ?_⟩
    rw [← h]
    exact List.getElem?_idxOf hy

theorem infix_pair_append_left {l l' : List α} {x y : α} (hl : (l ++ l').Nodup) (hx : x ∈ l)
    (hy : y ∈ l) : [x, y] <:+: l ++ l' ↔ [x, y] <:+: l := by
  have hleft := hl.sublist (List.sublist_append_left l l')
  rw [infix_pair_iff_idxOf hl (List.mem_append_left _ hx) (List.mem_append_left _ hy),
    infix_pair_iff_idxOf hleft hx hy, List.idxOf_append_of_mem hx, List.idxOf_append_of_mem hy]

abbrev exchange (x y : α) (l : List α) : List α := l.map (Equiv.swap x y)

theorem exchange_perm {x y : α} {l : List α} (hl : l.Nodup) (hx : x ∈ l) (hy : y ∈ l) :
    (exchange x y l).Perm l := by
  refine (List.perm_ext_iff_of_nodup (hl.map (Equiv.swap x y).injective) hl).mpr fun a => ?_
  rw [List.mem_map]
  constructor
  · rintro ⟨b, hb, rfl⟩
    by_cases hbx : b = x
    · simpa [hbx] using hy
    · by_cases hby : b = y
      · simpa [hby] using hx
      · simpa [Equiv.swap_apply_of_ne_of_ne hbx hby] using hb
  · intro ha
    refine ⟨Equiv.swap x y a, ?_, Equiv.swap_apply_self x y a⟩
    by_cases hax : a = x
    · simpa [hax] using hy
    · by_cases hay : a = y
      · simpa [hay] using hx
      · simpa [Equiv.swap_apply_of_ne_of_ne hax hay] using ha

theorem exchange_filter {x y : α} {p : α → Bool} (h : p x = p y) (l : List α) :
    (exchange x y l).filter p = exchange x y (l.filter p) := by
  rw [exchange, List.filter_map]
  congr 2
  funext a
  by_cases hax : a = x
  · simp [hax, h]
  · by_cases hay : a = y
    · simp [hay, h]
    · simp [Equiv.swap_apply_of_ne_of_ne hax hay]

theorem exchange_injective (x y : α) : Function.Injective (exchange x y) :=
  (Equiv.swap x y).injective.list_map

def swapAt (l : List α) (i j : ℕ) : List α :=
  match l[i]?, l[j]? with
  | some a, some b => (l.set i b).set j a
  | _, _ => l

theorem swapAt_eq_exchange {l : List α} {x y : α} (hl : l.Nodup) (hx : x ∈ l) (hy : y ∈ l) :
    swapAt l (l.idxOf x) (l.idxOf y) = exchange x y l := by
  have hxi := List.getElem?_idxOf hx
  have hyi := List.getElem?_idxOf hy
  rw [swapAt, hxi, hyi]
  refine List.ext_getElem? fun k => ?_
  rw [List.getElem?_map, List.getElem?_set, List.getElem?_set, List.length_set]
  by_cases hky : l.idxOf y = k
  · subst hky
    rw [if_pos rfl, if_pos (List.idxOf_lt_length_iff.mpr hy), hyi]
    simp
  · rw [if_neg hky]
    by_cases hkx : l.idxOf x = k
    · subst hkx
      rw [if_pos rfl, if_pos (List.idxOf_lt_length_iff.mpr hx), hxi]
      simp
    · rw [if_neg hkx]
      cases hk : l[k]? with
      | none => rfl
      | some a =>
        obtain ⟨hlt, rfl⟩ := List.getElem?_eq_some_iff.mp hk
        rw [Option.map_some, Equiv.swap_apply_of_ne_of_ne]
        · rintro rfl
          exact hkx (hl.idxOf_getElem k hlt)
        · rintro rfl
          exact hky (hl.idxOf_getElem k hlt)

end Neighbours

end Foundation
