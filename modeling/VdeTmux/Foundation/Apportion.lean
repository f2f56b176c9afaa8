import VdeTmux.Foundation.Sorting
import Mathlib.Algebra.Order.BigOperators.Group.List
import Mathlib.Algebra.BigOperators.Ring.List
import Mathlib.Algebra.Order.Ring.Nat

/-!
# Apportionment by largest remainders

A pool of units is split in proportion to weights: every share is rounded down, and the units left
go one each to the largest remainders, later shares first among equal ones.
-/

namespace Foundation.Apportion

def raise (positions : List ℕ) (l : List ℕ) : List ℕ :=
  positions.foldl (fun l i => l.modify i (· + 1)) l

theorem raise_cons (i : ℕ) (positions l : List ℕ) :
    raise (i :: positions) l = raise positions (l.modify i (· + 1)) := rfl

theorem getElem?_raise (positions l : List ℕ) (i : ℕ) :
    (raise positions l)[i]? = l[i]?.map (· + positions.count i) := by
  induction positions generalizing l with
  | nil => simp [raise]
  | cons j positions ih =>
    rw [raise_cons, ih, List.getElem?_modify, List.count_cons, Option.map_eq_map, Option.map_map]
    congr 1
    funext n
    by_cases h : j = i
    · simp only [h, Function.comp, if_true, beq_self_eq_true]
      omega
    · simp [h]

theorem sum_modify {l : List ℕ} {i : ℕ} (h : i < l.length) :
    (l.modify i (· + 1)).sum = l.sum + 1 := by
  induction l generalizing i with
  | nil => simp at h
  | cons a l ih =>
    cases i with
    | zero =>
      simp only [List.modify_zero_cons, List.sum_cons]
      omega
    | succ i =>
      rw [List.modify_succ_cons, List.sum_cons, List.sum_cons,
        ih (Nat.lt_of_succ_lt_succ h)]
      omega

theorem sum_raise {positions l : List ℕ} (h : ∀ i ∈ positions, i < l.length) :
    (raise positions l).sum = l.sum + positions.length := by
  induction positions generalizing l with
  | nil => rfl
  | cons i positions ih =>
    obtain ⟨hi, hpositions⟩ := List.forall_mem_cons.mp h
    rw [raise_cons, ih (by simpa using hpositions), sum_modify hi, List.length_cons]
    omega

theorem mem_take_iff {α : Type} {R : α → α → Prop} [DecidableRel R] {l : List α}
    (hirrefl : ∀ a, ¬R a a) (hasymm : ∀ a b, R a b → ¬R b a) (hl : l.Pairwise R) {a : α}
    (ha : a ∈ l) (n : ℕ) : a ∈ l.take n ↔ l.countP (fun b => R b a) < n := by
  induction l generalizing n with
  | nil => cases ha
  | cons b l ih =>
    obtain ⟨hb, hl⟩ := List.pairwise_cons.mp hl
    rcases List.mem_cons.mp ha with rfl | hmem
    · have hzero : l.countP (fun b => R b a) = 0 :=
        List.countP_eq_zero.mpr fun c hc => by simpa using hasymm _ _ (hb c hc)
      rw [List.countP_cons_of_neg (by simpa using hirrefl a), hzero]
      cases n with
      | zero => simp
      | succ n => simp
    · rw [List.countP_cons_of_pos (by simpa using hb a hmem)]
      cases n with
      | zero => simp
      | succ n =>
        have hne : a ≠ b := by
          rintro rfl
          exact hirrefl a (hb a hmem)
        rw [List.take_succ_cons, List.mem_cons, or_iff_right hne, ih hl hmem]
        omega

section
variable (weights : List ℕ) (pool : ℕ)

def floor (weight : ℕ) : ℕ := pool * weight / weights.sum

def remainder (weight : ℕ) : ℕ := pool * weight % weights.sum

def leftover : ℕ := pool - (weights.map (floor weights pool)).sum

/-- The order in which units left are given out: by remainder and position, largest first. -/
def Before (a b : ℕ × ℕ) : Prop := b.1 < a.1 ∨ b.1 = a.1 ∧ b.2 < a.2

instance : DecidableRel Before := fun a b =>
  inferInstanceAs (Decidable (b.1 < a.1 ∨ b.1 = a.1 ∧ b.2 < a.2))

def remainders : List (ℕ × ℕ) :=
  weights.zipIdx.map fun entry => (remainder weights pool entry.1, entry.2)

def rank (entry : ℕ × ℕ) : ℕ :=
  (remainders weights pool).countP fun other =>
    Before other (remainder weights pool entry.1, entry.2)

def share (entry : ℕ × ℕ) : ℕ :=
  floor weights pool entry.1 + if rank weights pool entry < leftover weights pool then 1 else 0

def shares : List ℕ := weights.zipIdx.map (share weights pool)

end

variable {weights : List ℕ} {pool : ℕ}

@[simp] theorem length_shares : (shares weights pool).length = weights.length := by
  simp [shares]

theorem sum_floor_add_remainder (weights : List ℕ) (pool total : ℕ) :
    total * (weights.map fun weight => pool * weight / total).sum +
      (weights.map fun weight => pool * weight % total).sum = pool * weights.sum := by
  have hmul : pool * weights.sum = (weights.map fun weight => pool * weight).sum := by
    rw [List.sum_map_mul_left, List.map_id']
  rw [hmul, ← List.sum_map_mul_left, ← List.sum_map_add]
  exact congrArg List.sum (List.map_congr_left fun weight _ => Nat.div_add_mod (pool * weight) total)

theorem sum_floor_le (h : 0 < weights.sum) : (weights.map (floor weights pool)).sum ≤ pool := by
  have hsum := sum_floor_add_remainder weights pool weights.sum
  refine Nat.le_of_mul_le_mul_left ?_ h
  rw [Nat.mul_comm _ pool]
  exact Nat.le.intro hsum

theorem leftover_le (h : 0 < weights.sum) : leftover weights pool ≤ weights.length := by
  have hsum := sum_floor_add_remainder weights pool weights.sum
  have hfloor : (weights.map (floor weights pool)).sum ≤ pool := sum_floor_le h
  have hremainder : (weights.map fun weight => pool * weight % weights.sum).sum ≤
      weights.length * weights.sum := by
    have hle := List.sum_le_card_nsmul (weights.map fun weight => pool * weight % weights.sum)
      weights.sum (by
        intro r hr
        obtain ⟨weight, -, rfl⟩ := List.mem_map.mp hr
        exact (Nat.mod_lt _ h).le)
    simpa using hle
  have hleft : weights.sum * leftover weights pool ≤ weights.sum * weights.length := by
    have hpool : weights.sum * leftover weights pool =
        (weights.map fun weight => pool * weight % weights.sum).sum := by
      have hmul : weights.sum * pool = pool * weights.sum := Nat.mul_comm _ _
      have hfloors : (weights.map (floor weights pool)).sum =
          (weights.map fun weight => pool * weight / weights.sum).sum := rfl
      rw [leftover, Nat.mul_sub, hmul, ← hsum, hfloors]
      omega
    rw [hpool, Nat.mul_comm]
    exact hremainder
  exact Nat.le_of_mul_le_mul_left hleft h

def descending (a b : ℕ × ℕ) : Ordering := (compareLex (compareOn Prod.fst) (compareOn Prod.snd)) b a

instance : Std.TransCmp descending :=
  inferInstanceAs (Std.TransCmp fun a b : ℕ × ℕ =>
    (compareLex (compareOn Prod.fst) (compareOn Prod.snd)) b a)

theorem before_of_descending {a b : ℕ × ℕ} (h : (descending a b).isLE = true) (hne : a ≠ b) :
    Before a b := by
  rcases Ordering.isLE_iff_eq_lt_or_eq_eq.mp h with hlt | heq
  · rcases compareLex_eq_lt.mp hlt with hfst | ⟨hfst, hsnd⟩
    · exact Or.inl (compare_lt_iff_lt.mp hfst)
    · exact Or.inr ⟨compare_eq_iff_eq.mp hfst, compare_lt_iff_lt.mp hsnd⟩
  · obtain ⟨hfst, hsnd⟩ := compareLex_eq_eq.mp heq
    exact absurd (Prod.ext (compare_eq_iff_eq.mp hfst) (compare_eq_iff_eq.mp hsnd)).symm hne

theorem not_before_self (a : ℕ × ℕ) : ¬Before a a := by
  unfold Before
  omega

theorem before_asymm (a b : ℕ × ℕ) (h : Before a b) : ¬Before b a := by
  unfold Before at h ⊢
  omega

variable (weights pool)

theorem snd_remainders : (remainders weights pool).map Prod.snd = List.range weights.length := by
  simp [remainders, Function.comp_def, List.range_eq_range']

theorem nodup_remainders : (remainders weights pool).Nodup := by
  refine List.Nodup.of_map Prod.snd ?_
  rw [snd_remainders]
  exact List.nodup_range

def firsts (n : ℕ) : List ℕ :=
  ((sortBy descending (remainders weights pool)).take n).map Prod.snd

theorem sorted_perm :
    (sortBy descending (remainders weights pool)).Perm (remainders weights pool) :=
  sortBy_perm _

theorem sorted_remainders :
    (sortBy descending (remainders weights pool)).Pairwise Before := by
  have hnodup : (sortBy descending (remainders weights pool)).Nodup :=
    nodup_sortBy.mpr (nodup_remainders weights pool)
  exact ((sortBy_pairwise _).and hnodup).imp fun h => before_of_descending h.1 h.2

theorem nodup_firsts (n : ℕ) : (firsts weights pool n).Nodup := by
  have hperm := (sorted_perm weights pool).map Prod.snd
  rw [snd_remainders] at hperm
  have hnodup := hperm.nodup_iff.mpr List.nodup_range
  exact hnodup.sublist ((List.take_sublist _ _).map _)

theorem lt_of_mem_firsts {n i : ℕ} (h : i ∈ firsts weights pool n) : i < weights.length := by
  obtain ⟨entry, hentry, rfl⟩ := List.mem_map.mp h
  have hmem := mem_sortBy.mp (List.mem_of_mem_take hentry)
  rw [← List.mem_range, ← snd_remainders weights pool]
  exact List.mem_map_of_mem hmem

theorem length_firsts {n : ℕ} (h : n ≤ weights.length) : (firsts weights pool n).length = n := by
  have hlength := (sorted_perm weights pool).length_eq
  have hremainders : (remainders weights pool).length = weights.length := by simp [remainders]
  rw [firsts, List.length_map, List.length_take]
  omega

variable {weights pool}

theorem mem_firsts_iff {weight i n : ℕ} (h : weights[i]? = some weight) :
    i ∈ firsts weights pool n ↔ rank weights pool (weight, i) < n := by
  have hzip : (weight, i) ∈ weights.zipIdx := by
    rw [List.mk_mem_zipIdx_iff_getElem?]
    exact h
  have hmem : (remainder weights pool weight, i) ∈ remainders weights pool :=
    List.mem_map.mpr ⟨_, hzip, rfl⟩
  have hperm := sorted_perm weights pool
  rw [rank, ← hperm.countP_eq, ← mem_take_iff not_before_self before_asymm
    (sorted_remainders weights pool) (mem_sortBy.mpr hmem)]
  constructor
  · intro hfirst
    obtain ⟨⟨r, j⟩, hentry, hj⟩ := List.mem_map.mp hfirst
    obtain rfl : j = i := hj
    obtain ⟨⟨weight', j'⟩, hzip', heq⟩ := List.mem_map.mp (mem_sortBy.mp (List.mem_of_mem_take hentry))
    obtain ⟨rfl, rfl⟩ := Prod.mk.inj heq
    rw [List.mk_mem_zipIdx_iff_getElem?, h] at hzip'
    obtain rfl := Option.some.inj hzip'
    exact hentry
  · exact fun hentry => List.mem_map.mpr ⟨_, hentry, rfl⟩

theorem raise_map (f : ℕ → ℕ) (n : ℕ) :
    raise (firsts weights pool n) (weights.map f) =
      weights.zipIdx.map fun entry => f entry.1 + if rank weights pool entry < n then 1 else 0 := by
  refine List.ext_getElem? fun i => ?_
  rw [getElem?_raise, List.getElem?_map, List.getElem?_map, List.getElem?_zipIdx]
  cases h : weights[i]? with
  | none => rfl
  | some weight =>
    have hcount := (nodup_firsts weights pool n).count (a := i)
    simp only [Option.map_some, Nat.zero_add, hcount, mem_firsts_iff h]

theorem raise_floor : raise (firsts weights pool (leftover weights pool))
    (weights.map (floor weights pool)) = shares weights pool :=
  raise_map _ _

theorem sum_shares (h : 0 < weights.sum) : (shares weights pool).sum = pool := by
  rw [← raise_floor, sum_raise fun i hi => by simpa using lt_of_mem_firsts weights pool hi,
    length_firsts weights pool (leftover_le h), leftover]
  have hfloor : (weights.map (floor weights pool)).sum ≤ pool := sum_floor_le h
  omega

end Foundation.Apportion
