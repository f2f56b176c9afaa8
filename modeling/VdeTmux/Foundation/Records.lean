import Mathlib.Data.List.TakeWhile

/-!
# Records with an end mark

A log as records that end with a mark, and an unfinished rest. What is read from some offset on
starts with the first record that starts there.
-/

namespace Foundation.Records

variable {α : Type} [DecidableEq α] {sep : α}

/-- The pieces up to and with each mark, and what follows the last one. -/
def splitInclusive (sep : α) : List α → List (List α)
  | [] => []
  | a :: l =>
    if a = sep then [a] :: splitInclusive sep l
    else match splitInclusive sep l with
      | [] => [[a]]
      | piece :: pieces => (a :: piece) :: pieces

def afterFirst (sep : α) (l : List α) : List α := (l.dropWhile fun a => a ≠ sep).drop 1

def recordsFrom (offset : ℕ) : List (List α) → List (List α)
  | [] => []
  | r :: records => if offset = 0 then r :: records else recordsFrom (offset - r.length) records

def recordsBefore (offset : ℕ) : List (List α) → List (List α)
  | [] => []
  | r :: records => if offset = 0 then [] else r :: recordsBefore (offset - r.length) records

omit [DecidableEq α] in
def Ended (sep : α) (r : List α) : Prop := ∃ body, r = body ++ [sep] ∧ sep ∉ body

omit [DecidableEq α] in
theorem Ended.getLast? {r : List α} (h : Ended sep r) : r.getLast? = some sep := by
  obtain ⟨body, rfl, -⟩ := h
  simp

omit [DecidableEq α] in
theorem getLast?_ne {fragment : List α} (h : sep ∉ fragment) : fragment.getLast? ≠ some sep :=
  fun hlast => h (List.mem_of_getLast? hlast)

theorem splitInclusive_ended {r : List α} (h : Ended sep r) (l : List α) :
    splitInclusive sep (r ++ l) = r :: splitInclusive sep l := by
  obtain ⟨body, rfl, hbody⟩ := h
  induction body with
  | nil => simp [splitInclusive]
  | cons a body ih =>
    obtain ⟨ha, hbody⟩ := not_or.mp (List.mem_cons.not.mp hbody)
    have hrest := ih hbody
    rw [List.cons_append, List.cons_append, splitInclusive, if_neg (Ne.symm ha), hrest]

theorem splitInclusive_fragment {fragment : List α} (h : sep ∉ fragment) (hne : fragment ≠ []) :
    splitInclusive sep fragment = [fragment] := by
  induction fragment with
  | nil => exact absurd rfl hne
  | cons a fragment ih =>
    obtain ⟨ha, hrest⟩ := not_or.mp (List.mem_cons.not.mp h)
    rw [splitInclusive, if_neg (Ne.symm ha)]
    by_cases hnil : fragment = []
    · subst hnil
      rfl
    · rw [ih hrest hnil]

theorem splitInclusive_records {records : List (List α)} {fragment : List α}
    (hrecords : ∀ r ∈ records, Ended sep r) :
    splitInclusive sep (records.flatten ++ fragment) = records ++ splitInclusive sep fragment := by
  induction records with
  | nil => rfl
  | cons r records ih =>
    obtain ⟨hr, hrest⟩ := List.forall_mem_cons.mp hrecords
    rw [List.flatten_cons, List.append_assoc, splitInclusive_ended hr, ih hrest, List.cons_append]

theorem afterFirst_append {front : List α} (h : sep ∉ front) (l : List α) :
    afterFirst sep (front ++ sep :: l) = l := by
  have hfront : ∀ a ∈ front, decide (a ≠ sep) = true := by
    intro a ha
    rw [decide_eq_true_eq]
    rintro rfl
    exact h ha
  rw [afterFirst, List.dropWhile_append_of_pos hfront, List.dropWhile_cons_of_neg (by simp)]
  rfl

theorem afterFirst_fragment {fragment : List α} (h : sep ∉ fragment) :
    afterFirst sep fragment = [] := by
  have hall : fragment.dropWhile (fun a => a ≠ sep) = [] := by
    rw [List.dropWhile_eq_nil_iff]
    intro a ha
    rw [decide_eq_true_eq]
    rintro rfl
    exact h ha
  rw [afterFirst, hall]
  rfl

omit [DecidableEq α] in
theorem recordsFrom_zero (records : List (List α)) : recordsFrom 0 records = records := by
  cases records with
  | nil => rfl
  | cons r records => rw [recordsFrom, if_pos rfl]

omit [DecidableEq α] in
theorem recordsBefore_append (offset : ℕ) (records : List (List α)) :
    recordsBefore offset records ++ recordsFrom offset records = records := by
  induction records generalizing offset with
  | nil => rfl
  | cons r records ih =>
    rw [recordsBefore, recordsFrom]
    split_ifs
    · rfl
    · rw [List.cons_append, ih]

omit [DecidableEq α] in
def fragmentFrom (offset : ℕ) (records : List (List α)) (fragment : List α) : List α :=
  if offset ≤ records.flatten.length then fragment else []

/-- Past the first mark from one before an offset on, the records that start there remain. -/
theorem afterFirst_drop {records : List (List α)} {fragment : List α} {offset : ℕ}
    (hrecords : ∀ r ∈ records, Ended sep r) (hfragment : sep ∉ fragment) (hoffset : 0 < offset) :
    afterFirst sep ((records.flatten ++ fragment).drop (offset - 1)) =
      (recordsFrom offset records).flatten ++ fragmentFrom offset records fragment := by
  induction records generalizing offset with
  | nil =>
    have hrest : sep ∉ fragment.drop (offset - 1) := fun h => hfragment (List.mem_of_mem_drop h)
    have hlate : ¬offset ≤ ([] : List (List α)).flatten.length := by
      simp only [List.flatten_nil, List.length_nil]
      omega
    rw [List.flatten_nil, List.nil_append, afterFirst_fragment hrest, fragmentFrom, if_neg hlate]
    rfl
  | cons r records ih =>
    obtain ⟨hr, hrest⟩ := List.forall_mem_cons.mp hrecords
    rw [recordsFrom, if_neg (by omega), List.flatten_cons, List.append_assoc]
    by_cases hinside : offset ≤ r.length
    · -- the mark that ends the record is the first one read
      have hzero : offset - r.length = 0 := by omega
      obtain ⟨body, rfl, hbody⟩ := hr
      rw [List.length_append, List.length_singleton] at hinside
      have hfront : sep ∉ body.drop (offset - 1) := fun h => hbody (List.mem_of_mem_drop h)
      rw [hzero, recordsFrom_zero, List.append_assoc,
        List.drop_append_of_le_length (by omega), List.singleton_append, afterFirst_append hfront,
        fragmentFrom, if_pos]
      simp only [List.flatten_cons, List.length_append, List.length_singleton]
      omega
    · have hskip : offset - 1 = r.length + (offset - r.length - 1) := by omega
      rw [hskip, List.drop_append, List.drop_eq_nil_of_le (by omega), List.nil_append,
        Nat.add_sub_cancel_left, ih hrest (by omega)]
      congr 1
      simp only [fragmentFrom, List.flatten_cons, List.length_append]
      have hiff : offset - r.length ≤ records.flatten.length ↔
          offset ≤ r.length + records.flatten.length := by omega
      simp only [hiff]

end Foundation.Records
