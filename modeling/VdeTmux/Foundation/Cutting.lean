import Mathlib.Algebra.GroupWithZero.Nat
import Mathlib.Data.List.Basic
import Mathlib.Tactic.Common

/-!
# Cutting

A list is cut at its marks into what stands before the first mark and what follows each of them.
A text is cut after each line end.
-/

namespace Foundation.Cutting

variable {α : Type*}

/-- What stands before the first mark, and for each mark what follows it up to the next. -/
def cut (mark : α → Bool) : List α → List α × List (List α)
  | [] => ([], [])
  | x :: xs =>
    if mark x then ([], (cut mark xs).1 :: (cut mark xs).2)
    else (x :: (cut mark xs).1, (cut mark xs).2)

variable {mark : α → Bool}

theorem cut_mark {x : α} (h : mark x = true) (xs : List α) :
    cut mark (x :: xs) = ([], (cut mark xs).1 :: (cut mark xs).2) := by
  rw [cut, if_pos h]

theorem cut_append {xs : List α} (h : ∀ x ∈ xs, mark x = false) (rest : List α) :
    cut mark (xs ++ rest) = (xs ++ (cut mark rest).1, (cut mark rest).2) := by
  induction xs with
  | nil => rfl
  | cons x xs ih =>
    have hx : ¬mark x = true := by
      rw [h x List.mem_cons_self]
      exact Bool.false_ne_true
    have hrest := ih fun y hy => h y (List.mem_cons_of_mem x hy)
    rw [List.cons_append, cut, if_neg hx, hrest]
    rfl

theorem cut_groups {m : α} (hm : mark m = true) {groups : List (List α)}
    (h : ∀ group ∈ groups, ∀ x ∈ group, mark x = false) :
    cut mark (groups.flatMap (m :: ·)) = ([], groups) := by
  induction groups with
  | nil => rfl
  | cons group groups ih =>
    have hrest := ih fun other hother => h other (List.mem_cons_of_mem group hother)
    rw [List.flatMap_cons, List.cons_append, cut_mark hm,
      cut_append (h group List.mem_cons_self), hrest, List.append_nil]

theorem intercalate_eq (m : α) (group : List α) (groups : List (List α)) :
    [m].intercalate (group :: groups) = group ++ groups.flatMap (m :: ·) := by
  induction groups generalizing group with
  | nil => rw [List.intercalate_singleton, List.flatMap_nil, List.append_nil]
  | cons next groups ih =>
    rw [List.intercalate_cons_cons, ih, List.flatMap_cons, List.append_assoc, List.singleton_append,
      List.cons_append]

theorem forall_intercalate {P : α → Prop} {m : α} (hm : P m) {groups : List (List α)}
    (h : ∀ group ∈ groups, ∀ x ∈ group, P x) : ∀ x ∈ [m].intercalate groups, P x := by
  cases groups with
  | nil => exact List.forall_mem_nil _
  | cons group groups =>
    rw [intercalate_eq, List.forall_mem_append]
    refine ⟨h group List.mem_cons_self, ?_⟩
    intro x hx
    obtain ⟨other, hother, hx⟩ := List.mem_flatMap.mp hx
    rcases List.mem_cons.mp hx with rfl | hx
    · exact hm
    · exact h other (List.mem_cons_of_mem group hother) x hx

theorem cut_intercalate {m : α} (hm : mark m = true) {group : List α} {groups : List (List α)}
    (h : ∀ other ∈ group :: groups, ∀ x ∈ other, mark x = false) :
    cut mark ([m].intercalate (group :: groups)) = (group, groups) := by
  have hrest := cut_groups hm fun other hother => h other (List.mem_cons_of_mem group hother)
  rw [intercalate_eq, cut_append (h group List.mem_cons_self), hrest, List.append_nil]

theorem length_cut (mark : α → Bool) (xs : List α) :
    (cut mark xs).2.length = xs.countP mark := by
  induction xs with
  | nil => rfl
  | cons x xs ih =>
    rw [cut, List.countP_cons]
    split_ifs with h
    · rw [List.length_cons, ih]
    · exact ih

theorem cut_map {β : Type*} {f : α → β} {mark' : β → Bool} {xs : List α}
    (h : ∀ x ∈ xs, mark' (f x) = mark x) :
    cut mark' (xs.map f) = ((cut mark xs).1.map f, (cut mark xs).2.map (List.map f)) := by
  induction xs with
  | nil => rfl
  | cons x xs ih =>
    have hrest := ih fun y hy => h y (List.mem_cons_of_mem x hy)
    rw [List.map_cons, cut, cut, h x List.mem_cons_self, hrest]
    split_ifs <;> rfl

/-- The pieces of a text, each with the separator at its end. -/
def splitInclusive (sep : Char) : List Char → List (List Char)
  | [] => []
  | c :: cs =>
    if c = sep then [c] :: splitInclusive sep cs
    else match splitInclusive sep cs with
      | [] => [[c]]
      | piece :: pieces => (c :: piece) :: pieces

def ended (line : List Char) : List Char := line ++ ['\n']

def text (lines : List (List Char)) : List Char := lines.flatMap ended

theorem text_cons (line : List Char) (lines : List (List Char)) :
    text (line :: lines) = ended line ++ text lines := List.flatMap_cons

theorem text_append (lines lines' : List (List Char)) :
    text (lines ++ lines') = text lines ++ text lines' := List.flatMap_append

theorem splitInclusive_line {sep : Char} {line : List Char} (h : sep ∉ line) (rest : List Char) :
    splitInclusive sep (line ++ sep :: rest) = (line ++ [sep]) :: splitInclusive sep rest := by
  induction line with
  | nil => rw [List.nil_append, splitInclusive, if_pos rfl, List.nil_append]
  | cons c line ih =>
    have hc : c ≠ sep := fun heq => h (by rw [heq]; exact List.mem_cons_self)
    have hline := ih fun hmem => h (List.mem_cons_of_mem c hmem)
    rw [List.cons_append, splitInclusive, if_neg hc, hline]
    rfl

theorem splitInclusive_text {lines : List (List Char)} (h : ∀ line ∈ lines, '\n' ∉ line) :
    splitInclusive '\n' (text lines) = lines.map ended := by
  induction lines with
  | nil => rfl
  | cons line lines ih =>
    have hrest := ih fun other hother => h other (List.mem_cons_of_mem line hother)
    have hline := splitInclusive_line (h line List.mem_cons_self) (text lines)
    rw [List.map_cons, ← hrest, ended, ← hline, text_cons, ended, List.append_assoc,
      List.singleton_append]

end Foundation.Cutting
