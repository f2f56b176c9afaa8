import VdeTmux.Foundation.Lines
import VdeTmux.Foundation.Writer

/-!
# Numerals

The numbers that are read are those that were written.
-/

open Foundation.Writer
namespace Foundation.Text

theorem digitsValue_digits (n : ℕ) : digitsValue (digits n) = n := by
  have h := Nat.ofDigitChars_ten_toDigits (n := n)
  rwa [Nat.ofDigitChars_eq_foldl] at h

theorem parseDigits_digits (n : ℕ) : parseDigits (digits n) = some n := by
  have hall : (digits n).all Char.isDigit = true :=
    List.all_eq_true.mpr fun c hc => isDigit_of_mem hc
  rw [parseDigits, if_pos ⟨digits_ne_nil n, hall⟩, digitsValue_digits]

theorem head_ne_of_isDigit {c d : Char} (h : c.isDigit = true) (hd : d.isDigit = false) : c ≠ d := by
  rintro rfl
  rw [h] at hd
  cases hd

theorem parseNat_digits {n most : ℕ} (h : n ≤ most) : parseNat most (digits n) = some n := by
  obtain ⟨c, cs, hdigits, hc⟩ := digits_head n
  have hparse := parseDigits_digits n
  have hplain : parseNat most (digits n) = (parseDigits (digits n)).filter (· ≤ most) := by
    unfold parseNat
    rw [hdigits]
    split
    · rename_i heq
      exact absurd (List.cons.inj heq).1 (head_ne_of_isDigit hc rfl)
    · rfl
  rw [hplain, hparse, Option.filter_some, if_pos (by simpa using h)]

theorem parseInt_digits {n : ℕ} {least most : ℤ} (hleast : least ≤ n) (hmost : (n : ℤ) ≤ most) :
    parseInt least most (digits n) = some (n : ℤ) := by
  obtain ⟨c, cs, hdigits, hc⟩ := digits_head n
  have hparse := parseDigits_digits n
  have hfilter : (some (n : ℤ)).filter (fun z => decide (least ≤ z ∧ z ≤ most)) = some (n : ℤ) := by
    rw [Option.filter_some, if_pos (by simpa using ⟨hleast, hmost⟩)]
  rw [hdigits] at hparse ⊢
  unfold parseInt
  split
  · rename_i heq
    exact absurd (List.cons.inj heq).1 (head_ne_of_isDigit hc rfl)
  · rename_i heq
    exact absurd (List.cons.inj heq).1 (head_ne_of_isDigit hc rfl)
  · simp only [hparse]
    exact hfilter

theorem parseInt_negative {n : ℕ} {least most : ℤ} (hleast : least ≤ Int.negSucc n)
    (hmost : Int.negSucc n ≤ most) :
    parseInt least most ('-' :: digits (n + 1)) = some (Int.negSucc n) := by
  have hfilter : (some (Int.negSucc n)).filter (fun z => decide (least ≤ z ∧ z ≤ most)) =
      some (Int.negSucc n) := by
    rw [Option.filter_some, if_pos (by simpa using ⟨hleast, hmost⟩)]
  simp only [parseInt, parseDigits_digits]
  exact hfilter

theorem parseInt_signed {z least most : ℤ} (hleast : least ≤ z) (hmost : z ≤ most) :
    parseInt least most (signed z) = some z := by
  cases z with
  | ofNat n => exact parseInt_digits hleast hmost
  | negSucc n => exact parseInt_negative hleast hmost

end Foundation.Text
