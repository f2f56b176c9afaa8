import Mathlib.Tactic.IntervalCases
import VdeTmux.Foundation.Writer

/-!
# JSON text

The text `serde_json` writes for strings, arrays and objects, and how strings are read off it.
-/

namespace Foundation.Json

open Writer

def hexCode (n : ℕ) : List Char :=
  let digit := fun k => Char.ofNat (if k < 10 then 48 + k else 87 + k)
  ['\\', 'u', '0', '0', digit (n / 16), digit (n % 16)]

def escape (c : Char) : List Char :=
  match c.toNat with
  | 0x22 => ['\\', '"']
  | 0x5c => ['\\', '\\']
  | 0x08 => ['\\', 'b']
  | 0x09 => ['\\', 't']
  | 0x0a => ['\\', 'n']
  | 0x0c => ['\\', 'f']
  | 0x0d => ['\\', 'r']
  | n => if n < 0x20 then hexCode n else [c]

def quoteChars (s : String) : List Char := '"' :: s.toList.flatMap escape ++ ['"']

def quote (s : String) : String := String.ofList (quoteChars s)

def array (items : List String) : String := "[" ++ ",".intercalate items ++ "]"

def strings (values : List String) : String := array (values.map quote)

example : strings ["a", "b\n"] = "[\"a\",\"b\\n\"]" := by decide

def hexValue (c : Char) : ℕ := if c.toNat < 58 then c.toNat - 48 else c.toNat - 87

def unescape : List Char → Option (Char × List Char)
  | '\\' :: 'u' :: '0' :: '0' :: h :: l :: rest =>
    some (Char.ofNat (16 * hexValue h + hexValue l), rest)
  | '\\' :: 'b' :: rest => some ('\x08', rest)
  | '\\' :: 't' :: rest => some ('\t', rest)
  | '\\' :: 'n' :: rest => some ('\n', rest)
  | '\\' :: 'f' :: rest => some ('\x0c', rest)
  | '\\' :: 'r' :: rest => some ('\r', rest)
  | '\\' :: c :: rest => some (c, rest)
  | c :: rest => some (c, rest)
  | [] => none

theorem escape_control : ∀ n < 32, ∀ rest,
    unescape (escape (Char.ofNat n) ++ rest) = some (Char.ofNat n, rest) := by
  intro n hn rest
  interval_cases n <;> rfl

theorem escape_plain {c : Char} (hlow : 32 ≤ c.toNat) (hquote : c ≠ '"') (hslash : c ≠ '\\') :
    escape c = [c] := by
  have hcode (d : Char) (hcd : c ≠ d) : c.toNat ≠ d.toNat := fun h => hcd (Char.toNat_inj.mp h)
  have hquote' : c.toNat ≠ 0x22 := hcode '"' hquote
  have hslash' : c.toNat ≠ 0x5c := hcode '\\' hslash
  unfold escape
  split
  · contradiction
  · contradiction
  all_goals first
    | omega
    | exact if_neg (by omega)

theorem unescape_plain {c : Char} (hslash : c ≠ '\\') (rest : List Char) :
    unescape (c :: rest) = some (c, rest) := by
  unfold unescape
  split <;> simp_all

theorem unescape_escape (c : Char) (rest : List Char) :
    unescape (escape c ++ rest) = some (c, rest) := by
  by_cases hcontrol : c.toNat < 32
  · rw [← Char.ofNat_toNat c]
    exact escape_control c.toNat hcontrol rest
  · by_cases hquote : c = '"'
    · subst hquote
      rfl
    · by_cases hslash : c = '\\'
      · subst hslash
        rfl
      · rw [escape_plain (by omega) hquote hslash]
        exact unescape_plain hslash rest

theorem escape_head (c : Char) : ∃ d cs, escape c = d :: cs ∧ d ≠ '"' := by
  by_cases hquote : c = '"'
  · subst hquote
    exact ⟨'\\', ['"'], rfl, by decide⟩
  · unfold escape
    split
    all_goals try exact ⟨'\\', _, rfl, by decide⟩
    split_ifs
    · exact ⟨'\\', _, rfl, by decide⟩
    · exact ⟨c, [], rfl, hquote⟩

theorem body_inj {as bs xs ys : List Char}
    (h : as.flatMap escape ++ '"' :: xs = bs.flatMap escape ++ '"' :: ys) : as = bs ∧ xs = ys := by
  induction as generalizing bs with
  | nil =>
    cases bs with
    | nil => exact ⟨rfl, (List.cons.inj h).2⟩
    | cons b bs =>
      obtain ⟨d, cs, hb, hd⟩ := escape_head b
      simp only [List.flatMap_nil, List.nil_append, List.flatMap_cons, hb, List.cons_append,
        List.cons.injEq] at h
      exact absurd h.1.symm hd
  | cons a as ih =>
    cases bs with
    | nil =>
      obtain ⟨d, cs, ha, hd⟩ := escape_head a
      simp only [List.flatMap_nil, List.nil_append, List.flatMap_cons, ha, List.cons_append,
        List.cons.injEq] at h
      exact absurd h.1 hd
    | cons b bs =>
      simp only [List.flatMap_cons, List.append_assoc] at h
      have hread := congrArg unescape h
      rw [unescape_escape, unescape_escape, Option.some_inj, Prod.mk.injEq] at hread
      obtain ⟨rfl, hrest⟩ := hread
      obtain ⟨rfl, rfl⟩ := ih hrest
      exact ⟨rfl, rfl⟩

theorem quoteChars_delimited : Delimited quoteChars := by
  intro a b xs ys _ _ heq
  simp only [quoteChars, List.cons_append, List.append_assoc, List.cons.injEq, true_and,
    List.nil_append] at heq
  obtain ⟨hab, hrest⟩ := body_inj heq
  exact ⟨String.toList_inj.mp hab, hrest⟩

theorem quoteChars_head (s : String) : ∃ c cs, quoteChars s = c :: cs ∧ c ≠ ']' :=
  ⟨'"', _, rfl, by decide⟩

theorem escape_length_le (c : Char) : (escape c).length ≤ 6 := by
  unfold escape hexCode
  split
  all_goals simp
  split <;> simp

theorem quoteChars_length_le (s : String) : (quoteChars s).length ≤ 6 * s.toList.length + 2 := by
  have h (cs : List Char) : (cs.flatMap escape).length ≤ 6 * cs.length := by
    induction cs with
    | nil => exact le_rfl
    | cons c cs ih =>
      have hc := escape_length_le c
      rw [List.flatMap_cons, List.length_append, List.length_cons]
      omega
  have hs := h s.toList
  simp only [quoteChars, List.length_append, List.length_cons, List.length_nil]
  omega

theorem quote_injective : Function.Injective quote := fun _ _ h =>
  quoteChars_delimited.injective (String.ofList_inj.mp h)

end Foundation.Json
