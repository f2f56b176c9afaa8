import Mathlib.Tactic.Common
import Mathlib.Data.List.DropRight
import Mathlib.Algebra.GroupWithZero.Nat

/-!
# Unicode text

Byte length, trimming, control characters and truncation at a character boundary, over the
character list of a string. White space is the Unicode property `White_Space`, control
characters are the category `Cc`.
-/

namespace Foundation.Text

def isControl (c : Char) : Bool :=
  c.val ≤ 0x1f || (0x7f ≤ c.val && c.val ≤ 0x9f)

def isWhitespace (c : Char) : Bool :=
  (0x09 ≤ c.val && c.val ≤ 0x0d) || c.val = 0x20 || c.val = 0x85 || c.val = 0xa0 ||
    c.val = 0x1680 || (0x2000 ≤ c.val && c.val ≤ 0x200a) || c.val = 0x2028 || c.val = 0x2029 ||
    c.val = 0x202f || c.val = 0x205f || c.val = 0x3000

def charBytes (cs : List Char) : ℕ := (cs.map Char.utf8Size).sum

def byteLen (s : String) : ℕ := charBytes s.toList

def trimChars (cs : List Char) : List Char := (cs.dropWhile isWhitespace).rdropWhile isWhitespace

def trim (s : String) : String := String.ofList (trimChars s.toList)

def hasControl (s : String) : Bool := s.toList.any isControl

def isBlank (s : String) : Bool := (trim s).isEmpty

def takeBytes : ℕ → List Char → List Char
  | _, [] => []
  | n, c :: cs => if c.utf8Size ≤ n then c :: takeBytes (n - c.utf8Size) cs else []

def truncate (s : String) (maxBytes : ℕ) : String :=
  if byteLen s ≤ maxBytes then s
  else String.ofList ((takeBytes maxBytes s.toList).rdropWhile isWhitespace)

theorem length_le_charBytes (cs : List Char) : cs.length ≤ charBytes cs := by
  induction cs with
  | nil => exact le_rfl
  | cons c cs ih =>
    have hc : 0 < c.utf8Size := Char.utf8Size_pos c
    simp only [charBytes, List.map_cons, List.sum_cons, List.length_cons] at ih ⊢
    omega

theorem takeBytes_isPrefix (n : ℕ) (cs : List Char) : takeBytes n cs <+: cs := by
  induction cs generalizing n with
  | nil => simp [takeBytes]
  | cons c cs ih =>
    simp only [takeBytes]
    split_ifs
    · exact (List.prefix_cons_inj c).mpr (ih _)
    · exact List.nil_prefix

theorem charBytes_takeBytes (n : ℕ) (cs : List Char) : charBytes (takeBytes n cs) ≤ n := by
  induction cs generalizing n with
  | nil => simp [takeBytes, charBytes]
  | cons c cs ih =>
    simp only [takeBytes]
    split_ifs with h
    · have ht := ih (n - c.utf8Size)
      simp only [charBytes, List.map_cons, List.sum_cons] at ht ⊢
      omega
    · simp [charBytes]

theorem charBytes_le_of_sublist {xs ys : List Char} (h : xs.Sublist ys) :
    charBytes xs ≤ charBytes ys := by
  induction h with
  | slnil => exact le_rfl
  | cons c _ ih => exact ih.trans (by simp [charBytes])
  | cons_cons c _ ih => simpa [charBytes] using ih

theorem rdropWhile_isPrefix (cs : List Char) : cs.rdropWhile isWhitespace <+: cs :=
  List.rdropWhile_prefix isWhitespace cs

theorem trimChars_sublist (cs : List Char) : (trimChars cs).Sublist cs :=
  (rdropWhile_isPrefix _).sublist.trans (List.dropWhile_sublist _)

theorem rdropWhile_ne_nil {c : Char} {cs : List Char} (hc : isWhitespace c = false) :
    (c :: cs).rdropWhile isWhitespace ≠ [] := by
  intro h
  have hall := List.rdropWhile_eq_nil_iff.mp h c List.mem_cons_self
  simp [hc] at hall

theorem trimChars_head {cs : List Char} {c : Char} {rest : List Char}
    (h : trimChars cs = c :: rest) : isWhitespace c = false := by
  obtain ⟨tail, htail⟩ := rdropWhile_isPrefix (cs.dropWhile isWhitespace)
  have hd : cs.dropWhile isWhitespace = c :: (rest ++ tail) := by
    rw [← htail, show (cs.dropWhile isWhitespace).rdropWhile isWhitespace = c :: rest from h]
    rfl
  have hne : cs.dropWhile isWhitespace ≠ [] := by simp [hd]
  have hhead := List.head_dropWhile_not isWhitespace hne
  simpa [hd] using hhead

theorem trimChars_eq_nil_iff {cs : List Char} :
    trimChars cs = [] ↔ ∀ c ∈ cs, isWhitespace c = true := by
  rw [trimChars, List.rdropWhile_eq_nil_iff]
  constructor
  · intro h c hc
    rw [← List.takeWhile_append_dropWhile (p := isWhitespace) (l := cs)] at hc
    rcases List.mem_append.mp hc with hc | hc
    · exact List.mem_takeWhile_imp hc
    · exact h c hc
  · exact fun h c hc => h c ((List.dropWhile_sublist isWhitespace).subset hc)

@[simp] theorem trimChars_trimChars (cs : List Char) : trimChars (trimChars cs) = trimChars cs := by
  have hdrop : (trimChars cs).dropWhile isWhitespace = trimChars cs := by
    cases h : trimChars cs with
    | nil => rfl
    | cons c rest => rw [List.dropWhile_cons_of_neg (by simp [trimChars_head h])]
  conv_lhs => rw [trimChars, hdrop]
  exact List.rdropWhile_idempotent isWhitespace _

@[simp] theorem trim_trim (s : String) : trim (trim s) = trim s := by
  simp [trim]

theorem isBlank_eq_false_of_head {s : String} {c : Char} {rest : List Char}
    (hs : s.toList = c :: rest) (hc : isWhitespace c = false) : isBlank s = false := by
  have hne : trimChars s.toList ≠ [] := by
    intro h
    have hall := trimChars_eq_nil_iff.mp h c (by simp [hs])
    simp [hc] at hall
  simpa [isBlank, trim, String.isEmpty_iff, String.ext_iff] using hne

theorem hasControl_of_sublist {s t : String} (h : s.toList.Sublist t.toList)
    (ht : hasControl t = false) : hasControl s = false := by
  simp only [hasControl, List.any_eq_false] at ht ⊢
  exact fun c hc => ht c (h.subset hc)

theorem truncate_sublist (s : String) (n : ℕ) : (truncate s n).toList.Sublist s.toList := by
  unfold truncate
  split_ifs
  · exact List.Sublist.refl _
  · rw [String.toList_ofList]
    exact (rdropWhile_isPrefix _).sublist.trans (takeBytes_isPrefix _ _).sublist

theorem truncate_isPrefix (s : String) (n : ℕ) : (truncate s n).toList <+: s.toList := by
  unfold truncate
  split_ifs
  · exact List.prefix_rfl
  · rw [String.toList_ofList]
    exact (rdropWhile_isPrefix _).trans (takeBytes_isPrefix _ _)

theorem byteLen_truncate (s : String) (n : ℕ) : byteLen (truncate s n) ≤ n := by
  unfold truncate
  split_ifs with h
  · exact h
  · rw [byteLen, String.toList_ofList]
    exact (charBytes_le_of_sublist (rdropWhile_isPrefix _).sublist).trans (charBytes_takeBytes _ _)

theorem isBlank_truncate_trim {s : String} {n : ℕ} (h : truncate (trim s) n ≠ "") :
    isBlank (truncate (trim s) n) = false := by
  have hpre := truncate_isPrefix (trim s) n
  cases ht : (truncate (trim s) n).toList with
  | nil => exact absurd (String.toList_inj.mp (ht.trans String.toList_empty.symm)) h
  | cons c rest =>
    obtain ⟨tail, htail⟩ := hpre
    rw [ht, trim, String.toList_ofList] at htail
    exact isBlank_eq_false_of_head ht (trimChars_head htail.symm)

/-- Truncation keeps the first character of a trimmed text when the limit admits it. -/
theorem truncate_trim_ne_empty {s : String} {n : ℕ} (h : trim s ≠ "") (hn : 4 ≤ n) :
    truncate (trim s) n ≠ "" := by
  unfold truncate
  split_ifs with hlen
  · exact h
  · cases ht : (trim s).toList with
    | nil => exact absurd (String.toList_inj.mp (ht.trans String.toList_empty.symm)) h
    | cons c rest =>
      have hc : isWhitespace c = false := by
        rw [trim, String.toList_ofList] at ht
        exact trimChars_head ht
      have hsize : c.utf8Size ≤ n := (Char.utf8Size_le_four c).trans hn
      intro hnil
      have hnil := congrArg String.toList hnil
      rw [String.toList_ofList, takeBytes, if_pos hsize] at hnil
      exact rdropWhile_ne_nil hc hnil

end Foundation.Text
