import VdeTmux.Foundation.Text

/-!
# The width of styled text

The cells that tmux fills with a status text: a doubled hash is one cell, and a directive in
brackets none. Text from outside has no single hash.
-/

open Foundation.Text
namespace VdeTmux.Statusline

structure UnicodeWidth where
  width : Char → ℕ
  space : width ' ' = 1
  bar : width '│' = 1
  ellipsis : width '…' = 1
  hash : width '#' = 1

variable (unicode : UnicodeWidth)

def scanWidth : Bool → List Char → ℕ
  | _, [] => 0
  | true, c :: cs => if c = ']' then scanWidth false cs else scanWidth true cs
  | false, '#' :: '#' :: cs => 1 + scanWidth false cs
  | false, '#' :: '[' :: cs =>
    if cs.contains ']' then scanWidth true cs
    else unicode.width '#' + scanWidth false ('[' :: cs)
  | false, c :: cs => unicode.width c + scanWidth false cs

example : scanWidth unicode false ['#', '[', 'x', ']', '#', '#'] = 1 := by simp [scanWidth]

def tmuxDisplayWidth (rendered : List Char) : ℕ := scanWidth unicode false rendered

def structuredExternalText (raw : List Char) : List Char :=
  raw.flatMap fun c => if isControl c then [' '] else if c = '#' then ['#', '#'] else [c]

def displayWidth (text : List Char) : ℕ := (text.map unicode.width).sum

def takeWidth : ℕ → List Char → List Char
  | _, [] => []
  | budget, c :: cs =>
    if unicode.width c ≤ budget then c :: takeWidth (budget - unicode.width c) cs else []

def truncateDisplay (text : List Char) (maxWidth : ℕ) : List Char :=
  if maxWidth = 0 then []
  else if displayWidth unicode text ≤ maxWidth then text
  else takeWidth unicode (maxWidth - 1) text ++ ['…']

variable {unicode}

theorem displayWidth_append (text text' : List Char) :
    displayWidth unicode (text ++ text') =
      displayWidth unicode text + displayWidth unicode text' := by
  rw [displayWidth, displayWidth, displayWidth, List.map_append, List.sum_append]

theorem displayWidth_takeWidth (budget : ℕ) (text : List Char) :
    displayWidth unicode (takeWidth unicode budget text) ≤ budget := by
  induction text generalizing budget with
  | nil => exact Nat.zero_le budget
  | cons c text ih =>
    rw [takeWidth]
    split_ifs with h
    · have hrest := ih (budget - unicode.width c)
      rw [displayWidth, List.map_cons, List.sum_cons, ← displayWidth]
      omega
    · exact Nat.zero_le budget

theorem displayWidth_truncateDisplay (text : List Char) (maxWidth : ℕ) :
    displayWidth unicode (truncateDisplay unicode text maxWidth) ≤ maxWidth := by
  rw [truncateDisplay]
  split_ifs with hzero hfits
  · exact Nat.zero_le maxWidth
  · exact hfits
  · have htake : displayWidth unicode (takeWidth unicode (maxWidth - 1) text) ≤ maxWidth - 1 :=
      displayWidth_takeWidth (maxWidth - 1) text
    have hdots : displayWidth unicode ['…'] = 1 := by
      rw [displayWidth, List.map_singleton, List.sum_singleton, unicode.ellipsis]
    rw [displayWidth_append, hdots]
    omega

theorem mem_takeWidth {c : Char} (budget : ℕ) {text : List Char}
    (h : c ∈ takeWidth unicode budget text) : c ∈ text := by
  induction text generalizing budget with
  | nil => exact h
  | cons d text ih =>
    rw [takeWidth] at h
    split_ifs at h
    · rcases List.mem_cons.mp h with rfl | h
      · exact List.mem_cons_self
      · exact List.mem_cons_of_mem d (ih _ h)
    · exact absurd h List.not_mem_nil

theorem mem_truncateDisplay {c : Char} {text : List Char} {maxWidth : ℕ}
    (h : c ∈ truncateDisplay unicode text maxWidth) : c ∈ text ∨ c = '…' := by
  rw [truncateDisplay] at h
  split_ifs at h
  · exact absurd h List.not_mem_nil
  · exact Or.inl h
  · rcases List.mem_append.mp h with h | h
    · exact Or.inl (mem_takeWidth _ h)
    · exact Or.inr (List.mem_singleton.mp h)

def outside (c : Char) : List Char :=
  if isControl c then [' '] else if c = '#' then ['#', '#'] else [c]

theorem structuredExternalText_cons (c : Char) (raw : List Char) :
    structuredExternalText (c :: raw) = outside c ++ structuredExternalText raw := List.flatMap_cons

theorem scanWidth_char {c : Char} (h : c ≠ '#') (cs : List Char) :
    scanWidth unicode false (c :: cs) = unicode.width c + scanWidth unicode false cs := by
  rw [scanWidth]
  · intro cs' heq
    exact absurd heq h
  · intro cs' heq
    exact absurd heq h

theorem scanWidth_outside (c : Char) (cs : List Char) :
    scanWidth unicode false (outside c ++ cs) =
      (if isControl c then 1 else unicode.width c) + scanWidth unicode false cs := by
  rw [outside]
  split_ifs with hcontrol hhash
  · rw [List.singleton_append, scanWidth_char (by decide), unicode.space]
  · rw [hhash, unicode.hash]
    rfl
  · rw [List.singleton_append, scanWidth_char hhash]

theorem scanWidth_open_le (raw : List Char) :
    scanWidth unicode true (structuredExternalText raw) ≤
      scanWidth unicode false (structuredExternalText raw) := by
  induction raw with
  | nil => exact le_rfl
  | cons c raw ih =>
    rw [structuredExternalText_cons, scanWidth_outside, outside]
    split_ifs with hcontrol hhash
    · have hopen : scanWidth unicode true (' ' :: structuredExternalText raw) =
          scanWidth unicode true (structuredExternalText raw) := rfl
      rw [List.singleton_append, hopen]
      omega
    · have hopen : scanWidth unicode true ('#' :: '#' :: structuredExternalText raw) =
          scanWidth unicode true (structuredExternalText raw) := rfl
      rw [List.cons_append, List.singleton_append, hopen]
      omega
    · rw [List.singleton_append, scanWidth]
      split_ifs <;> omega

theorem scanWidth_external {raw : List Char} (h : ∀ c ∈ raw, isControl c = false) :
    scanWidth unicode false (structuredExternalText raw) = displayWidth unicode raw := by
  induction raw with
  | nil => rfl
  | cons c raw ih =>
    obtain ⟨hc, hraw⟩ := List.forall_mem_cons.mp h
    have hwidth : (if isControl c then 1 else unicode.width c) = unicode.width c := by
      rw [hc]
      rfl
    rw [structuredExternalText_cons, scanWidth_outside, ih hraw, hwidth]
    rfl

theorem scanWidth_plain {c : Char} {cs : List Char}
    (h : c = '#' → cs.head? ≠ some '#' ∧ cs.head? ≠ some '[') :
    scanWidth unicode false (c :: cs) = unicode.width c + scanWidth unicode false cs := by
  by_cases hc : c = '#'
  · obtain ⟨hhash, hbracket⟩ := h hc
    subst hc
    rw [scanWidth]
    · intro cs' _ heq
      exact hhash (by rw [heq]; rfl)
    · intro cs' _ heq
      exact hbracket (by rw [heq]; rfl)
  · exact scanWidth_char hc cs

theorem head?_external (raw : List Char) :
    (structuredExternalText (' ' :: raw)).head? = some ' ' := rfl

theorem scanWidth_skip {text : List Char} (h : text.contains ']' = false) (rest : List Char) :
    scanWidth unicode true (text ++ rest) = scanWidth unicode true rest := by
  induction text with
  | nil => rfl
  | cons c text ih =>
    rw [List.contains_cons, Bool.or_eq_false_iff] at h
    have hc : c ≠ ']' := by
      rintro rfl
      exact absurd h.1 (by decide)
    rw [List.cons_append, scanWidth, if_neg hc, ih h.2]

/-- A text from outside adds at most its own width, also behind a directive that is not closed. -/
theorem scanWidth_append_le (isOpen : Bool) (text raw : List Char) :
    scanWidth unicode isOpen (text ++ structuredExternalText (' ' :: raw)) ≤
      scanWidth unicode isOpen text +
        scanWidth unicode false (structuredExternalText (' ' :: raw)) := by
  have hnil : ∀ isOpen, scanWidth unicode isOpen [] = 0 := fun isOpen => by cases isOpen <;> rfl
  generalize hadded : structuredExternalText (' ' :: raw) = added
  have hopen : scanWidth unicode true added ≤ scanWidth unicode false added := by
    rw [← hadded]
    exact scanWidth_open_le _
  have hhead : added.head? = some ' ' := by
    rw [← hadded]
    exact head?_external raw
  induction isOpen, text using scanWidth.induct with
  | case1 isOpen =>
    rw [List.nil_append, hnil, Nat.zero_add]
    cases isOpen with
    | false => exact le_rfl
    | true => exact hopen
  | case2 cs ih => exact ih
  | case3 c cs hopened ih =>
    rw [List.cons_append, scanWidth, scanWidth, if_neg hopened, if_neg hopened]
    exact ih
  | case4 cs ih =>
    rw [List.cons_append, List.cons_append, scanWidth, scanWidth]
    omega
  | case5 cs hclosed ih =>
    have hclosed' : (cs ++ added).contains ']' = true := by
      rw [List.contains_append, hclosed, Bool.true_or]
    rw [List.cons_append, List.cons_append, scanWidth, scanWidth, if_pos hclosed, if_pos hclosed']
    exact ih
  | case6 cs hclosed ih =>
    rw [List.cons_append, List.cons_append, scanWidth, scanWidth, if_neg hclosed]
    split_ifs with hadded'
    · -- the directive is closed by the text from outside
      have hskip : scanWidth unicode true (cs ++ added) = scanWidth unicode true added :=
        scanWidth_skip (Bool.eq_false_iff.mpr hclosed) added
      omega
    · rw [List.cons_append] at ih
      omega
  | case7 c cs hhash hbracket ih =>
    have hplain : c = '#' → cs.head? ≠ some '#' ∧ cs.head? ≠ some '[' := by
      intro hc
      constructor
      · intro heq
        obtain ⟨rest, rfl⟩ := List.head?_eq_some_iff.mp heq
        exact hhash rest hc rfl
      · intro heq
        obtain ⟨rest, rfl⟩ := List.head?_eq_some_iff.mp heq
        exact hbracket rest hc rfl
    have hplain' : c = '#' → (cs ++ added).head? ≠ some '#' ∧ (cs ++ added).head? ≠ some '[' := by
      intro hc
      cases cs with
      | nil =>
        rw [List.nil_append, hhead]
        decide
      | cons d cs => exact hplain hc
    rw [List.cons_append, scanWidth_plain hplain, scanWidth_plain hplain']
    omega

end VdeTmux.Statusline
