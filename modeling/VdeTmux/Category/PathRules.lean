import Mathlib.Data.List.Forall2
import VdeTmux.Category.Model
import VdeTmux.Foundation.Glob

/-!
# Path rules

The loop behind a path rule remembers one star. It finds exactly the held matches: it reads a star
of the pattern in front of a star of the text as that star, and so may miss a match.
-/

open Foundation Foundation.Glob
namespace VdeTmux.Category

/-- The whole text matches the pattern, read as a glob. -/
def Globs (pattern text : String) : Prop := Matches star questionMark (utf8 pattern) (utf8 text)

/-- It matches with each star of the pattern in front of a star of the text standing for it. -/
def HoldsStars (pattern text : String) : Prop := Held star questionMark (utf8 pattern) (utf8 text)

/-- The path itself, and what follows each of its slashes. -/
def ruleTexts (path : String) : List String := path :: (afterSlashes path.toList).map String.ofList

def Since (pattern text : List UInt8) (patternIndex textIndex found matchIndex : ℕ) : Prop :=
  ∃ start read, pattern.drop (found + 1) = start ++ pattern.drop patternIndex ∧
    text.drop matchIndex = read ++ text.drop textIndex ∧
    List.Forall₂ (Takes questionMark) start read

def Remains (pattern text : List UInt8) (patternIndex textIndex : ℕ) (starIndex : Option ℕ)
    (matchIndex : ℕ) : Prop :=
  match starIndex with
  | none => Held star questionMark (pattern.drop patternIndex) (text.drop textIndex)
  | some found => ∃ k, Held star questionMark (pattern.drop (found + 1)) (text.drop (matchIndex + k))

variable {pattern text : List UInt8} {patternIndex textIndex matchIndex found : ℕ}

theorem star_ne_questionMark : star ≠ questionMark := by decide

theorem Since.start (patternIndex textIndex : ℕ) :
    Since pattern text (patternIndex + 1) textIndex patternIndex textIndex :=
  ⟨[], [], rfl, rfl, .nil⟩

theorem Since.next {c x : UInt8} {p t : List UInt8}
    (h : Since pattern text patternIndex textIndex found matchIndex)
    (hp : pattern.drop patternIndex = c :: p) (ht : text.drop textIndex = x :: t)
    (hc : Takes questionMark c x) :
    Since pattern text (patternIndex + 1) (textIndex + 1) found matchIndex := by
  obtain ⟨start, read, hpattern, htext, hread⟩ := h
  refine ⟨start ++ [c], read ++ [x], ?_, ?_, List.rel_append hread (.cons hc .nil)⟩
  · rw [hpattern, hp, ← List.drop_drop, hp, List.append_assoc]
    rfl
  · rw [htext, ht, ← List.drop_drop, ht, List.append_assoc]
    rfl

theorem Since.reached (h : Since pattern text patternIndex textIndex found matchIndex) {k : ℕ}
    (hheld : Held star questionMark (pattern.drop (found + 1)) (text.drop (matchIndex + k))) :
    ∃ j, Held star questionMark (pattern.drop patternIndex) (text.drop (textIndex + j)) := by
  obtain ⟨start, read, hpattern, htext, hread⟩ := h
  rw [hpattern, ← List.drop_drop, htext] at hheld
  obtain ⟨j, hj⟩ := held_later star_ne_questionMark hread hheld
  rw [List.drop_drop] at hj
  exact ⟨j, hj⟩

theorem held_append {p t start read : List UInt8} (hread : List.Forall₂ (Takes questionMark) start read) :
    Held star questionMark (start ++ p) (read ++ t) ↔ Held star questionMark p t := by
  induction hread with
  | nil => rfl
  | cons hc _ ih => exact (held_item star_ne_questionMark hc).trans ih

theorem Since.here (h : Since pattern text patternIndex textIndex found matchIndex) :
    Held star questionMark (pattern.drop (found + 1)) (text.drop matchIndex) ↔
      Held star questionMark (pattern.drop patternIndex) (text.drop textIndex) := by
  obtain ⟨start, read, hpattern, htext, hread⟩ := h
  rw [hpattern, htext]
  exact held_append hread

theorem all_stars_iff {p : List UInt8} :
    (p.dropWhile (· = star)).isEmpty = true ↔ Held star questionMark p [] := by
  rw [held_end, List.isEmpty_iff, List.dropWhile_eq_nil_iff]
  exact forall₂_congr fun c _ => decide_eq_true_iff

theorem takes_of_getElem? {c x : UInt8} {p t : List UInt8}
    (hp : pattern.drop patternIndex = c :: p) (ht : text.drop textIndex = x :: t) :
    (pattern[patternIndex]? = text[textIndex]? ∨ pattern[patternIndex]? = some questionMark) ↔
      Takes questionMark c x := by
  have hc : pattern[patternIndex]? = some c := by
    rw [← List.head?_drop, hp]
    rfl
  have hx : text[textIndex]? = some x := by
    rw [← List.head?_drop, ht]
    rfl
  rw [hc, hx, Option.some_inj, Option.some_inj]
  rfl

theorem remains_star {starIndex : Option ℕ} {p t : List UInt8} {x : UInt8}
    (hsince : ∀ found ∈ starIndex, Since pattern text patternIndex textIndex found matchIndex)
    (hp : pattern.drop patternIndex = star :: p) (ht : text.drop textIndex = x :: t)
    (hfree : ¬Takes questionMark star x) :
    Remains pattern text (patternIndex + 1) textIndex (some patternIndex) textIndex ↔
      Remains pattern text patternIndex textIndex starIndex matchIndex := by
  have hrest : pattern.drop (patternIndex + 1) = p := by
    rw [← List.drop_drop, hp]
    rfl
  have hhead : (text.drop textIndex).head? ≠ some star := by
    rw [ht]
    exact fun heq => hfree (Or.inl (Option.some.inj heq).symm)
  have hstar : Held star questionMark (pattern.drop patternIndex) (text.drop textIndex) ↔
      Remains pattern text (patternIndex + 1) textIndex (some patternIndex) textIndex := by
    rw [hp, held_many star_ne_questionMark hhead]
    simp only [Remains, hrest, List.drop_drop]
  cases starIndex with
  | none => exact hstar.symm
  | some found =>
    have hfound := hsince found rfl
    constructor
    · intro h
      exact ⟨0, hfound.here.mpr (hstar.mpr h)⟩
    · rintro ⟨k, hk⟩
      obtain ⟨j, hj⟩ := hfound.reached hk
      rw [hp] at hj
      obtain ⟨i, hi⟩ := held_rest hj
      refine ⟨j + i, ?_⟩
      rw [hrest, ← Nat.add_assoc, ← List.drop_drop]
      exact hi

theorem wildcardLoop_iff {starIndex : Option ℕ} (h : matchIndex ≤ textIndex)
    (hsince : ∀ found ∈ starIndex, Since pattern text patternIndex textIndex found matchIndex) :
    wildcardLoop pattern text patternIndex textIndex starIndex matchIndex h = true ↔
      Remains pattern text patternIndex textIndex starIndex matchIndex := by
  have hmismatch {pi ti : ℕ} (ht : ti < text.length)
      (hp : ¬(pi < pattern.length ∧ (pattern[pi]? = text[ti]? ∨ pattern[pi]? = some questionMark)))
      (hs : ¬(pi < pattern.length ∧ pattern[pi]? = some star)) :
      ¬Held star questionMark (pattern.drop pi) (text.drop ti) := by
    have htext := List.drop_eq_getElem_cons ht
    by_cases hlt : pi < pattern.length
    · have hpattern := List.drop_eq_getElem_cons hlt
      rw [takes_of_getElem? hpattern htext] at hp
      rw [List.getElem?_eq_getElem hlt, Option.some_inj] at hs
      rw [hpattern, htext]
      exact not_held (fun hc => hp ⟨hlt, hc⟩) fun hc => hs ⟨hlt, hc⟩
    · rw [List.drop_eq_nil_of_le (Nat.le_of_not_lt hlt), held_nil, htext]
      exact fun heq => by cases heq
  fun_induction wildcardLoop pattern text patternIndex textIndex starIndex matchIndex h with
  | case1 pi ti si mi h ht hp ih =>
    have hpattern := List.drop_eq_getElem_cons hp.1
    have htext := List.drop_eq_getElem_cons ht
    have hc := (takes_of_getElem? hpattern htext).mp hp.2
    refine (ih fun found hfound => (hsince found hfound).next hpattern htext hc).trans ?_
    cases si with
    | none =>
      simp only [Remains]
      rw [hpattern, htext]
      exact (held_item star_ne_questionMark hc).symm
    | some found => rfl
  | case2 pi ti si mi h ht hp hs ih =>
    have hpattern := List.drop_eq_getElem_cons hs.1
    have htext := List.drop_eq_getElem_cons ht
    rw [takes_of_getElem? hpattern htext] at hp
    have hstart : ∀ found ∈ some pi, Since pattern text (pi + 1) ti found ti := by
      intro found hfound
      cases hfound
      exact .start pi ti
    refine (ih hstart).trans ?_
    have hstar := hs.2
    rw [List.getElem?_eq_getElem hs.1, Option.some_inj] at hstar
    rw [hstar] at hpattern hp
    exact remains_star hsince hpattern htext fun hc => hp ⟨hs.1, hc⟩
  | case3 pi ti mi h ht hp hs found ih =>
    have hfound := hsince found rfl
    have hstart : ∀ other ∈ some found, Since pattern text (found + 1) (mi + 1) other (mi + 1) := by
      intro other hother
      cases hother
      exact .start found (mi + 1)
    refine (ih hstart).trans ?_
    constructor
    · rintro ⟨k, hk⟩
      exact ⟨1 + k, by rwa [← Nat.add_assoc]⟩
    · rintro ⟨k, hk⟩
      cases k with
      | zero => exact absurd (hfound.here.mp hk) (hmismatch ht hp hs)
      | succ k => exact ⟨k, by rwa [Nat.add_right_comm, Nat.add_assoc]⟩
  | case4 pi ti mi h ht hp hs =>
    exact iff_of_false Bool.false_ne_true (hmismatch ht hp hs)
  | case5 pi ti si mi h ht =>
    have htext : text.drop ti = [] := List.drop_eq_nil_of_le (Nat.le_of_not_lt ht)
    rw [all_stars_iff]
    cases si with
    | none =>
      simp only [Remains]
      rw [htext]
    | some found =>
      have hfound := hsince found rfl
      constructor
      · intro hend
        rw [← htext] at hend
        exact ⟨0, hfound.here.mpr hend⟩
      · rintro ⟨k, hk⟩
        obtain ⟨j, hj⟩ := hfound.reached hk
        rwa [← List.drop_drop, htext, List.drop_nil] at hj

theorem wildcardMatch_iff (pattern text : String) :
    wildcardMatch pattern text = true ↔ HoldsStars pattern text :=
  wildcardLoop_iff le_rfl (fun _ h => by cases h)

theorem matchesPathPattern_iff (pattern path : String) :
    matchesPathPattern pattern path = true ↔ ∃ text ∈ ruleTexts path, HoldsStars pattern text := by
  simp only [matchesPathPattern, ruleTexts, Bool.or_eq_true, List.any_eq_true, wildcardMatch_iff,
    List.exists_mem_cons_iff, List.mem_map, exists_exists_and_eq_and]

/-- Matching is matching a glob exactly where a match can hold the stars of the text. -/
theorem path_rule_exact (pattern : String) :
    (∀ text, (wildcardMatch pattern text = true ↔ Globs pattern text) ↔
      (Globs pattern text → HoldsStars pattern text)) ∧
    ∀ path, (matchesPathPattern pattern path = true ↔
        ∃ text ∈ ruleTexts path, Globs pattern text) ↔
      ((∃ text ∈ ruleTexts path, Globs pattern text) →
        ∃ text ∈ ruleTexts path, HoldsStars pattern text) := by
  have hmatches {text : String} (h : HoldsStars pattern text) : Globs pattern text :=
    h.matches star_ne_questionMark
  refine ⟨fun text => ?_, fun path => ?_⟩
  · rw [wildcardMatch_iff]
    exact ⟨fun h => h.mpr, fun h => ⟨hmatches, h⟩⟩
  · rw [matchesPathPattern_iff]
    refine ⟨fun h => h.mpr, fun h => ⟨fun hheld => ?_, h⟩⟩
    obtain ⟨text, htext, hheld⟩ := hheld
    exact ⟨text, htext, hmatches hheld⟩

/-- A star in the text is taken for the star of the pattern. -/
theorem star_in_text_missed : Globs "*b" "*ab" ∧ wildcardMatch "*b" "*ab" = false ∧
    "*ab" ∈ ruleTexts "*ab" ∧ matchesPathPattern "*b" "*ab" = false := by
  have hglob : Globs "*b" "*ab" :=
    Matches.many (u := utf8 "*a") (.item (by decide) (by decide) .nil)
  have hmissed : wildcardMatch "*b" "*ab" = false := by
    rw [← Bool.not_eq_true, wildcardMatch_iff]
    intro h
    have h := (held_item star_ne_questionMark (Or.inl rfl)).mp h
    exact not_held (by simp [Takes, questionMark]) (by decide) h
  refine ⟨hglob, hmissed, List.mem_cons_self, ?_⟩
  simp [matchesPathPattern, hmissed, afterSlashes]

end VdeTmux.Category
