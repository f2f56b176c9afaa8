import Mathlib.Tactic.Common

/-!
# Writers whose texts tell where they end

A writer is delimited when its text, put in front of a rest that does not go on with a digit, can
be read off the front again. Delimited writers are closed under literals, sequences and lists.
-/

namespace Foundation.Writer

variable {α β γ : Type}

def Ends (rest : List Char) : Prop := ∀ c ∈ rest.head?, c.isDigit = false

def Delimited (f : α → List Char) : Prop :=
  ∀ (a b : α) (xs ys : List Char), Ends xs → Ends ys → f a ++ xs = f b ++ ys → a = b ∧ xs = ys

theorem Ends.nil : Ends [] := nofun

theorem Ends.cons {c : Char} {cs : List Char} (h : c.isDigit = false) : Ends (c :: cs) := by
  intro c' hc'
  cases hc'
  exact h

theorem Ends.append {cs : List Char} (h : Ends cs) (hne : cs ≠ []) (rest : List Char) :
    Ends (cs ++ rest) := by
  cases cs with
  | nil => exact absurd rfl hne
  | cons c cs => exact h

namespace Delimited
variable {f : α → List Char} {g : β → List Char}

theorem injective (h : Delimited f) : Function.Injective f := fun a b hab =>
  (h a b [] [] .nil .nil (by rw [hab])).1

theorem of_injective (h : Delimited f) {k : γ → α} (hk : Function.Injective k) :
    Delimited fun c => f (k c) := by
  intro a b xs ys hxs hys heq
  obtain ⟨hab, hrest⟩ := h (k a) (k b) xs ys hxs hys heq
  exact ⟨hk hab, hrest⟩

theorem after (cs : List Char) (h : Delimited f) : Delimited fun a => cs ++ f a := by
  intro a b xs ys hxs hys heq
  rw [List.append_assoc, List.append_assoc] at heq
  exact h a b xs ys hxs hys (List.append_cancel_left heq)

theorem seq {c : Char} {cs : List Char} (hf : Delimited f) (hc : c.isDigit = false)
    (hg : Delimited g) : Delimited fun p : α × β => f p.1 ++ (c :: cs ++ g p.2) := by
  rintro ⟨a, b⟩ ⟨a', b'⟩ xs ys hxs hys heq
  simp only [List.append_assoc, List.cons_append] at heq
  obtain ⟨rfl, hrest⟩ := hf a a' _ _ (.cons hc) (.cons hc) heq
  have htail := List.append_cancel_left (List.cons.inj hrest).2
  obtain ⟨rfl, rfl⟩ := hg b b' xs ys hxs hys htail
  exact ⟨rfl, rfl⟩

theorem before {c : Char} {cs : List Char} (hf : Delimited f) (hc : c.isDigit = false) :
    Delimited fun a => f a ++ c :: cs := by
  intro a b xs ys _ _ heq
  simp only [List.append_assoc, List.cons_append] at heq
  obtain ⟨rfl, hrest⟩ := hf a b _ _ (.cons hc) (.cons hc) heq
  exact ⟨rfl, List.append_cancel_left (List.cons.inj hrest).2⟩

end Delimited

def rest (close : Char) (f : α → List Char) : List α → List Char
  | [] => [close]
  | a :: as => ',' :: f a ++ rest close f as

def list (left right : Char) (f : α → List Char) : List α → List Char
  | [] => [left, right]
  | a :: as => left :: f a ++ rest right f as

theorem rest_ends {close : Char} (h : close.isDigit = false) (f : α → List Char) (as : List α)
    (xs : List Char) : Ends (rest close f as ++ xs) := by
  cases as with
  | nil => exact .cons h
  | cons a as => exact .cons (by decide)

theorem rest_delimited {close : Char} {f : α → List Char} (hf : Delimited f)
    (hdigit : close.isDigit = false) (hcomma : close ≠ ',') : Delimited (rest close f) := by
  intro as bs xs ys hxs hys heq
  induction as generalizing bs with
  | nil =>
    cases bs with
    | nil => exact ⟨rfl, (List.cons.inj heq).2⟩
    | cons b bs => exact absurd (List.cons.inj heq).1 hcomma
  | cons a as ih =>
    cases bs with
    | nil => exact absurd (List.cons.inj heq).1.symm hcomma
    | cons b bs =>
      simp only [rest, List.cons_append, List.append_assoc, List.cons.injEq, true_and] at heq
      obtain ⟨rfl, hrest⟩ := hf a b _ _ (rest_ends hdigit f as xs) (rest_ends hdigit f bs ys) heq
      obtain ⟨rfl, rfl⟩ := ih bs hrest
      exact ⟨rfl, rfl⟩

theorem list_delimited {left right : Char} {f : α → List Char} (hf : Delimited f)
    (hdigit : right.isDigit = false) (hcomma : right ≠ ',')
    (hstart : ∀ a, ∃ c cs, f a = c :: cs ∧ c ≠ right) : Delimited (list left right f) := by
  intro as bs xs ys hxs hys heq
  cases as with
  | nil =>
    cases bs with
    | nil => exact ⟨rfl, (List.cons.inj (List.cons.inj heq).2).2⟩
    | cons b bs =>
      obtain ⟨c, cs, hb, hc⟩ := hstart b
      simp only [list, hb, List.cons_append, List.cons.injEq, true_and] at heq
      exact absurd heq.1.symm hc
  | cons a as =>
    cases bs with
    | nil =>
      obtain ⟨c, cs, ha, hc⟩ := hstart a
      simp only [list, ha, List.cons_append, List.cons.injEq, true_and] at heq
      exact absurd heq.1 hc
    | cons b bs =>
      simp only [list, List.cons_append, List.append_assoc, List.cons.injEq, true_and] at heq
      obtain ⟨rfl, hrest⟩ := hf a b _ _ (rest_ends hdigit f as xs) (rest_ends hdigit f bs ys) heq
      obtain ⟨rfl, rfl⟩ := rest_delimited hf hdigit hcomma as bs xs ys hxs hys hrest
      exact ⟨rfl, rfl⟩

def Separable (f : α → List Char) : Prop :=
  ∀ (a b : α) (xs ys : List Char), Ends xs → Ends ys → f a ++ xs = f b ++ ys → f a = f b ∧ xs = ys

theorem Delimited.separable {f : β → List Char} (hf : Delimited f) (p : α → β) :
    Separable fun a => f (p a) := by
  intro a b xs ys hxs hys heq
  obtain ⟨hab, hrest⟩ := hf _ _ xs ys hxs hys heq
  exact ⟨congrArg f hab, hrest⟩

theorem Separable.after {f : α → List Char} (cs : List Char) (hf : Separable f) :
    Separable fun a => cs ++ f a := by
  intro a b xs ys hxs hys heq
  rw [List.append_assoc, List.append_assoc] at heq
  obtain ⟨hab, hrest⟩ := hf a b xs ys hxs hys (List.append_cancel_left heq)
  exact ⟨congrArg (cs ++ ·) hab, hrest⟩

theorem rest_separable {close : Char} {writers : List (α → List Char)} {a b : α}
    {xs ys : List Char} (hwriters : ∀ f ∈ writers, Separable f) (hdigit : close.isDigit = false)
    (heq : rest close id (writers.map (· a)) ++ xs = rest close id (writers.map (· b)) ++ ys) :
    (∀ f ∈ writers, f a = f b) ∧ xs = ys := by
  induction writers with
  | nil => exact ⟨nofun, (List.cons.inj heq).2⟩
  | cons f writers ih =>
    obtain ⟨hf, hwriters⟩ := List.forall_mem_cons.mp hwriters
    simp only [List.map_cons, rest, id, List.cons_append, List.append_assoc, List.cons.injEq,
      true_and] at heq
    obtain ⟨hfirst, hrest⟩ := hf a b _ _ (rest_ends hdigit _ _ _) (rest_ends hdigit _ _ _) heq
    obtain ⟨hothers, htail⟩ := ih hwriters hrest
    exact ⟨List.forall_mem_cons.mpr ⟨hfirst, hothers⟩, htail⟩

theorem record_delimited {left right : Char} {f : α → List Char} (writers : List (α → List Char))
    (hf : ∀ a, f a = list left right id (writers.map (· a)))
    (hwriters : ∀ g ∈ writers, Separable g) (hne : writers ≠ []) (hdigit : right.isDigit = false)
    (hext : ∀ a b, (∀ g ∈ writers, g a = g b) → a = b) : Delimited f := by
  intro a b xs ys _ _ heq
  rw [hf, hf] at heq
  cases writers with
  | nil => exact absurd rfl hne
  | cons g writers =>
    obtain ⟨hg, hwriters⟩ := List.forall_mem_cons.mp hwriters
    simp only [List.map_cons, list, id, List.cons_append, List.append_assoc, List.cons.injEq,
      true_and] at heq
    obtain ⟨hfirst, hrest⟩ := hg a b _ _ (rest_ends hdigit _ _ _) (rest_ends hdigit _ _ _) heq
    obtain ⟨hothers, htail⟩ := rest_separable hwriters hdigit hrest
    exact ⟨hext a b (List.forall_mem_cons.mpr ⟨hfirst, hothers⟩), htail⟩

def digits (n : ℕ) : List Char := Nat.toDigits 10 n

theorem digits_ne_nil (n : ℕ) : digits n ≠ [] := Nat.toDigits_ne_nil

theorem isDigit_of_mem {n : ℕ} {c : Char} (h : c ∈ digits n) : c.isDigit = true :=
  Nat.isDigit_of_mem_toDigits (by decide) (by decide) h

theorem not_mem_digits {c : Char} (h : c.isDigit = false) (n : ℕ) : c ∉ digits n := by
  intro hmem
  rw [isDigit_of_mem hmem] at h
  exact Bool.noConfusion h

theorem digits_injective : Function.Injective digits := fun a b hab => by
  rw [← Nat.ofDigitChars_ten_toDigits (n := a), ← Nat.ofDigitChars_ten_toDigits (n := b)]
  exact congrArg (Nat.ofDigitChars 10 · 0) hab

theorem takeWhile_append {cs xs : List Char} (hcs : ∀ c ∈ cs, c.isDigit = true) (hxs : Ends xs) :
    (cs ++ xs).takeWhile Char.isDigit = cs := by
  induction cs with
  | nil =>
    cases xs with
    | nil => rfl
    | cons c xs => simp [hxs c rfl]
  | cons c cs ih =>
    obtain ⟨hc, hcs⟩ := List.forall_mem_cons.mp hcs
    simp [hc, ih hcs]

theorem digits_delimited : Delimited digits := by
  intro a b xs ys hxs hys heq
  have ha := takeWhile_append (fun c hc => isDigit_of_mem (n := a) hc) hxs
  have hb := takeWhile_append (fun c hc => isDigit_of_mem (n := b) hc) hys
  rw [heq, hb] at ha
  obtain rfl := digits_injective ha.symm
  exact ⟨rfl, List.append_cancel_left heq⟩

def signed : Int → List Char
  | .ofNat n => digits n
  | .negSucc n => '-' :: digits (n + 1)

theorem digits_head (n : ℕ) : ∃ c cs, digits n = c :: cs ∧ c.isDigit = true := by
  cases h : digits n with
  | nil => exact absurd h (digits_ne_nil n)
  | cons c cs => exact ⟨c, cs, rfl, isDigit_of_mem (h ▸ List.mem_cons_self)⟩

theorem signed_delimited : Delimited signed := by
  intro a b xs ys hxs hys heq
  cases a with
  | ofNat n =>
    cases b with
    | ofNat m =>
      obtain ⟨rfl, hrest⟩ := digits_delimited n m xs ys hxs hys heq
      exact ⟨rfl, hrest⟩
    | negSucc m =>
      obtain ⟨c, cs, hn, hc⟩ := digits_head n
      simp only [signed, hn, List.cons_append, List.cons.injEq] at heq
      rw [heq.1] at hc
      cases hc
  | negSucc n =>
    cases b with
    | ofNat m =>
      obtain ⟨c, cs, hm, hc⟩ := digits_head m
      simp only [signed, hm, List.cons_append, List.cons.injEq] at heq
      rw [← heq.1] at hc
      cases hc
    | negSucc m =>
      obtain ⟨hnm, hrest⟩ := digits_delimited _ _ xs ys hxs hys (List.cons.inj heq).2
      exact ⟨by rw [Nat.succ.inj hnm], hrest⟩

end Foundation.Writer
