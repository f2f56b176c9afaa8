import Mathlib.Data.List.TakeWhile

/-!
# Outlines

A tree written as a list of rows with depths. What stands under a row is what follows it and is
deeper.
-/

namespace Foundation.Outline

variable {α β : Type}

def Each (P : α → List α → Prop) : List α → Prop
  | [] => True
  | row :: rest => P row rest ∧ Each P rest

theorem Each.split {P : α → List α → Prop} {rows : List α} (h : Each P rows) {front : List α}
    {row : α} {rest : List α} (hrows : rows = front ++ row :: rest) : P row rest := by
  subst hrows
  induction front with
  | nil => exact h.1
  | cons first front ih => exact ih h.2

theorem Each.imp_of_mem {P Q : α → List α → Prop} {rows : List α} (h : Each P rows)
    (hpq : ∀ row rest, (∀ r ∈ row :: rest, r ∈ rows) → P row rest → Q row rest) :
    Each Q rows := by
  induction rows with
  | nil => exact trivial
  | cons row rest ih =>
    refine ⟨hpq row rest (fun r hr => hr) h.1, ih h.2 fun row' rest' hmem => ?_⟩
    exact hpq row' rest' fun r hr => List.mem_cons_of_mem row (hmem r hr)

theorem each_of_forall {P : α → List α → Prop} {rows : List α}
    (h : ∀ row ∈ rows, ∀ rest, P row rest) : Each P rows := by
  induction rows with
  | nil => exact trivial
  | cons row rest ih =>
    exact ⟨h row List.mem_cons_self rest, ih fun r hr => h r (List.mem_cons_of_mem row hr)⟩

section Depth
variable (depth : α → ℕ)

def below (row : α) (rest : List α) : List α := rest.takeWhile fun r => depth row < depth r

structure From (d : ℕ) (rows : List α) : Prop where
  deep : ∀ r ∈ rows, d ≤ depth r
  first : ∀ r ∈ rows.head?, depth r = d

variable {depth} {d : ℕ} {a b rows : List α} {row : α}

theorem below_append (hb : ∀ r ∈ b.head?, depth r ≤ depth row) :
    below depth row (a ++ b) = below depth row a := by
  induction a with
  | nil =>
    cases b with
    | nil => rfl
    | cons r b =>
      have hr : ¬depth row < depth r := Nat.not_lt.mpr (hb r rfl)
      simp [below, hr]
  | cons r a ih =>
    by_cases hr : depth row < depth r
    · simpa [below, hr] using ih
    · simp [below, hr]

theorem below_eq_self (h : ∀ r ∈ rows, depth row < depth r) : below depth row rows = rows :=
  List.takeWhile_eq_self_iff.mpr fun r hr => decide_eq_true (h r hr)

theorem Each.append {Q : α → List α → Prop} (hdeep : ∀ r ∈ a, d ≤ depth r)
    (hfirst : ∀ r ∈ b.head?, depth r ≤ d)
    (ha : Each (fun row rest => Q row (below depth row rest)) a)
    (hb : Each (fun row rest => Q row (below depth row rest)) b) :
    Each (fun row rest => Q row (below depth row rest)) (a ++ b) := by
  induction a with
  | nil => exact hb
  | cons row a ih =>
    obtain ⟨hrow, ha⟩ := ha
    refine ⟨?_, ih (fun r hr => hdeep r (List.mem_cons_of_mem row hr)) ha⟩
    have hle : ∀ r ∈ b.head?, depth r ≤ depth row := fun r hr =>
      Nat.le_trans (hfirst r hr) (hdeep row List.mem_cons_self)
    have happend : below depth row (a ++ b) = below depth row a := below_append hle
    show Q row (below depth row (a ++ b))
    rwa [happend]

theorem From.nil : From depth d ([] : List α) :=
  ⟨fun _ h => absurd h List.not_mem_nil, fun _ h => absurd h (by simp)⟩

theorem From.cons (hrow : depth row = d) (h : ∀ r ∈ rows, d ≤ depth r) :
    From depth d (row :: rows) where
  deep := List.forall_mem_cons.mpr ⟨Nat.le_of_eq hrow.symm, h⟩
  first r hr := by
    obtain rfl : row = r := by simpa using hr
    exact hrow

theorem From.append (ha : From depth d a) (hb : From depth d b) : From depth d (a ++ b) where
  deep := List.forall_mem_append.mpr ⟨ha.deep, hb.deep⟩
  first r hr := by
    cases a with
    | nil => exact hb.first r hr
    | cons row a => exact ha.first r hr

theorem From.flatMap {f : β → List α} {l : List β} (h : ∀ x ∈ l, From depth d (f x)) :
    From depth d (l.flatMap f) := by
  induction l with
  | nil => exact From.nil
  | cons x l ih =>
    obtain ⟨hx, hl⟩ := List.forall_mem_cons.mp h
    exact hx.append (ih hl)

theorem Each.append_from {Q : α → List α → Prop} (hd : From depth d a) (hb : From depth d b)
    (hea : Each (fun row rest => Q row (below depth row rest)) a)
    (heb : Each (fun row rest => Q row (below depth row rest)) b) :
    Each (fun row rest => Q row (below depth row rest)) (a ++ b) :=
  Each.append hd.deep (fun r hr => Nat.le_of_eq (hb.first r hr)) hea heb

theorem Each.flatMap {Q : α → List α → Prop} {f : β → List α} {l : List β}
    (hfrom : ∀ x ∈ l, From depth d (f x))
    (h : ∀ x ∈ l, Each (fun row rest => Q row (below depth row rest)) (f x)) :
    Each (fun row rest => Q row (below depth row rest)) (l.flatMap f) := by
  induction l with
  | nil => exact trivial
  | cons x l ih =>
    obtain ⟨hx, hl⟩ := List.forall_mem_cons.mp h
    obtain ⟨hfx, hfl⟩ := List.forall_mem_cons.mp hfrom
    exact hx.append_from hfx (From.flatMap hfl) (ih hfl hl)

end Depth

section Sections
variable (p : α → Bool)

/-- The rows that begin a section, each one with what follows it up to the next one. -/
def sections : List α → List (α × List α)
  | [] => []
  | row :: rest =>
    if p row then (row, rest.takeWhile (!p ·)) :: sections rest else sections rest

variable {p} {a b rows : List α} {row : α}

theorem sections_append (ha : ∀ r ∈ a, p r = false) : sections p (a ++ b) = sections p b := by
  induction a with
  | nil => rfl
  | cons r a ih =>
    obtain ⟨hr, ha⟩ := List.forall_mem_cons.mp ha
    rw [List.cons_append, sections, if_neg (by simp [hr]), ih ha]

theorem sections_eq_nil (ha : ∀ r ∈ a, p r = false) : sections p a = [] := by
  have happend : sections p (a ++ []) = [] := sections_append ha
  rwa [List.append_nil] at happend

theorem sections_cons_append (hrow : p row = true) (ha : ∀ r ∈ a, p r = false)
    (hb : ∀ r ∈ b.head?, p r = true) :
    sections p (row :: (a ++ b)) = (row, a) :: sections p b := by
  have hnext : b.takeWhile (!p ·) = [] := by
    cases b with
    | nil => rfl
    | cons r b => exact List.takeWhile_cons_of_neg (by simp [hb r rfl])
  have hall : ∀ r ∈ a, (!p r) = true := fun r hr => by rw [ha r hr]; rfl
  rw [sections, if_pos hrow, List.takeWhile_append_of_pos hall, hnext, List.append_nil,
    sections_append ha]

theorem sections_flatMap {head : β → α} {body : β → List α} {l : List β}
    (hhead : ∀ x ∈ l, p (head x) = true) (hbody : ∀ x ∈ l, ∀ r ∈ body x, p r = false) :
    sections p (l.flatMap fun x => head x :: body x) = l.map fun x => (head x, body x) := by
  induction l with
  | nil => rfl
  | cons x l ih =>
    obtain ⟨hx, hhead⟩ := List.forall_mem_cons.mp hhead
    obtain ⟨hbx, hbody⟩ := List.forall_mem_cons.mp hbody
    rw [List.flatMap_cons, List.cons_append, sections_cons_append hx hbx, ih hhead hbody]
    · rfl
    · intro r hr
      cases l with
      | nil => simp at hr
      | cons y l =>
        obtain rfl : head y = r := by simpa using hr
        exact hhead y List.mem_cons_self

end Sections

end Foundation.Outline
