import Mathlib.Algebra.Order.Group.Int
import Mathlib.Data.Int.Notation
import Mathlib.Data.List.Basic
import Mathlib.Data.List.Perm.Basic
import Mathlib.Tactic.Common

/-!
# Tilings with borders

A rectangle is split again and again into two parts with a border of one cell between them. What
lies beside a tile is seen from the splits above it.
-/

namespace Foundation.Tiling

structure Span where
  lo : ℤ
  hi : ℤ

def Span.Has (s : Span) (k : ℤ) : Prop := s.lo ≤ k ∧ k < s.hi

structure Rect where
  x : Span
  y : Span

variable {α : Type} {rect : α → Rect}

/-- Tiles fill a rectangle. A split of several parts is a split of the first and the rest. -/
inductive Tiles (rect : α → Rect) : Rect → List α → Prop
  | tile (a : α) {r : Rect} (hrect : rect a = r) (hx : r.x.lo < r.x.hi) (hy : r.y.lo < r.y.hi) :
      Tiles rect r [a]
  | beside {lo mid hi : ℤ} {y : Span} {front back : List α}
      (hfront : Tiles rect ⟨⟨lo, mid⟩, y⟩ front) (hback : Tiles rect ⟨⟨mid + 1, hi⟩, y⟩ back) :
      Tiles rect ⟨⟨lo, hi⟩, y⟩ (front ++ back)
  | above {lo mid hi : ℤ} {x : Span} {front back : List α}
      (hfront : Tiles rect ⟨x, ⟨lo, mid⟩⟩ front) (hback : Tiles rect ⟨x, ⟨mid + 1, hi⟩⟩ back) :
      Tiles rect ⟨x, ⟨lo, hi⟩⟩ (front ++ back)

structure Within (p r : Rect) : Prop where
  left : r.x.lo ≤ p.x.lo
  wide : p.x.lo < p.x.hi
  right : p.x.hi ≤ r.x.hi
  top : r.y.lo ≤ p.y.lo
  high : p.y.lo < p.y.hi
  bottom : p.y.hi ≤ r.y.hi

theorem Within.widen {p q r : Rect} (h : Within p q) (hleft : r.x.lo ≤ q.x.lo)
    (hright : q.x.hi ≤ r.x.hi) (htop : r.y.lo ≤ q.y.lo) (hbottom : q.y.hi ≤ r.y.hi) :
    Within p r where
  left := Int.le_trans hleft h.left
  wide := h.wide
  right := Int.le_trans h.right hright
  top := Int.le_trans htop h.top
  high := h.high
  bottom := Int.le_trans h.bottom hbottom

def Apart (p q : Rect) : Prop :=
  p.x.hi + 1 ≤ q.x.lo ∨ q.x.hi + 1 ≤ p.x.lo ∨ p.y.hi + 1 ≤ q.y.lo ∨ q.y.hi + 1 ≤ p.y.lo

theorem Apart.symm {p q : Rect} (h : Apart p q) : Apart q p := by
  rcases h with h | h | h | h
  · exact Or.inr (Or.inl h)
  · exact Or.inl h
  · exact Or.inr (Or.inr (Or.inr h))
  · exact Or.inr (Or.inr (Or.inl h))

theorem Tiles.nonempty {r : Rect} {tiles : List α} (h : Tiles rect r tiles) :
    r.x.lo < r.x.hi ∧ r.y.lo < r.y.hi := by
  induction h with
  | tile a hrect hx hy => exact ⟨hx, hy⟩
  | beside hfront hback ihfront ihback =>
    dsimp only at ihfront ihback ⊢
    exact ⟨by omega, ihfront.2⟩
  | above hfront hback ihfront ihback =>
    dsimp only at ihfront ihback ⊢
    exact ⟨ihfront.1, by omega⟩

theorem Tiles.within {r : Rect} {tiles : List α} (h : Tiles rect r tiles) {a : α}
    (ha : a ∈ tiles) : Within (rect a) r := by
  induction h with
  | tile b hrect hx hy =>
    rw [List.mem_singleton.mp ha, hrect]
    exact ⟨Int.le_refl _, hx, Int.le_refl _, Int.le_refl _, hy, Int.le_refl _⟩
  | beside hfront hback ihfront ihback =>
    have hf := hfront.nonempty.1
    have hb := hback.nonempty.1
    dsimp only at hf hb
    rcases List.mem_append.mp ha with ha | ha
    · refine (ihfront ha).widen ?_ ?_ (Int.le_refl _) (Int.le_refl _) <;> dsimp only <;> omega
    · refine (ihback ha).widen ?_ ?_ (Int.le_refl _) (Int.le_refl _) <;> dsimp only <;> omega
  | above hfront hback ihfront ihback =>
    have hf := hfront.nonempty.2
    have hb := hback.nonempty.2
    dsimp only at hf hb
    rcases List.mem_append.mp ha with ha | ha
    · refine (ihfront ha).widen (Int.le_refl _) (Int.le_refl _) ?_ ?_ <;> dsimp only <;> omega
    · refine (ihback ha).widen (Int.le_refl _) (Int.le_refl _) ?_ ?_ <;> dsimp only <;> omega

theorem Tiles.apart {r : Rect} {tiles : List α} (h : Tiles rect r tiles) {a b : α}
    (ha : a ∈ tiles) (hb : b ∈ tiles) (hne : a ≠ b) : Apart (rect a) (rect b) := by
  induction h with
  | tile c hrect hx hy =>
    exact absurd ((List.mem_singleton.mp ha).trans (List.mem_singleton.mp hb).symm) hne
  | beside hfront hback ihfront ihback =>
    have hcross : ∀ p ∈ _, ∀ q ∈ _, Apart (rect p) (rect q) := fun p hp q hq => by
      have hright := (hfront.within hp).right
      have hleft := (hback.within hq).left
      dsimp only at hright hleft
      exact Or.inl (by omega)
    rcases List.mem_append.mp ha with ha | ha <;> rcases List.mem_append.mp hb with hb | hb
    · exact ihfront ha hb
    · exact hcross a ha b hb
    · exact (hcross b hb a ha).symm
    · exact ihback ha hb
  | above hfront hback ihfront ihback =>
    have hcross : ∀ p ∈ _, ∀ q ∈ _, Apart (rect p) (rect q) := fun p hp q hq => by
      have hbottom := (hfront.within hp).bottom
      have htop := (hback.within hq).top
      dsimp only at hbottom htop
      exact Or.inr (Or.inr (Or.inl (by omega)))
    rcases List.mem_append.mp ha with ha | ha <;> rcases List.mem_append.mp hb with hb | hb
    · exact ihfront ha hb
    · exact hcross a ha b hb
    · exact (hcross b hb a ha).symm
    · exact ihback ha hb

/-- On a line, a tile begins at a column, or the line is the border of two that begin there. -/
def Begins (rect : α → Rect) (tiles : List α) (col line : ℤ) : Prop :=
  (∃ a ∈ tiles, (rect a).x.lo = col ∧ (rect a).y.Has line) ∨
    ∃ a ∈ tiles, ∃ b ∈ tiles, (rect a).x.lo = col ∧ (rect b).x.lo = col ∧
      (rect a).y.hi = line ∧ (rect b).y.lo = line + 1

theorem Begins.mono {tiles tiles' : List α} {col line : ℤ} (h : Begins rect tiles col line)
    (hsub : ∀ a ∈ tiles, a ∈ tiles') : Begins rect tiles' col line := by
  rcases h with ⟨a, ha, hrest⟩ | ⟨a, ha, b, hb, hrest⟩
  · exact Or.inl ⟨a, hsub a ha, hrest⟩
  · exact Or.inr ⟨a, hsub a ha, b, hsub b hb, hrest⟩

theorem Tiles.begins {r : Rect} {tiles : List α} (h : Tiles rect r tiles) {line : ℤ}
    (hline : r.y.Has line) : Begins rect tiles r.x.lo line := by
  induction h generalizing line with
  | tile a hrect hx hy =>
    exact Or.inl ⟨a, List.mem_singleton_self a, by rw [hrect], by rw [hrect]; exact hline⟩
  | beside hfront hback ihfront ihback =>
    exact (ihfront hline).mono fun a ha => List.mem_append_left _ ha
  | @above lo mid hi x front back hfront hback ihfront ihback =>
    have hf := hfront.nonempty.2
    have hb := hback.nonempty.2
    dsimp only [Span.Has] at hf hb hline ihfront ihback ⊢
    rcases lt_trichotomy line mid with hlt | rfl | hgt
    · exact (ihfront ⟨hline.1, hlt⟩).mono fun a ha => List.mem_append_left _ ha
    · -- the line is the border, and the tiles above and below it begin at the column
      have hupper : ∃ a ∈ front, (rect a).x.lo = x.lo ∧ (rect a).y.hi = line := by
        rcases @ihfront (line - 1) ⟨by omega, by omega⟩ with
          ⟨a, ha, hcol, hhas⟩ | ⟨a, ha, b, hb, -, hcol, -, hlo⟩
        · have hbottom := (hfront.within ha).bottom
          dsimp only [Span.Has] at hbottom hhas
          exact ⟨a, ha, hcol, by omega⟩
        · have hw := hfront.within hb
          have hbottom := hw.bottom
          have hhigh := hw.high
          dsimp only at hbottom
          omega
      have hlower : ∃ b ∈ back, (rect b).x.lo = x.lo ∧ (rect b).y.lo = line + 1 := by
        rcases @ihback (line + 1) ⟨by omega, by omega⟩ with
          ⟨b, hb, hcol, hhas⟩ | ⟨a, ha, b, hb, hcol, -, hhi, -⟩
        · have htop := (hback.within hb).top
          dsimp only [Span.Has] at htop hhas
          exact ⟨b, hb, hcol, by omega⟩
        · have hw := hback.within ha
          have htop := hw.top
          have hhigh := hw.high
          dsimp only at htop
          omega
      obtain ⟨a, ha, hcol, hhi⟩ := hupper
      obtain ⟨b, hb, hcol', hlo⟩ := hlower
      exact Or.inr ⟨a, List.mem_append_left _ ha, b, List.mem_append_right _ hb, hcol, hcol', hhi,
        hlo⟩
    · exact (ihback ⟨by omega, hline.2⟩).mono fun a ha => List.mem_append_right _ ha

theorem Tiles.next {r : Rect} {tiles : List α} (h : Tiles rect r tiles) {a : α} (ha : a ∈ tiles)
    (hend : (rect a).x.hi < r.x.hi) {line : ℤ} (hline : (rect a).y.Has line) :
    Begins rect tiles ((rect a).x.hi + 1) line := by
  induction h with
  | tile b hrect hx hy =>
    rw [List.mem_singleton.mp ha, hrect] at hend
    omega
  | @beside lo mid hi y front back hfront hback ihfront ihback =>
    dsimp only at hend ihfront ihback
    rcases List.mem_append.mp ha with ha | ha
    · by_cases hmid : (rect a).x.hi < mid
      · exact (ihfront ha hmid).mono fun b hb => List.mem_append_left _ hb
      · have hw := hfront.within ha
        have hright := hw.right
        have htop := hw.top
        have hbottom := hw.bottom
        dsimp only at hright htop hbottom
        have hcol : (rect a).x.hi = mid := by omega
        rw [hcol]
        refine (hback.begins ⟨?_, ?_⟩).mono fun b hb => List.mem_append_right _ hb
        · exact Int.le_trans htop hline.1
        · exact Int.lt_of_lt_of_le hline.2 hbottom
    · exact (ihback ha hend).mono fun b hb => List.mem_append_right _ hb
  | above hfront hback ihfront ihback =>
    rcases List.mem_append.mp ha with ha | ha
    · exact (ihfront ha hend).mono fun b hb => List.mem_append_left _ hb
    · exact (ihback ha hend).mono fun b hb => List.mem_append_right _ hb

def Rect.flip (r : Rect) : Rect := ⟨r.y, r.x⟩

def Span.mirror (s : Span) : Span := ⟨-s.hi, -s.lo⟩

def Rect.mirror (r : Rect) : Rect := ⟨r.x.mirror, r.y⟩

theorem Tiles.flip {r : Rect} {tiles : List α} (h : Tiles rect r tiles) :
    Tiles (fun a => (rect a).flip) r.flip tiles := by
  induction h with
  | tile a hrect hx hy => exact .tile a (congrArg Rect.flip hrect) hy hx
  | beside hfront hback ihfront ihback => exact .above ihfront ihback
  | above hfront hback ihfront ihback => exact .beside ihfront ihback

theorem Tiles.mirror {r : Rect} {tiles : List α} (h : Tiles rect r tiles) :
    ∃ tiles', tiles'.Perm tiles ∧ Tiles (fun a => (rect a).mirror) r.mirror tiles' := by
  induction h with
  | tile a hrect hx hy =>
    refine ⟨[a], .refl _, .tile a (congrArg Rect.mirror hrect) ?_ hy⟩
    simp only [Rect.mirror, Span.mirror]
    omega
  | @beside lo mid hi y front back hfront hback ihfront ihback =>
    obtain ⟨front', hpermFront, hfront'⟩ := ihfront
    obtain ⟨back', hpermBack, hback'⟩ := ihback
    refine ⟨back' ++ front', (hpermBack.append hpermFront).trans List.perm_append_comm, ?_⟩
    have hborder : -mid = -(mid + 1) + 1 := by omega
    simp only [Rect.mirror, Span.mirror] at hfront' hback' ⊢
    rw [hborder] at hfront'
    exact .beside hback' hfront'
  | above hfront hback ihfront ihback =>
    obtain ⟨front', hpermFront, hfront'⟩ := ihfront
    obtain ⟨back', hpermBack, hback'⟩ := ihback
    exact ⟨front' ++ back', hpermFront.append hpermBack, .above hfront' hback'⟩

end Foundation.Tiling
