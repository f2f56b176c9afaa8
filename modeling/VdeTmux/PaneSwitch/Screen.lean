import VdeTmux.Foundation.Crossing
import VdeTmux.PaneSwitch.Target

/-!
# Panes on the screen

What a direction means on a window that is tiled by panes: the cells of the cursor's line in the
order of the way, the pane at a cell, and the numbers of the loop as places along the way.
-/

open Foundation Foundation.Tiling
namespace VdeTmux.PaneSwitch

def Pane.rect (p : Pane) : Rect := ⟨⟨p.left, p.left + p.width⟩, ⟨p.top, p.top + p.height⟩⟩

/-- The rows of a window: tiled panes that fill it, and floating panes. -/
structure Screen (window : Rect) (tiled rows : List Pane) : Prop where
  tiles : Tiles Pane.rect window tiled
  tiledRows : ∀ p, p ∈ tiled ↔ p ∈ rows ∧ p.floating = false
  ids : ∀ p ∈ rows, ∀ q ∈ rows, p.paneId = q.paneId → p = q
  sidebars : ∀ p ∈ tiled, p.sidebar = true → p.rect.y = window.y ∧ p.rect.x.lo = window.x.lo
  small : ∀ p ∈ rows, p.left < 2 ^ 16 ∧ p.top < 2 ^ 16 ∧ p.width < 2 ^ 16 ∧ p.height < 2 ^ 16

/-- The line of the cursor, moved into the pane: a row on the way to the side, else a column. -/
def cursorLine (direction : PaneSwitchDirection) (source : Pane) : ℤ :=
  match direction with
  | .left | .right => source.top + min source.cursorY (source.height - 1 : ℕ)
  | .up | .down => source.left + min source.cursorX (source.width - 1 : ℕ)

def lineCell (direction : PaneSwitchDirection) (line col : ℤ) : ℤ × ℤ :=
  match direction with
  | .left => (-1 - col, line)
  | .right => (col, line)
  | .up => (line, -1 - col)
  | .down => (line, col)

/-- The cell behind the border of the source. -/
def acrossCell (direction : PaneSwitchDirection) (source : Pane) : ℤ × ℤ :=
  let line := cursorLine direction source
  match direction with
  | .left => (source.left - 2, line)
  | .right => (source.left + source.width + 1, line)
  | .up => (line, source.top - 2)
  | .down => (line, source.top + source.height + 1)

def besideCell (direction : PaneSwitchDirection) (cell : ℤ × ℤ) : ℤ × ℤ :=
  match direction with
  | .left | .right => (cell.1, cell.2 - 1)
  | .up | .down => (cell.1 - 1, cell.2)

def Covers (r : Rect) (cell : ℤ × ℤ) : Prop := r.x.Has cell.1 ∧ r.y.Has cell.2

/-- The pane that contains a cell, or the upper or left one of the two that touch a border cell. -/
def PaneAt (direction : PaneSwitchDirection) (window : Rect) (tiled : List Pane) (p : Pane)
    (cell : ℤ × ℤ) : Prop :=
  Covers p.rect cell ∨ Covers window cell ∧ (∀ q ∈ tiled, ¬Covers q.rect cell) ∧
    Covers p.rect (besideCell direction cell)

/-- Tiled panes other than the source and the sidebar. -/
def MayTarget (tiled : List Pane) (source p : Pane) : Prop :=
  p ∈ tiled ∧ p ≠ source ∧ p.sidebar = false

def Entered (direction : PaneSwitchDirection) (window : Rect) (tiled : List Pane)
    (source p : Pane) : Prop :=
  ∃ col, PaneAt direction window tiled p (lineCell direction (cursorLine direction source) col) ∧
    ∀ col' < col, ∀ q, MayTarget tiled source q →
      ¬PaneAt direction window tiled q (lineCell direction (cursorLine direction source) col')

/-- The window turned so that the way leads to higher columns. -/
def PaneSwitchDirection.turn (direction : PaneSwitchDirection) (r : Rect) : Rect :=
  match direction with
  | .left => r.mirror
  | .right => r
  | .up => r.flip.mirror
  | .down => r.flip

theorem paneAt_iff (direction : PaneSwitchDirection) (window : Rect) (tiled : List Pane)
    (p : Pane) (line col : ℤ) :
    PaneAt direction window tiled p (lineCell direction line col) ↔
      At (fun q : Pane => direction.turn q.rect) (direction.turn window) tiled line p col := by
  have hcovers : ∀ r : Rect, Covers r (lineCell direction line col) ↔
      (direction.turn r).x.Has col ∧ (direction.turn r).y.Has line := fun r => by
    cases direction <;>
      simp only [Covers, lineCell, PaneSwitchDirection.turn, Rect.mirror, Rect.flip, Span.mirror,
        Span.Has] <;> omega
  have hbeside : ∀ r : Rect, Covers r (besideCell direction (lineCell direction line col)) ↔
      (direction.turn r).x.Has col ∧ (direction.turn r).y.Has (line - 1) := fun r => by
    cases direction <;>
      simp only [Covers, besideCell, lineCell, PaneSwitchDirection.turn, Rect.mirror, Rect.flip,
        Span.mirror, Span.Has] <;> omega
  simp only [PaneAt, At, hcovers, hbeside]

theorem acrossCell_eq (direction : PaneSwitchDirection) (source : Pane) :
    acrossCell direction source = lineCell direction (cursorLine direction source)
      ((direction.turn source.rect).x.hi + 1) := by
  cases direction <;>
    simp only [acrossCell, lineCell, PaneSwitchDirection.turn, Pane.rect, Rect.mirror, Rect.flip,
      Span.mirror, Prod.mk.injEq, true_and, and_true] <;> omega

theorem turned_tiles (direction : PaneSwitchDirection) {window : Rect} {tiled : List Pane}
    (h : Tiles Pane.rect window tiled) : ∃ tiled', tiled'.Perm tiled ∧
      Tiles (fun p : Pane => direction.turn p.rect) (direction.turn window) tiled' := by
  cases direction with
  | left => exact h.mirror
  | right => exact ⟨tiled, .refl _, h⟩
  | up => exact h.flip.mirror
  | down => exact ⟨tiled, .refl _, h.flip⟩

theorem turned_sidebar (direction : PaneSwitchDirection) {window r : Rect} (hy : r.y = window.y)
    (hlo : r.x.lo = window.x.lo) :
    (direction.turn r).y = (direction.turn window).y ∧
        ((direction.turn r).x.lo = (direction.turn window).x.lo ∨
          (direction.turn r).x.hi = (direction.turn window).x.hi) ∨
      (direction.turn r).x = (direction.turn window).x ∧
        (direction.turn r).y.lo = (direction.turn window).y.lo := by
  cases direction with
  | left => exact Or.inl ⟨hy, Or.inr (congrArg Neg.neg hlo)⟩
  | right => exact Or.inl ⟨hy, Or.inl hlo⟩
  | up => exact Or.inr ⟨congrArg Span.mirror hy, hlo⟩
  | down => exact Or.inr ⟨hy, hlo⟩

theorem cursorLine_mem (direction : PaneSwitchDirection) (source : Pane) :
    (direction.turn source.rect).y.Has (cursorLine direction source) := by
  have hwide := source.wide
  have hhigh := source.high
  cases direction <;>
    simp only [PaneSwitchDirection.turn, cursorLine, Pane.rect, Rect.mirror, Rect.flip,
      Span.Has] <;> omega

theorem Screen.scene {window : Rect} {tiled rows : List Pane} (screen : Screen window tiled rows)
    (direction : PaneSwitchDirection) {source : Pane} (hsource : source ∈ tiled) :
    Scene (fun p : Pane => direction.turn p.rect) (direction.turn window) tiled
      (fun p => p.sidebar = true) source (cursorLine direction source) := by
  obtain ⟨tiled', hperm, htiles⟩ := turned_tiles direction screen.tiles
  refine (htiles.scene (fun p hp hbar => ?_) (hperm.mem_iff.mpr hsource)
    (cursorLine_mem direction source)).perm fun p => hperm.mem_iff
  obtain ⟨hy, hlo⟩ := screen.sidebars p (hperm.mem_iff.mp hp) hbar
  exact turned_sidebar direction hy hlo

theorem mayTarget_iff {tiled : List Pane} {source p : Pane} :
    MayTarget tiled source p ↔ Eligible tiled (fun q : Pane => q.sidebar = true) source p := by
  rw [MayTarget, Eligible, Bool.not_eq_true]

theorem entered_iff {direction : PaneSwitchDirection} {window : Rect} {tiled : List Pane}
    {source p : Pane} : Entered direction window tiled source p ↔
      MetFirst (fun q : Pane => direction.turn q.rect) (direction.turn window) tiled
        (fun q => q.sidebar = true) source (cursorLine direction source) p := by
  simp only [Entered, MetFirst, paneAt_iff, mayTarget_iff]

end VdeTmux.PaneSwitch
