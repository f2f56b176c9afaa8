import VdeTmux.Foundation.Choosing
import VdeTmux.Foundation.Tiling

/-!
# Going along a line of a tiling

From a tile the way goes along one of its lines to higher columns. The next tile is the one behind
the border, and where there is none the way begins again at the first column. Tiles are compared by
their first column, by how far they are from the line, and by their first line. Bars are never
gone to: they fill all lines at one end of the window, or all columns at its first lines.
-/

namespace Foundation.Tiling

variable {α : Type}

def crossDistance (line : ℤ) (s : Span) : ℤ :=
  if line < s.lo then s.lo - line else if line < s.hi then 0 else line - (s.hi - 1)

/-- The tiles of a window, one of them with a line, and bars among them. -/
structure Scene (rect : α → Rect) (window : Rect) (tiles : List α) (bar : α → Prop) (source : α)
    (line : ℤ) : Prop where
  within : ∀ a ∈ tiles, Within (rect a) window
  apart : ∀ a ∈ tiles, ∀ b ∈ tiles, a ≠ b → Apart (rect a) (rect b)
  next : (rect source).x.hi < window.x.hi → Begins rect tiles ((rect source).x.hi + 1) line
  upper : ∀ b ∈ tiles, window.y.lo < (rect b).y.lo →
    ∃ a ∈ tiles, (rect a).y.hi + 1 = (rect b).y.lo ∧ (rect a).x.lo ≤ (rect b).x.lo
  bars : ∀ b ∈ tiles, bar b →
    (rect b).y = window.y ∧ ((rect b).x.lo = window.x.lo ∨ (rect b).x.hi = window.x.hi) ∨
      (rect b).x = window.x ∧ (rect b).y.lo = window.y.lo
  mem : source ∈ tiles
  line : (rect source).y.Has line

section Scene
variable {rect : α → Rect} {window : Rect} {tiles : List α} {bar : α → Prop} {source : α}
  {line : ℤ}

def Eligible (tiles : List α) (bar : α → Prop) (source a : α) : Prop :=
  a ∈ tiles ∧ a ≠ source ∧ ¬bar a

def Near (rect : α → Rect) (line : ℤ) (a : α) : Prop := crossDistance line (rect a).y ≤ 1

/-- Near the line and behind the source. -/
def Ahead (rect : α → Rect) (source : α) (line : ℤ) (a : α) : Prop :=
  Near rect line a ∧ (rect source).x.hi ≤ (rect a).x.lo

def Before (rect : α → Rect) (line : ℤ) (a b : α) : Prop :=
  (rect a).x.lo < (rect b).x.lo ∨ (rect a).x.lo = (rect b).x.lo ∧
    (crossDistance line (rect a).y < crossDistance line (rect b).y ∨
      crossDistance line (rect a).y = crossDistance line (rect b).y ∧
        (rect a).y.lo < (rect b).y.lo)

/-- The tile of a cell of the line. A cell of the border belongs to the tile above it. -/
def At (rect : α → Rect) (window : Rect) (tiles : List α) (line : ℤ) (a : α) (col : ℤ) : Prop :=
  (rect a).x.Has col ∧ (rect a).y.Has line ∨
    (window.x.Has col ∧ window.y.Has line) ∧
      (∀ b ∈ tiles, ¬((rect b).x.Has col ∧ (rect b).y.Has line)) ∧
        (rect a).x.Has col ∧ (rect a).y.Has (line - 1)

theorem before_trans {a b c : α} (h : Before rect line a b) (h' : Before rect line b c) :
    Before rect line a c := by
  simp only [Before] at h h' ⊢
  omega

theorem before_irrefl (a : α) : ¬Before rect line a a := by
  simp only [Before]
  omega

theorem crossDistance_nonneg (line : ℤ) (s : Span) : 0 ≤ crossDistance line s := by
  rw [crossDistance]
  split_ifs <;> omega

theorem near_iff {a : α} (h : (rect a).y.lo < (rect a).y.hi) :
    Near rect line a ↔ (rect a).y.lo ≤ line + 1 ∧ line ≤ (rect a).y.hi := by
  rw [Near, crossDistance]
  split_ifs <;> omega

theorem crossDistance_eq_zero {s : Span} :
    crossDistance line s = 0 ↔ s.Has line := by
  rw [crossDistance, Span.Has]
  split_ifs <;> omega

theorem crossDistance_eq_one (line : ℤ) {s : Span} (h : s.lo < s.hi) :
    crossDistance line s = 1 ↔ s.hi = line ∨ s.lo = line + 1 := by
  rw [crossDistance]
  split_ifs <;> omega

theorem same_cell (hapart : ∀ a ∈ tiles, ∀ b ∈ tiles, a ≠ b → Apart (rect a) (rect b)) {a b : α}
    (ha : a ∈ tiles) (hb : b ∈ tiles) {col row : ℤ} (hax : (rect a).x.Has col)
    (hay : (rect a).y.Has row) (hbx : (rect b).x.Has col) (hby : (rect b).y.Has row) : a = b := by
  by_contra hne
  have hapart := hapart a ha b hb hne
  simp only [Apart, Span.Has] at hapart hax hay hbx hby
  omega

theorem Scene.same_cell (scene : Scene rect window tiles bar source line) {a b : α}
    (ha : a ∈ tiles) (hb : b ∈ tiles) {col row : ℤ} (hax : (rect a).x.Has col)
    (hay : (rect a).y.Has row) (hbx : (rect b).x.Has col) (hby : (rect b).y.Has row) : a = b :=
  Tiling.same_cell scene.apart ha hb hax hay hbx hby

theorem Scene.beside (scene : Scene rect window tiles bar source line) {a : α} (ha : a ∈ tiles)
    (hne : a ≠ source) (hnear : Near rect line a) :
    (rect source).x.hi + 1 ≤ (rect a).x.lo ∨ (rect a).x.hi + 1 ≤ (rect source).x.lo := by
  have hapart := scene.apart source scene.mem a ha (Ne.symm hne)
  have hline := scene.line
  rw [near_iff (scene.within a ha).high] at hnear
  simp only [Apart, Span.Has] at hapart hline
  omega

theorem Scene.not_bar (scene : Scene rect window tiles bar source line) {a : α} (ha : a ∈ tiles)
    (hne : a ≠ source) (hend : (rect a).y.hi = line) : ¬bar a := by
  intro hbar
  have hline := scene.line
  have hsource := scene.within source scene.mem
  have hwithin := scene.within a ha
  rcases scene.bars a ha hbar with ⟨hy, -⟩ | ⟨hx, hlo⟩
  · have hbottom := hsource.bottom
    rw [hy] at hend
    simp only [Span.Has] at hline
    omega
  · have hapart := scene.apart source scene.mem a ha (Ne.symm hne)
    have hleft := hsource.left
    have hright := hsource.right
    have hwide := hsource.wide
    have htop := hsource.top
    have hhigh := hsource.high
    simp only [Apart, hx, Span.Has] at hapart hline
    omega

theorem Scene.bar_last (scene : Scene rect window tiles bar source line) {a b : α}
    (ha : a ∈ tiles) (hb : b ∈ tiles) (hbar : bar b)
    (hcol : (rect b).x.lo = (rect source).x.hi + 1) (hne : a ≠ b) (hahead : Ahead rect source line a) : False := by
  have hsource := scene.within source scene.mem
  have hleft := hsource.left
  have hwide := hsource.wide
  have hwithin := scene.within a ha
  have hapart := scene.apart a ha b hb hne
  obtain ⟨-, hlo⟩ := hahead
  have haw := hwithin.wide
  have har := hwithin.right
  have hat := hwithin.top
  have hab := hwithin.bottom
  have hah := hwithin.high
  rcases scene.bars b hb hbar with ⟨hy, hside | hside⟩ | ⟨hx, -⟩
  · omega
  · simp only [Apart, hy, hside] at hapart
    omega
  · rw [hx] at hcol
    omega

theorem Scene.near_of_at (scene : Scene rect window tiles bar source line) {a : α}
    (ha : a ∈ tiles) {col : ℤ} (h : At rect window tiles line a col) :
    Near rect line a ∧ (rect a).x.lo ≤ col ∧ col < (rect a).x.hi := by
  rw [near_iff (scene.within a ha).high]
  rcases h with ⟨hx, hy⟩ | ⟨-, -, hx, hy⟩
  · simp only [Span.Has] at hx hy
    omega
  · simp only [Span.Has] at hx hy
    omega

theorem Scene.at_unique (scene : Scene rect window tiles bar source line) {a b : α}
    (ha : a ∈ tiles) (hb : b ∈ tiles) {col : ℤ} (h : At rect window tiles line a col)
    (h' : At rect window tiles line b col) : a = b := by
  rcases h with ⟨hax, hay⟩ | ⟨-, hnone, hax, hay⟩
  · rcases h' with ⟨hbx, hby⟩ | ⟨-, hnone, -, -⟩
    · exact scene.same_cell ha hb hax hay hbx hby
    · exact absurd ⟨hax, hay⟩ (hnone a ha)
  · rcases h' with ⟨hbx, hby⟩ | ⟨-, -, hbx, hby⟩
    · exact absurd ⟨hbx, hby⟩ (hnone b hb)
    · exact scene.same_cell ha hb hax hay hbx hby

theorem Scene.at_of_end (scene : Scene rect window tiles bar source line) {a : α} (ha : a ∈ tiles)
    (hend : (rect a).y.hi = line) {col : ℤ} (hcol : (rect a).x.Has col) :
    At rect window tiles line a col := by
  have hsource := scene.within source scene.mem
  have hline := scene.line
  have hwithin := scene.within a ha
  have hhigh := hwithin.high
  refine Or.inr ⟨⟨⟨?_, ?_⟩, ?_, ?_⟩, fun b hb hboth => ?_, hcol, ?_⟩
  · exact Int.le_trans hwithin.left hcol.1
  · exact Int.lt_of_lt_of_le hcol.2 hwithin.right
  · exact Int.le_trans hsource.top hline.1
  · exact Int.lt_of_lt_of_le hline.2 hsource.bottom
  · have hne : b ≠ a := by
      rintro rfl
      have hlt := hboth.2.2
      omega
    have hapart := scene.apart b hb a ha hne
    obtain ⟨hbx, hby⟩ := hboth
    simp only [Apart, Span.Has] at hapart hbx hby hcol
    omega
  · simp only [Span.Has]
    omega

theorem Scene.ahead_of_at (scene : Scene rect window tiles bar source line) {a : α}
    (ha : a ∈ tiles) (hne : a ≠ source)
    (h : At rect window tiles line a ((rect source).x.hi + 1)) :
    Ahead rect source line a ∧ (rect a).x.lo = (rect source).x.hi + 1 := by
  obtain ⟨hnear, hlo, hhi⟩ := scene.near_of_at ha h
  have hwide := (scene.within source scene.mem).wide
  rcases scene.beside ha hne hnear with hbeside | hbeside
  · exact ⟨⟨hnear, by omega⟩, by omega⟩
  · omega

theorem Scene.first_of_at (scene : Scene rect window tiles bar source line) {a : α}
    (ha : a ∈ tiles) (hne : a ≠ source)
    (h : At rect window tiles line a ((rect source).x.hi + 1)) {b : α} (hb : b ∈ tiles)
    (hbne : b ≠ source) (hahead : Ahead rect source line b) : ¬Before rect line b a := by
  intro hbefore
  obtain ⟨hown, hlo⟩ := scene.ahead_of_at ha hne h
  have hbw := scene.within b hb
  have haw := scene.within a ha
  have hbnear := hahead.1
  have hcol : (rect b).x.lo = (rect source).x.hi + 1 := by
    rcases scene.beside hb hbne hbnear with hbeside | hbeside
    · simp only [Before] at hbefore
      omega
    · have hlo' := hahead.2
      have hwide := hbw.wide
      have hwide' := (scene.within source scene.mem).wide
      omega
  have hbx : (rect b).x.Has ((rect source).x.hi + 1) := ⟨by omega, by have := hbw.wide; omega⟩
  have hsame := crossDistance_nonneg line (rect b).y
  rcases h with ⟨hax, hay⟩ | ⟨-, hnone, hax, hay⟩
  · have hzero := crossDistance_eq_zero.mpr hay
    have hbzero : crossDistance line (rect b).y = 0 := by
      simp only [Before] at hbefore
      omega
    have hby := crossDistance_eq_zero.mp hbzero
    obtain rfl := scene.same_cell ha hb hax hay hbx hby
    exact before_irrefl a hbefore
  · have hbzero : crossDistance line (rect b).y ≠ 0 := fun hzero =>
      hnone b hb ⟨hbx, crossDistance_eq_zero.mp hzero⟩
    have hbone : crossDistance line (rect b).y = 1 := by
      have hle : crossDistance line (rect b).y ≤ 1 := hbnear
      omega
    have hale : crossDistance line (rect a).y ≤ 1 := hown.1
    have habove : (rect b).y.lo < (rect a).y.lo := by
      simp only [Before] at hbefore
      omega
    have hbhigh := hbw.high
    have hby : (rect b).y.Has (line - 1) := by
      rcases (crossDistance_eq_one line hbw.high).mp hbone with hend | hstart
      · exact ⟨by omega, by omega⟩
      · simp only [Span.Has] at hay
        omega
    obtain rfl := scene.same_cell ha hb hax hay hbx hby
    exact before_irrefl a hbefore

theorem Scene.at_of_first (scene : Scene rect window tiles bar source line) {a : α}
    (ha : Eligible tiles bar source a) (hahead : Ahead rect source line a)
    (hfirst : ∀ b, Eligible tiles bar source b → Ahead rect source line b →
      ¬Before rect line b a) : At rect window tiles line a ((rect source).x.hi + 1) := by
  obtain ⟨hmem, hne, -⟩ := ha
  have haw := scene.within a hmem
  have hlo : (rect source).x.hi + 1 ≤ (rect a).x.lo := by
    rcases scene.beside hmem hne hahead.1 with hbeside | hbeside
    · exact hbeside
    · have hlo' := hahead.2
      have hwide := haw.wide
      have hwide' := (scene.within source scene.mem).wide
      omega
  have hend : (rect source).x.hi < window.x.hi := by
    have hwide := haw.wide
    have hright := haw.right
    omega
  have hanear : crossDistance line (rect a).y ≤ 1 := hahead.1
  have hanonneg := crossDistance_nonneg line (rect a).y
  have hbehind : ∀ b, (rect b).x.lo = (rect source).x.hi + 1 → b ≠ source := by
    rintro b hcol rfl
    have hwide := (scene.within b scene.mem).wide
    omega
  rcases scene.next hend with ⟨b, hb, hcol, hhas⟩ | ⟨b, hb, c, hc, hcol, -, hhi, -⟩
  · by_cases hbar : bar b
    · by_cases hsame : a = b
      · subst hsame
        exact Or.inl ⟨⟨by omega, by have := haw.wide; omega⟩, hhas⟩
      · exact (scene.bar_last hmem hb hbar hcol hsame hahead).elim
    · have hbzero := crossDistance_eq_zero.mpr hhas
      have hbahead : Ahead rect source line b :=
        ⟨by rw [Near, hbzero]; omega, by omega⟩
      have hnot := hfirst b ⟨hb, hbehind b hcol, hbar⟩ hbahead
      simp only [Before, hbzero, hcol] at hnot
      have hzero : crossDistance line (rect a).y = 0 := by omega
      exact Or.inl ⟨⟨by omega, by have := haw.wide; omega⟩,
        crossDistance_eq_zero.mp hzero⟩
  · have hbne := hbehind b hcol
    have hbone := (crossDistance_eq_one line (scene.within b hb).high).mpr (Or.inl hhi)
    have hbahead : Ahead rect source line b := ⟨by rw [Near, hbone], by omega⟩
    have hnot := hfirst b ⟨hb, hbne, scene.not_bar hb hbne hhi⟩ hbahead
    simp only [Before, hbone, hcol] at hnot
    have hax : (rect a).x.Has ((rect source).x.hi + 1) :=
      ⟨by omega, by have := haw.wide; omega⟩
    by_cases hzero : crossDistance line (rect a).y = 0
    · exact Or.inl ⟨hax, crossDistance_eq_zero.mp hzero⟩
    · have hone : crossDistance line (rect a).y = 1 := by omega
      have hbhigh := (scene.within b hb).high
      rcases (crossDistance_eq_one line haw.high).mp hone with haend | hastart
      · exact scene.at_of_end hmem haend hax
      · omega

def MetFirst (rect : α → Rect) (window : Rect) (tiles : List α) (bar : α → Prop) (source : α)
    (line : ℤ) (a : α) : Prop :=
  ∃ col, At rect window tiles line a col ∧
    ∀ col' < col, ∀ b, Eligible tiles bar source b → ¬At rect window tiles line b col'

theorem Scene.at_of_least (scene : Scene rect window tiles bar source line) {a : α}
    (ha : a ∈ tiles) (hnear : Near rect line a)
    (hfirst : ∀ b, Eligible tiles bar source b → Near rect line b → ¬Before rect line b a) :
    At rect window tiles line a (rect a).x.lo := by
  have hwithin := scene.within a ha
  have hcol : (rect a).x.Has (rect a).x.lo := ⟨Int.le_refl _, hwithin.wide⟩
  have hle : crossDistance line (rect a).y ≤ 1 := hnear
  have hnonneg := crossDistance_nonneg line (rect a).y
  by_cases hzero : crossDistance line (rect a).y = 0
  · exact Or.inl ⟨hcol, crossDistance_eq_zero.mp hzero⟩
  · have hone : crossDistance line (rect a).y = 1 := by omega
    rcases (crossDistance_eq_one line hwithin.high).mp hone with hend | hstart
    · exact scene.at_of_end ha hend hcol
    · -- a tile below the line has one above the line that is met before it
      have hline := scene.line
      have htop := (scene.within source scene.mem).top
      simp only [Span.Has] at hline
      obtain ⟨b, hb, hbend, hblo⟩ := scene.upper a ha (by omega)
      have hbhi : (rect b).y.hi = line := by omega
      have hbne : b ≠ source := by
        rintro rfl
        omega
      have hbhigh := (scene.within b hb).high
      have hbone := (crossDistance_eq_one line hbhigh).mpr (Or.inl hbhi)
      have hbefore : Before rect line b a := by
        rw [Before, hbone, hone]
        omega
      exact absurd hbefore
        (hfirst b ⟨hb, hbne, scene.not_bar hb hbne hbhi⟩ (by rw [Near, hbone]))

theorem Scene.metFirst_of_least (scene : Scene rect window tiles bar source line) {a : α}
    (ha : a ∈ tiles) (hnear : Near rect line a)
    (hfirst : ∀ b, Eligible tiles bar source b → Near rect line b → ¬Before rect line b a) :
    MetFirst rect window tiles bar source line a := by
  refine ⟨(rect a).x.lo, scene.at_of_least ha hnear hfirst, fun col hcol b hb hat => ?_⟩
  obtain ⟨hbnear, hblo, -⟩ := scene.near_of_at hb.1 hat
  exact hfirst b hb hbnear (Or.inl (by omega))

theorem Scene.least_of_metFirst (scene : Scene rect window tiles bar source line) {a : α}
    (ha : Eligible tiles bar source a) (h : MetFirst rect window tiles bar source line a) :
    Near rect line a ∧
      ∀ b, Eligible tiles bar source b → Near rect line b → ¬Before rect line b a := by
  classical
  obtain ⟨col, hat, hnone⟩ := h
  obtain ⟨hnear, hlo, -⟩ := scene.near_of_at ha.1 hat
  have hmem : ∀ b, b ∈ tiles.filter (fun b => Eligible tiles bar source b ∧ Near rect line b) ↔
      Eligible tiles bar source b ∧ Near rect line b := fun b => by
    rw [List.mem_filter, decide_eq_true_iff]
    exact and_iff_right_of_imp fun hb => hb.1.1
  obtain ⟨m, hm, hbest⟩ := Choosing.exists_best (Before rect line) (fun _ _ _ => before_trans)
    before_irrefl ((hmem a).mpr ⟨ha, hnear⟩)
  obtain ⟨hmel, hmnear⟩ := (hmem m).mp hm
  have hmfirst : ∀ b, Eligible tiles bar source b → Near rect line b → ¬Before rect line b m :=
    fun b hb hbnear => hbest b ((hmem b).mpr ⟨hb, hbnear⟩)
  have hmat := scene.at_of_least hmel.1 hmnear hmfirst
  have hamlo : (rect m).x.lo ≤ (rect a).x.lo := by
    have hnot := hmfirst a ha hnear
    simp only [Before] at hnot
    omega
  have hcol : (rect m).x.lo = col := by
    by_contra hne
    exact hnone (rect m).x.lo (by omega) m hmel hmat
  rw [hcol] at hmat
  obtain rfl := scene.at_unique ha.1 hmel.1 hat hmat
  exact ⟨hnear, hmfirst⟩

theorem Tiles.before_total (h : Tiles rect window tiles) {a b : α} (ha : a ∈ tiles)
    (hb : b ∈ tiles) (hab : ¬Before rect line a b) (hba : ¬Before rect line b a) : a = b := by
  have hawide := (h.within ha).wide
  have hbwide := (h.within hb).wide
  have hahigh := (h.within ha).high
  have hbhigh := (h.within hb).high
  simp only [Before] at hab hba
  have hx : (rect a).x.lo = (rect b).x.lo := by omega
  have hy : (rect a).y.lo = (rect b).y.lo := by omega
  exact Tiling.same_cell (fun _ ha _ hb => h.apart ha hb) ha hb ⟨Int.le_refl _, hawide⟩
    ⟨Int.le_refl _, hahigh⟩ ⟨by omega, by omega⟩ ⟨by omega, by omega⟩

theorem Tiles.upper (h : Tiles rect window tiles) {b : α} (hb : b ∈ tiles)
    (hlo : window.y.lo < (rect b).y.lo) :
    ∃ a ∈ tiles, (rect a).y.hi + 1 = (rect b).y.lo ∧ (rect a).x.lo ≤ (rect b).x.lo := by
  obtain ⟨tiles', hperm, hturned⟩ := h.flip.mirror
  have hwide := (h.within hb).wide
  have hbegins := @Tiles.next _ _ _ _ hturned b (hperm.mem_iff.mpr hb)
    (by simp only [Rect.mirror, Rect.flip, Span.mirror]; omega) (rect b).x.lo
    ⟨Int.le_refl _, hwide⟩
  simp only [Begins, Rect.mirror, Rect.flip, Span.mirror, Span.Has] at hbegins
  rcases hbegins with ⟨a, ha, hcol, hhas⟩ | ⟨a, ha, c, hc, hcol, -, hhi, -⟩
  · exact ⟨a, hperm.mem_iff.mp ha, by omega, hhas.1⟩
  · have hmem := hperm.mem_iff.mp ha
    have hawide := (h.within hmem).wide
    exact ⟨a, hmem, by omega, by omega⟩

theorem Tiles.scene (h : Tiles rect window tiles)
    (hbars : ∀ b ∈ tiles, bar b →
      (rect b).y = window.y ∧ ((rect b).x.lo = window.x.lo ∨ (rect b).x.hi = window.x.hi) ∨
        (rect b).x = window.x ∧ (rect b).y.lo = window.y.lo)
    (hmem : source ∈ tiles) (hline : (rect source).y.Has line) :
    Scene rect window tiles bar source line where
  within _ ha := h.within ha
  apart _ ha _ hb hne := h.apart ha hb hne
  next hend := h.next hmem hend hline
  upper _ hb hlo := h.upper hb hlo
  bars := hbars
  mem := hmem
  line := hline

theorem Scene.perm {tiles' : List α} (scene : Scene rect window tiles bar source line)
    (hmem : ∀ a, a ∈ tiles ↔ a ∈ tiles') : Scene rect window tiles' bar source line where
  within a ha := scene.within a ((hmem a).mpr ha)
  apart a ha b hb := scene.apart a ((hmem a).mpr ha) b ((hmem b).mpr hb)
  next hend := (scene.next hend).mono fun a ha => (hmem a).mp ha
  upper b hb hlo := by
    obtain ⟨a, ha, hrest⟩ := scene.upper b ((hmem b).mpr hb) hlo
    exact ⟨a, (hmem a).mp ha, hrest⟩
  bars b hb := scene.bars b ((hmem b).mpr hb)
  mem := (hmem source).mp scene.mem
  line := scene.line

end Scene

end Foundation.Tiling
