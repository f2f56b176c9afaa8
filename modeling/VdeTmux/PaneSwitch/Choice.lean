import VdeTmux.PaneSwitch.Screen

/-!
# What is chosen

The loop chooses the pane across the border, or else the first one from the opposite edge.
-/

open Foundation Foundation.Tiling VdeTmux.Pane
namespace VdeTmux.PaneSwitch

theorem saturatingAdd_eq {a b : ℕ} (h : a + b ≤ u32Max) : saturatingAdd a b = a + b :=
  Nat.min_eq_left h

theorem checkedSub_eq_some {a b c : ℕ} : checkedSub a b = some c ↔ b ≤ a ∧ c = a - b := by
  rw [checkedSub]
  split_ifs with h
  · rw [Option.some.injEq, and_iff_right h, eq_comm]
  · exact iff_of_false nofun fun hand => h hand.1

theorem absolutePosition_eq {start cursor size : ℕ} (hsize : 0 < size)
    (h : start + size ≤ u32Max) :
    absolutePosition start cursor size = some (start + min cursor (size - 1)) := by
  have hlast : checkedSub size 1 = some (size - 1) := checkedSub_eq_some.mpr ⟨hsize, rfl⟩
  rw [absolutePosition, hlast, Option.map_some, saturatingAdd_eq (by omega)]

theorem axisDistance_eq {position start size : ℕ} (hsize : 0 < size)
    (h : start + size ≤ u32Max) :
    (axisDistance position start size : ℤ) =
      crossDistance position ⟨start, start + size⟩ := by
  rw [axisDistance, crossDistance, saturatingAdd_eq h]
  dsimp only
  split_ifs <;> omega

structure Fits (p : Pane) : Prop where
  x : p.left + p.width ≤ u32Max
  y : p.top + p.height ≤ u32Max

theorem fits_of_small {p : Pane} (h : p.left < 2 ^ 16 ∧ p.top < 2 ^ 16 ∧ p.width < 2 ^ 16 ∧
    p.height < 2 ^ 16) : Fits p := by
  obtain ⟨hleft, htop, hwidth, hheight⟩ := h
  exact ⟨by rw [u32Max]; omega, by rw [u32Max]; omega⟩

def Pane.x (source : Pane) : ℕ := source.left + min source.cursorX (source.width - 1)

def Pane.y (source : Pane) : ℕ := source.top + min source.cursorY (source.height - 1)

theorem Fits.absoluteX {p : Pane} (h : Fits p) : p.absoluteX = some p.x :=
  absolutePosition_eq p.wide h.x

theorem Fits.absoluteY {p : Pane} (h : Fits p) : p.absoluteY = some p.y :=
  absolutePosition_eq p.high h.y

section Places
variable {direction : PaneSwitchDirection} {source p q : Pane}

theorem crossOf_eq (direction : PaneSwitchDirection) (source : Pane) (hp : Fits p) :
    ((crossOf direction source.x source.y p).1 : ℤ) =
        crossDistance (cursorLine direction source) (direction.turn p.rect).y ∧
      ((crossOf direction source.x source.y p).2 : ℤ) = (direction.turn p.rect).y.lo := by
  cases direction with
  | left => exact ⟨axisDistance_eq p.high hp.y, rfl⟩
  | right => exact ⟨axisDistance_eq p.high hp.y, rfl⟩
  | up => exact ⟨axisDistance_eq p.wide hp.x, rfl⟩
  | down => exact ⟨axisDistance_eq p.wide hp.x, rfl⟩

def edgeOf (direction : PaneSwitchDirection) (source p : Pane) : Scored :=
  ⟨p, edgePosition direction p, (crossOf direction source.x source.y p).1,
    (crossOf direction source.x source.y p).2⟩

def bestOf (direction : PaneSwitchDirection) (source p : Pane) : Scored :=
  ⟨p, (distanceTo direction source p).getD 0, (crossOf direction source.x source.y p).1,
    (crossOf direction source.x source.y p).2⟩

theorem outside_iff (hp : Fits p) (hq : Fits q) :
    (edgeOf direction source p).outside direction (edgeOf direction source q) ↔
      Before (fun r : Pane => direction.turn r.rect) (cursorLine direction source) p q := by
  obtain ⟨hpd, hps⟩ := crossOf_eq direction source hp
  obtain ⟨hqd, hqs⟩ := crossOf_eq direction source hq
  have hpx := saturatingAdd_eq hp.x
  have hpy := saturatingAdd_eq hp.y
  have hqx := saturatingAdd_eq hq.x
  have hqy := saturatingAdd_eq hq.y
  rw [Before, ← hpd, ← hqd, ← hps, ← hqs]
  cases direction <;>
    simp only [Scored.outside, Scored.crossBefore, edgeOf, edgePosition, PaneSwitchDirection.turn,
      Pane.rect, Rect.mirror, Rect.flip, Span.mirror, hpx, hpy, hqx, hqy] <;> omega

theorem distanceTo_eq_some (hsource : Fits source) (hp : Fits p) {distance : ℕ} :
    distanceTo direction source p = some distance ↔
      (direction.turn source.rect).x.hi ≤ (direction.turn p.rect).x.lo ∧
        (distance : ℤ) = (direction.turn p.rect).x.lo - (direction.turn source.rect).x.hi := by
  have hpx := saturatingAdd_eq hp.x
  have hpy := saturatingAdd_eq hp.y
  have hsx := saturatingAdd_eq hsource.x
  have hsy := saturatingAdd_eq hsource.y
  have hpw := p.wide
  have hph := p.high
  have hsw := source.wide
  have hsh := source.high
  cases direction <;>
    simp only [distanceTo, PaneSwitchDirection.turn, Pane.rect, Rect.mirror, Rect.flip,
      Span.mirror, hpx, hpy, hsx, hsy] <;> split_ifs with hlt <;>
    simp only [checkedSub_eq_some, false_iff] <;> omega

end Places

def candidate (source : Pane) (direction : PaneSwitchDirection) (x y : ℕ)
    (number : Pane → Option ℕ) (pane : Pane) : Option Scored :=
  if skipped source direction x y pane then none
  else (number pane).map fun distance =>
    ⟨pane, distance, (crossOf direction x y pane).1, (crossOf direction x y pane).2⟩

theorem visit_eq (source : Pane) (direction : PaneSwitchDirection) (x y : ℕ)
    (choosing : Choosing) (pane : Pane) : choosing.visit source direction x y pane =
      { edge := Choosing.keep (Scored.outside direction) choosing.edge
          (candidate source direction x y (fun p => some (edgePosition direction p)) pane)
        best := Choosing.keep Scored.before choosing.best
          (candidate source direction x y (distanceTo direction source) pane) } := by
  rw [Choosing.visit, candidate, candidate]
  split_ifs
  · rfl
  · rfl

theorem visit_foldl (source : Pane) (direction : PaneSwitchDirection) (x y : ℕ)
    (panes : List Pane) : panes.foldl (Choosing.visit source direction x y) {} =
      { edge := Choosing.choose (Scored.outside direction)
          (panes.map (candidate source direction x y fun p => some (edgePosition direction p)))
        best := Choosing.choose Scored.before
          (panes.map (candidate source direction x y (distanceTo direction source))) } := by
  induction panes using List.reverseRecOn with
  | nil => rfl
  | append_singleton panes pane ih =>
    rw [List.foldl_append, List.foldl_cons, List.foldl_nil, ih, visit_eq, List.map_append,
      List.map_append, List.map_singleton, List.map_singleton, Choosing.choose_concat,
      Choosing.choose_concat]

theorem before_trans {a b c : Scored} (h : a.before b) (h' : b.before c) : a.before c := by
  simp only [Scored.before, Scored.crossBefore] at h h' ⊢
  omega

theorem before_irrefl (a : Scored) : ¬a.before a := by
  simp only [Scored.before, Scored.crossBefore]
  omega

theorem outside_trans (direction : PaneSwitchDirection) {a b c : Scored}
    (h : a.outside direction b) (h' : b.outside direction c) : a.outside direction c := by
  cases direction <;> simp only [Scored.outside, Scored.crossBefore] at h h' ⊢ <;> omega

theorem outside_irrefl (direction : PaneSwitchDirection) (a : Scored) :
    ¬a.outside direction a := by
  cases direction <;> simp only [Scored.outside, Scored.crossBefore] <;> omega

section Chosen
variable {window : Rect} {tiled rows : List Pane} {direction : PaneSwitchDirection}
  {source : Pane}

theorem not_skipped_iff (screen : Screen window tiled rows) (hsource : source ∈ rows) {p : Pane}
    (hp : p ∈ rows) : skipped source direction source.x source.y p = false ↔
      MayTarget tiled source p ∧
        Near (fun q : Pane => direction.turn q.rect) (cursorLine direction source) p := by
  have hid : p.paneId = source.paneId ↔ p = source :=
    ⟨screen.ids p hp source hsource, congrArg Pane.paneId⟩
  obtain ⟨hcross, -⟩ := crossOf_eq direction source (fits_of_small (screen.small p hp))
  have hnear : ¬1 < (crossOf direction source.x source.y p).1 ↔
      Near (fun q : Pane => direction.turn q.rect) (cursorLine direction source) p := by
    rw [Near, ← hcross]
    omega
  rw [skipped, MayTarget, screen.tiledRows, ← hnear]
  simp only [Bool.or_eq_false_iff, decide_eq_false_iff_not, hid, hp, true_and]
  tauto

def Compared (direction : PaneSwitchDirection) (tiled : List Pane) (source : Pane)
    (number : Pane → Option ℕ) (p : Pane) : Prop :=
  MayTarget tiled source p ∧
    Near (fun q : Pane => direction.turn q.rect) (cursorLine direction source) p ∧
      (number p).isSome

theorem mem_candidates (screen : Screen window tiled rows) (hsource : source ∈ rows)
    (number : Pane → Option ℕ) (b : Scored) :
    some b ∈ rows.map (candidate source direction source.x source.y number) ↔
      Compared direction tiled source number b.pane ∧
        b = ⟨b.pane, (number b.pane).getD 0, (crossOf direction source.x source.y b.pane).1,
          (crossOf direction source.x source.y b.pane).2⟩ := by
  rw [List.mem_map]
  constructor
  · rintro ⟨p, hp, hcandidate⟩
    rw [candidate] at hcandidate
    split_ifs at hcandidate with hskipped
    obtain ⟨distance, hnumber, rfl⟩ := Option.map_eq_some_iff.mp hcandidate
    obtain ⟨hmay, hnear⟩ := (not_skipped_iff screen hsource hp).mp (Bool.not_eq_true _ ▸ hskipped)
    refine ⟨⟨hmay, hnear, ?_⟩, ?_⟩
    · rw [hnumber]
      rfl
    · dsimp only
      rw [hnumber, Option.getD_some]
  · rintro ⟨⟨hmay, hnear, hsome⟩, heq⟩
    have hrow := ((screen.tiledRows b.pane).mp hmay.1).1
    refine ⟨b.pane, hrow, ?_⟩
    obtain ⟨distance, hnumber⟩ := Option.isSome_iff_exists.mp hsome
    rw [candidate, (not_skipped_iff screen hsource hrow).mpr ⟨hmay, hnear⟩, hnumber,
      if_neg Bool.false_ne_true, Option.map_some]
    rw [hnumber, Option.getD_some] at heq
    rw [← heq]

theorem fits_of_mayTarget (screen : Screen window tiled rows) {p : Pane}
    (h : MayTarget tiled source p) : Fits p :=
  fits_of_small (screen.small p ((screen.tiledRows p).mp h.1).1)

theorem turned_total (screen : Screen window tiled rows) {p q : Pane} (hp : p ∈ tiled)
    (hq : q ∈ tiled)
    (h : ¬Before (fun r : Pane => direction.turn r.rect) (cursorLine direction source) p q)
    (h' : ¬Before (fun r : Pane => direction.turn r.rect) (cursorLine direction source) q p) :
    p = q := by
  obtain ⟨tiled', hperm, htiles⟩ := turned_tiles direction screen.tiles
  exact htiles.before_total (hperm.mem_iff.mpr hp) (hperm.mem_iff.mpr hq) h h'

def Least (direction : PaneSwitchDirection) (tiled : List Pane) (source : Pane)
    (number : Pane → Option ℕ) (p : Pane) : Prop :=
  Compared direction tiled source number p ∧ ∀ q, Compared direction tiled source number q →
    ¬Before (fun r : Pane => direction.turn r.rect) (cursorLine direction source) q p

def edgePane (rows : List Pane) (source : Pane) (direction : PaneSwitchDirection) :
    Option Pane :=
  (Choosing.choose (Scored.outside direction) (rows.map (candidate source direction source.x
    source.y fun p => some (edgePosition direction p)))).map Scored.pane

def bestPane (rows : List Pane) (source : Pane) (direction : PaneSwitchDirection) :
    Option Pane :=
  (Choosing.choose Scored.before (rows.map (candidate source direction source.x source.y
    (distanceTo direction source)))).map Scored.pane

theorem edgePane_eq_some (screen : Screen window tiled rows) (hsource : source ∈ rows) {p : Pane} :
    edgePane rows source direction = some p ↔
      Least direction tiled source (fun p => some (edgePosition direction p)) p :=
  Choosing.map_choose_eq_some (Scored.outside direction) Scored.pane (edgeOf direction source)
    (Compared direction tiled source fun p => some (edgePosition direction p))
    (fun _ _ _ => outside_trans direction) (outside_irrefl direction)
    (mem_candidates screen hsource _) (fun _ => rfl)
    (fun _ _ ha hb => outside_iff (fits_of_mayTarget screen ha.1) (fits_of_mayTarget screen hb.1))
    fun _ _ ha hb => turned_total screen ha.1.1 hb.1.1

theorem before_iff (hsource : Fits source) {p q : Pane} (hp : Fits p) (hq : Fits q)
    (hpsome : (distanceTo direction source p).isSome)
    (hqsome : (distanceTo direction source q).isSome) :
    (bestOf direction source p).before (bestOf direction source q) ↔
      Before (fun r : Pane => direction.turn r.rect) (cursorLine direction source) p q := by
  obtain ⟨hpd, hps⟩ := crossOf_eq direction source hp
  obtain ⟨hqd, hqs⟩ := crossOf_eq direction source hq
  obtain ⟨dp, hdp⟩ := Option.isSome_iff_exists.mp hpsome
  obtain ⟨dq, hdq⟩ := Option.isSome_iff_exists.mp hqsome
  obtain ⟨-, hp'⟩ := (distanceTo_eq_some hsource hp).mp hdp
  obtain ⟨-, hq'⟩ := (distanceTo_eq_some hsource hq).mp hdq
  rw [Before, ← hpd, ← hqd, ← hps, ← hqs]
  simp only [Scored.before, Scored.crossBefore, bestOf, hdp, hdq, Option.getD_some]
  omega

theorem bestPane_eq_some (screen : Screen window tiled rows) (hsource : source ∈ rows) {p : Pane} :
    bestPane rows source direction = some p ↔
      Least direction tiled source (distanceTo direction source) p :=
  Choosing.map_choose_eq_some Scored.before Scored.pane (bestOf direction source)
    (Compared direction tiled source (distanceTo direction source))
    (fun _ _ _ => before_trans) before_irrefl (mem_candidates screen hsource _) (fun _ => rfl)
    (fun _ _ ha hb => before_iff (fits_of_small (screen.small source hsource))
      (fits_of_mayTarget screen ha.1) (fits_of_mayTarget screen hb.1) ha.2.2 hb.2.2)
    fun _ _ ha hb => turned_total screen ha.1.1 hb.1.1

theorem chooseTarget_eq (hsource : Fits source) : chooseTarget rows source direction =
    some (match bestPane rows source direction with
      | some p => some (p, false)
      | none => (edgePane rows source direction).map fun p => (p, true)) := by
  rw [chooseTarget, hsource.absoluteX, hsource.absoluteY]
  dsimp only
  rw [visit_foldl, bestPane, edgePane]
  cases Choosing.choose Scored.before (rows.map (candidate source direction source.x source.y
      (distanceTo direction source))) with
  | none =>
    rw [Option.map_none, Option.map_map]
    rfl
  | some best => rfl

theorem least_edge_iff (screen : Screen window tiled rows) (hsource : source ∈ tiled) {p : Pane} :
    Least direction tiled source (fun p => some (edgePosition direction p)) p ↔
      MayTarget tiled source p ∧ Entered direction window tiled source p := by
  have scene := screen.scene direction hsource
  simp only [Least, Compared, Option.isSome_some, and_true]
  constructor
  · rintro ⟨⟨hmay, hnear⟩, hfirst⟩
    refine ⟨hmay, entered_iff.mpr (scene.metFirst_of_least hmay.1 hnear fun q hq hqnear => ?_)⟩
    exact hfirst q ⟨mayTarget_iff.mpr hq, hqnear⟩
  · rintro ⟨hmay, hentered⟩
    obtain ⟨hnear, hfirst⟩ := scene.least_of_metFirst (mayTarget_iff.mp hmay)
      (entered_iff.mp hentered)
    exact ⟨⟨hmay, hnear⟩, fun q hq => hfirst q (mayTarget_iff.mp hq.1) hq.2⟩

theorem least_best_iff (screen : Screen window tiled rows) (hsource : source ∈ tiled) {p : Pane} :
    Least direction tiled source (distanceTo direction source) p ↔
      MayTarget tiled source p ∧ PaneAt direction window tiled p (acrossCell direction source) := by
  have scene := screen.scene direction hsource
  have hfits : Fits source :=
    fits_of_small (screen.small source ((screen.tiledRows source).mp hsource).1)
  have hsome : ∀ q, MayTarget tiled source q → ((distanceTo direction source q).isSome ↔
      (direction.turn source.rect).x.hi ≤ (direction.turn q.rect).x.lo) := by
    intro q hq
    rw [Option.isSome_iff_exists]
    constructor
    · rintro ⟨distance, hdistance⟩
      exact ((distanceTo_eq_some hfits (fits_of_mayTarget screen hq)).mp hdistance).1
    · intro hle
      refine ⟨((direction.turn q.rect).x.lo - (direction.turn source.rect).x.hi).toNat, ?_⟩
      exact (distanceTo_eq_some hfits (fits_of_mayTarget screen hq)).mpr ⟨hle, by omega⟩
  rw [acrossCell_eq, paneAt_iff]
  constructor
  · rintro ⟨⟨hmay, hnear, hdistance⟩, hfirst⟩
    refine ⟨hmay, scene.at_of_first (mayTarget_iff.mp hmay)
      ⟨hnear, (hsome p hmay).mp hdistance⟩ fun q hq hahead => ?_⟩
    have hqmay := mayTarget_iff.mpr hq
    exact hfirst q ⟨hqmay, hahead.1, (hsome q hqmay).mpr hahead.2⟩
  · rintro ⟨hmay, hat⟩
    obtain ⟨hahead, -⟩ := scene.ahead_of_at hmay.1 hmay.2.1 hat
    refine ⟨⟨hmay, hahead.1, (hsome p hmay).mpr hahead.2⟩, fun q hq => ?_⟩
    exact scene.first_of_at hmay.1 hmay.2.1 hat hq.1.1 hq.1.2.1
      ⟨hq.2.1, (hsome q hq.1).mp hq.2.2⟩

end Chosen

end VdeTmux.PaneSwitch
