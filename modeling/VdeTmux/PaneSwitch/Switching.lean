import VdeTmux.PaneSwitch.Choice

/-!
# Switching panes

A switch from a tiled pane follows the screen. From any pane it leads to a tiled pane that is not
the sidebar, the order of the rows does not matter, and no number overflows.
-/

open Foundation Foundation.Tiling VdeTmux.Pane
namespace VdeTmux.PaneSwitch

inductive PaneSwitchAction
  | apply (command : List Char)
  | noTarget

inductive PrepareError
  | invalidPaneId (paneId : List Char)
  | zeroPid
  | noSource
  | notActive

def validPaneId (paneId : List Char) : Bool :=
  match paneId with
  | '%' :: digits => !digits.isEmpty && digits.all Char.isDigit
  | _ => false

def selectionChanged : List Char :=
  "display-message -p '__vde_pane_switch_selection_changed__'".toList

def targetGuard (target : Pane) : List Char :=
  "#\x7b&&:#\x7b==:#\x7bpane_pid\x7d,".toList ++ Writer.digits target.panePid ++
    ("\x7d,#\x7b&&:#\x7b!=:#\x7b@vde_sidebar\x7d,1\x7d," ++
      "#\x7b!=:#\x7bpane_floating_flag\x7d,1\x7d\x7d\x7d").toList

def sourceGuard (sourcePanePid : ℕ) : List Char :=
  "#\x7b&&:#\x7b==:#\x7bpane_pid\x7d,".toList ++ Writer.digits sourcePanePid ++
    "\x7d,#\x7b==:#\x7bpane_active\x7d,1\x7d\x7d".toList

def prepare (direction : PaneSwitchDirection) (sourcePaneId : List Char) (sourcePanePid : ℕ)
    (panes : List Pane) : Option (Except PrepareError PaneSwitchAction) :=
  if validPaneId sourcePaneId = false then some (.error (.invalidPaneId sourcePaneId))
  else if sourcePanePid = 0 then some (.error .zeroPid)
  else
    match panes.find? fun pane => pane.paneId = sourcePaneId && pane.panePid = sourcePanePid with
    | none => some (.error .noSource)
    | some source =>
      if source.active = false then some (.error .notActive)
      else do
        match ← chooseTarget panes source direction with
        | none => some (.ok .noTarget)
        | some (target, isCycle) =>
          let action ← switchAction target source direction isCycle
          let guardedTarget := tmuxCommandString ["if-shell".toList, "-F".toList, "-t".toList,
            target.paneId, targetGuard target, action, selectionChanged]
          some (.ok (.apply (tmuxCommandString ["if-shell".toList, "-F".toList, "-t".toList,
            sourcePaneId, sourceGuard sourcePanePid, guardedTarget, selectionChanged])))

def Chosen (direction : PaneSwitchDirection) (window : Rect) (tiled : List Pane)
    (source p : Pane) (isCycle : Bool) : Prop :=
  MayTarget tiled source p ∧
    (isCycle = false ∧ PaneAt direction window tiled p (acrossCell direction source) ∨
      isCycle = true ∧
        (∀ q, MayTarget tiled source q →
          ¬PaneAt direction window tiled q (acrossCell direction source)) ∧
        Entered direction window tiled source p)

def Follows (direction : PaneSwitchDirection) (window : Rect) (tiled rows : List Pane)
    (source : Pane) : Prop :=
  ∃ result, chooseTarget rows source direction = some result ∧
    ∀ p isCycle, result = some (p, isCycle) ↔ Chosen direction window tiled source p isCycle

/-- What holds for every source, also for a floating one. -/
structure Sound (direction : PaneSwitchDirection) (tiled rows : List Pane) (source : Pane) :
    Prop where
  target : ∃ result, chooseTarget rows source direction = some result ∧
    ∀ p isCycle, result = some (p, isCycle) →
      p ∈ tiled ∧ p ≠ source ∧ p.sidebar = false ∧ p.floating = false
  order : ∀ rows', rows'.Perm rows →
    chooseTarget rows' source direction = chooseTarget rows source direction
  action : ∀ target ∈ rows, ∀ isCycle, (switchAction target source direction isCycle).isSome

section Screen
variable {window : Rect} {tiled rows : List Pane} {direction : PaneSwitchDirection}
  {source : Pane}

theorem Screen.fits (screen : Screen window tiled rows) {p : Pane} (hp : p ∈ rows) : Fits p :=
  fits_of_small (screen.small p hp)

theorem Screen.perm (screen : Screen window tiled rows) {rows' : List Pane}
    (hperm : rows'.Perm rows) : Screen window tiled rows' where
  tiles := screen.tiles
  tiledRows p := by rw [screen.tiledRows, hperm.mem_iff]
  ids p hp q hq := screen.ids p (hperm.mem_iff.mp hp) q (hperm.mem_iff.mp hq)
  sidebars := screen.sidebars
  small p hp := screen.small p (hperm.mem_iff.mp hp)

theorem follows (screen : Screen window tiled rows) (hsource : source ∈ tiled) :
    Follows direction window tiled rows source := by
  have hrow := ((screen.tiledRows source).mp hsource).1
  have hbest : ∀ {p}, bestPane rows source direction = some p ↔ MayTarget tiled source p ∧
      PaneAt direction window tiled p (acrossCell direction source) :=
    (bestPane_eq_some screen hrow).trans (least_best_iff screen hsource)
  have hedge : ∀ {p}, edgePane rows source direction = some p ↔ MayTarget tiled source p ∧
      Entered direction window tiled source p :=
    (edgePane_eq_some screen hrow).trans (least_edge_iff screen hsource)
  refine ⟨_, chooseTarget_eq (screen.fits hrow), fun p isCycle => ?_⟩
  cases hchosen : bestPane rows source direction with
  | some best =>
    obtain ⟨hmay, hat⟩ := hbest.mp hchosen
    dsimp only
    rw [Option.some.injEq, Prod.mk.injEq]
    constructor
    · rintro ⟨rfl, rfl⟩
      exact ⟨hmay, Or.inl ⟨rfl, hat⟩⟩
    · rintro ⟨hpmay, ⟨rfl, hpat⟩ | ⟨-, hnone, -⟩⟩
      · have hsame := hbest.mpr ⟨hpmay, hpat⟩
        rw [hchosen] at hsame
        exact ⟨Option.some.inj hsame, rfl⟩
      · exact absurd hat (hnone best hmay)
  | none =>
    have hnone : ∀ q, MayTarget tiled source q →
        ¬PaneAt direction window tiled q (acrossCell direction source) := fun q hq hat => by
      have hsome := hbest.mpr ⟨hq, hat⟩
      rw [hchosen] at hsome
      cases hsome
    dsimp only
    rw [Option.map_eq_some_iff]
    constructor
    · rintro ⟨q, hq, heq⟩
      obtain ⟨rfl, rfl⟩ := Prod.mk.inj heq
      obtain ⟨hmay, hentered⟩ := hedge.mp hq
      exact ⟨hmay, Or.inr ⟨rfl, hnone, hentered⟩⟩
    · rintro ⟨hmay, ⟨-, hat⟩ | ⟨rfl, -, hentered⟩⟩
      · exact absurd hat (hnone p hmay)
      · exact ⟨p, hedge.mpr ⟨hmay, hentered⟩, rfl⟩

theorem chosen_mayTarget (screen : Screen window tiled rows) (hsource : source ∈ rows) {p : Pane}
    {isCycle : Bool} (h : (match bestPane rows source direction with
      | some p => some (p, false)
      | none => (edgePane rows source direction).map fun p => (p, true)) = some (p, isCycle)) :
    MayTarget tiled source p := by
  cases hbest : bestPane rows source direction with
  | some best =>
    rw [hbest] at h
    obtain ⟨rfl, -⟩ := Prod.mk.inj (Option.some.inj h)
    exact ((bestPane_eq_some screen hsource).mp hbest).1.1
  | none =>
    rw [hbest] at h
    obtain ⟨q, hq, heq⟩ := Option.map_eq_some_iff.mp h
    obtain ⟨rfl, -⟩ := Prod.mk.inj heq
    exact ((edgePane_eq_some screen hsource).mp hq).1.1

theorem chooseTarget_perm (screen : Screen window tiled rows) (hsource : source ∈ rows)
    {rows' : List Pane} (hperm : rows'.Perm rows) :
    chooseTarget rows' source direction = chooseTarget rows source direction := by
  have hfits := screen.fits hsource
  have hsource' := hperm.mem_iff.mpr hsource
  have hbest : bestPane rows' source direction = bestPane rows source direction :=
    Option.ext fun p => (bestPane_eq_some (screen.perm hperm) hsource').trans
      (bestPane_eq_some screen hsource).symm
  have hedge : edgePane rows' source direction = edgePane rows source direction :=
    Option.ext fun p => (edgePane_eq_some (screen.perm hperm) hsource').trans
      (edgePane_eq_some screen hsource).symm
  rw [chooseTarget_eq hfits, chooseTarget_eq hfits, hbest, hedge]

theorem percent_isSome {position start size : ℕ} (hsize : 0 < size) (h : size < 2 ^ 16) :
    (percent position start size).isSome := by
  have hlast : checkedSub size 1 = some (size - 1) := checkedSub_eq_some.mpr ⟨hsize, rfl⟩
  have hmul : min (position - start) (size - 1) * 100 ≤ u32Max := by
    rw [u32Max]
    omega
  rw [percent, hlast]
  simp only [Option.bind_eq_bind, Option.bind_some, checkedMul, if_pos hmul, checkedDiv,
    if_neg (Nat.pos_iff_ne_zero.mp hsize), Option.isSome_some]

theorem switchAction_isSome (screen : Screen window tiled rows) (hsource : source ∈ rows)
    {target : Pane} (htarget : target ∈ rows) (isCycle : Bool) :
    (switchAction target source direction isCycle).isSome := by
  have hfits := screen.fits hsource
  obtain ⟨-, -, hwidth, hheight⟩ := screen.small target htarget
  obtain ⟨percentX, hx⟩ := Option.isSome_iff_exists.mp
    (@percent_isSome source.x target.left target.width target.wide hwidth)
  obtain ⟨percentY, hy⟩ := Option.isSome_iff_exists.mp
    (@percent_isSome source.y target.top target.height target.high hheight)
  rw [switchAction, hfits.absoluteX, hfits.absoluteY]
  simp only [Option.bind_eq_bind, Option.bind_some, hx, hy]
  split_ifs
  · rfl
  · rfl
  · rfl

theorem sound (screen : Screen window tiled rows) (hsource : source ∈ rows) :
    Sound direction tiled rows source where
  target := by
    refine ⟨_, chooseTarget_eq (screen.fits hsource), fun p isCycle h => ?_⟩
    obtain ⟨hmem, hne, hsidebar⟩ := chosen_mayTarget screen hsource h
    exact ⟨hmem, hne, hsidebar, ((screen.tiledRows p).mp hmem).2⟩
  order _ hperm := chooseTarget_perm screen hsource hperm
  action _ htarget isCycle := switchAction_isSome screen hsource htarget isCycle

theorem prepare_isSome (screen : Screen window tiled rows) (sourcePaneId : List Char)
    (sourcePanePid : ℕ) : (prepare direction sourcePaneId sourcePanePid rows).isSome := by
  rw [prepare]
  split_ifs
  · rfl
  · rfl
  · cases hfind : rows.find? fun pane =>
        pane.paneId = sourcePaneId && pane.panePid = sourcePanePid with
    | none => rfl
    | some source =>
      have hsource := List.mem_of_find?_eq_some hfind
      have hsound := @sound _ _ _ direction _ screen hsource
      obtain ⟨result, hresult, htarget⟩ := hsound.target
      dsimp only
      split_ifs
      · rfl
      · rw [hresult, Option.bind_eq_bind, Option.bind_some]
        cases result with
        | none => rfl
        | some chosen =>
          obtain ⟨target, isCycle⟩ := chosen
          have hrow := ((screen.tiledRows target).mp (htarget target isCycle rfl).1).1
          obtain ⟨action, haction⟩ := Option.isSome_iff_exists.mp
            (hsound.action target hrow isCycle)
          dsimp only
          rw [haction]
          rfl

end Screen

/-- A switch from a tiled pane follows the screen, every switch is sound, and no step of it
overflows. -/
theorem switch_follows {window : Rect} {tiled rows : List Pane}
    (screen : Screen window tiled rows) :
    (∀ source ∈ tiled, ∀ direction, Follows direction window tiled rows source) ∧
      (∀ source ∈ rows, ∀ direction, Sound direction tiled rows source) ∧
      (∀ direction sourcePaneId sourcePanePid,
        (prepare direction sourcePaneId sourcePanePid rows).isSome) ∧
      ∀ p ∈ rows, saturatingAdd p.left p.width = p.left + p.width ∧
        saturatingAdd p.top p.height = p.top + p.height :=
  ⟨fun _ hsource _ => follows screen hsource, fun _ hsource _ => sound screen hsource,
    fun _ => prepare_isSome screen,
    fun _ hp => ⟨saturatingAdd_eq (screen.fits hp).x, saturatingAdd_eq (screen.fits hp).y⟩⟩

def exampleWindow : Rect := ⟨⟨0, 80⟩, ⟨0, 24⟩⟩

def leftPane : Pane :=
  ⟨"%1".toList, 11, false, 0, 0, 0, 0, 40, 24, "zsh".toList, false, false, by decide, by decide⟩

def rightPane : Pane :=
  ⟨"%2".toList, 12, true, 3, 5, 41, 0, 39, 24, "nvim".toList, false, false, by decide, by decide⟩

def floatingPane : Pane :=
  ⟨"%3".toList, 13, true, 2, 2, 10, 5, 20, 10, "zsh".toList, false, true, by decide, by decide⟩

theorem example_screen :
    Screen exampleWindow [leftPane, rightPane] [rightPane, floatingPane, leftPane] where
  tiles := @Tiles.beside _ _ 0 40 80 _ _ _ (.tile leftPane rfl (by decide) (by decide))
    (.tile rightPane rfl (by decide) (by decide))
  tiledRows p := by
    simp only [List.mem_cons, List.not_mem_nil, or_false]
    constructor
    · rintro (rfl | rfl)
      · exact ⟨Or.inr (Or.inr rfl), rfl⟩
      · exact ⟨Or.inl rfl, rfl⟩
    · rintro ⟨rfl | rfl | rfl, hfloating⟩
      · exact Or.inr rfl
      · cases hfloating
      · exact Or.inl rfl
  ids := by decide
  sidebars p hp hsidebar := by
    simp only [List.mem_cons, List.not_mem_nil, or_false] at hp
    rcases hp with rfl | rfl
    · cases hsidebar
    · cases hsidebar
  small := by decide

theorem switch_follows_example :
    Follows .left exampleWindow [leftPane, rightPane] [rightPane, floatingPane, leftPane]
      rightPane :=
  (switch_follows example_screen).1 rightPane (by decide) .left

/-- Behind the border of a floating pane is the pane below it, but the loop goes around. -/
theorem floating_goes_around :
    Screen exampleWindow [leftPane, rightPane] [rightPane, floatingPane, leftPane] ∧
      floatingPane ∈ [rightPane, floatingPane, leftPane] ∧
      ¬Follows .left exampleWindow [leftPane, rightPane] [rightPane, floatingPane, leftPane]
        floatingPane := by
  refine ⟨example_screen, by decide, ?_⟩
  rintro ⟨result, hresult, hchosen⟩
  have hat : PaneAt .left exampleWindow [leftPane, rightPane] leftPane
      (acrossCell .left floatingPane) := by
    refine Or.inl ⟨⟨?_, ?_⟩, ?_, ?_⟩ <;> decide
  have hleft : result = some (leftPane, false) :=
    (hchosen leftPane false).mpr ⟨⟨by decide, by decide, rfl⟩, Or.inl ⟨rfl, hat⟩⟩
  have hloop : chooseTarget [rightPane, floatingPane, leftPane] floatingPane .left =
      some (some (rightPane, true)) := by decide
  rw [hresult, hleft] at hloop
  exact absurd hloop (by decide)

end VdeTmux.PaneSwitch
