import VdeTmux.Foundation.Cutting
import VdeTmux.Statusline.WindowMap

/-!
# The block of the window map

The windows of the map are a block around the active window that can be extended on neither side,
between two ellipses that count what they hide, and the text fits when the active window alone does.
-/

open Foundation Foundation.Text Foundation.Growing Foundation.Writer Foundation.Cutting
open VdeTmux.Pane (BadgeState)
open VdeTmux.Daemon
namespace VdeTmux.Statusline

def summedCounts (windows : List WindowStatusPresentation) : BadgeStateCounts where
  blocked := (windows.map (·.counts.blocked)).sum
  limited := (windows.map (·.counts.limited)).sum
  working := (windows.map (·.counts.working)).sum
  done := (windows.map (·.counts.done)).sum
  unknown := (windows.map (·.counts.unknown)).sum
  idle := (windows.map (·.counts.idle)).sum

theorem mergeCounts_assoc (a b c : BadgeStateCounts) :
    mergeCounts (mergeCounts a b) c = mergeCounts a (mergeCounts b c) := by
  simp only [mergeCounts, Nat.add_assoc]

theorem foldl_mergeCounts (counts : BadgeStateCounts) (windows : List WindowStatusPresentation) :
    windows.foldl (fun counts window => mergeCounts counts window.counts) counts =
      mergeCounts counts (summedCounts windows) := by
  induction windows generalizing counts with
  | nil => rfl
  | cons window windows ih =>
    have hcons : summedCounts (window :: windows) =
        mergeCounts window.counts (summedCounts windows) := by
      simp only [summedCounts, List.map_cons, List.sum_cons, mergeCounts]
    rw [List.foldl_cons, ih, hcons, mergeCounts_assoc]

theorem mergedCounts_eq (windows : List WindowStatusPresentation) :
    mergedCounts windows = summedCounts windows := by
  rw [mergedCounts, foldl_mergeCounts]
  simp only [mergeCounts, Nat.zero_add]

section
variable (unicode : UnicodeWidth) (config : WindowMapConfig)
  (token : WindowStatusPresentation → StatusToken) (ordered : List WindowStatusPresentation)

/-- The glyph of a state in its color, and how many hidden panes have it, if any do. -/
def hiddenState (state : BadgeState) (count : ℕ) : List Char :=
  if count = 0 then []
  else " #[fg=".toList ++ (config.color state).getD "default".toList ++ "]".toList ++
    config.glyph state ++ "#[fg=default] ".toList ++ digits count

def hiddenStates (hidden : List WindowStatusPresentation) : List Char :=
  hiddenState config .blocked (summedCounts hidden).blocked ++
    hiddenState config .limited (summedCounts hidden).limited ++
    hiddenState config .done (summedCounts hidden).done

/-- An ellipsis with the number of hidden windows on its outer side, and what they hold. -/
def ellipsis (hidden : List WindowStatusPresentation) (left : Bool) : List Char :=
  if hidden = [] then []
  else if left then digits hidden.length ++ ['…'] ++ hiddenStates config hidden ++ [' ']
  else [' ', '…'] ++ digits hidden.length ++ hiddenStates config hidden

def windowText (compact : Bool) (window : WindowStatusPresentation) : List Char :=
  if compact then (token window).compact else (token window).rendered

def filledText (widest : Bool → ℕ) (compact : Bool) (window : WindowStatusPresentation) :
    List Char :=
  windowText token compact window ++ List.replicate
    (widest compact - tmuxDisplayWidth unicode (windowText token compact window)) ' '

/-- The number of windows, a block of them between what is hidden on both sides, and the name. -/
def blockText (widest : Bool → ℕ) (start stop : ℕ) (compact : Bool) (nameWidth : ℕ) : List Char :=
  "W ".toList ++ digits ordered.length ++ [' '] ++ ellipsis config (ordered.take start) true ++
    config.separator.intercalate (((ordered.drop start).take (stop - start)).map
      (filledText unicode token widest compact)) ++
    ellipsis config (ordered.drop stop) false ++ nameText unicode ordered nameWidth

theorem hiddenState_pos {state : BadgeState} {count : ℕ} (h : count ≠ 0) :
    hiddenState config state count =
      ' ' :: (structuredPaneBadge config state ++ ' ' :: digits count) := by
  have hfg : " #[fg=".toList = ' ' :: "#[fg=".toList := rfl
  have hdefault : "#[fg=default] ".toList = "#[fg=default]".toList ++ [' '] := rfl
  unfold hiddenState structuredPaneBadge
  rw [hfg, hdefault]
  simp only [if_neg h, List.append_assoc]
  rw [List.cons_append, List.singleton_append]

theorem blank_intercalate {texts : List (List Char)} (h : ∀ text ∈ texts, text ≠ []) :
    (if [' '].intercalate texts = [] then [] else ' ' :: [' '].intercalate texts) =
      texts.flatMap (' ' :: ·) := by
  cases texts with
  | nil => rfl
  | cons text texts =>
    have hne : text ++ texts.flatMap (' ' :: ·) ≠ [] :=
      List.append_ne_nil_of_left_ne_nil (h text List.mem_cons_self) _
    rw [intercalate_eq, if_neg hne, List.flatMap_cons, List.cons_append]

theorem omissionBadges_eq (counts : BadgeStateCounts) :
    (if omissionBadges config counts = [] then []
      else ' ' :: omissionBadges config counts) =
      hiddenState config .blocked counts.blocked ++ hiddenState config .limited counts.limited ++
        hiddenState config .done counts.done := by
  have hempty : ∀ state count, structuredPaneBadge config state ++ ' ' :: digits count ≠ [] :=
    fun state count => List.append_ne_nil_of_right_ne_nil _ (List.cons_ne_nil _ _)
  have hstate : ∀ state count, hiddenState config state count =
      if 0 < count then ' ' :: (structuredPaneBadge config state ++ ' ' :: digits count)
      else [] := by
    intro state count
    by_cases hcount : count = 0
    · rw [hiddenState, if_pos hcount, if_neg (by omega)]
    · rw [hiddenState_pos config hcount, if_pos (Nat.pos_of_ne_zero hcount)]
  rw [omissionBadges, blank_intercalate]
  · simp only [hstate, List.filter_cons, List.filter_nil, decide_eq_true_eq]
    split_ifs <;> simp only [List.map_cons, List.map_nil, List.flatMap_cons, List.flatMap_nil,
      List.append_nil, List.nil_append, List.append_assoc]
  · intro text htext
    obtain ⟨entry, -, rfl⟩ := List.mem_map.mp htext
    exact hempty entry.1 entry.2

theorem windowMapOmission_eq (hidden : List WindowStatusPresentation) (left : Bool) :
    windowMapOmission config hidden left = ellipsis config hidden left := by
  have hbadges : (if omissionBadges config (mergedCounts hidden) = [] then []
      else ' ' :: omissionBadges config (mergedCounts hidden)) = hiddenStates config hidden := by
    rw [omissionBadges_eq, mergedCounts_eq, hiddenStates]
  rw [windowMapOmission, ellipsis]
  dsimp only
  rw [hbadges]
  split_ifs
  · rfl
  · rw [List.append_assoc, List.append_assoc, List.singleton_append]
  · rfl

theorem renderBlock_text (start stop : ℕ) (compact : Bool) (nameWidth : ℕ) :
    renderBlock unicode config token ordered start stop compact nameWidth =
      blockText unicode config token ordered (cellWidth unicode token ordered) start stop compact
        nameWidth := by
  rw [renderBlock, blockText, windowMapOmission_eq, windowMapOmission_eq]
  rfl

theorem cellWidth_greatest (h : ordered ≠ []) (compact : Bool) :
    (∃ window ∈ ordered, cellWidth unicode token ordered compact =
        tmuxDisplayWidth unicode (windowText token compact window)) ∧
      ∀ window ∈ ordered, tmuxDisplayWidth unicode (windowText token compact window) ≤
        cellWidth unicode token ordered compact := by
  have hne : (ordered.map fun window =>
      tmuxDisplayWidth unicode (cellText token compact window)) ≠ [] :=
    fun hnil => h (List.map_eq_nil_iff.mp hnil)
  obtain ⟨widest, hwidest⟩ := Option.isSome_iff_exists.mp (List.isSome_max?_iff.mpr hne)
  obtain ⟨hmem, hmax⟩ := List.max?_eq_some_iff.mp hwidest
  have hwidth : cellWidth unicode token ordered compact = widest := by
    rw [cellWidth, hwidest]
    rfl
  rw [hwidth]
  obtain ⟨window, hwindow, rfl⟩ := List.mem_map.mp hmem
  exact ⟨⟨window, hwindow, rfl⟩, fun other hother => hmax _ (List.mem_map_of_mem hother)⟩

theorem currentName_plain {name : List Char} (h : currentName ordered = some name) :
    ∀ c ∈ name, isControl c = false := by
  obtain ⟨window, -, rfl⟩ := Option.map_eq_some_iff.mp h
  intro c hc
  obtain ⟨d, -, rfl⟩ := List.mem_map.mp hc
  split_ifs with hcontrol
  · rfl
  · exact Bool.eq_false_iff.mpr hcontrol

theorem width_nameText_le (text : List Char) (nameWidth : ℕ) :
    tmuxDisplayWidth unicode (text ++ nameText unicode ordered nameWidth) ≤
      tmuxDisplayWidth unicode text + if nameWidth = 0 then 0 else 3 + nameWidth := by
  rw [nameText]
  by_cases hzero : nameWidth = 0
  · rw [hzero, if_neg (Nat.lt_irrefl 0), List.append_nil]
    exact Nat.le_add_right _ _
  · rw [if_pos (Nat.pos_of_ne_zero hzero), if_neg hzero]
    cases hname : currentName ordered with
    | none =>
      rw [List.append_nil]
      exact Nat.le_add_right _ _
    | some name =>
      have hplain : ∀ c ∈ ' ' :: '│' :: ' ' :: truncateDisplay unicode name nameWidth,
          isControl c = false := by
        simp only [List.forall_mem_cons]
        refine ⟨by decide, by decide, by decide, ?_⟩
        intro c hc
        rcases mem_truncateDisplay hc with hc | rfl
        · exact currentName_plain ordered hname c hc
        · decide
      have htext : " │ ".toList ++ structuredExternalText (truncateDisplay unicode name nameWidth) =
          structuredExternalText (' ' :: '│' :: ' ' :: truncateDisplay unicode name nameWidth) :=
        rfl
      have hadded : scanWidth unicode false (text ++ _) ≤ _ :=
        scanWidth_append_le false text ('│' :: ' ' :: truncateDisplay unicode name nameWidth)
      have hname : displayWidth unicode (truncateDisplay unicode name nameWidth) ≤ nameWidth :=
        displayWidth_truncateDisplay name nameWidth
      have hwidth :
          displayWidth unicode (' ' :: '│' :: ' ' :: truncateDisplay unicode name nameWidth) =
            3 + displayWidth unicode (truncateDisplay unicode name nameWidth) := by
        simp only [displayWidth, List.map_cons, List.sum_cons, unicode.space, unicode.bar]
        omega
      rw [scanWidth_external hplain, hwidth] at hadded
      dsimp only
      rw [htext, tmuxDisplayWidth, tmuxDisplayWidth]
      omega

theorem renderBlock_eq (start stop : ℕ) (compact : Bool) (nameWidth : ℕ) :
    renderBlock unicode config token ordered start stop compact nameWidth =
      renderBlock unicode config token ordered start stop compact 0 ++
        nameText unicode ordered nameWidth := by
  have hnone : nameText unicode ordered 0 = [] := if_neg (Nat.lt_irrefl 0)
  rw [renderBlock, renderBlock, hnone, List.append_nil]

theorem blockFits_center (center : ℕ)
    (h : tmuxDisplayWidth unicode
      (renderBlock unicode config token ordered center (center + 1) true 0) ≤
        statusOptionCellBudget) :
    blockFits unicode config token ordered (chosenNameWidth unicode config token ordered center)
      center (center + 1) = true := by
  rw [chosenNameWidth]
  split_ifs with hfull
  · exact hfull
  · generalize hwidth : min (statusOptionCellBudget - tmuxDisplayWidth unicode
      (renderBlock unicode config token ordered center (center + 1) true 0) - 3) 16 = nameWidth
    have hname := width_nameText_le unicode ordered
      (renderBlock unicode config token ordered center (center + 1) true 0) nameWidth
    rw [← renderBlock_eq] at hname
    apply decide_eq_true
    split_ifs at hname <;> omega

/-- The position that the block grows from: that of the active window, if there is one. -/
def center : ℕ := (activePosition ordered).getD 0

/-- The map shows a block of the ordered windows around the center. -/
structure Neighbourhood (windows : List WindowStatusPresentation) (widest : Bool → ℕ)
    (start stop : ℕ) (compact : Bool) (nameWidth : ℕ) : Prop where
  perm : ordered.Perm windows
  sorted : ordered.Pairwise fun a b => (StatusAggregate.compareWindows a b).isLE
  rendered : renderWindowMap unicode config token windows =
    blockText unicode config token ordered widest start stop compact nameWidth
  widest_mem : ∀ compact, ∃ window ∈ ordered, widest compact =
    tmuxDisplayWidth unicode (windowText token compact window)
  le_widest : ∀ compact, ∀ window ∈ ordered,
    tmuxDisplayWidth unicode (windowText token compact window) ≤ widest compact
  start_le : start ≤ center ordered
  lt_stop : center ordered < stop
  total : (ordered.take start).length + ((ordered.drop start).take (stop - start)).length +
    (ordered.drop stop).length = windows.length
  fullLeft : 0 < start → statusOptionCellBudget < tmuxDisplayWidth unicode
    (blockText unicode config token ordered widest (start - 1) stop compact nameWidth)
  fullRight : stop < windows.length → statusOptionCellBudget < tmuxDisplayWidth unicode
    (blockText unicode config token ordered widest start (stop + 1) compact nameWidth)
  fits : tmuxDisplayWidth unicode (blockText unicode config token ordered widest (center ordered)
      (center ordered + 1) true 0) ≤ statusOptionCellBudget →
    tmuxDisplayWidth unicode (renderWindowMap unicode config token windows) ≤
      statusOptionCellBudget

end

theorem length_block {α : Type} (l : List α) {start stop : ℕ} (h : start ≤ stop)
    (hstop : stop ≤ l.length) :
    (l.take start).length + ((l.drop start).take (stop - start)).length + (l.drop stop).length =
      l.length := by
  simp only [List.length_take, List.length_drop]
  omega

theorem center_lt {ordered : List WindowStatusPresentation} (h : ordered ≠ []) :
    center ordered < ordered.length := by
  rw [center]
  cases hactive : activePosition ordered with
  | none => exact List.length_pos_of_ne_nil h
  | some position => exact (List.findIdx?_eq_some_iff_getElem.mp hactive).1

def unitWidth : UnicodeWidth := ⟨fun _ => 1, rfl, rfl, rfl, rfl⟩

def plainConfig : WindowMapConfig := ⟨[' '], fun _ => ['●'], fun _ => none⟩

def longToken (window : WindowStatusPresentation) : StatusToken :=
  let index := (window.windowIndex.map fun index => digits index.toNat).getD ['?']
  ⟨index ++ List.replicate 39 '-', index ++ List.replicate 79 '-'⟩

def shell (index : ℕ) (active : Bool) (blocked done : ℕ) : WindowStatusPresentation where
  windowId := "@1"
  windowName := "zsh"
  paneCount := 1
  sessionIds := ["$0"]
  windowIndex := some index
  active := active
  last := false
  bell := none
  activity := none
  silence := none
  currentCommand := some "zsh"
  counts := { blocked := blocked, done := done }

def shells : List WindowStatusPresentation := [shell 2 true 0 0, shell 3 false 2 1, shell 1 false 0 3]

end VdeTmux.Statusline
