import VdeTmux.Daemon.StatusSnapshot
import VdeTmux.Foundation.Growing
import VdeTmux.Foundation.Writer
import VdeTmux.Statusline.StyledWidth

/-!
# The window map

The windows of a session in one line of bounded width. When they do not all fit, a block around the
active window is shown, and what is left out on each side is counted.
-/

open Foundation Foundation.Text Foundation.Growing Foundation.Writer
open VdeTmux.Pane (BadgeState)
open VdeTmux.Daemon
namespace VdeTmux.Statusline

def statusOptionCellBudget : ℕ := 80

/-- What the configuration says about badges and about the text between windows. -/
structure WindowMapConfig where
  separator : List Char
  glyph : BadgeState → List Char
  color : BadgeState → Option (List Char)

/-- The texts of a window in both forms. What they hold does not matter for the map. -/
structure StatusToken where
  compact : List Char
  rendered : List Char

def mergeCounts (counts other : BadgeStateCounts) : BadgeStateCounts where
  blocked := counts.blocked + other.blocked
  limited := counts.limited + other.limited
  working := counts.working + other.working
  done := counts.done + other.done
  unknown := counts.unknown + other.unknown
  idle := counts.idle + other.idle

def mergedCounts (windows : List WindowStatusPresentation) : BadgeStateCounts :=
  windows.foldl (fun counts window => mergeCounts counts window.counts) {}

def structuredPaneBadge (config : WindowMapConfig) (state : BadgeState) : List Char :=
  "#[fg=".toList ++ (config.color state).getD "default".toList ++ "]".toList ++
    config.glyph state ++ "#[fg=default]".toList

def omissionBadges (config : WindowMapConfig) (counts : BadgeStateCounts) : List Char :=
  [' '].intercalate ((([(BadgeState.blocked, counts.blocked), (.limited, counts.limited),
    (.done, counts.done)]).filter fun entry => 0 < entry.2).map fun entry =>
      structuredPaneBadge config entry.1 ++ ' ' :: digits entry.2)

def windowMapOmission (config : WindowMapConfig) (windows : List WindowStatusPresentation)
    (left : Bool) : List Char :=
  if windows = [] then []
  else
    let badges := omissionBadges config (mergedCounts windows)
    let badges := if badges = [] then [] else ' ' :: badges
    if left then digits windows.length ++ '…' :: (badges ++ [' '])
    else " …".toList ++ digits windows.length ++ badges

section
variable (unicode : UnicodeWidth) (config : WindowMapConfig)
  (token : WindowStatusPresentation → StatusToken)

def cellText (compact : Bool) (window : WindowStatusPresentation) : List Char :=
  if compact then (token window).compact else (token window).rendered

def cellWidth (ordered : List WindowStatusPresentation) (compact : Bool) : ℕ :=
  ((ordered.map fun window => tmuxDisplayWidth unicode (cellText token compact window)).max?).getD 0

def paddedCell (ordered : List WindowStatusPresentation) (compact : Bool)
    (window : WindowStatusPresentation) : List Char :=
  cellText token compact window ++ List.replicate
    (cellWidth unicode token ordered compact -
      tmuxDisplayWidth unicode (cellText token compact window)) ' '

def activePosition (ordered : List WindowStatusPresentation) : Option ℕ :=
  ordered.findIdx? (·.active)

def currentName (ordered : List WindowStatusPresentation) : Option (List Char) :=
  (ordered.find? (·.active)).map fun window =>
    (if window.windowName = "" then "(unnamed)".toList else window.windowName.toList).map fun c =>
      if isControl c then ' ' else c

def nameText (ordered : List WindowStatusPresentation) (nameWidth : ℕ) : List Char :=
  if 0 < nameWidth then
    match currentName ordered with
    | some name =>
      " │ ".toList ++ structuredExternalText (truncateDisplay unicode name nameWidth)
    | none => []
  else []

/-- The windows of a block, between what is left out on both sides. -/
def renderBlock (ordered : List WindowStatusPresentation) (start stop : ℕ) (compact : Bool)
    (nameWidth : ℕ) : List Char :=
  "W ".toList ++ digits ordered.length ++ [' '] ++
    windowMapOmission config (ordered.take start) true ++
    config.separator.intercalate
      (((ordered.drop start).take (stop - start)).map
        (paddedCell unicode token ordered compact)) ++
    windowMapOmission config (ordered.drop stop) false ++ nameText unicode ordered nameWidth

def blockFits (ordered : List WindowStatusPresentation) (nameWidth start stop : ℕ) : Bool :=
  tmuxDisplayWidth unicode (renderBlock unicode config token ordered start stop true nameWidth) ≤
    statusOptionCellBudget

def chosenNameWidth (ordered : List WindowStatusPresentation) (center : ℕ) : ℕ :=
  if blockFits unicode config token ordered 16 center (center + 1) then 16
  else
    min (statusOptionCellBudget - tmuxDisplayWidth unicode
      (renderBlock unicode config token ordered center (center + 1) true 0) - 3) 16

def renderWindowMap (windows : List WindowStatusPresentation) : List Char :=
  if windows = [] then []
  else
    let ordered := sortBy StatusAggregate.compareWindows windows
    let full := renderBlock unicode config token ordered 0 ordered.length false 16
    if tmuxDisplayWidth unicode full ≤ statusOptionCellBudget then full
    else
      let center := (activePosition ordered).getD 0
      let nameWidth := chosenNameWidth unicode config token ordered center
      let block := grow (blockFits unicode config token ordered nameWidth) ordered.length
        (center, center + 1)
      renderBlock unicode config token ordered block.1 block.2 true nameWidth

end

end VdeTmux.Statusline
