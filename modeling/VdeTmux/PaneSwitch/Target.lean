import VdeTmux.Foundation.Choosing
import VdeTmux.Pane.CommandString

/-!
# The target of a pane switch

The rows of a window are a flat list of rectangles. A loop over them chooses the pane to go to, and
the pane is selected by a command string. What would overflow is no value.
-/

open Foundation VdeTmux.Pane
namespace VdeTmux.PaneSwitch

inductive PaneSwitchDirection
  | left
  | right
  | up
  | down
deriving DecidableEq

/-- A row with a geometry that is not empty. -/
structure Pane where
  paneId : List Char
  panePid : ℕ
  active : Bool
  cursorX : ℕ
  cursorY : ℕ
  left : ℕ
  top : ℕ
  width : ℕ
  height : ℕ
  currentCommand : List Char
  sidebar : Bool
  floating : Bool
  wide : 0 < width
  high : 0 < height
deriving DecidableEq

def u32Max : ℕ := 2 ^ 32 - 1

def saturatingAdd (a b : ℕ) : ℕ := min (a + b) u32Max

def checkedSub (a b : ℕ) : Option ℕ := if b ≤ a then some (a - b) else none

def checkedMul (a b : ℕ) : Option ℕ := if a * b ≤ u32Max then some (a * b) else none

def checkedDiv (a b : ℕ) : Option ℕ := if b = 0 then none else some (a / b)

def absolutePosition (start cursor size : ℕ) : Option ℕ :=
  (checkedSub size 1).map fun last => saturatingAdd start (min cursor last)

def Pane.absoluteX (source : Pane) : Option ℕ :=
  absolutePosition source.left source.cursorX source.width

def Pane.absoluteY (source : Pane) : Option ℕ :=
  absolutePosition source.top source.cursorY source.height

def axisDistance (position start size : ℕ) : ℕ :=
  if position < start then start - position
  else
    let stop := saturatingAdd start size
    if position < stop then 0 else position - (stop - 1)

structure Scored where
  pane : Pane
  distance : ℕ
  crossDistance : ℕ
  crossStart : ℕ

def Scored.crossBefore (a b : Scored) : Prop :=
  a.crossDistance < b.crossDistance ∨
    a.crossDistance = b.crossDistance ∧ a.crossStart < b.crossStart

/-- The nearer one, and across the axis the closer one and then the first one. -/
def Scored.before (a b : Scored) : Prop :=
  a.distance < b.distance ∨ a.distance = b.distance ∧ a.crossBefore b

def Scored.outside (direction : PaneSwitchDirection) (a b : Scored) : Prop :=
  (match direction with
    | .left | .up => b.distance < a.distance
    | .right | .down => a.distance < b.distance) ∨
    a.distance = b.distance ∧ a.crossBefore b

instance : DecidableRel Scored.crossBefore := fun _ _ => inferInstanceAs (Decidable (_ ∨ _))

instance : DecidableRel Scored.before := fun _ _ => inferInstanceAs (Decidable (_ ∨ _))

instance (direction : PaneSwitchDirection) : DecidableRel (Scored.outside direction) :=
  fun _ _ => by
    cases direction
    · exact inferInstanceAs (Decidable (_ ∨ _))
    · exact inferInstanceAs (Decidable (_ ∨ _))
    · exact inferInstanceAs (Decidable (_ ∨ _))
    · exact inferInstanceAs (Decidable (_ ∨ _))

def crossOf (direction : PaneSwitchDirection) (x y : ℕ) (pane : Pane) : ℕ × ℕ :=
  match direction with
  | .left | .right => (axisDistance y pane.top pane.height, pane.top)
  | .up | .down => (axisDistance x pane.left pane.width, pane.left)

def edgePosition (direction : PaneSwitchDirection) (pane : Pane) : ℕ :=
  match direction with
  | .left => saturatingAdd pane.left pane.width
  | .right => pane.left
  | .up => saturatingAdd pane.top pane.height
  | .down => pane.top

def distanceTo (direction : PaneSwitchDirection) (source pane : Pane) : Option ℕ :=
  match direction with
  | .left =>
    if pane.left < source.left then checkedSub source.left (saturatingAdd pane.left pane.width)
    else none
  | .right =>
    if source.left < pane.left then checkedSub pane.left (saturatingAdd source.left source.width)
    else none
  | .up =>
    if pane.top < source.top then checkedSub source.top (saturatingAdd pane.top pane.height)
    else none
  | .down =>
    if source.top < pane.top then checkedSub pane.top (saturatingAdd source.top source.height)
    else none

def skipped (source : Pane) (direction : PaneSwitchDirection) (x y : ℕ) (pane : Pane) : Bool :=
  pane.paneId = source.paneId || pane.sidebar || pane.floating ||
    1 < (crossOf direction x y pane).1

structure Choosing where
  best : Option Scored := none
  edge : Option Scored := none

def Choosing.visit (source : Pane) (direction : PaneSwitchDirection) (x y : ℕ)
    (choosing : Choosing) (pane : Pane) : Choosing :=
  if skipped source direction x y pane then choosing
  else
    let cross := crossOf direction x y pane
    { edge := Choosing.keep (Scored.outside direction) choosing.edge
        (some ⟨pane, edgePosition direction pane, cross.1, cross.2⟩)
      best := Choosing.keep Scored.before choosing.best
        ((distanceTo direction source pane).map fun distance =>
          ⟨pane, distance, cross.1, cross.2⟩) }

def chooseTarget (panes : List Pane) (source : Pane) (direction : PaneSwitchDirection) :
    Option (Option (Pane × Bool)) :=
  match source.absoluteX, source.absoluteY with
  | some x, some y =>
    let choosing := panes.foldl (Choosing.visit source direction x y) {}
    match choosing.best with
    | some best => some (some (best.pane, false))
    | none => some (choosing.edge.map fun edge => (edge.pane, true))
  | _, _ => none

def isNeovim (command : List Char) : Bool :=
  ["vi".toList, "vim".toList, "nvi".toList, "nvim".toList].contains command

def PaneSwitchDirection.neovimValue : PaneSwitchDirection → List Char
  | .left => "L".toList
  | .right => "R".toList
  | .up => "U".toList
  | .down => "D".toList

def percent (position start size : ℕ) : Option ℕ := do
  let last ← checkedSub size 1
  let hundredfold ← checkedMul (min (position - start) last) 100
  checkedDiv hundredfold size

def boolText (b : Bool) : List Char := if b then "true".toList else "false".toList

def cursorOptions (target : Pane) (direction : PaneSwitchDirection) (isCycle : Bool)
    (percentX percentY : ℕ) : List (List Char × List Char) :=
  [("@vde_nvim_cursor_y".toList, Writer.digits percentY),
    ("@vde_nvim_cursor_x".toList, Writer.digits percentX),
    ("@vde_nvim_select_direction".toList, direction.neovimValue),
    ("@vde_nvim_is_cycle".toList, boolText isCycle),
    ("@vde_nvim_target_pane_pid".toList, Writer.digits target.panePid)]

def addOption (target : Pane) (commands : List (List Char)) (option : List Char × List Char) :
    List (List Char) :=
  (if commands = [] then commands else commands ++ [";".toList]) ++
    ["set-option".toList, "-p".toList, "-t".toList, target.paneId, option.1, option.2]

def switchAction (target source : Pane) (direction : PaneSwitchDirection) (isCycle : Bool) :
    Option (List Char) := do
  let commands ←
    if isNeovim target.currentCommand then do
      let absoluteX ← source.absoluteX
      let absoluteY ← source.absoluteY
      let percentX ← percent absoluteX target.left target.width
      let percentY ← percent absoluteY target.top target.height
      some ((cursorOptions target direction isCycle percentX percentY).foldl (addOption target) [])
    else some []
  let commands := if commands = [] then commands else commands ++ [";".toList]
  some (tmuxCommandString (commands ++ ["select-pane".toList, "-t".toList, target.paneId]))

end VdeTmux.PaneSwitch
