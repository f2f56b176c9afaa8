import VdeTmux.Foundation.Apportion
import VdeTmux.Foundation.Lines
import VdeTmux.Foundation.Outcome
import VdeTmux.Foundation.Writer

/-!
# Window layouts without the sidebar

The layout text of a tmux window, read into a tree of splits and panes. The sidebar pane is taken
out, splits left with one child become that child, and the rest is stretched over the whole window.
How `serde_json` reads a text is given from outside.
-/

open Foundation Foundation.Text Foundation.Writer
namespace VdeTmux.Sidebar

inductive LayoutAxis
  | leftRight
  | topBottom
deriving DecidableEq

structure LayoutFrame where
  sx : ℕ
  sy : ℕ
  xoff : ℤ
  yoff : ℤ
deriving DecidableEq

namespace LayoutFrame

def extent (frame : LayoutFrame) : LayoutAxis → ℕ
  | .leftRight => frame.sx
  | .topBottom => frame.sy

def origin (frame : LayoutFrame) : LayoutAxis → ℤ
  | .leftRight => frame.xoff
  | .topBottom => frame.yoff

def slice (frame : LayoutFrame) (size : ℕ) (position : ℤ) : LayoutAxis → LayoutFrame
  | .leftRight => ⟨size, frame.sy, position, frame.yoff⟩
  | .topBottom => ⟨frame.sx, size, frame.xoff, position⟩

end LayoutFrame

inductive TmuxLayoutCell
  | leaf (frame : LayoutFrame) (paneId : Option String)
  | split (axis : LayoutAxis) (frame : LayoutFrame) (paneId : Option String)
    (children : List TmuxLayoutCell)

namespace TmuxLayoutCell

def frame : TmuxLayoutCell → LayoutFrame
  | leaf frame _ => frame
  | split _ frame _ _ => frame

end TmuxLayoutCell

def u32Max : ℕ := 2 ^ 32 - 1

def i32Max : ℕ := 2 ^ 31 - 1

def validatePaneId (paneId : String) : Except String Unit :=
  match paneId.toList with
  | '%' :: number =>
    refuse (number = [] ∨ number.all Char.isDigit = false) s!"invalid tmux pane ID: {paneId.quote}"
  | _ => .error s!"invalid tmux pane ID: {paneId.quote}"

inductive JsonTmuxLayoutCell
  | mk (sx sy : ℕ) (xoff yoff : ℤ) (paneId : Option String) (kind : String)
    (children : Option (List JsonTmuxLayoutCell)) (floatingZindex : Option ℕ)

structure JsonTmuxLayout where
  version : ℕ
  root : JsonTmuxLayoutCell

class LayoutJson where
  fromStr : String → Option JsonTmuxLayout

mutual

def JsonTmuxLayoutCell.intoLayoutCell : JsonTmuxLayoutCell → Except String TmuxLayoutCell
  | .mk sx sy xoff yoff paneId kind children floatingZindex => do
    refuse (floatingZindex.isSome = true) "floating pane layouts are not supported"
    refuse (sx = 0 ∨ sy = 0) "invalid tmux JSON layout size"
    if kind = "p" then
      match paneId with
      | none => .error "tmux JSON pane ID is missing"
      | some id => do
        validatePaneId id
        refuse (children.isSome = true) "tmux JSON pane cannot have children"
        return .leaf ⟨sx, sy, xoff, yoff⟩ paneId
    else if kind = "h" ∨ kind = "v" then do
      refuse (paneId.isSome = true) "tmux JSON container cannot have a pane ID"
      match children with
      | none => .error "tmux JSON layout children are missing"
      | some children => do
        refuse (children.length < 2) "tmux JSON layout container must have at least two children"
        let cells ← intoLayoutCells children
        return .split (if kind = "h" then .leftRight else .topBottom) ⟨sx, sy, xoff, yoff⟩ paneId
          cells
    else .error s!"invalid tmux JSON layout type {kind}"

def intoLayoutCells : List JsonTmuxLayoutCell → Except String (List TmuxLayoutCell)
  | [] => .ok []
  | child :: children => do
    let cell ← child.intoLayoutCell
    let cells ← intoLayoutCells children
    return cell :: cells

end

def parseU32 (input : List Char) : Except String (ℕ × List Char) :=
  let digits := input.takeWhile Char.isDigit
  if digits = [] then .error "expected tmux layout number"
  else
    match parseNat u32Max digits with
    | none => .error "invalid tmux layout number"
    | some n => .ok (n, input.dropWhile Char.isDigit)

def splitSign : List Char → List Char × List Char
  | '-' :: rest => (['-'], rest)
  | '+' :: rest => (['+'], rest)
  | input => ([], input)

def parseI32 (input : List Char) : Except String (ℤ × List Char) :=
  let (sign, rest) := splitSign input
  let digits := rest.takeWhile Char.isDigit
  if digits = [] then .error "expected tmux layout offset"
  else
    match parseInt (-(i32Max : ℤ) - 1) i32Max (sign ++ digits) with
    | none => .error "invalid tmux layout offset"
    | some n => .ok (n, rest.dropWhile Char.isDigit)

def expectByte (expected : Char) : List Char → Except String (List Char)
  | [] => .error "invalid tmux layout separator"
  | c :: rest => if c = expected then .ok rest else .error "invalid tmux layout separator"

def parseOptionalPaneId (input : List Char) : Option String × List Char :=
  match input with
  | ',' :: rest =>
    let digits := rest.takeWhile Char.isDigit
    let after := rest.dropWhile Char.isDigit
    if digits = [] ∨ after.head? = some 'x' then (none, input)
    else (some (String.ofList ('%' :: digits)), after)
  | _ => (none, input)

def parseFrame (input : List Char) : Except String (LayoutFrame × List Char) := do
  let (sx, input) ← parseU32 input
  let input ← expectByte 'x' input
  let (sy, input) ← parseU32 input
  let input ← expectByte ',' input
  let (xoff, input) ← parseI32 input
  let input ← expectByte ',' input
  let (yoff, input) ← parseI32 input
  return (⟨sx, sy, xoff, yoff⟩, input)

mutual

/-- Every cell and every list of children uses up input, so that `fuel` beyond its length is
enough. -/
def parseCell : ℕ → List Char → Except String (TmuxLayoutCell × List Char)
  | 0, _ => .error "invalid tmux layout"
  | fuel + 1, input => do
    let (frame, input) ← parseFrame input
    let (paneId, input) := parseOptionalPaneId input
    match input with
    | '{' :: rest => do
      let (children, rest) ← parseChildren fuel '}' rest
      return (.split .leftRight frame paneId children, rest)
    | '[' :: rest => do
      let (children, rest) ← parseChildren fuel ']' rest
      return (.split .topBottom frame paneId children, rest)
    | _ => return (.leaf frame paneId, input)

def parseChildren : ℕ → Char → List Char → Except String (List TmuxLayoutCell × List Char)
  | 0, _, _ => .error "invalid tmux layout children"
  | fuel + 1, closing, input => do
    let (child, input) ← parseCell fuel input
    match input with
    | [] => .error "invalid tmux layout children"
    | c :: rest =>
      if c = ',' then do
        let (children, rest) ← parseChildren fuel closing rest
        return (child :: children, rest)
      else if c = closing then return ([child], rest)
      else .error "invalid tmux layout children"

end

def tmuxLayoutChecksum (layout : List Char) : BitVec 16 :=
  (layout.flatMap String.utf8EncodeChar).foldl
    (fun checksum byte => checksum.rotateRight 1 + BitVec.ofNat 16 byte.toNat) 0

def hexDigit? (c : Char) : Option ℕ :=
  if '0' ≤ c ∧ c ≤ '9' then some (c.toNat - '0'.toNat)
  else if 'a' ≤ c ∧ c ≤ 'f' then some (c.toNat - 'a'.toNat + 10)
  else if 'A' ≤ c ∧ c ≤ 'F' then some (c.toNat - 'A'.toNat + 10)
  else none

def parseHex16 (text : List Char) : Option ℕ := do
  let digits := match text with
    | '+' :: rest => rest
    | _ => text
  let values ← digits.mapM hexDigit?
  let value := values.foldl (fun n digit => 16 * n + digit) 0
  if digits ≠ [] ∧ value < 2 ^ 16 then some value else none

section
variable [LayoutJson]

def parseJsonTmuxLayout (layout : String) : Except String JsonTmuxLayout := do
  let layout ← (LayoutJson.fromStr layout).elim (.error "invalid tmux JSON layout") .ok
  refuse (layout.version ≠ 2) s!"unsupported tmux JSON layout version {layout.version}"
  return layout

def parseTmuxLayout (layout : String) : Except String TmuxLayoutCell :=
  let layout := trimChars layout.toList
  if layout.head? = some '{' then do
    let json ← parseJsonTmuxLayout (String.ofList layout)
    json.root.intoLayoutCell
  else do
    refuse ('<' ∈ layout ∨ '>' ∈ layout) "floating pane layouts are not supported"
    let (checksum, body) ← (splitOnce [','] layout).elim (.error "invalid tmux layout") .ok
    refuse (charBytes checksum ≠ 4) "invalid tmux layout checksum"
    let expected ← (parseHex16 checksum).elim (.error "invalid tmux layout checksum") .ok
    refuse (expected ≠ (tmuxLayoutChecksum body).toNat) "invalid tmux layout checksum"
    let (root, rest) ← parseCell (body.length + 1) body
    refuse (rest ≠ []) "invalid trailing tmux layout input"
    return root

end

def formatFrame (frame : LayoutFrame) : List Char :=
  digits frame.sx ++ 'x' :: digits frame.sy ++ ',' :: signed frame.xoff ++ ',' :: signed frame.yoff

def formatPaneId : Option String → List Char
  | none => []
  | some paneId => ',' :: paneId.toList.dropWhile (· = '%')

def LayoutAxis.opening : LayoutAxis → Char
  | leftRight => '{'
  | topBottom => '['

def LayoutAxis.closing : LayoutAxis → Char
  | leftRight => '}'
  | topBottom => ']'

mutual

def formatLayoutCell : TmuxLayoutCell → List Char
  | .leaf frame paneId => formatFrame frame ++ formatPaneId paneId
  | .split axis frame paneId children =>
    formatFrame frame ++ formatPaneId paneId ++
      axis.opening :: (formatChildren children ++ [axis.closing])

def formatChildren : List TmuxLayoutCell → List Char
  | [] => []
  | [child] => formatLayoutCell child
  | child :: children => formatLayoutCell child ++ ',' :: formatChildren children

end

def hexChar (n : ℕ) : Char := Char.ofNat (if n < 10 then 48 + n else 87 + n)

def formatHex16 (n : ℕ) : List Char :=
  [hexChar (n / 4096 % 16), hexChar (n / 256 % 16), hexChar (n / 16 % 16), hexChar (n % 16)]

def formatTmuxLayout (root : TmuxLayoutCell) : String :=
  let body := formatLayoutCell root
  String.ofList (formatHex16 (tmuxLayoutChecksum body).toNat ++ ',' :: body)

def collapseRemovedLayoutCell (axis : LayoutAxis) (frame : LayoutFrame) (paneId : Option String) :
    List TmuxLayoutCell → Option TmuxLayoutCell
  | [] => none
  | [child] => some child
  | children => some (.split axis frame paneId children)

mutual

def removeLayoutPane (removed : String) : TmuxLayoutCell → Option TmuxLayoutCell
  | .leaf frame paneId => if paneId = some removed then none else some (.leaf frame paneId)
  | .split axis frame paneId children =>
    collapseRemovedLayoutCell axis frame paneId (removeChildren removed children)

def removeChildren (removed : String) : List TmuxLayoutCell → List TmuxLayoutCell
  | [] => []
  | child :: children => (removeLayoutPane removed child).toList ++ removeChildren removed children

end

mutual

def layoutContainsPane (paneId : String) : TmuxLayoutCell → Bool
  | .leaf _ id => id = some paneId
  | .split _ _ _ children => anyContainsPane paneId children

def anyContainsPane (paneId : String) : List TmuxLayoutCell → Bool
  | [] => false
  | child :: children => layoutContainsPane paneId child || anyContainsPane paneId children

end

def sizeWithoutBorders (size childCount : ℕ) : Except String ℕ := do
  refuse (childCount = 0) "tmux layout node has no children"
  refuse (size ≤ childCount - 1) "tmux layout is too small for its child count"
  return size - (childCount - 1)

/-- The sizes of so many cells, where the first `extra` get one more than the others. -/
def allocateEvenly (count total : ℕ) : Except String (List ℕ) := do
  if count = 0 then return []
  refuse (total < count) "tmux layout is too small for pane count"
  return (List.range count).map fun i => total / count + if i < total % count then 1 else 0

def giveOut : ℕ → List (ℕ × ℕ) → List ℕ → List ℕ
  | 0, _, allocated => allocated
  | _, [], allocated => allocated
  | leftover + 1, (_, index) :: remainders, allocated =>
    giveOut leftover remainders (allocated.modify index (· + 1))

def allocateProportional (sizes : List ℕ) (total : ℕ) : Except String (List ℕ) := do
  if sizes = [] then return []
  let minimum := sizes.length
  refuse (total < minimum) "tmux layout is too small for pane count"
  let sum := sizes.sum
  if sum = total ∧ sizes.all (0 < ·) = true then return sizes
  if sum = 0 then allocateEvenly sizes.length total
  else
    let remaining := total - minimum
    let allocated := sizes.map fun size => 1 + remaining * size / sum
    let remainders := sizes.zipIdx.map fun entry => (remaining * entry.1 % sum, entry.2)
    return giveOut (total - allocated.sum)
      (sortBy (fun left right => compareLex (compareOn Prod.fst) (compareOn Prod.snd) right left)
        remainders) allocated

mutual

def resizeLayoutCell : TmuxLayoutCell → LayoutFrame → Except String TmuxLayoutCell
  | .leaf _ paneId, frame => .ok (.leaf frame paneId)
  | .split axis _ paneId children, frame => do
    let total ← sizeWithoutBorders (frame.extent axis) children.length
    let sizes ← allocateProportional (children.map fun child => child.frame.extent axis) total
    let resized ← resizeChildren axis frame (frame.origin axis) children sizes
    return .split axis frame paneId resized

def resizeChildren (axis : LayoutAxis) (frame : LayoutFrame) :
    ℤ → List TmuxLayoutCell → List ℕ → Except String (List TmuxLayoutCell)
  | position, child :: children, size :: sizes => do
    let cell ← resizeLayoutCell child (frame.slice size position axis)
    let cells ← resizeChildren axis frame (position + size + 1) children sizes
    return cell :: cells
  | _, children, _ => .ok children

end

def layoutWithoutSidebar [LayoutJson] (layout sidebarPaneId : String) :
    Except String (Option String) := do
  let root ← parseTmuxLayout layout
  refuse (layoutContainsPane sidebarPaneId root = false)
    s!"sidebar pane {sidebarPaneId} not found in window layout"
  match removeLayoutPane sidebarPaneId root with
  | none => return none
  | some content =>
    let content ← resizeLayoutCell content ⟨root.frame.sx, root.frame.sy, 0, 0⟩
    return some (formatTmuxLayout content)

end VdeTmux.Sidebar
