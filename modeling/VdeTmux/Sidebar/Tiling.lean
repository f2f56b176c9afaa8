import VdeTmux.Sidebar.LayoutText

/-!
# The tiling that closing the sidebar leaves

A layout tiles its window when the children of each split fill it, one cell apart. What is left
without the sidebar tiles the window again exactly when every split finds room for its children.
-/

open Foundation Foundation.Apportion
namespace VdeTmux.Sidebar

/-! ## Tilings -/

def Fills (axis : LayoutAxis) (frame : LayoutFrame) : ℤ → List LayoutFrame → Prop
  | position, [] => position = frame.origin axis + frame.extent axis + 1
  | position, child :: children =>
    child = frame.slice (child.extent axis) position axis ∧
      Fills axis frame (position + child.extent axis + 1) children

inductive Tiling : TmuxLayoutCell → Prop
  | leaf {frame : LayoutFrame} {paneId : Option String} (hsize : ∀ axis, 0 < frame.extent axis) :
    Tiling (.leaf frame paneId)
  | split {axis : LayoutAxis} {frame : LayoutFrame} {paneId : Option String}
    {children : List TmuxLayoutCell} (hne : children ≠ [])
    (hfills : Fills axis frame (frame.origin axis) (children.map TmuxLayoutCell.frame))
    (hchildren : ∀ child ∈ children, Tiling child) : Tiling (.split axis frame paneId children)

/-- A tiled window of which every coordinate fits. -/
structure Window (root : TmuxLayoutCell) : Prop where
  tiling : Tiling root
  fits : ∀ axis, root.frame.extent axis ≤ i32Max

namespace LayoutFrame
variable (frame : LayoutFrame) (size : ℕ) (position : ℤ) (axis : LayoutAxis)

@[simp] theorem extent_slice :
    (frame.slice size position axis).extent = Function.update frame.extent axis size := by
  funext other
  cases axis <;> cases other <;> rfl

@[simp] theorem origin_slice :
    (frame.slice size position axis).origin = Function.update frame.origin axis position := by
  funext other
  cases axis <;> cases other <;> rfl

variable {frame size position axis}

theorem extent_slice_pos (h : ∀ axis, 0 < frame.extent axis) (hsize : 0 < size) (other : LayoutAxis) :
    0 < (frame.slice size position axis).extent other := by
  rw [extent_slice]
  by_cases hother : other = axis
  · subst hother
    simpa using hsize
  · simpa [hother] using h other

end LayoutFrame

theorem Fills.length {axis : LayoutAxis} {frame : LayoutFrame} {position : ℤ}
    {children : List LayoutFrame} (h : Fills axis frame position children) :
    position + ((children.map fun child => child.extent axis + 1).sum : ℕ) =
      frame.origin axis + frame.extent axis + 1 := by
  induction children generalizing position with
  | nil => simpa using (show position = _ from h)
  | cons child children ih =>
    have hrest := ih h.2
    simp only [List.map_cons, List.sum_cons]
    push_cast at hrest ⊢
    omega

theorem Fills.child {axis : LayoutAxis} {frame : LayoutFrame} {position : ℤ}
    {children : List LayoutFrame} (h : Fills axis frame position children) {child : LayoutFrame}
    (hchild : child ∈ children) : ∃ at', position ≤ at' ∧
      child = frame.slice (child.extent axis) at' axis ∧
      at' + child.extent axis ≤ frame.origin axis + frame.extent axis := by
  induction children generalizing position with
  | nil => cases hchild
  | cons first children ih =>
    rcases List.mem_cons.mp hchild with rfl | hmem
    · refine ⟨position, le_rfl, h.1, ?_⟩
      have hlength := h.2.length
      omega
    · obtain ⟨at', hat, hslice, hend⟩ := ih h.2 hmem
      exact ⟨at', by omega, hslice, hend⟩

theorem Tiling.extent_pos {cell : TmuxLayoutCell} (h : Tiling cell) :
    ∀ axis, 0 < cell.frame.extent axis := by
  induction h with
  | leaf hsize => exact hsize
  | @split axis frame paneId children hne hfills hchildren ih =>
    intro other
    have hframe : 0 < frame.extent other := by
      obtain ⟨child, hchild⟩ := List.exists_mem_of_ne_nil children hne
      obtain ⟨at', hat, hslice, hend⟩ := hfills.child (List.mem_map_of_mem hchild)
      have hpos := ih child hchild other
      by_cases hother : other = axis
      · subst hother
        omega
      · rw [hslice, LayoutFrame.extent_slice, Function.update_of_ne hother] at hpos
        exact hpos
    exact hframe

/-! ## Shapes -/

inductive LayoutShape
  | pane (paneId : Option String)
  | split (axis : LayoutAxis) (children : List LayoutShape)

namespace LayoutShape

mutual

def panes : LayoutShape → List (Option String)
  | pane paneId => [paneId]
  | split _ children => panesOf children

def panesOf : List LayoutShape → List (Option String)
  | [] => []
  | child :: children => child.panes ++ panesOf children

end

def collapse (axis : LayoutAxis) : List LayoutShape → Option LayoutShape
  | [] => none
  | [child] => some child
  | children => some (split axis children)

mutual

def without (removed : String) : LayoutShape → Option LayoutShape
  | pane paneId => if paneId = some removed then none else some (pane paneId)
  | split axis children => collapse axis (withoutOf removed children)

def withoutOf (removed : String) : List LayoutShape → List LayoutShape
  | [] => []
  | child :: children => (child.without removed).toList ++ withoutOf removed children

end

end LayoutShape

mutual

def shape : TmuxLayoutCell → LayoutShape
  | .leaf _ paneId => .pane paneId
  | .split axis _ _ children => .split axis (shapes children)

def shapes : List TmuxLayoutCell → List LayoutShape
  | [] => []
  | child :: children => shape child :: shapes children

end

theorem shapes_eq_map (cells : List TmuxLayoutCell) : shapes cells = cells.map shape := by
  induction cells with
  | nil => rfl
  | cons cell cells ih => rw [shapes, ih, List.map_cons]

theorem LayoutShape.panesOf_append (l l' : List LayoutShape) :
    panesOf (l ++ l') = panesOf l ++ panesOf l' := by
  induction l with
  | nil => rfl
  | cons child l ih => rw [List.cons_append, panesOf, panesOf, ih, List.append_assoc]

/-! ## Taking the sidebar out -/

variable {removed : String}

theorem shape_collapse (axis : LayoutAxis) (frame : LayoutFrame) (paneId : Option String)
    (children : List TmuxLayoutCell) :
    (collapseRemovedLayoutCell axis frame paneId children).map shape =
      LayoutShape.collapse axis (shapes children) := by
  cases children with
  | nil => rfl
  | cons child children => cases children <;> rfl

theorem removeChildren_shapes {children : List TmuxLayoutCell}
    (h : ∀ child ∈ children,
      (removeLayoutPane removed child).map shape = (shape child).without removed) :
    shapes (removeChildren removed children) = LayoutShape.withoutOf removed (shapes children) := by
  induction children with
  | nil => rfl
  | cons child children ih =>
    obtain ⟨hchild, hchildren⟩ := List.forall_mem_cons.mp h
    have hrest := ih hchildren
    simp only [shapes_eq_map] at hrest
    rw [removeChildren, shapes_eq_map, List.map_append, hrest, shapes, LayoutShape.withoutOf,
      ← hchild, shapes_eq_map]
    cases removeLayoutPane removed child <;> rfl

theorem shape_remove (cell : TmuxLayoutCell) :
    (removeLayoutPane removed cell).map shape = (shape cell).without removed := by
  induction cell using TmuxLayoutCell.cellInduction with
  | leaf frame paneId =>
    rw [removeLayoutPane, shape, LayoutShape.without]
    split_ifs <;> rfl
  | split axis frame paneId children ih =>
    rw [removeLayoutPane, shape, LayoutShape.without, shape_collapse, removeChildren_shapes ih]

namespace LayoutShape

@[elab_as_elim]
theorem shapeInduction {P : LayoutShape → Prop} (pane : ∀ paneId, P (.pane paneId))
    (split : ∀ axis children, (∀ child ∈ children, P child) → P (.split axis children))
    (shape : LayoutShape) : P shape := by
  refine LayoutShape.rec (motive_1 := P) (motive_2 := fun children => ∀ child ∈ children, P child)
    pane split ?_ ?_ shape
  · exact List.forall_mem_nil _
  · exact fun child children h hchildren => List.forall_mem_cons.mpr ⟨h, hchildren⟩

theorem panes_collapse (axis : LayoutAxis) (children : List LayoutShape) :
    ((collapse axis children).map panes).getD [] = panesOf children := by
  cases children with
  | nil => rfl
  | cons child children =>
    cases children with
    | nil => exact (List.append_nil _).symm
    | cons next children => rfl

theorem panesOf_without {children : List LayoutShape}
    (h : ∀ child ∈ children, ((child.without removed).map panes).getD [] =
      child.panes.filter (· ≠ some removed)) :
    panesOf (withoutOf removed children) = (panesOf children).filter (· ≠ some removed) := by
  induction children with
  | nil => rfl
  | cons child children ih =>
    obtain ⟨hchild, hchildren⟩ := List.forall_mem_cons.mp h
    rw [withoutOf, panesOf_append, ih hchildren, panesOf, List.filter_append, ← hchild]
    cases child.without removed with
    | none => rfl
    | some rest => exact congrArg (· ++ _) (List.append_nil _)

theorem panes_without (shape : LayoutShape) :
    ((shape.without removed).map panes).getD [] = shape.panes.filter (· ≠ some removed) := by
  induction shape using shapeInduction with
  | pane paneId =>
    rw [without, panes]
    split_ifs with h
    · simp [h]
    · simp [panes, h]
  | split axis children ih => rw [without, panes_collapse, panesOf_without ih, panes]

end LayoutShape

theorem panes_remove {cell content : TmuxLayoutCell} (h : removeLayoutPane removed cell = some content) :
    (shape content).panes = (shape cell).panes.filter (· ≠ some removed) := by
  rw [← LayoutShape.panes_without, ← shape_remove, h]
  rfl

theorem remove_some {cell : TmuxLayoutCell} {paneId : Option String}
    (hpane : paneId ∈ (shape cell).panes) (hother : paneId ≠ some removed) :
    ∃ content, removeLayoutPane removed cell = some content := by
  cases h : removeLayoutPane removed cell with
  | some content => exact ⟨content, rfl⟩
  | none =>
    have hpanes : (((shape cell).without removed).map LayoutShape.panes).getD [] =
        (shape cell).panes.filter (· ≠ some removed) := LayoutShape.panes_without _
    rw [← shape_remove, h] at hpanes
    have hmem : paneId ∈ (shape cell).panes.filter (· ≠ some removed) :=
      List.mem_filter.mpr ⟨hpane, by simpa using hother⟩
    rw [← hpanes] at hmem
    cases hmem

theorem contains_of_mem {cell : TmuxLayoutCell} (h : some removed ∈ (shape cell).panes) :
    layoutContainsPane removed cell = true := by
  induction cell using TmuxLayoutCell.cellInduction with
  | leaf frame paneId =>
    have hpane : some removed = paneId := by simpa [shape, LayoutShape.panes] using h
    rw [layoutContainsPane, ← hpane]
    exact decide_eq_true rfl
  | split axis frame paneId children ih =>
    rw [layoutContainsPane]
    rw [shape, LayoutShape.panes] at h
    clear axis frame paneId
    induction children with
    | nil => cases h
    | cons child children ihl =>
      obtain ⟨hchild, hchildren⟩ := List.forall_mem_cons.mp ih
      rw [shapes, LayoutShape.panesOf] at h
      rw [anyContainsPane, Bool.or_eq_true]
      rcases List.mem_append.mp h with h | h
      · exact Or.inl (hchild h)
      · exact Or.inr (ihl hchildren h)

/-! What taking a pane out keeps of every cell. -/

theorem remove_keeps {P : TmuxLayoutCell → Prop}
    (hsub : ∀ axis frame paneId children, P (.split axis frame paneId children) →
      ∀ child ∈ children, P child)
    (hsplit : ∀ axis frame paneId children children', P (.split axis frame paneId children) →
      children' ≠ [] → (∀ child ∈ children', P child) → P (.split axis frame paneId children'))
    {cell : TmuxLayoutCell} (h : P cell) :
    ∀ content, removeLayoutPane removed cell = some content → P content := by
  induction cell using TmuxLayoutCell.cellInduction with
  | leaf frame paneId =>
    intro content hcontent
    rw [removeLayoutPane] at hcontent
    split_ifs at hcontent
    cases hcontent
    exact h
  | split axis frame paneId children ih =>
    intro content hcontent
    have hchildren : ∀ child ∈ removeChildren removed children, P child := by
      have hkept := hsub axis frame paneId children h
      clear hcontent h
      induction children with
      | nil => exact fun _ => nofun
      | cons child children ihl =>
        obtain ⟨hchild, hrest⟩ := List.forall_mem_cons.mp ih
        obtain ⟨hkeptChild, hkeptRest⟩ := List.forall_mem_cons.mp hkept
        rw [removeChildren]
        refine List.forall_mem_append.mpr ⟨fun content hmem => ?_, ihl hrest hkeptRest⟩
        exact hchild hkeptChild content (Option.mem_toList.mp hmem)
    rw [removeLayoutPane] at hcontent
    generalize removeChildren removed children = left at hcontent hchildren
    cases left with
    | nil => cases hcontent
    | cons child left =>
      cases left with
      | nil =>
        cases hcontent
        exact hchildren _ (List.mem_singleton_self _)
      | cons next left =>
        cases hcontent
        exact hsplit axis frame paneId children _ h (List.cons_ne_nil _ _) hchildren

inductive Sized : TmuxLayoutCell → Prop
  | leaf {frame : LayoutFrame} {paneId : Option String} (hsize : ∀ axis, 0 < frame.extent axis) :
    Sized (.leaf frame paneId)
  | split {axis : LayoutAxis} {frame : LayoutFrame} {paneId : Option String}
    {children : List TmuxLayoutCell} (hsize : ∀ axis, 0 < frame.extent axis) (hne : children ≠ [])
    (hchildren : ∀ child ∈ children, Sized child) : Sized (.split axis frame paneId children)

theorem Sized.extent_pos {cell : TmuxLayoutCell} (h : Sized cell) :
    ∀ axis, 0 < cell.frame.extent axis := by
  cases h with
  | leaf hsize => exact hsize
  | split hsize => exact hsize

theorem Tiling.sized {cell : TmuxLayoutCell} (h : Tiling cell) : Sized cell := by
  induction h with
  | leaf hsize => exact .leaf hsize
  | @split axis frame paneId children hne hfills hchildren ih =>
    have htiling : Tiling (.split axis frame paneId children) := .split hne hfills hchildren
    exact .split htiling.extent_pos hne ih

theorem sized_remove {cell content : TmuxLayoutCell} (h : Sized cell)
    (hcontent : removeLayoutPane removed cell = some content) : Sized content := by
  refine remove_keeps ?_ ?_ h content hcontent
  · intro axis frame paneId children h
    cases h with
    | split hsize hne hchildren => exact hchildren
  · intro axis frame paneId children children' h hne' hchildren'
    cases h with
    | split hsize => exact .split hsize hne' hchildren'

theorem named_remove {cell content : TmuxLayoutCell} (h : Named cell)
    (hcontent : removeLayoutPane removed cell = some content) : Named content := by
  refine remove_keeps ?_ ?_ h content hcontent
  · intro axis frame paneId children h
    cases h with
    | split hid hchildren => exact hchildren
  · intro axis frame paneId children children' h _ hchildren'
    cases h with
    | split hid => exact .split hid hchildren'

/-! ## Stretching -/

/-- The sizes that children share so many cells by: their own when these add up, and otherwise one
cell each and the others by largest remainders. -/
def childSizes (sizes : List ℕ) (total : ℕ) : List ℕ :=
  if sizes.sum = total then sizes else (shares sizes (total - sizes.length)).map (1 + ·)

theorem sum_pos_of_forall {sizes : List ℕ} (hne : sizes ≠ []) (hpos : ∀ size ∈ sizes, 0 < size) :
    0 < sizes.sum := by
  obtain ⟨size, hsize⟩ := List.exists_mem_of_ne_nil sizes hne
  exact (hpos size hsize).trans_le (List.le_sum_of_mem hsize)

theorem length_childSizes (sizes : List ℕ) (total : ℕ) :
    (childSizes sizes total).length = sizes.length := by
  unfold childSizes
  split_ifs <;> simp

theorem childSizes_pos {sizes : List ℕ} {total : ℕ} (hpos : ∀ size ∈ sizes, 0 < size) :
    ∀ size ∈ childSizes sizes total, 0 < size := by
  unfold childSizes
  split_ifs
  · exact hpos
  · intro size hsize
    obtain ⟨share, -, rfl⟩ := List.mem_map.mp hsize
    omega

theorem sum_map_succ (l : List ℕ) : (l.map (1 + ·)).sum = l.length + l.sum := by
  induction l with
  | nil => rfl
  | cons n l ih =>
    simp only [List.map_cons, List.sum_cons, List.length_cons, ih]
    omega

theorem sum_childSizes {sizes : List ℕ} {total : ℕ} (hne : sizes ≠ [])
    (hpos : ∀ size ∈ sizes, 0 < size) (htotal : sizes.length ≤ total) :
    (childSizes sizes total).sum = total := by
  unfold childSizes
  split_ifs with h
  · exact h
  · rw [sum_map_succ, length_shares, sum_shares (sum_pos_of_forall hne hpos)]
    omega

theorem giveOut_eq (leftover : ℕ) (remainders : List (ℕ × ℕ)) (allocated : List ℕ) :
    giveOut leftover remainders allocated =
      raise ((remainders.take leftover).map Prod.snd) allocated := by
  induction remainders generalizing leftover allocated with
  | nil => cases leftover <;> rfl
  | cons entry remainders ih =>
    cases leftover with
    | zero => rfl
    | succ leftover => rw [giveOut, ih, List.take_succ_cons, List.map_cons, raise_cons]

theorem allocateProportional_eq {sizes : List ℕ} {total : ℕ} (hne : sizes ≠ [])
    (hpos : ∀ size ∈ sizes, 0 < size) (htotal : sizes.length ≤ total) :
    allocateProportional sizes total = .ok (childSizes sizes total) := by
  have hsum := sum_pos_of_forall hne hpos
  have hall : sizes.all (0 < ·) = true :=
    List.all_eq_true.mpr fun size hsize => decide_eq_true (hpos size hsize)
  have hmin : ¬total < sizes.length := Nat.not_lt.mpr htotal
  unfold allocateProportional childSizes
  rw [if_neg hne]
  simp only [refuse, hmin, if_false, bind, Except.bind]
  by_cases hsame : sizes.sum = total
  · rw [if_pos ⟨hsame, hall⟩, if_pos hsame]
    rfl
  · rw [if_neg (fun h => hsame h.1), if_neg hsame]
    dsimp only [pure, Except.pure]
    rw [if_neg hsum.ne']
    -- the floors with one cell each use up all cells but the ones left over
    have hused : (sizes.map fun size => 1 + (total - sizes.length) * size / sizes.sum).sum =
        sizes.length + (sizes.map (Apportion.floor sizes (total - sizes.length))).sum := by
      have hmap := sum_map_succ (sizes.map (Apportion.floor sizes (total - sizes.length)))
      rw [List.map_map, List.length_map] at hmap
      exact hmap
    have hleft : total - (sizes.map fun size =>
        1 + (total - sizes.length) * size / sizes.sum).sum =
          leftover sizes (total - sizes.length) := by
      rw [hused, leftover]
      omega
    have hraise := @raise_map sizes (total - sizes.length)
      (fun size => 1 + (total - sizes.length) * size / sizes.sum)
      (leftover sizes (total - sizes.length))
    rw [hleft, giveOut_eq]
    refine congrArg Except.ok (hraise.trans ?_)
    rw [shares, List.map_map]
    refine List.map_congr_left fun entry _ => ?_
    simp only [Function.comp, share, Apportion.floor]
    omega

mutual

/-- Every split of the layout gets at least one cell for each child and each border between
children, when the layout gets a frame of this size. -/
def Roomy : TmuxLayoutCell → (LayoutAxis → ℕ) → Prop
  | .leaf _ _, _ => True
  | .split axis _ _ children, extent =>
    2 * children.length ≤ extent axis + 1 ∧
      RoomyAll axis extent children (childSizes (children.map fun child => child.frame.extent axis)
        (extent axis + 1 - children.length))

def RoomyAll (axis : LayoutAxis) (extent : LayoutAxis → ℕ) :
    List TmuxLayoutCell → List ℕ → Prop
  | child :: children, size :: sizes =>
    Roomy child (Function.update extent axis size) ∧ RoomyAll axis extent children sizes
  | _, _ => True

end

structure Stretched (cell : TmuxLayoutCell) (frame : LayoutFrame) (result : TmuxLayoutCell) :
    Prop where
  tiling : Tiling result
  frame : result.frame = frame
  shape : shape result = shape cell
  named : Named cell → Named result

structure StretchedAll (axis : LayoutAxis) (frame : LayoutFrame) (position : ℤ)
    (children : List TmuxLayoutCell) (sizes : List ℕ) (results : List TmuxLayoutCell) : Prop where
  tiling : ∀ result ∈ results, Tiling result
  extents : results.map (fun result => result.frame.extent axis) = sizes
  fills : position + ((sizes.map (· + 1)).sum : ℕ) = frame.origin axis + frame.extent axis + 1 →
    Fills axis frame position (results.map TmuxLayoutCell.frame)
  shapes : shapes results = shapes children
  named : (∀ child ∈ children, Named child) → ∀ result ∈ results, Named result

theorem resizeChildren_iff {axis : LayoutAxis} {frame : LayoutFrame} {children : List TmuxLayoutCell}
    {sizes : List ℕ} {position : ℤ} (hframe : ∀ axis, 0 < frame.extent axis)
    (hlength : sizes.length = children.length) (hsizes : ∀ size ∈ sizes, 0 < size)
    (hcells : ∀ child ∈ children, ∀ frame, (∀ axis, 0 < frame.extent axis) →
      ((∃ result, resizeLayoutCell child frame = .ok result) ↔ Roomy child frame.extent) ∧
        ∀ result, resizeLayoutCell child frame = .ok result → Stretched child frame result) :
    ((∃ results, resizeChildren axis frame position children sizes = .ok results) ↔
        RoomyAll axis frame.extent children sizes) ∧
      ∀ results, resizeChildren axis frame position children sizes = .ok results →
        StretchedAll axis frame position children sizes results := by
  induction children generalizing sizes position with
  | nil =>
    obtain rfl := List.eq_nil_of_length_eq_zero hlength
    rw [resizeChildren]
    · refine ⟨⟨fun _ => trivial, fun _ => ⟨[], rfl⟩⟩, fun results hresults => ?_⟩
      cases hresults
      refine ⟨List.forall_mem_nil _, rfl, fun hend => ?_, rfl, fun _ result hresult => ?_⟩
      · simpa [Fills] using hend
      · cases hresult
    · exact fun _ _ _ _ h => by cases h
  | cons child children ih =>
    cases sizes with
    | nil => cases hlength
    | cons size sizes =>
      obtain ⟨hchild, hchildren⟩ := List.forall_mem_cons.mp hcells
      obtain ⟨hsize, hsizes⟩ := List.forall_mem_cons.mp hsizes
      have hslice : ∀ other, 0 < (frame.slice size position axis).extent other :=
        LayoutFrame.extent_slice_pos hframe hsize
      obtain ⟨hokChild, hstretched⟩ := hchild (frame.slice size position axis) hslice
      obtain ⟨hokRest, hrest⟩ := ih (Nat.succ.inj hlength) hsizes hchildren
      rw [LayoutFrame.extent_slice] at hokChild
      rw [resizeChildren, RoomyAll, ← hokChild, ← hokRest]
      constructor
      · constructor
        · rintro ⟨results, h⟩
          obtain ⟨cell, hcell, h⟩ := bind_eq_ok.mp h
          obtain ⟨cells, hcells, -⟩ := bind_eq_ok.mp h
          exact ⟨⟨cell, hcell⟩, ⟨cells, hcells⟩⟩
        · rintro ⟨⟨cell, hcell⟩, ⟨cells, hcells⟩⟩
          exact ⟨cell :: cells, bind_eq_ok.mpr ⟨cell, hcell, bind_eq_ok.mpr ⟨cells, hcells, rfl⟩⟩⟩
      · intro results h
        obtain ⟨cell, hcell, h⟩ := bind_eq_ok.mp h
        obtain ⟨cells, hcells, h⟩ := bind_eq_ok.mp h
        cases h
        have hfirst := hstretched cell hcell
        have hothers := hrest cells hcells
        have hextent : cell.frame.extent axis = size := by
          rw [hfirst.frame, LayoutFrame.extent_slice, Function.update_self]
        refine ⟨List.forall_mem_cons.mpr ⟨hfirst.tiling, hothers.tiling⟩, ?_, fun hend => ?_, ?_,
          fun hnamed => ?_⟩
        · rw [List.map_cons, hextent, hothers.extents]
        · refine ⟨by rw [hextent]; exact hfirst.frame, ?_⟩
          rw [hextent]
          refine hothers.fills ?_
          simp only [List.map_cons, List.sum_cons] at hend
          push_cast at hend ⊢
          omega
        · rw [VdeTmux.Sidebar.shapes, VdeTmux.Sidebar.shapes, hfirst.shape, hothers.shapes]
        · obtain ⟨hnamedChild, hnamedRest⟩ := List.forall_mem_cons.mp hnamed
          exact List.forall_mem_cons.mpr ⟨hfirst.named hnamedChild, hothers.named hnamedRest⟩

theorem sizeWithoutBorders_eq_ok {size count total : ℕ} :
    sizeWithoutBorders size count = .ok total ↔
      count ≠ 0 ∧ count - 1 < size ∧ total = size - (count - 1) := by
  unfold sizeWithoutBorders
  rw [seq_eq_ok, seq_eq_ok, refuse_eq_ok, refuse_eq_ok, pure_eq_ok, Nat.not_le, eq_comm (a := total)]

theorem allocateProportional_error {sizes : List ℕ} {total : ℕ} (hne : sizes ≠ [])
    (htotal : total < sizes.length) (result : List ℕ) :
    allocateProportional sizes total ≠ .ok result := by
  intro h
  unfold allocateProportional at h
  rw [if_neg hne] at h
  obtain ⟨hrefused, -⟩ := seq_eq_ok.mp h
  exact refuse_eq_ok.mp hrefused htotal

theorem resize_iff {cell : TmuxLayoutCell} (hsized : Sized cell) : ∀ frame : LayoutFrame,
    (∀ axis, 0 < frame.extent axis) →
      ((∃ result, resizeLayoutCell cell frame = .ok result) ↔ Roomy cell frame.extent) ∧
        ∀ result, resizeLayoutCell cell frame = .ok result → Stretched cell frame result := by
  induction cell using TmuxLayoutCell.cellInduction with
  | leaf frame paneId =>
    intro target htarget
    rw [resizeLayoutCell]
    refine ⟨⟨fun _ => trivial, fun _ => ⟨_, rfl⟩⟩, fun result h => ?_⟩
    cases h
    refine ⟨.leaf htarget, rfl, rfl, fun hnamed => ?_⟩
    cases hnamed with
    | leaf hid => exact .leaf hid
  | split axis frame paneId children ih =>
    cases hsized with
    | split hsize hne hchildren =>
      intro target htarget
      let sizes := children.map fun child => child.frame.extent axis
      have hsizesNe : sizes ≠ [] := by simpa [sizes] using hne
      have hcount : 0 < children.length := List.length_pos_of_ne_nil hne
      have hsizesPos : ∀ size ∈ sizes, 0 < size := by
        intro size hsize
        obtain ⟨child, hchild, rfl⟩ := List.mem_map.mp hsize
        exact (hchildren child hchild).extent_pos axis
      have hlength : sizes.length = children.length := List.length_map _
      by_cases hroom : 2 * children.length ≤ target.extent axis + 1
      · have htotal : sizes.length ≤ target.extent axis + 1 - children.length := by omega
        have hborders : sizeWithoutBorders (target.extent axis) children.length =
            .ok (target.extent axis + 1 - children.length) := by
          refine sizeWithoutBorders_eq_ok.mpr ⟨by omega, by omega, by omega⟩
        have hallocated := allocateProportional_eq hsizesNe hsizesPos htotal
        obtain ⟨hok, hall⟩ := @resizeChildren_iff axis target children
          (childSizes sizes (target.extent axis + 1 - children.length)) (target.origin axis) htarget
          ((length_childSizes sizes _).trans hlength) (childSizes_pos hsizesPos)
          fun child hchild => ih child hchild (hchildren child hchild)
        have hresize : resizeLayoutCell (.split axis frame paneId children) target =
            resizeChildren axis target (target.origin axis) children
              (childSizes sizes (target.extent axis + 1 - children.length)) >>=
                fun resized => .ok (.split axis target paneId resized) := by
          rw [resizeLayoutCell, hborders]
          simp only [bind, Except.bind]
          rw [hallocated]
          rfl
        rw [hresize, Roomy]
        constructor
        · rw [← hok]
          constructor
          · rintro ⟨result, h⟩
            obtain ⟨resized, hresized, -⟩ := bind_eq_ok.mp h
            exact ⟨hroom, resized, hresized⟩
          · rintro ⟨-, resized, hresized⟩
            exact ⟨_, bind_eq_ok.mpr ⟨resized, hresized, rfl⟩⟩
        · intro result h
          obtain ⟨resized, hresized, h⟩ := bind_eq_ok.mp h
          cases h
          have hstretched := hall resized hresized
          have hcountResized : resized.length = children.length := by
            have := congrArg List.length hstretched.extents
            rw [List.length_map, length_childSizes, hlength] at this
            exact this
          refine ⟨.split ?_ (hstretched.fills ?_) hstretched.tiling, rfl, ?_, fun hnamed => ?_⟩
          · exact List.ne_nil_of_length_pos (by omega)
          · have hsum := sum_childSizes hsizesNe hsizesPos htotal
            have hsucc := sum_map_succ
              (childSizes sizes (target.extent axis + 1 - children.length))
            rw [length_childSizes, hsum, hlength] at hsucc
            simp only [Nat.add_comm 1] at hsucc
            rw [hsucc]
            push_cast
            omega
          · rw [shape, shape, hstretched.shapes]
          · cases hnamed with
            | split hid hnamed => exact .split hid (hstretched.named hnamed)
      · have hfail : ∀ result, resizeLayoutCell (.split axis frame paneId children) target ≠
            .ok result := by
          intro result h
          rw [resizeLayoutCell] at h
          obtain ⟨total, hborders, h⟩ := bind_eq_ok.mp h
          obtain ⟨allocated, hallocated, -⟩ := bind_eq_ok.mp h
          obtain ⟨-, hlt, rfl⟩ := sizeWithoutBorders_eq_ok.mp hborders
          exact allocateProportional_error hsizesNe (by omega) _ hallocated
        refine ⟨⟨fun ⟨result, h⟩ => absurd h (hfail result), fun h => ?_⟩, fun result h =>
          absurd h (hfail result)⟩
        rw [Roomy] at h
        exact absurd h.1 hroom

/-! ## Reading the result back -/

theorem Tiling.printable {cell : TmuxLayoutCell} (h : Tiling cell) (hnamed : Named cell)
    (hwithin : ∀ axis, 0 ≤ cell.frame.origin axis ∧
      cell.frame.origin axis + cell.frame.extent axis ≤ i32Max) : Printable cell := by
  have hfits (frame : LayoutFrame) (hwithin : ∀ axis, 0 ≤ frame.origin axis ∧
      frame.origin axis + frame.extent axis ≤ i32Max) : frame.Fits := by
    obtain ⟨hx, hwidth⟩ := hwithin .leftRight
    obtain ⟨hy, hheight⟩ := hwithin .topBottom
    simp only [LayoutFrame.origin, LayoutFrame.extent, i32Max] at hx hwidth hy hheight
    constructor <;> simp only [u32Max, i32Max] <;> omega
  induction h with
  | leaf hsize =>
    cases hnamed with
    | leaf hid => exact .leaf (hfits _ hwithin) hid
  | @split axis frame paneId children hne hfills hchildren ih =>
    cases hnamed with
    | split hid hnamed =>
      refine .split (hfits _ hwithin) hid hne fun child hchild =>
        ih child hchild (hnamed child hchild) fun other => ?_
      obtain ⟨at', hat, hslice, hend⟩ := hfills.child (List.mem_map_of_mem hchild)
      have hparent : 0 ≤ frame.origin other ∧ frame.origin other + frame.extent other ≤ i32Max :=
        hwithin other
      by_cases hother : other = axis
      · subst hother
        rw [hslice, LayoutFrame.origin_slice, LayoutFrame.extent_slice, Function.update_self,
          Function.update_self]
        omega
      · rw [hslice, LayoutFrame.origin_slice, LayoutFrame.extent_slice,
          Function.update_of_ne hother, Function.update_of_ne hother]
        exact hparent

/-! ## Closing the sidebar -/

section
variable [LayoutJson] {layout sidebarPaneId : String} {root content : TmuxLayoutCell}

/-- Closing the sidebar leaves a valid tiling of the same window by the other panes. -/
def KeepsTiling (layout sidebarPaneId : String) (root : TmuxLayoutCell) : Prop :=
  ∃ text content, layoutWithoutSidebar layout sidebarPaneId = .ok (some text) ∧
    parseTmuxLayout text = .ok content ∧ Tiling content ∧
    content.frame = ⟨root.frame.sx, root.frame.sy, 0, 0⟩ ∧
    (shape root).without sidebarPaneId = some (shape content) ∧
    (shape content).panes = (shape root).panes.filter (· ≠ some sidebarPaneId)

/-- Every split of what is left without the sidebar finds room for its children. -/
def HasRoom (sidebarPaneId : String) (root : TmuxLayoutCell) : Prop :=
  ∀ content, removeLayoutPane sidebarPaneId root = some content → Roomy content root.frame.extent

/-- The window of the layout from its upper left corner. -/
def window (root : TmuxLayoutCell) : LayoutFrame := ⟨root.frame.sx, root.frame.sy, 0, 0⟩

omit [LayoutJson] in
theorem extent_window (root : TmuxLayoutCell) : (window root).extent = root.frame.extent := by
  funext axis
  cases axis <;> rfl

omit [LayoutJson] in
theorem origin_window (root : TmuxLayoutCell) (axis : LayoutAxis) : (window root).origin axis = 0 := by
  cases axis <;> rfl

theorem layoutWithoutSidebar_eq_ok (hparse : parseTmuxLayout layout = .ok root)
    (hsidebar : some sidebarPaneId ∈ (shape root).panes)
    (hcontent : removeLayoutPane sidebarPaneId root = some content) {text : String} :
    layoutWithoutSidebar layout sidebarPaneId = .ok (some text) ↔
      ∃ cell, resizeLayoutCell content (window root) = .ok cell ∧ formatTmuxLayout cell = text := by
  have hcontains := contains_of_mem hsidebar
  rw [layoutWithoutSidebar, hparse]
  simp only [bind, Except.bind, refuse, hcontains, Bool.true_eq_false, if_false, hcontent]
  have hwindow : (⟨root.frame.sx, root.frame.sy, 0, 0⟩ : LayoutFrame) = window root := rfl
  rw [hwindow]
  cases resizeLayoutCell content (window root) with
  | error e => simp
  | ok cell => simp

theorem keepsTiling_of_resized (hparse : parseTmuxLayout layout = .ok root) (hwindow : Window root)
    (hsidebar : some sidebarPaneId ∈ (shape root).panes)
    (hcontent : removeLayoutPane sidebarPaneId root = some content) {cell : TmuxLayoutCell}
    (hcell : resizeLayoutCell content (window root) = .ok cell) :
    KeepsTiling layout sidebarPaneId root := by
  have hpos : ∀ axis, 0 < (window root).extent axis := by
    rw [extent_window]
    exact hwindow.tiling.extent_pos
  have hsized := sized_remove hwindow.tiling.sized hcontent
  have hstretched := (resize_iff hsized (window root) hpos).2 cell hcell
  have hnamed := hstretched.named (named_remove (parseTmuxLayout_named hparse) hcontent)
  have hprintable : Printable cell := by
    refine hstretched.tiling.printable hnamed fun axis => ?_
    rw [hstretched.frame, origin_window, extent_window]
    have hfits := hwindow.fits axis
    omega
  refine ⟨formatTmuxLayout cell, cell,
    (layoutWithoutSidebar_eq_ok hparse hsidebar hcontent).mpr ⟨cell, hcell, rfl⟩,
    parse_formatTmuxLayout hprintable, hstretched.tiling, hstretched.frame, ?_, ?_⟩
  · rw [← shape_remove, hcontent, hstretched.shape]
    rfl
  · rw [hstretched.shape, panes_remove hcontent]

theorem keepsTiling_room (hparse : parseTmuxLayout layout = .ok root) (hwindow : Window root)
    (hsidebar : some sidebarPaneId ∈ (shape root).panes) (hkeeps : KeepsTiling layout sidebarPaneId root) :
    HasRoom sidebarPaneId root := by
  intro content hcontent
  obtain ⟨text, _, htext, -⟩ := hkeeps
  obtain ⟨cell, hcell, -⟩ := (layoutWithoutSidebar_eq_ok hparse hsidebar hcontent).mp htext
  have hpos : ∀ axis, 0 < (window root).extent axis := by
    rw [extent_window]
    exact hwindow.tiling.extent_pos
  have hroom := (resize_iff (sized_remove hwindow.tiling.sized hcontent) (window root) hpos).1.mp
    ⟨cell, hcell⟩
  rwa [extent_window] at hroom

/-- Closing the sidebar of a tiled window keeps a valid tiling exactly when there is room. -/
theorem closing_keeps_tiling (hparse : parseTmuxLayout layout = .ok root) (hwindow : Window root)
    (hsidebar : some sidebarPaneId ∈ (shape root).panes)
    (hother : ∃ paneId ∈ (shape root).panes, paneId ≠ some sidebarPaneId) :
    KeepsTiling layout sidebarPaneId root ↔ HasRoom sidebarPaneId root := by
  refine ⟨keepsTiling_room hparse hwindow hsidebar, fun hroom => ?_⟩
  obtain ⟨paneId, hpane, hne⟩ := hother
  obtain ⟨content, hcontent⟩ := remove_some hpane hne
  have hpos : ∀ axis, 0 < (window root).extent axis := by
    rw [extent_window]
    exact hwindow.tiling.extent_pos
  have hresize := (resize_iff (sized_remove hwindow.tiling.sized hcontent) (window root) hpos).1
  rw [extent_window] at hresize
  obtain ⟨cell, hcell⟩ := hresize.mpr (hroom content hcontent)
  exact keepsTiling_of_resized hparse hwindow hsidebar hcontent hcell

end

namespace Crowded

@[reducible] def json : LayoutJson := ⟨fun _ => none⟩

def pane (sx sy : ℕ) (xoff yoff : ℤ) (paneId : String) : TmuxLayoutCell :=
  .leaf ⟨sx, sy, xoff, yoff⟩ (some paneId)

def wide : TmuxLayoutCell :=
  .split .leftRight ⟨7, 1, 0, 0⟩ none [pane 1 1 0 0 "%9", pane 2 1 2 0 "%1", pane 2 1 5 0 "%2"]

/-- Next to a sidebar of one column, three panes in five columns above a fourth one, and three more
panes of one column. -/
def narrow : TmuxLayoutCell :=
  .split .leftRight ⟨13, 3, 0, 0⟩ none
    [pane 1 3 0 0 "%9",
      .split .topBottom ⟨5, 3, 2, 0⟩ none
        [.split .leftRight ⟨5, 1, 2, 0⟩ none
          [pane 1 1 2 0 "%1", pane 1 1 4 0 "%2", pane 1 1 6 0 "%3"],
        pane 5 1 2 2 "%4"],
      pane 1 3 8 0 "%5", pane 1 3 10 0 "%6", pane 1 3 12 0 "%7"]

theorem tiling_pane {sx sy : ℕ} {xoff yoff : ℤ} {paneId : String} (hsx : 0 < sx) (hsy : 0 < sy) :
    Tiling (pane sx sy xoff yoff paneId) :=
  .leaf fun axis => by cases axis <;> assumption

theorem named_pane {sx sy : ℕ} {xoff yoff : ℤ} {paneId : String}
    (h : validatePaneId paneId = .ok ()) : Named (pane sx sy xoff yoff paneId) :=
  .leaf (paneIdOk_validated h)

theorem window_wide : Window wide := by
  refine ⟨.split (List.cons_ne_nil _ _) ⟨rfl, rfl, rfl, rfl⟩ ?_, fun axis => ?_⟩
  · simp only [List.forall_mem_cons]
    exact ⟨tiling_pane (by decide) (by decide), tiling_pane (by decide) (by decide),
      tiling_pane (by decide) (by decide), List.forall_mem_nil _⟩
  · cases axis <;> decide

theorem named_wide : Named wide := by
  refine .split paneIdOk_none ?_
  simp only [List.forall_mem_cons]
  exact ⟨named_pane rfl, named_pane rfl, named_pane rfl, List.forall_mem_nil _⟩

theorem window_narrow : Window narrow := by
  refine ⟨.split (List.cons_ne_nil _ _) ⟨rfl, rfl, rfl, rfl, rfl, rfl⟩ ?_, fun axis => ?_⟩
  · simp only [List.forall_mem_cons]
    refine ⟨tiling_pane (by decide) (by decide), .split (List.cons_ne_nil _ _) ⟨rfl, rfl, rfl⟩ ?_,
      tiling_pane (by decide) (by decide), tiling_pane (by decide) (by decide),
      tiling_pane (by decide) (by decide), List.forall_mem_nil _⟩
    simp only [List.forall_mem_cons]
    refine ⟨.split (List.cons_ne_nil _ _) ⟨rfl, rfl, rfl, rfl⟩ ?_,
      tiling_pane (by decide) (by decide), List.forall_mem_nil _⟩
    simp only [List.forall_mem_cons]
    exact ⟨tiling_pane (by decide) (by decide), tiling_pane (by decide) (by decide),
      tiling_pane (by decide) (by decide), List.forall_mem_nil _⟩
  · cases axis <;> decide

theorem named_narrow : Named narrow := by
  refine .split paneIdOk_none ?_
  simp only [List.forall_mem_cons]
  refine ⟨named_pane rfl, .split paneIdOk_none ?_, named_pane rfl, named_pane rfl, named_pane rfl,
    List.forall_mem_nil _⟩
  simp only [List.forall_mem_cons]
  refine ⟨.split paneIdOk_none ?_, named_pane rfl, List.forall_mem_nil _⟩
  simp only [List.forall_mem_cons]
  exact ⟨named_pane rfl, named_pane rfl, named_pane rfl, List.forall_mem_nil _⟩

theorem parse_wide : @parseTmuxLayout json (formatTmuxLayout wide) = .ok wide :=
  @parse_formatTmuxLayout json _ (window_wide.tiling.printable named_wide fun axis => by
    cases axis <;> decide)

theorem parse_narrow : @parseTmuxLayout json (formatTmuxLayout narrow) = .ok narrow :=
  @parse_formatTmuxLayout json _ (window_narrow.tiling.printable named_narrow fun axis => by
    cases axis <;> decide)

theorem closing_keeps_tiling_wide :
    @KeepsTiling json (formatTmuxLayout wide) "%9" wide ↔ HasRoom "%9" wide :=
  @closing_keeps_tiling json _ _ _ parse_wide window_wide (by decide)
    ⟨some "%1", by decide, by decide⟩

theorem not_hasRoom_narrow : ¬HasRoom "%9" narrow := by
  intro h
  have hroom := h _ rfl
  have hsizes : childSizes [5, 1, 1, 1] 10 = [4, 2, 2, 2] := by decide
  have hheights : childSizes [1, 1] 2 = [1, 1] := by decide
  simp [removeChildren, removeLayoutPane, Roomy, RoomyAll, pane, TmuxLayoutCell.frame, narrow,
    LayoutFrame.extent, hsizes, hheights] at hroom

theorem narrow_fails :
    @parseTmuxLayout json (formatTmuxLayout narrow) = .ok narrow ∧ Window narrow ∧
      some "%9" ∈ (shape narrow).panes ∧ (∃ paneId ∈ (shape narrow).panes, paneId ≠ some "%9") ∧
      ¬@KeepsTiling json (formatTmuxLayout narrow) "%9" narrow :=
  ⟨parse_narrow, window_narrow, by decide, ⟨some "%1", by decide, by decide⟩, fun hkeeps =>
    not_hasRoom_narrow (@keepsTiling_room json _ _ _ parse_narrow window_narrow (by decide) hkeeps)⟩

end Crowded

end VdeTmux.Sidebar
