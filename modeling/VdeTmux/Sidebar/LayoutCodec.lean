import VdeTmux.Sidebar.LayoutText

/-!
# The layout codec

What the reader accepts can be written and is read back, and the two formats of one window are
read as the same layout.
-/

open Foundation Foundation.Text Foundation.Writer
namespace VdeTmux.Sidebar

def Checksummed (text : String) : Prop := (trimChars text.toList).head? ≠ some '{'

theorem printable_parsedTmuxLayout [LayoutJson] {text : String} {cell : TmuxLayoutCell}
    (htext : Checksummed text) (h : parseTmuxLayout text = .ok cell) : Printable cell := by
  rw [parseTmuxLayout] at h
  dsimp only at h
  rw [if_neg htext] at h
  obtain ⟨-, h⟩ := seq_eq_ok.mp h
  obtain ⟨⟨checksum, body⟩, -, h⟩ := bind_eq_ok.mp h
  obtain ⟨-, h⟩ := seq_eq_ok.mp h
  obtain ⟨expected, -, h⟩ := bind_eq_ok.mp h
  obtain ⟨-, h⟩ := seq_eq_ok.mp h
  obtain ⟨⟨root, rest⟩, hcell, h⟩ := bind_eq_ok.mp h
  obtain ⟨-, h⟩ := seq_eq_ok.mp h
  cases h
  exact (printable_parsed _).1 _ _ _ hcell

def LayoutAxis.kind : LayoutAxis → String
  | leftRight => "h"
  | topBottom => "v"

theorem LayoutAxis.kind_injective {axis axis' : LayoutAxis} (h : axis.kind = axis'.kind) :
    axis = axis' := by
  cases axis <;> cases axis' <;> first | rfl | exact absurd h (by decide)

mutual

/-- The object that says of a cell what the checksummed format says of it. -/
inductive Describes : JsonTmuxLayoutCell → TmuxLayoutCell → Prop
  | pane {frame : LayoutFrame} {id : String} :
    Describes (.mk frame.sx frame.sy frame.xoff frame.yoff (some id) "p" none none)
      (.leaf frame (some id))
  | split {axis : LayoutAxis} {frame : LayoutFrame} {jsons : List JsonTmuxLayoutCell}
      {cells : List TmuxLayoutCell} (children : DescribesAll jsons cells) :
    Describes (.mk frame.sx frame.sy frame.xoff frame.yoff none axis.kind (some jsons) none)
      (.split axis frame none cells)

inductive DescribesAll : List JsonTmuxLayoutCell → List TmuxLayoutCell → Prop
  | nil : DescribesAll [] []
  | cons {json : JsonTmuxLayoutCell} {cell : TmuxLayoutCell} {jsons : List JsonTmuxLayoutCell}
      {cells : List TmuxLayoutCell} (first : Describes json cell)
      (rest : DescribesAll jsons cells) : DescribesAll (json :: jsons) (cell :: cells)

end

/-- A cell of a window: panes have an id, splits have none and at least two parts. -/
inductive WindowCell : TmuxLayoutCell → Prop
  | pane {frame : LayoutFrame} {id : String} (hframe : frame.Fits) (hsx : 0 < frame.sx)
    (hsy : 0 < frame.sy) (hid : PaneIdOk (some id)) : WindowCell (.leaf frame (some id))
  | split {axis : LayoutAxis} {frame : LayoutFrame} {children : List TmuxLayoutCell}
    (hframe : frame.Fits) (hsx : 0 < frame.sx) (hsy : 0 < frame.sy) (hmany : 2 ≤ children.length)
    (hchildren : ∀ child ∈ children, WindowCell child) : WindowCell (.split axis frame none children)

theorem WindowCell.printable {cell : TmuxLayoutCell} (h : WindowCell cell) : Printable cell := by
  induction cell using TmuxLayoutCell.cellInduction with
  | leaf frame paneId =>
    cases h with
    | pane hframe hsx hsy hid => exact .leaf hframe hid
  | split axis frame paneId children ih =>
    cases h with
    | split hframe hsx hsy hmany hchildren =>
      refine .split hframe paneIdOk_none ?_ fun child hchild => ih child hchild (hchildren child hchild)
      rintro rfl
      exact absurd hmany (by decide)

theorem validatePaneId_ok {id : String} (h : PaneIdOk (some id)) : validatePaneId id = .ok () := by
  obtain ⟨number, hid, hne, hdigit⟩ := h id rfl
  unfold validatePaneId
  rw [hid]
  refine refuse_eq_ok.mpr ?_
  rintro (hnil | hall)
  · exact hne hnil
  · exact absurd (List.all_eq_true.mpr hdigit) (by simp [hall])

mutual

theorem describes_read : ∀ (json : JsonTmuxLayoutCell) (cell : TmuxLayoutCell),
    json.intoLayoutCell = .ok cell → Describes json cell
  | .mk sx sy xoff yoff paneId kind children floatingZindex, cell, h => by
    unfold JsonTmuxLayoutCell.intoLayoutCell at h
    rw [seq_eq_ok, seq_eq_ok, refuse_eq_ok] at h
    obtain ⟨hfloating, -, h⟩ := h
    obtain rfl : floatingZindex = none := by simpa using hfloating
    by_cases hpane : kind = "p"
    · rw [if_pos hpane] at h
      cases paneId with
      | none => cases h
      | some id =>
        dsimp only at h
        rw [seq_eq_ok, seq_eq_ok, refuse_eq_ok] at h
        obtain ⟨-, hchildren, h⟩ := h
        obtain rfl : children = none := by simpa using hchildren
        cases h
        subst hpane
        exact @Describes.pane ⟨sx, sy, xoff, yoff⟩ id
    rw [if_neg hpane] at h
    by_cases hsplit : kind = "h" ∨ kind = "v"
    · rw [if_pos hsplit] at h
      rw [seq_eq_ok, refuse_eq_ok] at h
      obtain ⟨hid, h⟩ := h
      obtain rfl : paneId = none := by simpa using hid
      cases children with
      | none => cases h
      | some children =>
        obtain ⟨-, h⟩ := seq_eq_ok.mp h
        obtain ⟨cells, hcells, h⟩ := bind_eq_ok.mp h
        cases h
        have hall := describes_reads children cells hcells
        rcases hsplit with rfl | rfl
        · exact @Describes.split .leftRight ⟨sx, sy, xoff, yoff⟩ children cells hall
        · exact @Describes.split .topBottom ⟨sx, sy, xoff, yoff⟩ children cells hall
    · rw [if_neg hsplit] at h
      cases h

theorem describes_reads : ∀ (jsons : List JsonTmuxLayoutCell) (cells : List TmuxLayoutCell),
    intoLayoutCells jsons = .ok cells → DescribesAll jsons cells
  | [], cells, h => by
    cases h
    exact .nil
  | json :: jsons, cells, h => by
    rw [intoLayoutCells] at h
    obtain ⟨cell, hcell, h⟩ := bind_eq_ok.mp h
    obtain ⟨rest, hrest, h⟩ := bind_eq_ok.mp h
    cases h
    exact .cons (describes_read json cell hcell) (describes_reads jsons rest hrest)

end

mutual

theorem Describes.unique : ∀ {json : JsonTmuxLayoutCell} {cell cell' : TmuxLayoutCell},
    Describes json cell → Describes json cell' → cell = cell'
  | _, .leaf ⟨_, _, _, _⟩ _, _, .pane, h' => by
    generalize hjson : JsonTmuxLayoutCell.mk _ _ _ _ _ _ _ _ = json at h'
    cases h' with
    | pane =>
      cases hjson
      rfl
    | split => cases hjson
  | _, .split _ ⟨_, _, _, _⟩ _ _, _, .split children, h' => by
    generalize hjson : JsonTmuxLayoutCell.mk _ _ _ _ _ _ _ _ = json at h'
    cases h' with
    | pane => cases hjson
    | split children' =>
      simp only [JsonTmuxLayoutCell.mk.injEq, Option.some_inj] at hjson
      obtain ⟨rfl, rfl, rfl, rfl, -, hkind, rfl, -⟩ := hjson
      rw [LayoutAxis.kind_injective hkind, children.unique children']

theorem DescribesAll.unique : ∀ {jsons : List JsonTmuxLayoutCell} {cells cells' : List TmuxLayoutCell},
    DescribesAll jsons cells → DescribesAll jsons cells' → cells = cells'
  | _, _, _, .nil, .nil => rfl
  | _, _, _, .cons first rest, .cons first' rest' => by
    rw [first.unique first', rest.unique rest']

end

theorem DescribesAll.length {jsons : List JsonTmuxLayoutCell} {cells : List TmuxLayoutCell}
    (h : DescribesAll jsons cells) : jsons.length = cells.length := by
  induction cells generalizing jsons with
  | nil =>
    cases h
    rfl
  | cons cell cells ih =>
    cases h with
    | cons first rest => exact congrArg (· + 1) (ih rest)

mutual

theorem read_described : ∀ {json : JsonTmuxLayoutCell} {cell : TmuxLayoutCell},
    Describes json cell → WindowCell cell → json.intoLayoutCell = .ok cell
  | _, _, .pane, h => by
    cases h with
    | pane hframe hsx hsy hid =>
      unfold JsonTmuxLayoutCell.intoLayoutCell
      rw [seq_eq_ok, seq_eq_ok, refuse_eq_ok, refuse_eq_ok, if_pos rfl]
      refine ⟨by simp, by omega, ?_⟩
      dsimp only
      rw [validatePaneId_ok hid]
      rfl
  | _, _, @Describes.split axis _ _ _ children, h => by
    cases h with
    | split hframe hsx hsy hmany hchildren =>
      have hreads := reads_described children hchildren
      have hlength := children.length
      have hkind : axis.kind ≠ "p" ∧ (axis.kind = "h" ∨ axis.kind = "v") ∧
          (if axis.kind = "h" then LayoutAxis.leftRight else .topBottom) = axis := by
        cases axis <;> decide
      unfold JsonTmuxLayoutCell.intoLayoutCell
      rw [seq_eq_ok, seq_eq_ok, refuse_eq_ok, refuse_eq_ok, if_neg hkind.1, if_pos hkind.2.1]
      refine ⟨by simp, by omega, ?_⟩
      dsimp only
      rw [seq_eq_ok, seq_eq_ok, refuse_eq_ok, refuse_eq_ok, hreads, hkind.2.2]
      exact ⟨by simp, by omega, rfl⟩

theorem reads_described : ∀ {jsons : List JsonTmuxLayoutCell} {cells : List TmuxLayoutCell},
    DescribesAll jsons cells → (∀ cell ∈ cells, WindowCell cell) → intoLayoutCells jsons = .ok cells
  | _, _, .nil, _ => rfl
  | _, _, .cons first rest, h => by
    obtain ⟨hfirst, hrest⟩ := List.forall_mem_cons.mp h
    rw [intoLayoutCells, read_described first hfirst, reads_described rest hrest]
    rfl

end

section
variable [LayoutJson]

/-- A layout in JSON, of the version that is supported. -/
def Decodes (text : String) (json : JsonTmuxLayoutCell) : Prop :=
  (trimChars text.toList).head? = some '{' ∧
    LayoutJson.fromStr (String.ofList (trimChars text.toList)) = some ⟨2, json⟩

theorem parseTmuxLayout_json {text : String} {json : JsonTmuxLayoutCell} (h : Decodes text json) :
    parseTmuxLayout text = json.intoLayoutCell := by
  obtain ⟨hbrace, hjson⟩ := h
  rw [parseTmuxLayout]
  dsimp only
  rw [if_pos hbrace, parseJsonTmuxLayout, hjson]
  rfl

/-- What is written is read back, what is read can be written, and a window is read the same from
either format. -/
theorem layout_codec :
    (∀ cell, Printable cell → parseTmuxLayout (formatTmuxLayout cell) = .ok cell) ∧
    (∀ text cell, Checksummed text → parseTmuxLayout text = .ok cell →
      parseTmuxLayout (formatTmuxLayout cell) = .ok cell) ∧
    (∀ text json cell, Decodes text json → Describes json cell → WindowCell cell →
      parseTmuxLayout text = .ok cell ∧ parseTmuxLayout (formatTmuxLayout cell) = .ok cell) ∧
    ∀ text json cell text' cell', Decodes text json → parseTmuxLayout text = .ok cell →
      Checksummed text' → parseTmuxLayout text' = .ok cell' → Describes json cell' →
        cell = cell' := by
  refine ⟨fun cell hcell => parse_formatTmuxLayout hcell, ?_, ?_, ?_⟩
  · intro text cell htext hparse
    exact parse_formatTmuxLayout (printable_parsedTmuxLayout htext hparse)
  · intro text json cell htext hjson hcell
    refine ⟨?_, parse_formatTmuxLayout hcell.printable⟩
    rw [parseTmuxLayout_json htext]
    exact read_described hjson hcell
  · intro text json cell text' cell' htext hparse _ _ hdescribes
    rw [parseTmuxLayout_json htext] at hparse
    exact (describes_read json cell hparse).unique hdescribes

end

def unnamedFirst : TmuxLayoutCell :=
  .split .topBottom ⟨80, 24, 0, 0⟩ (some "%7")
    [.leaf ⟨80, 12, 0, 0⟩ none, .leaf ⟨80, 11, -3, 13⟩ (some "%1")]

def twoPanes : TmuxLayoutCell :=
  .split .leftRight ⟨80, 24, 0, 0⟩ none
    [.leaf ⟨40, 24, 0, 0⟩ (some "%1"), .leaf ⟨39, 24, 41, 0⟩ (some "%2")]

def twoPanesText : String := "020a,80x24,0,0\x7b40x24,0,0,1,39x24,41,0,2\x7d"

def twoPanesJson : JsonTmuxLayoutCell :=
  .mk 80 24 0 0 none "h" (some [.mk 40 24 0 0 (some "%1") "p" none none,
    .mk 39 24 41 0 (some "%2") "p" none none]) none

@[reducible] def oneWindow : LayoutJson := ⟨fun _ => some ⟨2, twoPanesJson⟩⟩

theorem paneIdOk_of_digits {id : String} {number : List Char} (hid : id.toList = '%' :: number)
    (hne : number ≠ []) (hdigit : number.all Char.isDigit = true) : PaneIdOk (some id) := by
  rintro id' hsame
  obtain rfl := Option.some.inj hsame
  exact ⟨number, hid, hne, List.all_eq_true.mp hdigit⟩

theorem unnamedFirst_printable : Printable unnamedFirst := by
  refine .split ⟨by decide, by decide, by decide, by decide⟩
    (@paneIdOk_of_digits _ ['7'] rfl (by decide) (by decide)) (List.cons_ne_nil _ _)
    (List.forall_mem_cons.mpr ⟨?_, List.forall_mem_singleton.mpr ?_⟩)
  · exact .leaf ⟨by decide, by decide, by decide, by decide⟩ paneIdOk_none
  · exact .leaf ⟨by decide, by decide, by decide, by decide⟩
      (@paneIdOk_of_digits _ ['1'] rfl (by decide) (by decide))

theorem twoPanes_cell : WindowCell twoPanes := by
  refine .split ⟨by decide, by decide, by decide, by decide⟩ (by decide) (by decide) (by decide)
    (List.forall_mem_cons.mpr ⟨?_, List.forall_mem_singleton.mpr ?_⟩)
  · exact .pane ⟨by decide, by decide, by decide, by decide⟩ (by decide) (by decide)
      (@paneIdOk_of_digits _ ['1'] rfl (by decide) (by decide))
  · exact .pane ⟨by decide, by decide, by decide, by decide⟩ (by decide) (by decide)
      (@paneIdOk_of_digits _ ['2'] rfl (by decide) (by decide))

theorem twoPanesJson_describes : Describes twoPanesJson twoPanes :=
  @Describes.split .leftRight ⟨80, 24, 0, 0⟩ _ _
    (.cons (@Describes.pane ⟨40, 24, 0, 0⟩ "%1") (.cons (@Describes.pane ⟨39, 24, 41, 0⟩ "%2") .nil))

/-- A layout without an id is read back, and a window is read from its text, from what is written
for it and from its object, which gives no other layout. -/
theorem layout_codec_window :
    @parseTmuxLayout oneWindow (formatTmuxLayout unnamedFirst) = .ok unnamedFirst ∧
      @parseTmuxLayout oneWindow twoPanesText = .ok twoPanes ∧
      @parseTmuxLayout oneWindow (formatTmuxLayout twoPanes) = .ok twoPanes ∧
      @parseTmuxLayout oneWindow "\x7b\x7d" = .ok twoPanes ∧
      ∀ cell, @parseTmuxLayout oneWindow "\x7b\x7d" = .ok cell → cell = twoPanes := by
  let : LayoutJson := oneWindow
  obtain ⟨hwritten, hchecksummed, hjson, hsame⟩ := layout_codec
  have htext : formatTmuxLayout twoPanes = twoPanesText := by decide +kernel
  have hread : parseTmuxLayout twoPanesText = .ok twoPanes :=
    htext ▸ hwritten twoPanes twoPanes_cell.printable
  have hplain : Checksummed twoPanesText := by
    rw [Checksummed]
    decide +kernel
  have hdecodes : Decodes "\x7b\x7d" twoPanesJson := ⟨by decide +kernel, rfl⟩
  refine ⟨hwritten unnamedFirst unnamedFirst_printable, hread, hchecksummed _ _ hplain hread,
    (hjson _ _ _ hdecodes twoPanesJson_describes twoPanes_cell).1, fun cell hcell => ?_⟩
  exact hsame _ _ _ _ _ hdecodes hcell hplain hread twoPanesJson_describes

end VdeTmux.Sidebar
