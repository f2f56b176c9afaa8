import Mathlib.Tactic.IntervalCases
import VdeTmux.Foundation.Numerals
import VdeTmux.Sidebar.Layout

/-!
# Reading back a written layout

The text written for a layout is read as that layout, and every pane id that is read is well
formed.
-/

open Foundation Foundation.Text Foundation.Writer
namespace VdeTmux.Sidebar

namespace TmuxLayoutCell

@[elab_as_elim]
theorem cellInduction {P : TmuxLayoutCell → Prop} (leaf : ∀ frame paneId, P (.leaf frame paneId))
    (split : ∀ axis frame paneId children, (∀ child ∈ children, P child) →
      P (.split axis frame paneId children)) (cell : TmuxLayoutCell) : P cell := by
  refine TmuxLayoutCell.rec (motive_1 := P) (motive_2 := fun children => ∀ child ∈ children, P child)
    leaf (fun axis frame paneId children h => split axis frame paneId children h) ?_ ?_ cell
  · exact fun _ => nofun
  · exact fun child children h hchildren => List.forall_mem_cons.mpr ⟨h, hchildren⟩

end TmuxLayoutCell

/-! ## Numbers -/

theorem dropWhile_append {cs rest : List Char} (hcs : ∀ c ∈ cs, c.isDigit = true)
    (hrest : Ends rest) : (cs ++ rest).dropWhile Char.isDigit = rest := by
  have htake := takeWhile_append hcs hrest
  have hsplit := List.takeWhile_append_dropWhile (p := Char.isDigit) (l := cs ++ rest)
  rw [htake] at hsplit
  exact List.append_cancel_left hsplit

theorem parseU32_digits {n : ℕ} {rest : List Char} (h : n ≤ u32Max) (hrest : Ends rest) :
    parseU32 (digits n ++ rest) = .ok (n, rest) := by
  have hdigit : ∀ c ∈ digits n, c.isDigit = true := fun c hc => isDigit_of_mem hc
  simp only [parseU32, takeWhile_append hdigit hrest, dropWhile_append hdigit hrest,
    digits_ne_nil, if_false, parseNat_digits h]

theorem splitSign_of_isDigit {c : Char} (cs : List Char) (h : c.isDigit = true) :
    splitSign (c :: cs) = ([], c :: cs) := by
  unfold splitSign
  split
  · rename_i heq
    exact absurd (List.cons.inj heq).1 (head_ne_of_isDigit h rfl)
  · rename_i heq
    exact absurd (List.cons.inj heq).1 (head_ne_of_isDigit h rfl)
  · rfl

theorem parseI32_signed {z : ℤ} {rest : List Char} (hleast : -(i32Max : ℤ) - 1 ≤ z)
    (hmost : z ≤ i32Max) (hrest : Ends rest) : parseI32 (signed z ++ rest) = .ok (z, rest) := by
  cases z with
  | ofNat n =>
    obtain ⟨c, cs, hdigits, hc⟩ := digits_head n
    have hdigit : ∀ c ∈ digits n, c.isDigit = true := fun c hc => isDigit_of_mem hc
    have hsign : splitSign (digits n ++ rest) = ([], digits n ++ rest) := by
      rw [hdigits, List.cons_append]
      exact splitSign_of_isDigit _ hc
    have hparse := parseInt_digits (n := n) hleast hmost
    simp only [signed, parseI32, hsign, takeWhile_append hdigit hrest,
      dropWhile_append hdigit hrest, digits_ne_nil, if_false, List.nil_append, hparse]
    rfl
  | negSucc n =>
    have hdigit : ∀ c ∈ digits (n + 1), c.isDigit = true := fun c hc => isDigit_of_mem hc
    simp only [signed, List.cons_append, parseI32, splitSign, takeWhile_append hdigit hrest,
      dropWhile_append hdigit hrest, digits_ne_nil, if_false, List.nil_append,
      parseInt_negative hleast hmost]

/-! ## Cells -/

structure LayoutFrame.Fits (frame : LayoutFrame) : Prop where
  sx : frame.sx ≤ u32Max
  sy : frame.sy ≤ u32Max
  xoff : -(i32Max : ℤ) - 1 ≤ frame.xoff ∧ frame.xoff ≤ i32Max
  yoff : -(i32Max : ℤ) - 1 ≤ frame.yoff ∧ frame.yoff ≤ i32Max

theorem parseFrame_format {frame : LayoutFrame} {rest : List Char} (h : frame.Fits)
    (hrest : Ends rest) : parseFrame (formatFrame frame ++ rest) = .ok (frame, rest) := by
  have hx : ∀ more, Ends ('x' :: more) := fun _ => Ends.cons rfl
  have hcomma : ∀ more, Ends (',' :: more) := fun _ => Ends.cons rfl
  simp only [formatFrame, List.append_assoc, List.cons_append, parseFrame, bind, Except.bind,
    parseU32_digits h.sx (hx _), parseU32_digits h.sy (hcomma _),
    parseI32_signed h.xoff.1 h.xoff.2 (hcomma _), parseI32_signed h.yoff.1 h.yoff.2 hrest,
    expectByte, if_true]
  rfl

/-- A pane id as tmux writes it. -/
def PaneIdOk (paneId : Option String) : Prop :=
  ∀ id, paneId = some id → ∃ number, id.toList = '%' :: number ∧ number ≠ [] ∧
    ∀ c ∈ number, c.isDigit = true

structure Closes (rest : List Char) : Prop where
  ends : Ends rest
  notSize : rest.head? ≠ some 'x'
  nextCell : rest.head? = some ',' → ∃ frame more, rest = ',' :: (formatFrame frame ++ more)

theorem formatPaneId_some {id : String} {number : List Char} (hid : id.toList = '%' :: number)
    (hnumber : ∀ c ∈ number, c.isDigit = true) : formatPaneId (some id) = ',' :: number := by
  have hdrop : number.dropWhile (· = '%') = number := by
    cases number with
    | nil => rfl
    | cons c number =>
      have hc := hnumber c List.mem_cons_self
      exact List.dropWhile_cons_of_neg (by simpa using head_ne_of_isDigit hc rfl)
  rw [formatPaneId, hid, List.dropWhile_cons_of_pos (by decide), hdrop]

theorem parseOptionalPaneId_format {paneId : Option String} {rest : List Char}
    (hid : PaneIdOk paneId) (hrest : Closes rest) :
    parseOptionalPaneId (formatPaneId paneId ++ rest) = (paneId, rest) := by
  cases paneId with
  | none =>
    rw [formatPaneId, List.nil_append]
    cases rest with
    | nil => rfl
    | cons c rest =>
      by_cases hc : c = ','
      · subst hc
        obtain ⟨frame, more, heq⟩ := hrest.nextCell rfl
        obtain rfl := (List.cons.inj heq).2
        -- the digits that follow are a width
        have hdigit : ∀ c ∈ digits frame.sx, c.isDigit = true := fun c hc => isDigit_of_mem hc
        have hafter : (formatFrame frame ++ more).dropWhile Char.isDigit =
            'x' :: (digits frame.sy ++ ',' :: signed frame.xoff ++ ',' :: signed frame.yoff ++ more) := by
          simp only [formatFrame, List.append_assoc, List.cons_append]
          exact dropWhile_append hdigit (Ends.cons rfl)
        simp [parseOptionalPaneId, hafter]
      · unfold parseOptionalPaneId
        split
        · rename_i heq
          exact absurd (List.cons.inj heq).1 hc
        · rfl
  | some id =>
    obtain ⟨number, hnumber, hne, hdigit⟩ := hid id rfl
    have hofList : String.ofList ('%' :: number) = id := by rw [← hnumber, String.ofList_toList]
    rw [formatPaneId_some hnumber hdigit]
    simp only [List.cons_append, parseOptionalPaneId, takeWhile_append hdigit hrest.ends,
      dropWhile_append hdigit hrest.ends, hne, hrest.notSize, or_self, if_false, hofList]

/-- A layout that can be written and read back. -/
inductive Printable : TmuxLayoutCell → Prop
  | leaf {frame : LayoutFrame} {paneId : Option String} (hframe : frame.Fits)
    (hid : PaneIdOk paneId) : Printable (.leaf frame paneId)
  | split {axis : LayoutAxis} {frame : LayoutFrame} {paneId : Option String}
    {children : List TmuxLayoutCell} (hframe : frame.Fits) (hid : PaneIdOk paneId)
    (hne : children ≠ []) (hchildren : ∀ child ∈ children, Printable child) :
    Printable (.split axis frame paneId children)

theorem formatLayoutCell_frame (cell : TmuxLayoutCell) :
    ∃ rest, formatLayoutCell cell = formatFrame cell.frame ++ rest := by
  cases cell with
  | leaf frame paneId => exact ⟨_, by rw [formatLayoutCell]; rfl⟩
  | split axis frame paneId children =>
    exact ⟨_, by rw [formatLayoutCell, List.append_assoc]; rfl⟩

theorem formatFrame_length_pos (frame : LayoutFrame) : 0 < (formatFrame frame).length := by
  simp only [formatFrame, List.length_append, List.length_cons]
  omega

/-- What follows a cell: nothing, the end of its split, or the next cell. -/
inductive AfterCell : List Char → Prop
  | nil : AfterCell []
  | closing (axis : LayoutAxis) (rest : List Char) : AfterCell (axis.closing :: rest)
  | next (frame : LayoutFrame) (rest : List Char) : AfterCell (',' :: (formatFrame frame ++ rest))

theorem AfterCell.closes {rest : List Char} (h : AfterCell rest) : Closes rest := by
  cases h with
  | nil => exact ⟨Ends.nil, nofun, nofun⟩
  | closing axis rest =>
    cases axis with
    | leftRight => exact ⟨Ends.cons rfl, nofun, nofun⟩
    | topBottom => exact ⟨Ends.cons rfl, nofun, nofun⟩
  | next frame rest => exact ⟨Ends.cons rfl, nofun, fun _ => ⟨frame, rest, rfl⟩⟩

theorem closes_opening (axis : LayoutAxis) (rest : List Char) : Closes (axis.opening :: rest) := by
  cases axis with
  | leftRight => exact ⟨Ends.cons rfl, nofun, nofun⟩
  | topBottom => exact ⟨Ends.cons rfl, nofun, nofun⟩

theorem ends_formatPaneId {paneId : Option String} {rest : List Char} (h : Ends rest) :
    Ends (formatPaneId paneId ++ rest) := by
  cases paneId with
  | none => exact h
  | some id => exact Ends.cons rfl

theorem parseHead {frame : LayoutFrame} {paneId : Option String} {rest : List Char}
    (hframe : frame.Fits) (hid : PaneIdOk paneId) (hrest : Closes rest) :
    parseFrame (formatFrame frame ++ formatPaneId paneId ++ rest) =
        .ok (frame, formatPaneId paneId ++ rest) ∧
      parseOptionalPaneId (formatPaneId paneId ++ rest) = (paneId, rest) := by
  rw [List.append_assoc]
  exact ⟨parseFrame_format hframe (ends_formatPaneId hrest.ends),
    parseOptionalPaneId_format hid hrest⟩

theorem parseCell_leaf {frame : LayoutFrame} {paneId : Option String} {rest : List Char} {fuel : ℕ}
    (hframe : frame.Fits) (hid : PaneIdOk paneId) (hrest : AfterCell rest) :
    parseCell (fuel + 1) (formatLayoutCell (.leaf frame paneId) ++ rest) =
      .ok (.leaf frame paneId, rest) := by
  obtain ⟨hhead, hpane⟩ := parseHead hframe hid hrest.closes
  rw [formatLayoutCell, parseCell, hhead]
  simp only [bind, Except.bind, hpane]
  cases hrest with
  | nil => rfl
  | closing axis rest => cases axis <;> rfl
  | next frame rest => rfl

theorem parseCell_split {axis : LayoutAxis} {frame : LayoutFrame} {paneId : Option String}
    {children : List TmuxLayoutCell} {rest : List Char} {fuel : ℕ} (hframe : frame.Fits)
    (hid : PaneIdOk paneId)
    (hchildren : parseChildren fuel axis.closing
      (formatChildren children ++ axis.closing :: rest) = .ok (children, rest)) :
    parseCell (fuel + 1) (formatLayoutCell (.split axis frame paneId children) ++ rest) =
      .ok (.split axis frame paneId children, rest) := by
  have htext : formatLayoutCell (.split axis frame paneId children) ++ rest =
      formatFrame frame ++ formatPaneId paneId ++
        axis.opening :: (formatChildren children ++ axis.closing :: rest) := by
    simp [formatLayoutCell]
  obtain ⟨hhead, hpane⟩ := parseHead hframe hid
    (closes_opening axis (formatChildren children ++ axis.closing :: rest))
  rw [htext, parseCell, hhead]
  simp only [bind, Except.bind, hpane]
  cases axis with
  | leftRight =>
    simp only [LayoutAxis.opening, LayoutAxis.closing] at hchildren ⊢
    rw [hchildren]
    rfl
  | topBottom =>
    simp only [LayoutAxis.opening, LayoutAxis.closing] at hchildren ⊢
    rw [hchildren]
    rfl

theorem formatChildren_cons (child next : TmuxLayoutCell) (children : List TmuxLayoutCell) :
    formatChildren (child :: next :: children) =
      formatLayoutCell child ++ ',' :: formatChildren (next :: children) := by
  rw [formatChildren]
  exact fun h => List.cons_ne_nil _ _ h

theorem parseChildren_format {axis : LayoutAxis} {children : List TmuxLayoutCell} {rest : List Char}
    {fuel : ℕ} (hne : children ≠ []) (hfuel : (formatChildren children).length + 1 < fuel)
    (hcells : ∀ child ∈ children, ∀ fuel rest, (formatLayoutCell child).length < fuel →
      AfterCell rest → parseCell fuel (formatLayoutCell child ++ rest) = .ok (child, rest)) :
    parseChildren fuel axis.closing (formatChildren children ++ axis.closing :: rest) =
      .ok (children, rest) := by
  induction children generalizing fuel with
  | nil => exact absurd rfl hne
  | cons child children ih =>
    obtain ⟨hchild, hchildren⟩ := List.forall_mem_cons.mp hcells
    obtain ⟨fuel, rfl⟩ := Nat.exists_eq_succ_of_ne_zero (show fuel ≠ 0 by omega)
    cases children with
    | nil =>
      rw [formatChildren] at hfuel ⊢
      rw [parseChildren, hchild fuel _ (by omega) (.closing axis rest)]
      cases axis <;> rfl
    | cons next children =>
      obtain ⟨more, hmore⟩ := formatLayoutCell_frame next
      have hnext : ∃ more, formatChildren (next :: children) = formatFrame next.frame ++ more := by
        cases children with
        | nil => exact ⟨more, by rw [formatChildren, hmore]⟩
        | cons other children =>
          exact ⟨_, by rw [formatChildren_cons, hmore, List.append_assoc]⟩
      obtain ⟨more, hmore⟩ := hnext
      have htext : formatChildren (child :: next :: children) ++ axis.closing :: rest =
          formatLayoutCell child ++
            ',' :: (formatChildren (next :: children) ++ axis.closing :: rest) := by
        rw [formatChildren_cons, List.append_assoc, List.cons_append]
      have hafter : AfterCell (',' :: (formatChildren (next :: children) ++ axis.closing :: rest)) := by
        rw [hmore, List.append_assoc]
        exact .next _ _
      rw [formatChildren_cons, List.length_append, List.length_cons] at hfuel
      have hrest := @ih fuel (List.cons_ne_nil _ _) (by omega) hchildren
      rw [htext, parseChildren, hchild fuel _ (by omega) hafter]
      simp only [bind, Except.bind, if_true, hrest]
      rfl

theorem parseCell_format {cell : TmuxLayoutCell} (h : Printable cell) :
    ∀ fuel rest, (formatLayoutCell cell).length < fuel → AfterCell rest →
      parseCell fuel (formatLayoutCell cell ++ rest) = .ok (cell, rest) := by
  induction cell using TmuxLayoutCell.cellInduction with
  | leaf frame paneId =>
    intro fuel rest hfuel hrest
    obtain ⟨fuel, rfl⟩ := Nat.exists_eq_succ_of_ne_zero (show fuel ≠ 0 by omega)
    cases h with
    | leaf hframe hid => exact parseCell_leaf hframe hid hrest
  | split axis frame paneId children ih =>
    intro fuel rest hfuel hrest
    obtain ⟨fuel, rfl⟩ := Nat.exists_eq_succ_of_ne_zero (show fuel ≠ 0 by omega)
    cases h with
    | split hframe hid hne hchildren =>
      refine parseCell_split hframe hid (parseChildren_format hne ?_ fun child hchild =>
        ih child hchild (hchildren child hchild))
      have hpos := formatFrame_length_pos frame
      simp only [formatLayoutCell, List.length_append, List.length_cons] at hfuel
      omega

/-! ## The checksum and what surrounds it -/

/-- Characters that neither trimming nor the check for floating panes looks at. -/
def Plain (c : Char) : Prop := isWhitespace c = false ∧ c ≠ '<' ∧ c ≠ '>'

instance (c : Char) : Decidable (Plain c) :=
  inferInstanceAs (Decidable (isWhitespace c = false ∧ c ≠ '<' ∧ c ≠ '>'))

theorem plain_of_isDigit {c : Char} (h : c.isDigit = true) : Plain c := by
  obtain ⟨hlow, hhigh⟩ := by simpa [Char.isDigit, UInt32.le_iff_toNat_le] using h
  have hchar : c = Char.ofNat c.toNat := (Char.ofNat_toNat c).symm
  rw [hchar]
  have hlow : 48 ≤ c.toNat := hlow
  have hhigh : c.toNat ≤ 57 := hhigh
  generalize c.toNat = n at hlow hhigh
  interval_cases n <;> decide

theorem plain_digits (n : ℕ) : ∀ c ∈ digits n, Plain c :=
  fun _ hc => plain_of_isDigit (isDigit_of_mem hc)

theorem plain_signed (z : ℤ) : ∀ c ∈ signed z, Plain c := by
  cases z with
  | ofNat n => exact plain_digits n
  | negSucc n => exact List.forall_mem_cons.mpr ⟨by decide, plain_digits (n + 1)⟩

theorem plain_formatFrame (frame : LayoutFrame) : ∀ c ∈ formatFrame frame, Plain c := by
  have hx : Plain 'x' := by decide
  have hcomma : Plain ',' := by decide
  simp only [formatFrame, List.append_assoc, List.cons_append, List.forall_mem_append,
    List.forall_mem_cons]
  exact ⟨plain_digits _, hx, plain_digits _, hcomma, plain_signed _, hcomma, plain_signed _⟩

theorem plain_formatPaneId {paneId : Option String} (h : PaneIdOk paneId) :
    ∀ c ∈ formatPaneId paneId, Plain c := by
  cases paneId with
  | none => exact fun _ => nofun
  | some id =>
    obtain ⟨number, hid, -, hdigit⟩ := h id rfl
    rw [formatPaneId_some hid hdigit]
    exact List.forall_mem_cons.mpr ⟨by decide, fun c hc => plain_of_isDigit (hdigit c hc)⟩

theorem plain_formatChildren {children : List TmuxLayoutCell}
    (h : ∀ child ∈ children, ∀ c ∈ formatLayoutCell child, Plain c) :
    ∀ c ∈ formatChildren children, Plain c := by
  induction children with
  | nil => exact fun _ => nofun
  | cons child children ih =>
    obtain ⟨hchild, hchildren⟩ := List.forall_mem_cons.mp h
    cases children with
    | nil =>
      rw [formatChildren]
      exact hchild
    | cons next children =>
      rw [formatChildren_cons]
      exact List.forall_mem_append.mpr
        ⟨hchild, List.forall_mem_cons.mpr ⟨by decide, ih hchildren⟩⟩

theorem plain_formatLayoutCell {cell : TmuxLayoutCell} (h : Printable cell) :
    ∀ c ∈ formatLayoutCell cell, Plain c := by
  induction cell using TmuxLayoutCell.cellInduction with
  | leaf frame paneId =>
    cases h with
    | leaf hframe hid =>
      rw [formatLayoutCell]
      exact List.forall_mem_append.mpr ⟨plain_formatFrame frame, plain_formatPaneId hid⟩
  | split axis frame paneId children ih =>
    cases h with
    | split hframe hid hne hchildren =>
      have hcells := plain_formatChildren fun child hchild => ih child hchild (hchildren child hchild)
      have hopening : Plain axis.opening := by cases axis <;> decide
      have hclosing : Plain axis.closing := by cases axis <;> decide
      simp only [formatLayoutCell, List.append_assoc, List.forall_mem_append, List.forall_mem_cons]
      exact ⟨plain_formatFrame frame, plain_formatPaneId hid, hopening, hcells, hclosing,
        fun _ => nofun⟩

theorem trimChars_of_plain {cs : List Char} (h : ∀ c ∈ cs, Plain c) : trimChars cs = cs := by
  have hdrop : cs.dropWhile isWhitespace = cs := by
    cases cs with
    | nil => rfl
    | cons c cs =>
      have hc := (h c List.mem_cons_self).1
      exact List.dropWhile_cons_of_neg (by simp [hc])
  rw [trimChars, hdrop, List.rdropWhile_eq_self_iff]
  intro hne
  have hlast := (h _ (List.getLast_mem hne)).1
  simp [hlast]

structure HexChar (n : ℕ) : Prop where
  value : hexDigit? (hexChar n) = some n
  plain : Plain (hexChar n)
  size : (hexChar n).utf8Size = 1
  notComma : hexChar n ≠ ','
  notPlus : hexChar n ≠ '+'
  notBrace : hexChar n ≠ '{'

theorem hexChar_ok {n : ℕ} (h : n < 16) : HexChar n := by
  interval_cases n <;> exact ⟨by decide, by decide, by decide, by decide, by decide, by decide⟩

theorem parseHex16_format {n : ℕ} (h : n < 2 ^ 16) : parseHex16 (formatHex16 n) = some n := by
  have hfirst := hexChar_ok (Nat.mod_lt (n / 4096) (by decide : 0 < 16))
  have hsecond := hexChar_ok (Nat.mod_lt (n / 256) (by decide : 0 < 16))
  have hthird := hexChar_ok (Nat.mod_lt (n / 16) (by decide : 0 < 16))
  have hfourth := hexChar_ok (Nat.mod_lt n (by decide : 0 < 16))
  have hvalues : (formatHex16 n).mapM hexDigit? =
      some [n / 4096 % 16, n / 256 % 16, n / 16 % 16, n % 16] := by
    simp [formatHex16, hfirst.value, hsecond.value, hthird.value, hfourth.value]
  have hvalue : [n / 4096 % 16, n / 256 % 16, n / 16 % 16, n % 16].foldl
      (fun n digit => 16 * n + digit) 0 = n := by
    simp only [List.foldl_cons, List.foldl_nil]
    omega
  unfold parseHex16
  split
  · rename_i heq
    exact absurd (List.cons.inj heq).1 hfirst.notPlus
  · simp only [hvalues, Option.bind_eq_bind, Option.bind_some, hvalue]
    exact if_pos ⟨List.cons_ne_nil _ _, h⟩

theorem splitOnce_formatHex16 (n : ℕ) (body : List Char) :
    splitOnce [','] (formatHex16 n ++ ',' :: body) = some (formatHex16 n, body) := by
  have hcomma : ',' ∉ formatHex16 n := by
    have hhex (k : ℕ) : ',' ≠ hexChar (k % 16) :=
      ((hexChar_ok (Nat.mod_lt k (by decide))).notComma).symm
    simp only [formatHex16, List.mem_cons, hhex, List.not_mem_nil, or_self, not_false_eq_true]
  exact splitOnce_char hcomma body

theorem charBytes_formatHex16 (n : ℕ) : charBytes (formatHex16 n) = 4 := by
  have hsize (k : ℕ) : (hexChar (k % 16)).utf8Size = 1 := (hexChar_ok (Nat.mod_lt k (by decide))).size
  simp [formatHex16, charBytes, hsize]

theorem parse_formatTmuxLayout [LayoutJson] {cell : TmuxLayoutCell} (h : Printable cell) :
    parseTmuxLayout (formatTmuxLayout cell) = .ok cell := by
  generalize hsum : (tmuxLayoutChecksum (formatLayoutCell cell)).toNat = sum
  have hbound : sum < 2 ^ 16 := by
    rw [← hsum]
    exact BitVec.isLt _
  have hbody := plain_formatLayoutCell h
  have hhex (k : ℕ) : HexChar (k % 16) := hexChar_ok (Nat.mod_lt k (by decide))
  have hplain : ∀ c ∈ formatHex16 sum ++ ',' :: formatLayoutCell cell, Plain c := by
    simp only [formatHex16, List.cons_append, List.nil_append, List.forall_mem_cons]
    exact ⟨(hhex _).plain, (hhex _).plain, (hhex _).plain, (hhex _).plain, by decide, hbody⟩
  have hbrace : (formatHex16 sum ++ ',' :: formatLayoutCell cell).head? ≠ some '{' :=
    fun hhead => (hhex _).notBrace (Option.some.inj hhead)
  have hfloating : ¬('<' ∈ formatHex16 sum ++ ',' :: formatLayoutCell cell ∨
      '>' ∈ formatHex16 sum ++ ',' :: formatLayoutCell cell) := by
    rintro (hmem | hmem)
    · exact (hplain _ hmem).2.1 rfl
    · exact (hplain _ hmem).2.2 rfl
  have hcell := parseCell_format h ((formatLayoutCell cell).length + 1) [] (Nat.lt_succ_self _) .nil
  rw [List.append_nil] at hcell
  rw [parseTmuxLayout, formatTmuxLayout]
  simp only [String.toList_ofList, hsum, trimChars_of_plain hplain]
  rw [if_neg hbrace]
  simp only [refuse, hfloating, if_false, splitOnce_formatHex16, charBytes_formatHex16,
    parseHex16_format hbound, hsum, hcell, bind, Except.bind, Option.elim, ne_eq, not_true_eq_false]
  rfl

/-! ## What is read -/

inductive Named : TmuxLayoutCell → Prop
  | leaf {frame : LayoutFrame} {paneId : Option String} (hid : PaneIdOk paneId) :
    Named (.leaf frame paneId)
  | split {axis : LayoutAxis} {frame : LayoutFrame} {paneId : Option String}
    {children : List TmuxLayoutCell} (hid : PaneIdOk paneId)
    (hchildren : ∀ child ∈ children, Named child) : Named (.split axis frame paneId children)

theorem paneIdOk_none : PaneIdOk none := fun _ => nofun

theorem paneIdOk_parsed (input : List Char) : PaneIdOk (parseOptionalPaneId input).1 := by
  unfold parseOptionalPaneId
  split
  · dsimp only
    split_ifs with h
    · exact paneIdOk_none
    · intro id hid
      obtain rfl := Option.some.inj hid
      exact ⟨_, String.toList_ofList, fun hnil => h (Or.inl hnil),
        fun c hc => List.mem_takeWhile_imp hc⟩
  · exact paneIdOk_none

theorem paneIdOk_validated {id : String} (h : validatePaneId id = .ok ()) : PaneIdOk (some id) := by
  intro id' hsame
  obtain rfl := Option.some.inj hsame
  unfold validatePaneId at h
  split at h
  · rename_i number hid
    have hnumber := refuse_eq_ok.mp h
    refine ⟨number, hid, fun hnil => hnumber (Or.inl hnil), fun c hc => ?_⟩
    by_contra hc'
    refine hnumber (Or.inr (List.all_eq_false.mpr ⟨c, hc, hc'⟩))
  · cases h

theorem parseNat_le {cs : List Char} {n most : ℕ} (h : parseNat most cs = some n) : n ≤ most := by
  unfold parseNat at h
  have hfilter := (Option.filter_eq_some_iff.mp h).2
  simpa using hfilter

theorem parseInt_between {cs : List Char} {n least most : ℤ} (h : parseInt least most cs = some n) :
    least ≤ n ∧ n ≤ most := by
  unfold parseInt at h
  have hfilter := (Option.filter_eq_some_iff.mp h).2
  simpa using hfilter

theorem parseU32_le {input rest : List Char} {n : ℕ} (h : parseU32 input = .ok (n, rest)) :
    n ≤ u32Max := by
  unfold parseU32 at h
  dsimp only at h
  split_ifs at h
  split at h
  · cases h
  · rename_i hparse
    cases h
    exact parseNat_le hparse

theorem parseI32_between {input rest : List Char} {z : ℤ} (h : parseI32 input = .ok (z, rest)) :
    -(i32Max : ℤ) - 1 ≤ z ∧ z ≤ i32Max := by
  unfold parseI32 at h
  dsimp only at h
  split_ifs at h
  split at h
  · cases h
  · rename_i hparse
    cases h
    exact parseInt_between hparse

theorem parseFrame_fits {input rest : List Char} {frame : LayoutFrame}
    (h : parseFrame input = .ok (frame, rest)) : frame.Fits := by
  unfold parseFrame at h
  obtain ⟨⟨sx, input₁⟩, hsx, h⟩ := bind_eq_ok.mp h
  obtain ⟨input₂, -, h⟩ := bind_eq_ok.mp h
  obtain ⟨⟨sy, input₃⟩, hsy, h⟩ := bind_eq_ok.mp h
  obtain ⟨input₄, -, h⟩ := bind_eq_ok.mp h
  obtain ⟨⟨xoff, input₅⟩, hxoff, h⟩ := bind_eq_ok.mp h
  obtain ⟨input₆, -, h⟩ := bind_eq_ok.mp h
  obtain ⟨⟨yoff, input₇⟩, hyoff, h⟩ := bind_eq_ok.mp h
  cases h
  exact ⟨parseU32_le hsx, parseU32_le hsy, parseI32_between hxoff, parseI32_between hyoff⟩

theorem printable_parsed (fuel : ℕ) :
    (∀ input cell rest, parseCell fuel input = .ok (cell, rest) → Printable cell) ∧
      ∀ closing input cells rest, parseChildren fuel closing input = .ok (cells, rest) →
        cells ≠ [] ∧ ∀ cell ∈ cells, Printable cell := by
  induction fuel with
  | zero =>
    constructor
    · intro input cell rest h
      rw [parseCell] at h
      cases h
    · intro closing input cells rest h
      rw [parseChildren] at h
      cases h
  | succ fuel ih =>
    constructor
    · intro input cell rest h
      rw [parseCell] at h
      obtain ⟨⟨frame, input⟩, hframe, h⟩ := bind_eq_ok.mp h
      have hfits := parseFrame_fits hframe
      have hid := paneIdOk_parsed input
      dsimp only at h
      split at h
      · obtain ⟨⟨children, rest'⟩, hchildren, h⟩ := bind_eq_ok.mp h
        obtain ⟨hne, hprintable⟩ := ih.2 _ _ _ _ hchildren
        cases h
        exact .split hfits hid hne hprintable
      · obtain ⟨⟨children, rest'⟩, hchildren, h⟩ := bind_eq_ok.mp h
        obtain ⟨hne, hprintable⟩ := ih.2 _ _ _ _ hchildren
        cases h
        exact .split hfits hid hne hprintable
      · cases h
        exact .leaf hfits hid
    · intro closing input cells rest h
      rw [parseChildren] at h
      obtain ⟨⟨child, input⟩, hchild, h⟩ := bind_eq_ok.mp h
      have hprintable := ih.1 _ _ _ hchild
      dsimp only at h
      split at h
      · cases h
      · split_ifs at h
        · obtain ⟨⟨children, rest'⟩, hchildren, h⟩ := bind_eq_ok.mp h
          cases h
          exact ⟨List.cons_ne_nil _ _,
            List.forall_mem_cons.mpr ⟨hprintable, (ih.2 _ _ _ _ hchildren).2⟩⟩
        · cases h
          exact ⟨List.cons_ne_nil _ _, List.forall_mem_singleton.mpr hprintable⟩

theorem Printable.named {cell : TmuxLayoutCell} (h : Printable cell) : Named cell := by
  induction cell using TmuxLayoutCell.cellInduction with
  | leaf frame paneId =>
    cases h with
    | leaf hframe hid => exact .leaf hid
  | split axis frame paneId children ih =>
    cases h with
    | split hframe hid hne hchildren =>
      exact .split hid fun child hchild => ih child hchild (hchildren child hchild)

mutual

theorem named_json : ∀ (json : JsonTmuxLayoutCell) (cell : TmuxLayoutCell),
    json.intoLayoutCell = .ok cell → Named cell
  | .mk sx sy xoff yoff paneId kind children floatingZindex, cell, h => by
    unfold JsonTmuxLayoutCell.intoLayoutCell at h
    obtain ⟨-, h⟩ := seq_eq_ok.mp h
    obtain ⟨-, h⟩ := seq_eq_ok.mp h
    by_cases hpane : kind = "p"
    · rw [if_pos hpane] at h
      cases paneId with
      | none => cases h
      | some id =>
        obtain ⟨hvalid, h⟩ := seq_eq_ok.mp h
        obtain ⟨-, h⟩ := seq_eq_ok.mp h
        cases h
        exact .leaf (paneIdOk_validated hvalid)
    rw [if_neg hpane] at h
    by_cases hsplit : kind = "h" ∨ kind = "v"
    · rw [if_pos hsplit] at h
      obtain ⟨hid, h⟩ := seq_eq_ok.mp h
      have hid : paneId = none := by simpa using hid
      cases children with
      | none => cases h
      | some children =>
        obtain ⟨-, h⟩ := seq_eq_ok.mp h
        obtain ⟨cells, hcells, h⟩ := bind_eq_ok.mp h
        cases h
        rw [hid]
        exact .split paneIdOk_none (named_jsons children cells hcells)
    · rw [if_neg hsplit] at h
      cases h

theorem named_jsons : ∀ (jsons : List JsonTmuxLayoutCell) (cells : List TmuxLayoutCell),
    intoLayoutCells jsons = .ok cells → ∀ cell ∈ cells, Named cell
  | [], cells, h => by
    cases h
    exact fun _ => nofun
  | json :: jsons, cells, h => by
    rw [intoLayoutCells] at h
    obtain ⟨cell, hcell, h⟩ := bind_eq_ok.mp h
    obtain ⟨rest, hrest, h⟩ := bind_eq_ok.mp h
    cases h
    exact List.forall_mem_cons.mpr ⟨named_json json cell hcell, named_jsons jsons rest hrest⟩

end

/-! Reading uses up the input, so that more fuel than the input is long changes nothing. -/

theorem length_dropWhile_lt {input : List Char} (h : input.takeWhile Char.isDigit ≠ []) :
    (input.dropWhile Char.isDigit).length < input.length := by
  have hsplit := congrArg List.length
    (List.takeWhile_append_dropWhile (p := Char.isDigit) (l := input))
  rw [List.length_append] at hsplit
  have hpos := List.length_pos_of_ne_nil h
  omega

theorem parseU32_length {input rest : List Char} {n : ℕ} (h : parseU32 input = .ok (n, rest)) :
    rest.length < input.length := by
  unfold parseU32 at h
  dsimp only at h
  split_ifs at h with hdigits
  split at h
  · cases h
  · cases h
    exact length_dropWhile_lt hdigits

theorem splitSign_length (input : List Char) : (splitSign input).2.length ≤ input.length := by
  unfold splitSign
  split <;> simp

theorem parseI32_length {input rest : List Char} {z : ℤ} (h : parseI32 input = .ok (z, rest)) :
    rest.length < input.length := by
  have hsign := splitSign_length input
  unfold parseI32 at h
  dsimp only at h
  split_ifs at h with hdigits
  split at h
  · cases h
  · cases h
    exact (length_dropWhile_lt hdigits).trans_le hsign

theorem expectByte_length {expected : Char} {input rest : List Char}
    (h : expectByte expected input = .ok rest) : rest.length < input.length := by
  cases input with
  | nil => cases h
  | cons c input =>
    rw [expectByte] at h
    split_ifs at h
    cases h
    exact Nat.lt_succ_self _

theorem parseFrame_length {input rest : List Char} {frame : LayoutFrame}
    (h : parseFrame input = .ok (frame, rest)) : rest.length < input.length := by
  unfold parseFrame at h
  obtain ⟨⟨sx, input₁⟩, hsx, h⟩ := bind_eq_ok.mp h
  obtain ⟨input₂, hx, h⟩ := bind_eq_ok.mp h
  obtain ⟨⟨sy, input₃⟩, hsy, h⟩ := bind_eq_ok.mp h
  obtain ⟨input₄, hcomma, h⟩ := bind_eq_ok.mp h
  obtain ⟨⟨xoff, input₅⟩, hxoff, h⟩ := bind_eq_ok.mp h
  obtain ⟨input₆, hcomma', h⟩ := bind_eq_ok.mp h
  obtain ⟨⟨yoff, input₇⟩, hyoff, h⟩ := bind_eq_ok.mp h
  cases h
  have := parseU32_length hsx
  have := expectByte_length hx
  have := parseU32_length hsy
  have := expectByte_length hcomma
  have := parseI32_length hxoff
  have := expectByte_length hcomma'
  have := parseI32_length hyoff
  dsimp only at *
  omega

theorem parseOptionalPaneId_length (input : List Char) :
    (parseOptionalPaneId input).2.length ≤ input.length := by
  unfold parseOptionalPaneId
  split
  · rename_i rest
    have hdrop := (List.dropWhile_suffix (l := rest) Char.isDigit).length_le
    dsimp only
    split_ifs
    · exact le_rfl
    · exact hdrop.trans (Nat.le_succ _)
  · exact le_rfl

theorem parse_length (fuel : ℕ) :
    (∀ input cell rest, parseCell fuel input = .ok (cell, rest) → rest.length < input.length) ∧
      ∀ closing input cells rest, parseChildren fuel closing input = .ok (cells, rest) →
        rest.length < input.length := by
  induction fuel with
  | zero =>
    constructor
    · intro input cell rest h
      rw [parseCell] at h
      cases h
    · intro closing input cells rest h
      rw [parseChildren] at h
      cases h
  | succ fuel ih =>
    constructor
    · intro input cell rest h
      rw [parseCell] at h
      obtain ⟨⟨frame, input'⟩, hframe, h⟩ := bind_eq_ok.mp h
      have hlength := parseFrame_length hframe
      have hpane := parseOptionalPaneId_length input'
      dsimp only at h
      split at h
      · rename_i rest' heq
        obtain ⟨⟨children, rest''⟩, hchildren, h⟩ := bind_eq_ok.mp h
        cases h
        have hrest : rest''.length < rest'.length := ih.2 _ _ _ _ hchildren
        rw [heq, List.length_cons] at hpane
        exact (hrest.trans (by omega : rest'.length < input.length))
      · rename_i rest' heq
        obtain ⟨⟨children, rest''⟩, hchildren, h⟩ := bind_eq_ok.mp h
        cases h
        have hrest : rest''.length < rest'.length := ih.2 _ _ _ _ hchildren
        rw [heq, List.length_cons] at hpane
        exact (hrest.trans (by omega : rest'.length < input.length))
      · cases h
        omega
    · intro closing input cells rest h
      rw [parseChildren] at h
      obtain ⟨⟨child, input'⟩, hchild, h⟩ := bind_eq_ok.mp h
      have hlength := ih.1 _ _ _ hchild
      dsimp only at h
      split at h
      · cases h
      · rename_i c rest'
        rw [List.length_cons] at hlength
        split_ifs at h
        · obtain ⟨⟨children, rest''⟩, hchildren, h⟩ := bind_eq_ok.mp h
          cases h
          have hrest : rest''.length < rest'.length := ih.2 _ _ _ _ hchildren
          exact hrest.trans (by omega : rest'.length < input.length)
        · cases h
          omega

theorem parse_fuel (length : ℕ) : ∀ input : List Char, input.length ≤ length → ∀ fuel fuel',
    (input.length < fuel → input.length < fuel' → parseCell fuel input = parseCell fuel' input) ∧
      (input.length + 1 < fuel → input.length + 1 < fuel' → ∀ closing,
        parseChildren fuel closing input = parseChildren fuel' closing input) := by
  induction length using Nat.strong_induction_on with
  | h length ih =>
    intro input hinput
    have hcell (fuel fuel' : ℕ) (hfuel : input.length < fuel) (hfuel' : input.length < fuel') :
        parseCell fuel input = parseCell fuel' input := by
      obtain ⟨fuel, rfl⟩ := Nat.exists_eq_succ_of_ne_zero (show fuel ≠ 0 by omega)
      obtain ⟨fuel', rfl⟩ := Nat.exists_eq_succ_of_ne_zero (show fuel' ≠ 0 by omega)
      rw [parseCell, parseCell]
      cases hframe : parseFrame input with
      | error e => rfl
      | ok parsed =>
        obtain ⟨frame, input'⟩ := parsed
        have hlength := parseFrame_length hframe
        have hpane := parseOptionalPaneId_length input'
        simp only [bind, Except.bind]
        split
        · rename_i rest heq
          rw [heq, List.length_cons] at hpane
          rw [(ih rest.length (by omega) rest le_rfl fuel fuel').2 (by omega) (by omega)]
        · rename_i rest heq
          rw [heq, List.length_cons] at hpane
          rw [(ih rest.length (by omega) rest le_rfl fuel fuel').2 (by omega) (by omega)]
        · rfl
    intro fuel fuel'
    refine ⟨hcell fuel fuel', fun hfuel hfuel' closing => ?_⟩
    obtain ⟨fuel, rfl⟩ := Nat.exists_eq_succ_of_ne_zero (show fuel ≠ 0 by omega)
    obtain ⟨fuel', rfl⟩ := Nat.exists_eq_succ_of_ne_zero (show fuel' ≠ 0 by omega)
    rw [parseChildren, parseChildren, hcell fuel fuel' (by omega) (by omega)]
    cases hchild : parseCell fuel' input with
    | error e => rfl
    | ok parsed =>
      obtain ⟨child, input'⟩ := parsed
      have hlength := (parse_length fuel').1 _ _ _ hchild
      simp only [bind, Except.bind]
      cases input' with
      | nil => rfl
      | cons c rest =>
        rw [List.length_cons] at hlength
        have hrest := (ih rest.length (by omega) rest le_rfl fuel fuel').2 (by omega) (by omega)
        simp only [hrest]

/-- More fuel than one for each character of the input changes nothing. -/
theorem parseCell_fuel {input : List Char} {fuel : ℕ} (h : input.length < fuel) :
    parseCell fuel input = parseCell (input.length + 1) input :=
  (parse_fuel input.length input le_rfl fuel _).1 h (Nat.lt_succ_self _)

theorem parseTmuxLayout_named [LayoutJson] {layout : String} {root : TmuxLayoutCell}
    (h : parseTmuxLayout layout = .ok root) : Named root := by
  rw [parseTmuxLayout] at h
  dsimp only at h
  split_ifs at h
  · obtain ⟨json, -, h⟩ := bind_eq_ok.mp h
    exact named_json json.root root h
  · obtain ⟨-, h⟩ := seq_eq_ok.mp h
    obtain ⟨⟨checksum, body⟩, -, h⟩ := bind_eq_ok.mp h
    obtain ⟨-, h⟩ := seq_eq_ok.mp h
    obtain ⟨expected, -, h⟩ := bind_eq_ok.mp h
    obtain ⟨-, h⟩ := seq_eq_ok.mp h
    obtain ⟨⟨cell, rest⟩, hcell, h⟩ := bind_eq_ok.mp h
    obtain ⟨-, h⟩ := seq_eq_ok.mp h
    cases h
    exact ((printable_parsed _).1 _ _ _ hcell).named

end VdeTmux.Sidebar
