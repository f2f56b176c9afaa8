import VdeTmux.Capture.Parsing
import VdeTmux.Capture.Transcript
import VdeTmux.Foundation.Numerals

/-!
# Reading back a section

The section of a pane is read as what its guard saw: the captured rows behind a size that did not
change, or an error.
-/

open Foundation Foundation.Text Foundation.Cutting Foundation.Writer
namespace VdeTmux.Capture

/-- A row that is no line of the framing; a carriage return at its end does not count. -/
structure Foreign (delimiter row : List Char) : Prop where
  notDelimiter : stripCr row ≠ delimiter
  notBoundary : stripCr row ≠ jobBoundaryMarker delimiter
  notIdentity : ¬captureIdentityPrefix delimiter <+: row
  notView : ¬obsViewMarker delimiter <+: row
  notOk : ¬obsOkMarker delimiter <+: row

def Look.Foreign (delimiter : List Char) (look : Look) : Prop :=
  ∀ screen ∈ look.captured, ∀ row ∈ screen.rows, Capture.Foreign delimiter row

/-- The captured rows, and where the rows behind the history begin. -/
def Screen.capturedAs (screen : Screen) (height : ℕ) : CapturedScreen :=
  ⟨text screen.rows, charBytes (text (screen.rows.take (screen.rows.length - height)))⟩

def Look.observed : Look → Except CaptureBatchError CapturedScreen
  | ⟨some _, some before, some captured, some after⟩ =>
    if before.size ≠ after.size ∨ captured.rows.length < before.height then .error .invalidViewport
    else .ok (captured.capturedAs before.height)
  | _ => .error (.processFailed none)

theorem Screen.oneLine_rows (screen : Screen) : ∀ row ∈ screen.rows, '\n' ∉ row := by
  intro row hrow
  rcases List.mem_append.mp hrow with hrow | hrow
  · exact screen.oneLine row (List.mem_append_left _ (List.mem_of_mem_drop hrow))
  · exact screen.oneLine row (List.mem_append_right _ hrow)

theorem not_mem_shapeLine {c : Char} {marker : List Char} (h : c ∉ marker)
    (hdigit : c.isDigit = false) (hcolon : c ≠ ':') (screen : Screen) :
    c ∉ shapeLine marker screen := by
  have hdigits := not_mem_digits hdigit
  intro hmem
  rcases List.mem_append.mp hmem with hmem | hmem
  · exact h hmem
  · rcases List.mem_append.mp hmem with hmem | hmem
    · exact hdigits _ hmem
    · rcases List.mem_cons.mp hmem with heq | hmem
      · exact hcolon heq
      · exact hdigits _ hmem

theorem rdropWhile_eq_self {p : Char → Bool} {cs : List Char} (h : ∀ c ∈ cs, p c = false) :
    cs.rdropWhile p = cs := by
  rw [List.rdropWhile_eq_self_iff]
  intro hne hlast
  rw [h _ (List.getLast_mem hne)] at hlast
  exact Bool.noConfusion hlast

theorem shape_shapeLine {marker : List Char} (hend : '\n' ∉ marker) (hreturn : '\r' ∉ marker)
    (screen : Screen) : shape (ended (shapeLine marker screen)) marker = some screen.size := by
  have hlineEnd := not_mem_shapeLine hend rfl (by decide) screen
  have hlineReturn := not_mem_shapeLine hreturn rfl (by decide) screen
  have htrim : (ended (shapeLine marker screen)).rdropWhile (fun c => c = '\r' || c = '\n') =
      shapeLine marker screen := by
    rw [ended, List.rdropWhile_concat_pos _ _ _ (by decide)]
    apply rdropWhile_eq_self
    intro c hc
    have hreturn' : c ≠ '\r' := fun heq => hlineReturn (heq ▸ hc)
    have hend' : c ≠ '\n' := fun heq => hlineEnd (heq ▸ hc)
    simp only [hreturn', hend', decide_false, Bool.or_self]
  have hcolon : ':' ∉ digits screen.width := not_mem_digits rfl screen.width
  rw [shape, htrim, shapeLine, stripStart_append]
  simp only [splitOnce_char hcolon, parseNat_digits screen.width_le,
    parseNat_digits screen.height_le, Option.bind_eq_bind, Option.bind_some]
  exact if_pos ⟨screen.width_pos, screen.height_pos⟩

theorem charBytes_text (lines : List (List Char)) :
    charBytes (text lines) = ((lines.map ended).map charBytes).sum := by
  induction lines with
  | nil => rfl
  | cons line lines ih =>
    rw [List.map_cons, List.map_cons, List.sum_cons, ← ih, text_cons, charBytes, List.map_append,
      List.sum_append]
    rfl

theorem prefix_ended {marker line : List Char} (hend : '\n' ∉ marker) :
    marker <+: ended line ↔ marker <+: line := by
  rw [ended, List.prefix_concat_iff]
  constructor
  · rintro (heq | h)
    · exact absurd (by rw [heq]; exact List.mem_append_right _ (List.mem_singleton_self _)) hend
    · exact h
  · exact Or.inr

theorem ok_not_prefix_view {delimiter : List Char} (screen : Screen) :
    ¬obsOkMarker delimiter <+: shapeLine (obsViewMarker delimiter) screen := by
  rintro ⟨rest, heq⟩
  have hok : ((obsOkMarker delimiter ++ rest).drop 10).head? = some 'o' := rfl
  have hview : ((shapeLine (obsViewMarker delimiter) screen).drop 10).head? = some 'v' := rfl
  rw [heq, hview] at hok
  exact absurd hok (by decide)

section Section
variable {delimiter : List Char} (h : Plain delimiter)
include h

theorem end_not_mem_ok : '\n' ∉ obsOkMarker delimiter :=
  not_mem_marker (by decide) (h.not_mem rfl) (by decide)

theorem end_not_mem_view : '\n' ∉ obsViewMarker delimiter :=
  not_mem_marker (by decide) (h.not_mem rfl) (by decide)

theorem return_not_mem_ok : '\r' ∉ obsOkMarker delimiter :=
  not_mem_marker (by decide) (h.not_mem rfl) (by decide)

theorem return_not_mem_view : '\r' ∉ obsViewMarker delimiter :=
  not_mem_marker (by decide) (h.not_mem rfl) (by decide)

theorem parseSection_refused {lines : List (List Char)} (hline : ∀ line ∈ lines, '\n' ∉ line)
    (hok : ∀ line ∈ lines, ¬obsOkMarker delimiter <+: line) :
    parseSection delimiter (text lines) = .error (.processFailed none) := by
  have hnone : ((lines.map ended).getLast?.any fun line =>
      (obsOkMarker delimiter).isPrefixOf line) = false := by
    rw [List.getLast?_map]
    cases hlast : lines.getLast? with
    | none => rfl
    | some line =>
      have hno := hok line (List.mem_of_getLast? hlast)
      rw [← prefix_ended (end_not_mem_ok h), ← List.isPrefixOf_iff_prefix] at hno
      exact Bool.eq_false_iff.mpr hno
  rw [parseSection, splitInclusive_text hline]
  exact if_pos hnone

theorem parseSection_framed {rows : List (List Char)} (hrows : ∀ row ∈ rows, '\n' ∉ row)
    (before after : Screen) :
    parseSection delimiter (text (shapeLine (obsViewMarker delimiter) before ::
        (rows ++ [shapeLine (obsOkMarker delimiter) after]))) =
      if before.size ≠ after.size ∨ rows.length < before.height then .error .invalidViewport
      else .ok ⟨text rows, charBytes (text (rows.take (rows.length - before.height)))⟩ := by
  have hline : ∀ line ∈ shapeLine (obsViewMarker delimiter) before ::
      (rows ++ [shapeLine (obsOkMarker delimiter) after]), '\n' ∉ line := by
    rw [List.forall_mem_cons, List.forall_mem_append, List.forall_mem_singleton]
    exact ⟨not_mem_shapeLine (end_not_mem_view h) rfl (by decide) before, hrows,
      not_mem_shapeLine (end_not_mem_ok h) rfl (by decide) after⟩
  let view := ended (shapeLine (obsViewMarker delimiter) before)
  let ok := ended (shapeLine (obsOkMarker delimiter) after)
  have hlines : splitInclusive '\n' (text (shapeLine (obsViewMarker delimiter) before ::
      (rows ++ [shapeLine (obsOkMarker delimiter) after]))) = (view :: rows.map ended) ++ [ok] := by
    rw [splitInclusive_text hline, List.map_cons, List.map_append, List.cons_append]
    rfl
  have hlast : ((view :: rows.map ended) ++ [ok]).getLast? = some ok := List.getLast?_concat
  have hhead : ((view :: rows.map ended) ++ [ok]).head? = some view := rfl
  have hrows' : ((view :: rows.map ended) ++ [ok]).dropLast.drop 1 = rows.map ended := by
    rw [List.dropLast_concat]
    rfl
  have hmarked : (obsOkMarker delimiter).isPrefixOf ok = true := by
    rw [List.isPrefixOf_iff_prefix, prefix_ended (end_not_mem_ok h)]
    exact List.prefix_append _ _
  have hbefore : shape view (obsViewMarker delimiter) = some before.size :=
    shape_shapeLine (end_not_mem_view h) (return_not_mem_view h) before
  have hafter : shape ok (obsOkMarker delimiter) = some after.size :=
    shape_shapeLine (end_not_mem_ok h) (return_not_mem_ok h) after
  have hbytes : (((rows.map ended).take (rows.length - before.height)).map charBytes).sum =
      charBytes (text (rows.take (rows.length - before.height))) := by
    rw [← List.map_take, charBytes_text]
  have hflat : (rows.map ended).flatten = text rows := (List.flatMap_def ..).symm
  simp only [parseSection, hlines, hlast, hhead, hrows', Option.any_some, hmarked,
    Bool.true_eq_false, if_false, Option.bind_some, hbefore, hafter]
  by_cases hsize : before.size = after.size
  · have hkept : (some before.size).filter (fun _ => decide (some before.size = some after.size)) =
        some before.size := by
      rw [Option.filter_some, hsize, decide_eq_true rfl, if_pos rfl]
    have hcondition : (before.size ≠ after.size ∨ rows.length < before.height) ↔
        rows.length < before.height := ⟨fun hor => hor.resolve_left (not_not.mpr hsize), Or.inr⟩
    rw [hkept, if_congr hcondition rfl rfl, ← hflat, ← hbytes]
    simp only [List.length_map]
    rfl
  · have hlost : (some before.size).filter (fun _ => decide (some before.size = some after.size)) =
        none := by
      rw [Option.filter_some, decide_eq_false fun heq => hsize (Option.some.inj heq),
        if_neg Bool.false_ne_true]
    rw [hlost, if_pos (Or.inl hsize)]

theorem parseSection_lines {look : Look} (hforeign : look.Foreign delimiter) :
    parseSection delimiter (text (look.lines delimiter)) = look.observed := by
  have hview : ∀ screen : Screen, '\n' ∉ shapeLine (obsViewMarker delimiter) screen :=
    not_mem_shapeLine (end_not_mem_view h) rfl (by decide)
  obtain ⟨target, before, captured, after⟩ := look
  cases target with
  | none => exact parseSection_refused h (List.forall_mem_nil _) (List.forall_mem_nil _)
  | some target =>
    cases before with
    | none => exact parseSection_refused h (List.forall_mem_nil _) (List.forall_mem_nil _)
    | some before =>
      cases captured with
      | none =>
        apply parseSection_refused h
        · exact List.forall_mem_singleton.mpr (hview before)
        · exact List.forall_mem_singleton.mpr (ok_not_prefix_view before)
      | some captured =>
        cases after with
        | none =>
          apply parseSection_refused h
          · exact List.forall_mem_cons.mpr ⟨hview before, captured.oneLine_rows⟩
          · exact List.forall_mem_cons.mpr ⟨ok_not_prefix_view before, fun row hrow =>
              (hforeign captured rfl row hrow).notOk⟩
        | some after => exact parseSection_framed h captured.oneLine_rows before after

end Section

end VdeTmux.Capture
