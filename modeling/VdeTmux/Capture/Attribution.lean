import VdeTmux.Capture.Sections

/-!
# Attribution of captured screens

Each job of a combined capture gets the outcome that its own panes give, whatever happened to the
panes of the other jobs.
-/

open Foundation Foundation.CommandLine Foundation.Text Foundation.Cutting Foundation.Writer
open VdeTmux.Pane (PaneInstance intDigits)
open VdeTmux.SessionManager (ServerIdentity)
namespace VdeTmux.Capture

def observedAll : List Look → Except CaptureBatchError (List CapturedScreen)
  | [] => .ok []
  | look :: looks => do
    let screen ← look.observed
    let screens ← observedAll looks
    return screen :: screens

theorem observedAll_eq_ok {looks : List Look} {screens : List CapturedScreen} :
    observedAll looks = .ok screens ↔
      List.Forall₂ (fun look screen => look.observed = .ok screen) looks screens := by
  induction looks generalizing screens with
  | nil =>
    rw [List.forall₂_nil_left_iff]
    exact ⟨fun heq => (Except.ok.inj heq).symm, fun heq => congrArg _ heq.symm⟩
  | cons look looks ih =>
    rw [List.forall₂_cons_left_iff, observedAll]
    constructor
    · intro heq
      cases hlook : look.observed with
      | error error =>
        rw [hlook] at heq
        cases heq
      | ok screen =>
        rw [hlook] at heq
        cases hlooks : observedAll looks with
        | error error =>
          rw [hlooks] at heq
          cases heq
        | ok rest =>
          rw [hlooks] at heq
          exact ⟨screen, rest, rfl, ih.mp hlooks, (Except.ok.inj heq).symm⟩
    · rintro ⟨screen, rest, hlook, hlooks, rfl⟩
      rw [hlook, ih.mpr hlooks]
      rfl

theorem lineValue_ended (line : List Char) : lineValue (ended line) = stripCr line := by
  rw [lineValue, ended, List.getLast?_concat, if_pos rfl, List.dropLast_concat]

theorem flatten_ended (lines : List (List Char)) : (lines.map ended).flatten = text lines :=
  (List.flatMap_def ..).symm

def standsAs (value line : List Char) : Bool := stripCr line = value

theorem standsAs_self {value : List Char} (h : '\r' ∉ value) : standsAs value value = true :=
  decide_eq_true (stripCr_of_not_mem h)

theorem standsAs_eq_false {value line : List Char} (h : stripCr line ≠ value) :
    standsAs value line = false := decide_eq_false h

theorem cut_text (value : List Char) {lines : List (List Char)}
    (h : ∀ line ∈ lines, '\n' ∉ line) :
    cut (lineIs value) (splitInclusive '\n' (text lines)) =
      ((cut (standsAs value) lines).1.map ended,
        (cut (standsAs value) lines).2.map (List.map ended)) := by
  rw [splitInclusive_text h]
  apply cut_map
  intro line _
  rw [lineIs, lineValue_ended, standsAs]

theorem forall_lines {P : List Char → Prop} {delimiter : List Char} {look : Look}
    (hview : ∀ screen, P (shapeLine (obsViewMarker delimiter) screen))
    (hok : ∀ screen, P (shapeLine (obsOkMarker delimiter) screen))
    (hrows : ∀ screen ∈ look.captured, ∀ row ∈ screen.rows, P row) :
    ∀ line ∈ look.lines delimiter, P line := by
  obtain ⟨target, before, captured, after⟩ := look
  cases target with
  | none => exact List.forall_mem_nil _
  | some target =>
    cases before with
    | none => exact List.forall_mem_nil _
    | some before =>
      cases captured with
      | none => exact List.forall_mem_singleton.mpr (hview before)
      | some captured =>
        cases after with
        | none => exact List.forall_mem_cons.mpr ⟨hview before, hrows captured rfl⟩
        | some after =>
          rw [Look.lines, List.forall_mem_cons, List.forall_mem_append, List.forall_mem_singleton]
          exact ⟨hview before, hrows captured rfl, hok after⟩

section Job
variable {delimiter : List Char} (h : Plain delimiter)
include h

theorem lines_end (look : Look) : ∀ line ∈ look.lines delimiter, '\n' ∉ line :=
  forall_lines (not_mem_shapeLine (end_not_mem_view h) rfl (by decide))
    (not_mem_shapeLine (end_not_mem_ok h) rfl (by decide)) fun screen _ => screen.oneLine_rows

theorem shapeLine_ne {marker : List Char} (hreturn : '\r' ∉ marker)
    (hhead : ∀ rest, ((marker ++ rest).take 7) = "__vde_o".toList) (screen : Screen) :
    stripCr (shapeLine marker screen) ≠ delimiter ∧
      stripCr (shapeLine marker screen) ≠ jobBoundaryMarker delimiter := by
  rw [stripCr_of_not_mem (not_mem_shapeLine hreturn rfl (by decide) screen)]
  have htake : (shapeLine marker screen).take 7 = "__vde_o".toList := hhead _
  constructor
  · rintro rfl
    have hunderscore : '_' ∈ shapeLine marker screen := by
      apply List.mem_of_mem_take (i := 7)
      rw [htake]
      decide
    exact absurd (h '_' hunderscore) (by decide)
  · intro heq
    have hboundary : (jobBoundaryMarker delimiter).take 7 = "__vde_j".toList := rfl
    rw [heq, hboundary] at htake
    exact absurd htake (by decide)

theorem lines_foreign {look : Look} (hforeign : look.Foreign delimiter) :
    ∀ line ∈ look.lines delimiter,
      stripCr line ≠ delimiter ∧ stripCr line ≠ jobBoundaryMarker delimiter := by
  apply forall_lines
  · exact shapeLine_ne h (return_not_mem_view h) fun _ => rfl
  · exact shapeLine_ne h (return_not_mem_ok h) fun _ => rfl
  · intro screen hscreen row hrow
    exact ⟨(hforeign screen hscreen row hrow).notDelimiter,
      (hforeign screen hscreen row hrow).notBoundary⟩

theorem end_not_mem_sections (looks : List Look) :
    ∀ line ∈ [delimiter].intercalate (looks.map (Look.lines delimiter)), '\n' ∉ line := by
  apply forall_intercalate (P := fun line => '\n' ∉ line) (h.not_mem rfl)
  intro lines hlines
  obtain ⟨look, -, rfl⟩ := List.mem_map.mp hlines
  exact lines_end h look

theorem splitSections_lines {look : Look} {looks : List Look}
    (hforeign : ∀ other ∈ look :: looks, other.Foreign delimiter) :
    splitSections (text ([delimiter].intercalate ((look :: looks).map (Look.lines delimiter))))
        delimiter =
      (look :: looks).map fun other => text (other.lines delimiter) := by
  have hgroups : ∀ group ∈ look.lines delimiter :: looks.map (Look.lines delimiter),
      ∀ line ∈ group, standsAs delimiter line = false := by
    intro group hgroup line hline
    obtain ⟨other, hother, rfl⟩ := List.mem_map.mp
      (show group ∈ (look :: looks).map (Look.lines delimiter) from hgroup)
    exact standsAs_eq_false (lines_foreign h (hforeign other hother) line hline).1
  have hcut : cut (standsAs delimiter)
      ([delimiter].intercalate ((look :: looks).map (Look.lines delimiter))) =
        (look.lines delimiter, looks.map (Look.lines delimiter)) :=
    cut_intercalate (standsAs_self (h.not_mem rfl)) hgroups
  rw [splitSections, cut_text delimiter (end_not_mem_sections h (look :: looks)), hcut]
  simp only [List.map_map, List.map_cons, flatten_ended, List.cons.injEq, true_and]
  exact List.map_congr_left fun other _ => flatten_ended _

theorem parseSections_lines {looks : List Look}
    (hforeign : ∀ look ∈ looks, look.Foreign delimiter) :
    parseSections delimiter (looks.map fun look => text (look.lines delimiter)) =
      observedAll looks := by
  induction looks with
  | nil => rfl
  | cons look looks ih =>
    have hrest := ih fun other hother => hforeign other (List.mem_cons_of_mem look hother)
    rw [List.map_cons, parseSections, observedAll,
      parseSection_lines h (hforeign look List.mem_cons_self), hrest]

theorem parseObservationJob_lines {looks : List Look}
    (hforeign : ∀ look ∈ looks, look.Foreign delimiter) :
    parseObservationJob (text ([delimiter].intercalate (looks.map (Look.lines delimiter))))
      looks.length delimiter = observedAll looks := by
  cases looks with
  | nil => rfl
  | cons look looks =>
    have hlength : ¬((look :: looks).map fun other => text (other.lines delimiter)).length ≠
        (look :: looks).length := not_not.mpr (List.length_map _)
    have hcount : ¬(look :: looks).length = 0 := Nat.succ_ne_zero looks.length
    rw [parseObservationJob, if_neg hcount, splitSections_lines h hforeign, if_neg hlength,
      parseSections_lines h hforeign]

theorem jobBodies_lines {allLooks : List (List Look)}
    (hforeign : ∀ looks ∈ allLooks, ∀ look ∈ looks, look.Foreign delimiter) :
    jobBodies delimiter (text (allLooks.flatMap (jobLines delimiter))) =
      allLooks.map fun looks =>
        text ([delimiter].intercalate (looks.map (Look.lines delimiter))) := by
  have hboundary : '\r' ∉ jobBoundaryMarker delimiter :=
    not_mem_marker (by decide) (h.not_mem rfl) (by decide)
  have hend : '\n' ∉ jobBoundaryMarker delimiter :=
    not_mem_marker (by decide) (h.not_mem rfl) (by decide)
  have hlines : ∀ line ∈ allLooks.flatMap (jobLines delimiter), '\n' ∉ line := by
    intro line hline
    obtain ⟨looks, -, hline⟩ := List.mem_flatMap.mp hline
    rcases List.mem_cons.mp hline with rfl | hline
    · exact hend
    · exact end_not_mem_sections h looks line hline
  have hdelimiter : delimiter ≠ jobBoundaryMarker delimiter := by
    intro heq
    have hunderscore : '_' ∈ jobBoundaryMarker delimiter := List.mem_cons_self
    rw [← heq] at hunderscore
    exact absurd (h '_' hunderscore) (by decide)
  have hgroup : ∀ looks ∈ allLooks,
      ∀ line ∈ [delimiter].intercalate (looks.map (Look.lines delimiter)),
        standsAs (jobBoundaryMarker delimiter) line = false := by
    intro looks hlooks
    apply forall_intercalate
    · apply standsAs_eq_false
      rw [stripCr_of_not_mem (h.not_mem rfl)]
      exact hdelimiter
    · intro lines hlines line hline
      obtain ⟨look, hlook, rfl⟩ := List.mem_map.mp hlines
      exact standsAs_eq_false (lines_foreign h (hforeign looks hlooks look hlook) line hline).2
  have hgroups : ∀ group ∈ allLooks.map fun looks =>
      [delimiter].intercalate (looks.map (Look.lines delimiter)),
      ∀ line ∈ group, standsAs (jobBoundaryMarker delimiter) line = false := by
    intro group hmem
    obtain ⟨looks, hlooks, rfl⟩ := List.mem_map.mp hmem
    exact hgroup looks hlooks
  have hjoined : allLooks.flatMap (jobLines delimiter) =
      (allLooks.map fun looks => [delimiter].intercalate
        (looks.map (Look.lines delimiter))).flatMap (jobBoundaryMarker delimiter :: ·) := by
    rw [List.flatMap_map]
    rfl
  rw [jobBodies, cut_text _ hlines, hjoined, cut_groups (standsAs_self hboundary) hgroups,
    List.map_map, List.map_map]
  exact List.map_congr_left fun looks _ => flatten_ended _

end Job

/-- An identity that fits the types of its fields. -/
def Fits (identity : ServerIdentity) : Prop :=
  identity.pid ≤ u32Max ∧ i64Min ≤ identity.startTime ∧ identity.startTime ≤ i64Max

theorem intDigits_eq (n : ℤ) : intDigits n = signed n := by
  cases n with
  | ofNat n => rfl
  | negSucc n => exact if_pos (Int.negSucc_lt_zero n)

theorem not_mem_identityLine {delimiter : List Char} {c : Char}
    (hmarker : c ∉ captureIdentityPrefix delimiter) (hdigit : c.isDigit = false) (hcolon : c ≠ ':')
    (hminus : c ≠ '-') (identity : ServerIdentity) : c ∉ identityLine delimiter identity := by
  have hdigits := not_mem_digits hdigit
  have hsigned : ∀ n : ℤ, c ∉ signed n := by
    intro n
    cases n with
    | ofNat n => exact hdigits n
    | negSucc n => exact fun hmem => (List.mem_cons.mp hmem).elim hminus (hdigits (n + 1))
  rw [identityLine, intDigits_eq]
  intro hmem
  rcases List.mem_append.mp hmem with hmem | hmem
  · exact hmarker hmem
  · rcases List.mem_append.mp hmem with hmem | hmem
    · exact hdigits _ hmem
    · exact (List.mem_cons.mp hmem).elim hcolon (hsigned _)

theorem identityOf_identityLine {delimiter : List Char} (h : Plain delimiter)
    {identity : ServerIdentity} (hfits : Fits identity) :
    identityOf delimiter (identityLine delimiter identity) = some identity := by
  have hmarker : '\r' ∉ captureIdentityPrefix delimiter :=
    not_mem_marker (by decide) (h.not_mem rfl) (by decide)
  have hreturn := not_mem_identityLine hmarker rfl (by decide) (by decide) identity
  rw [identityOf, stripCr_of_not_mem hreturn, identityLine, stripStart_append, intDigits_eq]
  simp only [Option.bind_eq_bind, Option.bind_some, splitOnce_char (not_mem_digits (c := ':') rfl _),
    parseNat_digits hfits.1, parseInt_signed hfits.2.1 hfits.2.2]
  rfl

end VdeTmux.Capture
