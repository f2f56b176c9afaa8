import VdeTmux.Foundation.JsonValue
import VdeTmux.Foundation.Outcome
import VdeTmux.Foundation.Records
import VdeTmux.QuestionNotice.Resolver

/-!
# How a turn ended

The verdict on a Codex turn from the end of its transcript: only records that start in the last
`maxTail` bytes are parsed.
-/

open Foundation Foundation.Json Foundation.Records
namespace VdeTmux.Capacity
open QuestionNotice (TranscriptLocator)

def maxTail : ℕ := 256 * 1024

def newline : UInt8 := 10

class FromSlice where
  fromSlice : List UInt8 → Except String Value

inductive TerminalOutcome
  | pending
  | capacity
  | otherError
  | success
deriving DecidableEq

def member (value : Value) (key : String) : Value := (value.get key).getD .null

structure Parser where
  outcome : TerminalOutcome := .pending
  newerTurn : Bool := false
deriving DecidableEq

def completedOutcome (e : Value) : TerminalOutcome :=
  if (member (member e "error") "codex_error_info").asStr = some "server_overloaded" then .capacity
  else if (member e "error").isNull = false then .otherError
  else .success

def Parser.started (parser : Parser) (turn : String) (e : Value) : Parser :=
  if e.strField "type" = some "task_started" then
    ⟨.pending, e.strField "turn_id" ≠ some turn⟩
  else parser

def Parser.completed (parser : Parser) (turn : String) (e : Value) : Parser :=
  if parser.newerTurn = false ∧ e.strField "type" = some "task_complete" ∧
      e.strField "turn_id" = some turn then
    { parser with outcome := completedOutcome e }
  else parser

def Parser.event (parser : Parser) (turn : String) (event : Value) : Parser :=
  if event.strField "type" ≠ some "event_msg" then parser
  else
    let e := member event "payload"
    (parser.started turn e).completed turn e

section
variable [FromSlice]

def parseLines (turn : String) : Parser → List (List UInt8) → Except String TerminalOutcome
  | parser, [] => .ok parser.outcome
  | parser, line :: lines =>
    if line.getLast? ≠ some newline then .ok parser.outcome
    else do
      let event ← FromSlice.fromSlice line
      parseLines turn (parser.event turn event) lines

def parseTerminal (data : List UInt8) (turn : String) : Except String TerminalOutcome :=
  parseLines turn {} (splitInclusive newline data)

/-- What the file system says of the path of a locator. -/
structure Found where
  matchesCurrentFile : Bool
  isFile : Bool
  dev : ℕ
  ino : ℕ
  content : List UInt8

def tailOf (content : List UInt8) : List UInt8 :=
  let offset := content.length - maxTail
  let data := content.drop (offset - 1)
  if offset = 0 then data
  else if data.head? = some newline then data.drop 1
  else afterFirst newline data

/-- The outcome of a turn, and the size of the transcript for the next read. -/
def readTerminal (locator : TranscriptLocator) (found : Found) (turn : String) (size : ℕ) :
    Except String TerminalOutcome × ℕ :=
  if found.matchesCurrentFile = false then (.error "transcript identity changed", size)
  else if ¬(found.isFile = true ∧ found.dev = locator.dev ∧ found.ino = locator.ino ∧
      size ≤ found.content.length) then (.error "transcript replaced or truncated", size)
  else (parseTerminal (tailOf found.content) turn, found.content.length)

end

inductive Mark
  | started (same : Bool)
  | completed (outcome : TerminalOutcome)
  | other
deriving DecidableEq

def mark (turn : String) (event : Value) : Mark :=
  if event.strField "type" ≠ some "event_msg" then .other
  else
    let e := member event "payload"
    if e.strField "type" = some "task_started" then .started (e.strField "turn_id" = some turn)
    else if e.strField "type" = some "task_complete" ∧ e.strField "turn_id" = some turn then
      .completed (completedOutcome e)
    else .other

def Parser.apply (parser : Parser) : Mark → Parser
  | .started same => ⟨.pending, !same⟩
  | .completed outcome => if parser.newerTurn = true then parser else ⟨outcome, false⟩
  | .other => parser

theorem completedOutcome_ne (e : Value) : completedOutcome e ≠ .pending := by
  unfold completedOutcome
  split_ifs <;> decide

theorem mark_completed_ne {turn : String} {event : Value} {outcome : TerminalOutcome}
    (h : mark turn event = .completed outcome) : outcome ≠ .pending := by
  unfold mark at h
  dsimp only at h
  split_ifs at h
  cases h
  exact completedOutcome_ne _

theorem event_eq_apply (parser : Parser) (turn : String) (event : Value) :
    parser.event turn event = parser.apply (mark turn event) := by
  unfold Parser.event mark
  dsimp only
  by_cases hevent : event.strField "type" = some "event_msg"
  · rw [if_neg (not_not.mpr hevent), if_neg (not_not.mpr hevent)]
    generalize member event "payload" = e
    unfold Parser.started
    by_cases hstarted : e.strField "type" = some "task_started"
    · rw [if_pos hstarted, if_pos hstarted, Parser.completed, if_neg (by simp [hstarted])]
      simp [Parser.apply]
    · rw [if_neg hstarted, if_neg hstarted]
      unfold Parser.completed
      by_cases hcomplete : e.strField "type" = some "task_complete" ∧
          e.strField "turn_id" = some turn
      · rw [if_pos hcomplete]
        obtain ⟨outcome, newerTurn⟩ := parser
        cases newerTurn <;> simp [Parser.apply, hcomplete]
      · rw [if_neg hcomplete, if_neg (fun h => hcomplete h.2)]
        rfl
  · rw [if_pos hevent, if_pos hevent]
    rfl

def run (parser : Parser) (marks : List Mark) : Parser := marks.foldl Parser.apply parser

def Mark.starts : Mark → Bool
  | started _ => true
  | _ => false

def Mark.completes : Mark → Bool
  | completed _ => true
  | _ => false

theorem run_append (parser : Parser) (marks marks' : List Mark) :
    run parser (marks ++ marks') = run (run parser marks) marks' := List.foldl_append ..

theorem run_cons (parser : Parser) (mark : Mark) (marks : List Mark) :
    run parser (mark :: marks) = run (parser.apply mark) marks := rfl

theorem run_of_starts {marks : List Mark} (h : ∃ m ∈ marks, m.starts = true)
    (parser parser' : Parser) : run parser marks = run parser' marks := by
  induction marks generalizing parser parser' with
  | nil =>
    obtain ⟨m, hm, -⟩ := h
    cases hm
  | cons m marks ih =>
    rw [run_cons, run_cons]
    by_cases hrest : ∃ m ∈ marks, m.starts = true
    · exact ih hrest _ _
    · have hstart : m.starts = true := by
        obtain ⟨m', hm', hstart⟩ := h
        rcases List.mem_cons.mp hm' with rfl | hm'
        · exact hstart
        · exact absurd ⟨m', hm', hstart⟩ hrest
      cases m with
      | started same => rfl
      | completed => cases hstart
      | other => cases hstart

theorem run_newer {marks : List Mark} (h : ∀ m ∈ marks, m.starts = false)
    (outcome : TerminalOutcome) : run ⟨outcome, true⟩ marks = ⟨outcome, true⟩ := by
  induction marks with
  | nil => rfl
  | cons m marks ih =>
    obtain ⟨hm, hrest⟩ := List.forall_mem_cons.mp h
    cases m with
    | started => cases hm
    | completed => exact ih hrest
    | other => exact ih hrest

theorem run_quiet {marks : List Mark}
    (h : ∀ m ∈ marks, m.starts = false ∧ m.completes = false) (parser : Parser) :
    run parser marks = parser := by
  induction marks with
  | nil => rfl
  | cons m marks ih =>
    obtain ⟨hm, hrest⟩ := List.forall_mem_cons.mp h
    cases m with
    | started => cases hm.1
    | completed => cases hm.2
    | other => exact ih hrest

theorem run_completed {marks : List Mark} (h : ∀ m ∈ marks, m.starts = false)
    (hcompletes : ∃ m ∈ marks, m.completes = true) (outcome outcome' : TerminalOutcome) :
    run ⟨outcome, false⟩ marks = run ⟨outcome', false⟩ marks := by
  induction marks generalizing outcome outcome' with
  | nil =>
    obtain ⟨m, hm, -⟩ := hcompletes
    cases hm
  | cons m marks ih =>
    obtain ⟨hm, hrest⟩ := List.forall_mem_cons.mp h
    cases m with
    | started => cases hm
    | completed => rfl
    | other =>
      refine ih hrest ?_ outcome outcome'
      obtain ⟨m', hm', hcompletes⟩ := hcompletes
      rcases List.mem_cons.mp hm' with rfl | hm'
      · cases hcompletes
      · exact ⟨m', hm', hcompletes⟩

theorem run_decided {marks : List Mark} (h : ∀ m ∈ marks, m.starts = false)
    (hne : ∀ o, .completed o ∈ marks → o ≠ .pending) {outcome : TerminalOutcome}
    (hcompletes : outcome ≠ .pending ∨ ∃ m ∈ marks, m.completes = true) :
    (run ⟨outcome, false⟩ marks).outcome ≠ .pending := by
  induction marks generalizing outcome with
  | nil => exact hcompletes.resolve_right (by simp)
  | cons m marks ih =>
    obtain ⟨hm, hrest⟩ := List.forall_mem_cons.mp h
    have hne' : ∀ o, .completed o ∈ marks → o ≠ .pending :=
      fun o ho => hne o (List.mem_cons_of_mem m ho)
    cases m with
    | started => cases hm
    | completed o => exact ih hrest hne' (Or.inl (hne o List.mem_cons_self))
    | other =>
      refine ih hrest hne' (hcompletes.imp_right ?_)
      rintro ⟨m', hm', hcompletes⟩
      rcases List.mem_cons.mp hm' with rfl | hm'
      · cases hcompletes
      · exact ⟨m', hm', hcompletes⟩

theorem parser_eq {parser : Parser} {flag : Bool} (h : parser.newerTurn = flag) :
    parser = ⟨parser.outcome, flag⟩ := by
  rw [← h]

def Newer (marks : List Mark) : Prop :=
  ∃ before after, marks = before ++ .started false :: after ∧ ∀ m ∈ after, m.starts = false

theorem newer_snoc {marks : List Mark} {m : Mark} :
    Newer (marks ++ [m]) ↔ m = .started false ∨ m.starts = false ∧ Newer marks := by
  constructor
  · rintro ⟨before, after, heq, hafter⟩
    rcases List.eq_nil_or_concat after with rfl | ⟨rest, last, rfl⟩
    · exact Or.inl (List.append_inj_right' heq rfl |> List.singleton_inj.mp)
    · rw [List.concat_eq_append] at heq hafter
      rw [← List.cons_append, ← List.append_assoc] at heq
      obtain ⟨hmarks, hlast⟩ := List.append_inj' heq rfl
      obtain rfl := List.singleton_inj.mp hlast
      obtain ⟨hrest, hm⟩ := List.forall_mem_append.mp hafter
      exact Or.inr ⟨hm m (List.mem_singleton_self m), before, rest, hmarks, hrest⟩
  · rintro (rfl | ⟨hm, before, after, rfl, hafter⟩)
    · exact ⟨marks, [], rfl, by simp⟩
    · refine ⟨before, after ++ [m], by simp, ?_⟩
      exact List.forall_mem_append.mpr ⟨hafter, List.forall_mem_singleton.mpr hm⟩

theorem run_newerTurn (marks : List Mark) :
    ((run {} marks).newerTurn = true ↔ Newer marks) ∧
      ((run {} marks).newerTurn = true → (run {} marks).outcome = .pending) := by
  induction marks using List.reverseRecOn with
  | nil =>
    refine ⟨⟨fun h => absurd h (by decide), ?_⟩, fun h => absurd h (by decide)⟩
    rintro ⟨before, after, heq, -⟩
    simp at heq
  | append_singleton marks m ih =>
    rw [newer_snoc, run_append]
    change (((run {} marks).apply m).newerTurn = true ↔ _) ∧
      (((run {} marks).apply m).newerTurn = true → ((run {} marks).apply m).outcome = .pending)
    generalize run {} marks = parser at ih
    obtain ⟨outcome, newerTurn⟩ := parser
    cases m with
    | started same => cases same <;> simp [Parser.apply, Mark.starts]
    | completed => cases newerTurn <;> simp_all [Parser.apply, Mark.starts]
    | other => simp_all [Parser.apply, Mark.starts]

theorem run_deciding {marks : List Mark} (h : (run {} marks).outcome ≠ .pending) :
    ∃ before outcome after, marks = before ++ .completed outcome :: after ∧
      outcome = (run {} marks).outcome ∧ ¬Newer before ∧
      ∀ m ∈ after, m.starts = false ∧ m.completes = false := by
  induction marks using List.reverseRecOn with
  | nil => exact absurd rfl h
  | append_singleton marks m ih =>
    rw [run_append] at h ⊢
    change ((run {} marks).apply m).outcome ≠ .pending at h
    change ∃ before outcome after, _ ∧ outcome = ((run {} marks).apply m).outcome ∧ _
    have hkept (hquiet : m.starts = false ∧ m.completes = false)
        (hsame : ((run {} marks).apply m).outcome = (run {} marks).outcome) :
        ∃ before outcome after, marks ++ [m] = before ++ .completed outcome :: after ∧
          outcome = ((run {} marks).apply m).outcome ∧ ¬Newer before ∧
          ∀ m ∈ after, m.starts = false ∧ m.completes = false := by
      obtain ⟨before, outcome, after, heq, hout, hnewer, hafter⟩ := ih (hsame ▸ h)
      refine ⟨before, outcome, after ++ [m], by rw [heq]; simp, hout.trans hsame.symm, hnewer, ?_⟩
      exact List.forall_mem_append.mpr ⟨hafter, List.forall_mem_singleton.mpr hquiet⟩
    cases m with
    | started same => exact absurd rfl h
    | other => exact hkept ⟨rfl, rfl⟩ rfl
    | completed outcome =>
      obtain ⟨hnewer, hpending⟩ := run_newerTurn marks
      cases hflag : (run {} marks).newerTurn with
      | true =>
        rw [Parser.apply, if_pos hflag] at h
        exact absurd (hpending hflag) h
      | false =>
        refine ⟨marks, outcome, [], rfl, ?_, ?_, by simp⟩
        · rw [Parser.apply, if_neg (by simp [hflag])]
        · rw [← hnewer, hflag]
          decide

section
variable {old new : List Mark}

/-- The tail does not show that its completions are of an older turn. -/
def Masked (old new : List Mark) : Prop :=
  Newer old ∧ (∀ m ∈ new, m.starts = false) ∧ ∃ m ∈ new, m.completes = true

theorem run_masked (h : Masked old new) (hne : ∀ o, .completed o ∈ new → o ≠ .pending) :
    (run {} new).outcome ≠ .pending ∧ (run {} (old ++ new)).outcome = .pending := by
  obtain ⟨hnewer, hstarts, hcompletes⟩ := h
  obtain ⟨hflag, hpending⟩ := run_newerTurn old
  refine ⟨run_decided hstarts hne (Or.inr hcompletes), ?_⟩
  rw [run_append, parser_eq (hflag.mpr hnewer), run_newer hstarts]
  exact hpending (hflag.mpr hnewer)

theorem run_tail (h : (run {} new).outcome ≠ .pending) (hmasked : ¬Masked old new) :
    (run {} (old ++ new)).outcome = (run {} new).outcome := by
  rw [run_append]
  by_cases hstarts : ∃ m ∈ new, m.starts = true
  · rw [run_of_starts hstarts (run {} old) {}]
  · have hstarts : ∀ m ∈ new, m.starts = false := by simpa using hstarts
    have hcompletes : ∃ m ∈ new, m.completes = true := by
      by_contra hnone
      have hquiet : ∀ m ∈ new, m.starts = false ∧ m.completes = false :=
        fun m hm => ⟨hstarts m hm, by simpa using fun hc => hnone ⟨m, hm, hc⟩⟩
      exact h (by rw [run_quiet hquiet])
    have hnewer : ¬Newer old := fun hnewer => hmasked ⟨hnewer, hstarts, hcompletes⟩
    rw [← (run_newerTurn old).1, Bool.not_eq_true] at hnewer
    rw [parser_eq hnewer, run_completed hstarts hcompletes _ .pending]

/-- Where the tail leaves the turn open, so does the whole, or its deciding completion lies before
the tail. -/
theorem run_tail_pending (h : (run {} new).outcome = .pending)
    (hne : ∀ o, .completed o ∈ new → o ≠ .pending) :
    (run {} (old ++ new)).outcome = .pending ∨
      ∃ before outcome after, old = before ++ .completed outcome :: after ∧
        outcome = (run {} (old ++ new)).outcome ∧
        ∀ m ∈ after ++ new, m.starts = false ∧ m.completes = false := by
  rw [run_append]
  by_cases hstarts : ∃ m ∈ new, m.starts = true
  · exact Or.inl (by rw [run_of_starts hstarts (run {} old) {}, h])
  · have hstarts : ∀ m ∈ new, m.starts = false := by simpa using hstarts
    have hquiet : ∀ m ∈ new, m.starts = false ∧ m.completes = false := by
      refine fun m hm => ⟨hstarts m hm, Bool.eq_false_iff.mpr fun hcompletes => ?_⟩
      exact run_decided hstarts hne (Or.inr ⟨m, hm, hcompletes⟩) h
    rw [run_quiet hquiet]
    by_cases hopen : (run {} old).outcome = .pending
    · exact Or.inl hopen
    · obtain ⟨before, outcome, after, heq, hout, -, hafter⟩ := run_deciding hopen
      exact Or.inr ⟨before, outcome, after, heq, hout,
        List.forall_mem_append.mpr ⟨hafter, hquiet⟩⟩

end

end VdeTmux.Capacity
