import VdeTmux.Capacity.Terminal

/-!
# The verdict of a bounded tail

Against the verdict of the whole transcript. They differ in one case: a late completion of an older
turn, when the start of the newer one lies before the tail.
-/

open Foundation Foundation.Json Foundation.Records
namespace VdeTmux.Capacity
open QuestionNotice (TranscriptLocator)

section
variable [FromSlice]

/-- Newline-terminated JSON records, and a record that is not finished. -/
structure Transcript (records : List (List UInt8)) (fragment : List UInt8) : Prop where
  ended : ∀ r ∈ records, Ended newline r
  json : ∀ r ∈ records, ∃ value, FromSlice.fromSlice r = .ok value
  unfinished : newline ∉ fragment

def markOf (turn : String) (record : List UInt8) : Mark :=
  match FromSlice.fromSlice record with
  | .ok event => mark turn event
  | .error _ => .other

theorem parseLines_records {turn : String} {records rest : List (List UInt8)} {parser : Parser}
    (hended : ∀ r ∈ records, Ended newline r)
    (hjson : ∀ r ∈ records, ∃ value, FromSlice.fromSlice r = .ok value)
    (hrest : ∀ line ∈ rest, line.getLast? ≠ some newline) :
    parseLines turn parser (records ++ rest) =
      .ok (run parser (records.map (markOf turn))).outcome := by
  induction records generalizing parser with
  | nil =>
    cases rest with
    | nil => rfl
    | cons line rest =>
      rw [List.nil_append, parseLines, if_pos (hrest line List.mem_cons_self)]
      rfl
  | cons r records ih =>
    obtain ⟨hr, hended⟩ := List.forall_mem_cons.mp hended
    obtain ⟨⟨value, hvalue⟩, hjson⟩ := List.forall_mem_cons.mp hjson
    have hmark : markOf turn r = mark turn value := by rw [markOf, hvalue]
    rw [List.cons_append, parseLines, if_neg (not_not.mpr hr.getLast?), hvalue]
    change parseLines turn (parser.event turn value) (records ++ rest) = _
    rw [ih hended hjson, event_eq_apply, List.map_cons, run_cons, hmark]

theorem parseTerminal_records {turn : String} {records : List (List UInt8)}
    {fragment : List UInt8} (h : Transcript records fragment) :
    parseTerminal (records.flatten ++ fragment) turn =
      .ok (run {} (records.map (markOf turn))).outcome := by
  rw [parseTerminal, splitInclusive_records h.ended]
  apply parseLines_records h.ended h.json
  intro line hline
  by_cases hnil : fragment = []
  · subst hnil
    cases hline
  · rw [splitInclusive_fragment h.unfinished hnil, List.mem_singleton] at hline
    subst hline
    exact getLast?_ne h.unfinished

def tailOffset (records : List (List UInt8)) (fragment : List UInt8) : ℕ :=
  (records.flatten ++ fragment).length - maxTail

def inTail (records : List (List UInt8)) (fragment : List UInt8) : List (List UInt8) :=
  recordsFrom (tailOffset records fragment) records

def beforeTail (records : List (List UInt8)) (fragment : List UInt8) : List (List UInt8) :=
  recordsBefore (tailOffset records fragment) records

omit [FromSlice] in
theorem beforeTail_append (records : List (List UInt8)) (fragment : List UInt8) :
    beforeTail records fragment ++ inTail records fragment = records :=
  recordsBefore_append _ records

theorem tailOf_records {records : List (List UInt8)} {fragment : List UInt8}
    (h : Transcript records fragment) :
    tailOf (records.flatten ++ fragment) = (inTail records fragment).flatten ++
      fragmentFrom (tailOffset records fragment) records fragment := by
  have hdrop {data : List UInt8} (hhead : data.head? = some newline) :
      data.drop 1 = afterFirst newline data := by
    obtain ⟨rest, rfl⟩ := List.head?_eq_some_iff.mp hhead
    have hafter : afterFirst newline ([] ++ newline :: rest) = rest :=
      afterFirst_append List.not_mem_nil rest
    exact hafter.symm
  unfold tailOf inTail
  change (if tailOffset records fragment = 0 then
      (records.flatten ++ fragment).drop (tailOffset records fragment - 1) else _) = _
  by_cases hzero : tailOffset records fragment = 0
  · rw [if_pos hzero, hzero, recordsFrom_zero, fragmentFrom, if_pos (Nat.zero_le _)]
    rfl
  · rw [if_neg hzero, ← afterFirst_drop h.ended h.unfinished (Nat.pos_of_ne_zero hzero)]
    change (if ((records.flatten ++ fragment).drop (tailOffset records fragment - 1)).head? =
      some newline then _ else _) = _
    split_ifs with hhead
    · exact hdrop hhead
    · rfl

theorem transcript_inTail {records : List (List UInt8)} {fragment : List UInt8}
    (h : Transcript records fragment) :
    Transcript (inTail records fragment)
      (fragmentFrom (tailOffset records fragment) records fragment) := by
  have hsubset : ∀ r ∈ inTail records fragment, r ∈ records := by
    intro r hr
    rw [← beforeTail_append records fragment]
    exact List.mem_append_right _ hr
  refine ⟨fun r hr => h.ended r (hsubset r hr), fun r hr => h.json r (hsubset r hr), ?_⟩
  unfold fragmentFrom
  split_ifs
  · exact h.unfinished
  · exact List.not_mem_nil

/-- What parsing the tail is to say of the whole: the same verdict, an open turn unless it was
decided before the tail, and nothing of a record that is cut. -/
def TailVerdict (turn : String) (records : List (List UInt8)) (fragment : List UInt8)
    (outcome : TerminalOutcome) : Prop :=
  (outcome ≠ .pending → parseTerminal (records.flatten ++ fragment) turn = .ok outcome) ∧
  (outcome = .pending → parseTerminal (records.flatten ++ fragment) turn = .ok .pending ∨
    ∃ before r decided after, beforeTail records fragment = before ++ r :: after ∧
      markOf turn r = .completed decided ∧
      parseTerminal (records.flatten ++ fragment) turn = .ok decided ∧
      ∀ later ∈ after ++ inTail records fragment,
        (markOf turn later).starts = false ∧ (markOf turn later).completes = false) ∧
  parseTerminal (inTail records fragment).flatten turn = .ok outcome

theorem completed_ne {turn : String} {records : List (List UInt8)} {o : TerminalOutcome}
    (ho : .completed o ∈ records.map (markOf turn)) : o ≠ .pending := by
  obtain ⟨r, -, hmark⟩ := List.mem_map.mp ho
  unfold markOf at hmark
  split at hmark
  · exact mark_completed_ne hmark
  · cases hmark

/-- The tail gives the verdict of the whole exactly when it does not hold a completion of the turn
alone while the last start before it is for another turn. -/
theorem tail_verdict_iff {records : List (List UInt8)} {fragment : List UInt8} {turn : String}
    {locator : TranscriptLocator} {found : Found} {size size' : ℕ} {outcome : TerminalOutcome}
    (h : Transcript records fragment) (hcontent : found.content = records.flatten ++ fragment)
    (hread : readTerminal locator found turn size = (.ok outcome, size')) :
    TailVerdict turn records fragment outcome ↔
      ¬Masked ((beforeTail records fragment).map (markOf turn))
        ((inTail records fragment).map (markOf turn)) := by
  have htail := transcript_inTail h
  have houtcome : (run {} ((inTail records fragment).map (markOf turn))).outcome = outcome := by
    unfold readTerminal at hread
    split_ifs at hread
    all_goals obtain ⟨hread, -⟩ := Prod.mk.inj hread
    · cases hread
    · rw [hcontent, tailOf_records h, parseTerminal_records htail] at hread
      exact Except.ok.inj hread
    · cases hread
  have hwhole : parseTerminal (records.flatten ++ fragment) turn =
      .ok (run {} ((beforeTail records fragment).map (markOf turn) ++
        (inTail records fragment).map (markOf turn))).outcome := by
    rw [parseTerminal_records h, ← List.map_append, beforeTail_append]
  have halone : parseTerminal (inTail records fragment).flatten turn = .ok outcome := by
    have halone : Transcript (inTail records fragment) [] := ⟨htail.ended, htail.json, by simp⟩
    have hparse : parseTerminal _ turn = _ := parseTerminal_records halone
    rw [List.append_nil] at hparse
    rw [hparse, houtcome]
  subst houtcome
  unfold TailVerdict
  rw [hwhole]
  constructor
  · rintro ⟨hdecided, -, -⟩ hmasked
    obtain ⟨hne, hpending⟩ := run_masked hmasked fun o ho => completed_ne ho
    have hsame := hdecided hne
    rw [hpending] at hsame
    exact hne (Except.ok.inj hsame).symm
  · intro hmasked
    refine ⟨fun hne => by rw [run_tail hne hmasked], fun hpending => ?_, halone⟩
    rcases run_tail_pending hpending fun o ho => completed_ne ho with hopen | hdeciding
    · exact Or.inl (by rw [hopen])
    · obtain ⟨before, decided, after, heq, hdecided, hquiet⟩ := hdeciding
      obtain ⟨front, back, hsplit, rfl, hback⟩ := List.map_eq_append_iff.mp heq
      obtain ⟨r, rest, rfl, hmark, rfl⟩ := List.map_eq_cons_iff.mp hback
      refine Or.inr ⟨front, r, decided, rest, hsplit, hmark, by rw [hdecided], ?_⟩
      intro later hlater
      apply hquiet
      rw [← List.map_append]
      exact List.mem_map_of_mem hlater

end

namespace LateCompletion

def event (payload : List (String × Value)) : Value :=
  .object [("type", .string "event_msg"), ("payload", .object payload)]

def bytes (text : String) : List UInt8 := text.toList.map fun c => UInt8.ofNat c.toNat

def started : List UInt8 :=
  bytes "\x7b\"type\":\"event_msg\",\"payload\":\x7b\"type\":\"task_started\",\"turn_id\":\"new\"\x7d\x7d\n"

def completed : List UInt8 :=
  bytes "\x7b\"type\":\"event_msg\",\"payload\":\x7b\"type\":\"task_complete\",\"turn_id\":\"t\"\x7d\x7d\n"

def padding : List UInt8 := List.replicate maxTail 32 ++ bytes "\x7b\x7d\n"

/-- What a reader makes of the three records. -/
@[reducible] def json : FromSlice where
  fromSlice := fun line =>
    if line = started then
      .ok (event [("type", .string "task_started"), ("turn_id", .string "new")])
    else if line = completed then
      .ok (event [("type", .string "task_complete"), ("turn_id", .string "t")])
    else .ok (.object [])

def locator : TranscriptLocator := ⟨"home", "rollout.jsonl", 1, 2⟩

def found : Found := ⟨true, true, 1, 2, started ++ (padding ++ completed)⟩

theorem ended_bytes {line : List UInt8} (h : line.getLast? = some newline)
    (hfront : newline ∉ line.dropLast) : Ended newline line := by
  have hne : line ≠ [] := by
    rintro rfl
    cases h
  refine ⟨line.dropLast, ?_, hfront⟩
  rw [List.getLast?_eq_some_getLast hne, Option.some_inj] at h
  rw [← h, List.dropLast_append_getLast]

theorem ended_padding : Ended newline padding := by
  refine ⟨List.replicate maxTail 32 ++ bytes "\x7b\x7d", ?_, ?_⟩
  · rw [padding, List.append_assoc]
    exact congrArg (List.replicate maxTail 32 ++ ·) (by decide)
  · intro hmem
    rcases List.mem_append.mp hmem with hblank | hobject
    · exact absurd (List.eq_of_mem_replicate hblank) (by decide)
    · exact absurd hobject (by decide)

theorem padding_head : padding.head? = some 32 := by
  rw [padding, List.head?_append, List.head?_replicate, if_neg (by decide)]
  rfl

theorem padding_ne {line : List UInt8} (h : line.head? ≠ some 32) : padding ≠ line := by
  rintro rfl
  exact h padding_head

theorem transcript : @Transcript json [started, padding, completed] [] := by
  refine @Transcript.mk json _ _ ?_ ?_ (by simp)
  · intro r hr
    simp only [List.mem_cons, List.not_mem_nil, or_false] at hr
    rcases hr with rfl | rfl | rfl
    · exact ended_bytes (by decide) (by decide)
    · exact ended_padding
    · exact ended_bytes (by decide) (by decide)
  · intro r _
    change ∃ value, (if r = started then _ else if r = completed then _ else _) = Except.ok value
    split_ifs
    · exact ⟨_, rfl⟩
    · exact ⟨_, rfl⟩
    · exact ⟨_, rfl⟩

theorem inTail_long {first long last : List UInt8} {extra : ℕ}
    (hlong : long.length = maxTail + extra) (hextra : 0 < extra) (hlast : 0 < last.length)
    (hshort : extra + last.length ≤ maxTail) : inTail [first, long, last] [] = [last] := by
  have hoffset : tailOffset [first, long, last] [] = first.length + extra + last.length := by
    simp only [tailOffset, List.flatten_cons, List.flatten_nil, List.append_nil,
      List.length_append, hlong]
    omega
  rw [inTail, hoffset, recordsFrom, if_neg (by omega), recordsFrom, if_neg (by omega), hlong]
  have hzero : first.length + extra + last.length - first.length - (maxTail + extra) = 0 := by
    omega
  rw [hzero, recordsFrom_zero]

theorem length_padding : padding.length = maxTail + 3 := by
  have hobject : (bytes "\x7b\x7d\n").length = 3 := by decide
  rw [padding, List.length_append, List.length_replicate, hobject]

theorem inTail_records : inTail [started, padding, completed] [] = [completed] :=
  inTail_long length_padding (by decide) (by decide) (by decide)

theorem markOf_of_fromSlice {record : List UInt8} {value : Value} {turn : String} [FromSlice]
    (h : FromSlice.fromSlice record = .ok value) : markOf turn record = mark turn value := by
  rw [markOf, h]

theorem markOf_started : @markOf json "t" started = .started false := by
  rw [@markOf_of_fromSlice started _ "t" json (if_pos rfl)]
  decide

theorem markOf_completed : @markOf json "t" completed = .completed .success := by
  rw [@markOf_of_fromSlice completed _ "t" json ((if_neg (by decide)).trans (if_pos rfl))]
  decide

theorem markOf_padding : @markOf json "t" padding = .other := by
  rw [@markOf_of_fromSlice padding _ "t" json
    ((if_neg (padding_ne (by decide))).trans (if_neg (padding_ne (by decide))))]
  decide

theorem content : found.content = [started, padding, completed].flatten ++ [] := by
  simp [found]

theorem parseTerminal_tail :
    @parseTerminal json (tailOf ([started, padding, completed].flatten ++ [])) "t" =
      .ok .success := by
  let _ := json
  rw [tailOf_records transcript, parseTerminal_records (transcript_inTail transcript),
    inTail_records, List.map_singleton, markOf_completed]
  rfl

theorem parseTerminal_whole :
    @parseTerminal json ([started, padding, completed].flatten ++ []) "t" = .ok .pending := by
  let _ := json
  rw [parseTerminal_records transcript, List.map_cons, List.map_cons, List.map_singleton,
    markOf_started, markOf_padding, markOf_completed]
  rfl

theorem readTerminal_found :
    @readTerminal json locator found "t" 0 = (.ok .success, found.content.length) := by
  let _ := json
  have hsame : found.isFile = true ∧ found.dev = locator.dev ∧ found.ino = locator.ino ∧
      0 ≤ found.content.length := ⟨rfl, rfl, rfl, Nat.zero_le _⟩
  rw [readTerminal, if_neg (by decide), if_neg (not_not.mpr hsame), content, parseTerminal_tail]

end LateCompletion

open LateCompletion in
/-- The tail says that the turn succeeded, the whole that it is open. -/
theorem tail_verdict_differs : ¬∀ records fragment turn locator found size outcome size',
    @Transcript json records fragment → found.content = records.flatten ++ fragment →
    @readTerminal json locator found turn size = (.ok outcome, size') →
      @TailVerdict json turn records fragment outcome := by
  intro hclaim
  obtain ⟨hdecided, -⟩ := hclaim _ _ _ _ _ _ _ _ transcript content readTerminal_found
  have hsame := hdecided (by decide)
  rw [parseTerminal_whole] at hsame
  cases hsame

open LateCompletion in
theorem tail_verdict_late : @TailVerdict json "t" [started, padding, completed] [] .success ↔
    ¬Masked ((beforeTail [started, padding, completed] []).map (@markOf json "t"))
      ((inTail [started, padding, completed] []).map (@markOf json "t")) :=
  @tail_verdict_iff json _ _ _ _ _ _ _ _ transcript content readTerminal_found

end VdeTmux.Capacity
