import Mathlib.Algebra.GroupWithZero.Nat
import Mathlib.Data.List.Basic
import Mathlib.Tactic.Common

/-!
# A grammar of command lines

Spaces separate words, single quotes make everything between them literal, a backslash outside
quotes makes the next character literal, and a semicolon outside quotes ends a command. Characters
that begin something else outside quotes are refused.
-/

namespace Foundation.CommandLine

/-- The commands that were read, the words of the next one, and the word that is open. -/
structure Reading where
  commands : List (List (List Char)) := []
  words : List (List Char) := []
  word : Option (List Char) := none
deriving DecidableEq

inductive Mode
  | plain
  | quoted
  | escaped
deriving DecidableEq

namespace Reading

def openWord (r : Reading) : Reading := { r with word := some (r.word.getD []) }

def put (r : Reading) (text : List Char) : Reading :=
  { r with word := some (r.word.getD [] ++ text) }

def endWord (r : Reading) : Reading :=
  match r.word with
  | none => r
  | some word => { r with words := r.words ++ [word], word := none }

def closeWords (r : Reading) : Reading :=
  if r.words = [] then r else { r with commands := r.commands ++ [r.words], words := [] }

def endCommand (r : Reading) : Reading := r.endWord.closeWords

end Reading

def specials : List Char := ['"', '$', '#', '~', '{', '}', '%', '\n', '\r', '\t']

def step : Mode × Reading → Char → Option (Mode × Reading)
  | (.quoted, r), c => some (if c = '\'' then (.plain, r) else (.quoted, r.put [c]))
  | (.escaped, r), c => some (.plain, r.put [c])
  | (.plain, r), c =>
    if c = '\'' then some (.quoted, r.openWord)
    else if c = '\\' then some (.escaped, r)
    else if c = ' ' then some (.plain, r.endWord)
    else if c = ';' then some (.plain, r.endCommand)
    else if c ∈ specials then none
    else some (.plain, r.put [c])

def run (state : Mode × Reading) (text : List Char) : Option (Mode × Reading) :=
  text.foldlM step state

/-- The commands of a text, each with its words. -/
def parse (text : List Char) : Option (List (List (List Char))) :=
  match run (.plain, {}) text with
  | some (.plain, r) => some r.endCommand.commands
  | _ => none

def quoteBody (text : List Char) : List Char :=
  text.flatMap fun c => if c = '\'' then ['\'', '\\', '\'', '\''] else [c]

def quote (text : List Char) : List Char := '\'' :: (quoteBody text ++ ['\''])

theorem run_nil (state : Mode × Reading) : run state [] = some state := rfl

theorem run_cons (state : Mode × Reading) (c : Char) (text : List Char) :
    run state (c :: text) = (step state c).bind fun state => run state text := rfl

theorem run_append (state : Mode × Reading) (text text' : List Char) :
    run state (text ++ text') = (run state text).bind fun state => run state text' :=
  List.foldlM_append

theorem put_openWord (r : Reading) (text : List Char) : (r.put text).openWord = r.put text := rfl

theorem put_put (r : Reading) (text text' : List Char) :
    (r.put text).put text' = r.put (text ++ text') := by
  simp only [Reading.put, Option.getD_some, List.append_assoc]

theorem openWord_put (r : Reading) (text : List Char) : r.openWord.put text = r.put text := rfl

theorem run_quoteChar (r : Reading) (c : Char) (rest : List Char) :
    run (.quoted, r) ((if c = '\'' then ['\'', '\\', '\'', '\''] else [c]) ++ rest) =
      run (.quoted, r.put [c]) rest := by
  split_ifs with h
  · subst h
    rfl
  · rw [List.singleton_append, run_cons, step, if_neg h]
    rfl

theorem run_quoteBody (r : Reading) (text rest : List Char) :
    run (.quoted, r.openWord) (quoteBody text ++ rest) = run (.quoted, r.put text) rest := by
  induction text generalizing r with
  | nil => simp only [quoteBody, List.flatMap_nil, List.nil_append, Reading.openWord, Reading.put,
      List.append_nil]
  | cons c text ih =>
    have hput : r.put [c] = (r.put [c]).openWord := (put_openWord r [c]).symm
    rw [quoteBody, List.flatMap_cons, List.append_assoc, run_quoteChar, openWord_put, hput]
    refine (ih (r.put [c])).trans ?_
    rw [put_put, List.singleton_append]

theorem run_quote (r : Reading) (text rest : List Char) :
    run (.plain, r) (quote text ++ rest) = run (.plain, r.put text) rest := by
  have hopen : step (.plain, r) '\'' = some (.quoted, r.openWord) := rfl
  rw [quote, List.cons_append, run_cons, hopen, Option.bind_some, List.append_assoc, run_quoteBody,
    List.singleton_append, run_cons]
  rfl

def separator : List Char := [';']

theorem ne_separator_of_head {text : List Char} {c : Char} (h : text.head? = some c)
    (hc : c ≠ ';') : text ≠ separator := by
  rintro rfl
  exact hc (Option.some.inj h).symm

def piece (word : List Char) : List Char := if word = separator then separator else quote word

def render (words : List (List Char)) : List Char := [' '].intercalate (words.map piece)

def Reading.take (r : Reading) (word : List Char) : Reading :=
  if word = separator then r.closeWords else { r with words := r.words ++ [word] }

theorem take_word {r : Reading} (h : r.word = none) (word : List Char) :
    (r.take word).word = none := by
  rw [Reading.take, Reading.closeWords]
  split_ifs <;> exact h

theorem endWord_of_none {r : Reading} (h : r.word = none) : r.endWord = r := by
  rw [Reading.endWord, h]

theorem endWord_put {r : Reading} (h : r.word = none) (word : List Char) :
    (r.put word).endWord = { r with words := r.words ++ [word] } := by
  simp only [Reading.put, Reading.endWord, h, Option.getD_none, List.nil_append]

theorem run_piece {r : Reading} (h : r.word = none) (word rest : List Char) :
    ∃ r' : Reading, r'.endWord = r.take word ∧
      run (.plain, r) (piece word ++ rest) = run (.plain, r') rest := by
  rw [piece]
  by_cases hword : word = separator
  · refine ⟨r.take word, endWord_of_none (take_word h word), ?_⟩
    have hstep : step (.plain, r) ';' = some (.plain, r.endCommand) := rfl
    rw [if_pos hword, separator, List.singleton_append, run_cons, hstep, Option.bind_some,
      Reading.endCommand, endWord_of_none h, Reading.take, if_pos hword]
  · refine ⟨r.put word, ?_, ?_⟩
    · rw [endWord_put h, Reading.take, if_neg hword]
    · rw [if_neg hword, run_quote]

theorem run_render {r : Reading} (h : r.word = none) (words : List (List Char)) :
    ∃ r' : Reading, r'.endWord = words.foldl Reading.take r ∧
      run (.plain, r) (render words) = some (.plain, r') := by
  induction words generalizing r with
  | nil => exact ⟨r, endWord_of_none h, rfl⟩
  | cons word words ih =>
    cases words with
    | nil =>
      obtain ⟨r', hend, hrun⟩ := run_piece h word []
      refine ⟨r', hend, ?_⟩
      rw [render, List.map_singleton, List.intercalate_singleton, ← List.append_nil (piece word),
        hrun, run_nil]
    | cons next words =>
      obtain ⟨r', hend, hrun⟩ := run_piece h word (' ' :: render (next :: words))
      obtain ⟨r'', hend', hrun'⟩ := ih (take_word h word)
      refine ⟨r'', hend', ?_⟩
      have hspace : step (.plain, r') ' ' = some (.plain, r'.endWord) := rfl
      have hrender : render (word :: next :: words) =
          piece word ++ ' ' :: render (next :: words) := by
        simp only [render, List.map_cons, List.intercalate_cons_cons, List.singleton_append,
          List.append_assoc]
      rw [hrender, hrun, run_cons, hspace, Option.bind_some, hend, hrun']

theorem parse_render (words : List (List Char)) :
    parse (render words) = some (words.foldl Reading.take {}).closeWords.commands := by
  obtain ⟨r, hend, hrun⟩ := run_render (r := {}) rfl words
  rw [parse, hrun, ← hend]
  rfl

def joined (commands : List (List (List Char))) : List (List Char) :=
  [separator].intercalate commands

theorem joined_cons_cons (command next : List (List Char)) (commands : List (List (List Char))) :
    joined (command :: next :: commands) = command ++ separator :: joined (next :: commands) := by
  simp only [joined, List.intercalate_cons_cons, List.singleton_append, List.append_assoc]

theorem joined_concat {commands : List (List (List Char))} (h : commands ≠ [])
    (last : List (List Char)) :
    joined (commands ++ [last]) = joined commands ++ separator :: last := by
  induction commands with
  | nil => exact absurd rfl h
  | cons command commands ih =>
    cases commands with
    | nil =>
      rw [List.singleton_append, joined_cons_cons]
      simp only [joined, List.intercalate_singleton]
    | cons next commands =>
      have hne : next :: commands ≠ [] := List.cons_ne_nil _ _
      rw [List.cons_append, List.cons_append, joined_cons_cons, ← List.cons_append, ih hne,
        joined_cons_cons, List.append_assoc, List.cons_append]

theorem foldl_take_words {r : Reading} {words : List (List Char)}
    (h : ∀ word ∈ words, word ≠ separator) :
    words.foldl Reading.take r = { r with words := r.words ++ words } := by
  induction words generalizing r with
  | nil => rw [List.foldl_nil, List.append_nil]
  | cons word words ih =>
    obtain ⟨hword, hrest⟩ := List.forall_mem_cons.mp h
    rw [List.foldl_cons, Reading.take, if_neg hword, ih hrest]
    simp only [List.append_assoc, List.singleton_append]

theorem closeWords_words {r : Reading} (hwords : r.words = []) {command : List (List Char)}
    (h : command ≠ []) : ({ r with words := r.words ++ command } : Reading).closeWords =
      { r with commands := r.commands ++ [command] } := by
  simp only [Reading.closeWords, hwords, List.nil_append, if_neg h]

theorem foldl_take_joined {r : Reading} (hwords : r.words = [])
    {commands : List (List (List Char))} (hne : ∀ command ∈ commands, command ≠ [])
    (hfree : ∀ command ∈ commands, ∀ word ∈ command, word ≠ separator) :
    ((joined commands).foldl Reading.take r).closeWords =
      { r with commands := r.commands ++ commands } := by
  induction commands generalizing r with
  | nil =>
    rw [List.append_nil]
    exact if_pos hwords
  | cons command commands ih =>
    obtain ⟨hcommand, hcommands⟩ := List.forall_mem_cons.mp hne
    obtain ⟨hword, hwords'⟩ := List.forall_mem_cons.mp hfree
    cases commands with
    | nil =>
      rw [joined, List.intercalate_singleton, foldl_take_words hword,
        closeWords_words hwords hcommand]
    | cons next commands =>
      rw [joined_cons_cons, List.foldl_append, foldl_take_words hword, List.foldl_cons, Reading.take,
        if_pos rfl, closeWords_words hwords hcommand]
      have hnext := @ih { r with commands := r.commands ++ [command] } hwords hcommands hwords'
      rw [hnext]
      simp only [List.append_assoc, List.singleton_append]

theorem parse_joined {commands : List (List (List Char))}
    (hne : ∀ command ∈ commands, command ≠ [])
    (hfree : ∀ command ∈ commands, ∀ word ∈ command, word ≠ separator) :
    parse (render (joined commands)) = some commands := by
  rw [parse_render, foldl_take_joined rfl hne hfree]
  rfl

def Reading.count (r : Reading) : ℕ := (r.commands.map List.length).sum + r.words.length

theorem count_closeWords (r : Reading) : r.closeWords.count = r.count := by
  rw [Reading.closeWords]
  split_ifs
  · rfl
  · simp only [Reading.count, List.map_append, List.map_singleton, List.sum_append,
      List.sum_singleton, List.length_nil, Nat.add_zero]

theorem count_foldl_take (words : List (List Char)) (r : Reading) :
    (words.foldl Reading.take r).count =
      r.count + (words.filter fun word => word ≠ separator).length := by
  induction words generalizing r with
  | nil => rfl
  | cons word words ih =>
    rw [List.foldl_cons, ih, Reading.take]
    by_cases hword : word = separator
    · rw [if_pos hword, count_closeWords,
        List.filter_cons_of_neg (by simpa using hword)]
    · rw [if_neg hword, List.filter_cons_of_pos (by simpa using hword), List.length_cons]
      simp only [Reading.count, List.length_append, List.length_singleton]
      omega

theorem filter_joined (commands : List (List (List Char))) :
    ((joined commands).filter fun word => word ≠ separator) =
      commands.flatten.filter fun word => word ≠ separator := by
  induction commands with
  | nil => rfl
  | cons command commands ih =>
    cases commands with
    | nil => rw [joined, List.intercalate_singleton, List.flatten_singleton]
    | cons next commands =>
      rw [joined_cons_cons, List.filter_append, List.filter_cons_of_neg (by simp), ih,
        ← List.filter_append, ← List.flatten_cons]

/-- Commands that are read back have no word that is a separator. -/
theorem free_of_parse_joined {commands : List (List (List Char))}
    (h : parse (render (joined commands)) = some commands) :
    ∀ command ∈ commands, ∀ word ∈ command, word ≠ separator := by
  rw [parse_render] at h
  have hcommands := Option.some.inj h
  have hcount := count_closeWords ((joined commands).foldl Reading.take {})
  rw [count_foldl_take, filter_joined, Reading.count, hcommands, ← List.length_flatten] at hcount
  have hempty : (Reading.count {}) = 0 := rfl
  rw [hempty, Nat.zero_add] at hcount
  have hle := List.length_filter_le (fun word => decide (word ≠ separator)) commands.flatten
  have hall : (commands.flatten.filter fun word => word ≠ separator).length =
      commands.flatten.length := by omega
  intro command hmem word hword
  have hfilter := List.length_filter_eq_length_iff.mp hall word
    (List.mem_flatten.mpr ⟨command, hmem, hword⟩)
  simpa using hfilter

end Foundation.CommandLine
