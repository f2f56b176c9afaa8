import VdeTmux.Foundation.Text

/-!
# Lines, words and numbers of a text

How `lines`, `split`, `split_whitespace` and the integer `parse` of the standard library read a
text, over its characters.
-/

namespace Foundation.Text

def splitOn (sep : Char) : List Char → List (List Char)
  | [] => [[]]
  | c :: cs =>
    if c = sep then [] :: splitOn sep cs
    else match splitOn sep cs with
      | [] => [[c]]
      | piece :: pieces => (c :: piece) :: pieces

/-- The text before the first occurrence of a non-empty separator and the text after it. -/
def splitOnce (sep : List Char) : List Char → Option (List Char × List Char)
  | [] => none
  | c :: cs =>
    if sep.isPrefixOf (c :: cs) then some ([], (c :: cs).drop sep.length)
    else (splitOnce sep cs).map fun (before, after) => (c :: before, after)

def stripStart (start text : List Char) : Option (List Char) :=
  if start.isPrefixOf text then some (text.drop start.length) else none

def stripCr (line : List Char) : List Char :=
  if line.getLast? = some '\r' then line.dropLast else line

def linesOf : List (List Char) → List (List Char)
  | [] => []
  | [piece] => if piece = [] then [] else [piece]
  | piece :: pieces => stripCr piece :: linesOf pieces

def lines (text : List Char) : List (List Char) := linesOf (splitOn '\n' text)

def wordsOf : List Char → List Char × List (List Char)
  | [] => ([], [])
  | c :: cs =>
    let (word, words) := wordsOf cs
    if isWhitespace c then ([], if word = [] then words else word :: words) else (c :: word, words)

def words (text : List Char) : List (List Char) :=
  let (word, words) := wordsOf text
  if word = [] then words else word :: words

def digitsValue (cs : List Char) : ℕ := cs.foldl (fun n c => 10 * n + (c.toNat - '0'.toNat)) 0

def parseDigits (cs : List Char) : Option ℕ :=
  if cs ≠ [] ∧ cs.all Char.isDigit then some (digitsValue cs) else none

def parseNat (most : ℕ) (cs : List Char) : Option ℕ :=
  let digits := match cs with
    | '+' :: rest => rest
    | _ => cs
  (parseDigits digits).filter (· ≤ most)

def parseInt (least most : ℤ) (cs : List Char) : Option ℤ :=
  let value : Option ℤ := match cs with
    | '-' :: rest => (parseDigits rest).map fun n => -(n : ℤ)
    | '+' :: rest => (parseDigits rest).map fun n => (n : ℤ)
    | _ => (parseDigits cs).map fun n => (n : ℤ)
  value.filter fun n => least ≤ n ∧ n ≤ most

theorem splitOnce_char {sep : Char} {start : List Char} (h : sep ∉ start) (rest : List Char) :
    splitOnce [sep] (start ++ sep :: rest) = some (start, rest) := by
  induction start with
  | nil =>
    have hstart : [sep].isPrefixOf (sep :: rest) = true := by simp [List.isPrefixOf]
    rw [List.nil_append, splitOnce, if_pos hstart]
    rfl
  | cons c start ih =>
    have hc : sep ≠ c := fun heq => h (by rw [heq]; exact List.mem_cons_self)
    have hstart : ¬[sep].isPrefixOf (c :: (start ++ sep :: rest)) = true := by
      simp [List.isPrefixOf, hc]
    rw [List.cons_append, splitOnce, if_neg hstart, ih fun hmem => h (List.mem_cons_of_mem c hmem)]
    rfl

theorem stripStart_append (start rest : List Char) :
    stripStart start (start ++ rest) = some rest := by
  have hprefix : start.isPrefixOf (start ++ rest) = true :=
    List.isPrefixOf_iff_prefix.mpr (List.prefix_append start rest)
  rw [stripStart, if_pos hprefix, List.drop_left]

theorem stripCr_of_not_mem {line : List Char} (h : '\r' ∉ line) : stripCr line = line := by
  have hlast : ¬line.getLast? = some '\r' := fun heq => h (List.mem_of_getLast? heq)
  rw [stripCr, if_neg hlast]

end Foundation.Text
