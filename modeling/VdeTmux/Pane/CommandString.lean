import Mathlib.Data.Int.Notation
import VdeTmux.Foundation.CommandLine
import VdeTmux.Foundation.Writer

/-!
# Command strings

Words become a command string: a word that is one semicolon is written as it is, and any other word
in quotes. Command strings are arguments again, to any depth.
-/

open Foundation Foundation.CommandLine
namespace VdeTmux.Pane

def replaceChar (c : Char) (by' : List Char) (text : List Char) : List Char :=
  text.flatMap fun d => if d = c then by' else [d]

def quoteTmuxCommandArgument (value : List Char) : List Char :=
  "'".toList ++ replaceChar '\'' "'\\''".toList value ++ "'".toList

def tmuxCommandString (args : List (List Char)) : List Char :=
  " ".toList.intercalate (args.map fun argument =>
    if argument = ";".toList then ";".toList else quoteTmuxCommandArgument argument)

def intDigits (n : ℤ) : List Char :=
  if n < 0 then '-' :: Writer.digits n.natAbs else Writer.digits n.natAbs

def serverGuard (serverPid : ℕ) (serverStartTime : ℤ) : List Char :=
  "#\x7b&&:#\x7b==:#\x7bpid\x7d,".toList ++ Writer.digits serverPid ++
    "\x7d,#\x7b==:#\x7bstart_time\x7d,".toList ++ intDigits serverStartTime ++ "\x7d\x7d".toList

theorem tmuxCommandString_eq (args : List (List Char)) : tmuxCommandString args = render args := rfl

mutual

/-- A text, or the command string of commands. -/
inductive Argument
  | text (value : List Char)
  | nested (commands : List Command)

inductive Command
  | mk (name : List Char) (arguments : List Argument)

end

mutual

def Argument.word : Argument → List Char
  | .text value => value
  | .nested commands => tmuxCommandString (joined (commandWords commands))

def Command.words : Command → List (List Char)
  | .mk name arguments => name :: argumentWords arguments

def argumentWords : List Argument → List (List Char)
  | [] => []
  | argument :: arguments => argument.word :: argumentWords arguments

def commandWords : List Command → List (List (List Char))
  | [] => []
  | command :: commands => command.words :: commandWords commands

end

mutual

/-- The strings of commands are read back, here and in every argument. -/
def Argument.ReadsBack : Argument → Prop
  | .text _ => True
  | .nested commands =>
    parse (tmuxCommandString (joined (commandWords commands))) = some (commandWords commands) ∧
      commandsReadBack commands

def Command.ReadsBack : Command → Prop
  | .mk _ arguments => argumentsReadBack arguments

def argumentsReadBack : List Argument → Prop
  | [] => True
  | argument :: arguments => argument.ReadsBack ∧ argumentsReadBack arguments

def commandsReadBack : List Command → Prop
  | [] => True
  | command :: commands => command.ReadsBack ∧ commandsReadBack commands

end

mutual

def Argument.Free : Argument → Prop
  | .text value => value ≠ ";".toList
  | .nested commands => commandsFree commands

def Command.Free : Command → Prop
  | .mk name arguments => name ≠ ";".toList ∧ argumentsFree arguments

def argumentsFree : List Argument → Prop
  | [] => True
  | argument :: arguments => argument.Free ∧ argumentsFree arguments

def commandsFree : List Command → Prop
  | [] => True
  | command :: commands => command.Free ∧ commandsFree commands

end

example : commandsFree [.mk "if".toList [.text "a".toList, .nested []]] := by
  simp [commandsFree, Command.Free, argumentsFree, Argument.Free]

theorem commandString_ne {commands : List Command} (h : commandsFree commands) :
    tmuxCommandString (joined (commandWords commands)) ≠ ";".toList := by
  cases commands with
  | nil => exact nofun
  | cons command commands =>
    obtain ⟨name, arguments⟩ := command
    have hname : name ≠ separator := h.1.1
    obtain ⟨rest, hrest⟩ : ∃ rest, joined (commandWords (.mk name arguments :: commands)) =
        name :: rest := by
      cases commands with
      | nil => exact ⟨argumentWords arguments, List.intercalate_singleton⟩
      | cons next commands => exact ⟨_, joined_cons_cons _ _ _⟩
    rw [hrest, tmuxCommandString_eq, render, List.map_cons, piece, if_neg hname, quote]
    cases rest.map piece with
    | nil =>
      rw [List.intercalate_singleton]
      exact fun heq => absurd (List.cons.inj heq).1 (by decide)
    | cons next pieces =>
      rw [List.intercalate_cons_cons]
      exact fun heq => absurd (List.cons.inj heq).1 (by decide)

mutual

theorem Argument.word_ne : (argument : Argument) → argument.Free → argument.word ≠ separator
  | .text _, h => h
  | .nested _, h => commandString_ne h

theorem Command.words_ne : (command : Command) → command.Free →
    command.words ≠ [] ∧ ∀ word ∈ command.words, word ≠ separator
  | .mk _ arguments, h =>
    ⟨List.cons_ne_nil _ _, List.forall_mem_cons.mpr ⟨h.1, argumentWords_ne arguments h.2⟩⟩

theorem argumentWords_ne : (arguments : List Argument) → argumentsFree arguments →
    ∀ word ∈ argumentWords arguments, word ≠ separator
  | [], _ => fun _ hword => absurd hword List.not_mem_nil
  | argument :: arguments, h =>
    List.forall_mem_cons.mpr ⟨argument.word_ne h.1, argumentWords_ne arguments h.2⟩

end

mutual

theorem Argument.free_of_readsBack : (argument : Argument) → argument.word ≠ separator →
    argument.ReadsBack → argument.Free
  | .text _, hne, _ => hne
  | .nested commands, _, h => commandsFree_of_readsBack commands (free_of_parse_joined h.1) h.2

theorem Command.free_of_readsBack : (command : Command) →
    (∀ word ∈ command.words, word ≠ separator) → command.ReadsBack → command.Free
  | .mk name arguments, hne, h =>
    ⟨hne name List.mem_cons_self, argumentsFree_of_readsBack arguments
      (fun word hword => hne word (List.mem_cons_of_mem _ hword)) h⟩

theorem argumentsFree_of_readsBack : (arguments : List Argument) →
    (∀ word ∈ argumentWords arguments, word ≠ separator) → argumentsReadBack arguments →
      argumentsFree arguments
  | [], _, _ => trivial
  | argument :: arguments, hne, h =>
    ⟨argument.free_of_readsBack (hne _ List.mem_cons_self) h.1, argumentsFree_of_readsBack arguments
      (fun word hword => hne word (List.mem_cons_of_mem _ hword)) h.2⟩

theorem commandsFree_of_readsBack : (commands : List Command) →
    (∀ command ∈ commandWords commands, ∀ word ∈ command, word ≠ separator) →
      commandsReadBack commands → commandsFree commands
  | [], _, _ => trivial
  | command :: commands, hne, h =>
    ⟨command.free_of_readsBack (hne _ List.mem_cons_self) h.1, commandsFree_of_readsBack commands
      (fun other hother => hne other (List.mem_cons_of_mem _ hother)) h.2⟩

end

theorem commandWords_ne : (commands : List Command) → commandsFree commands →
    ∀ command ∈ commandWords commands, command ≠ [] ∧ ∀ word ∈ command, word ≠ separator
  | [], _ => fun _ hcommand => absurd hcommand List.not_mem_nil
  | command :: commands, h =>
    List.forall_mem_cons.mpr ⟨command.words_ne h.1, commandWords_ne commands h.2⟩

theorem parse_commandString {commands : List Command} (h : commandsFree commands) :
    parse (tmuxCommandString (joined (commandWords commands))) = some (commandWords commands) :=
  parse_joined (fun command hcommand => (commandWords_ne commands h command hcommand).1)
    fun command hcommand => (commandWords_ne commands h command hcommand).2

mutual

theorem Argument.readsBack_of_free : (argument : Argument) → argument.Free → argument.ReadsBack
  | .text _, _ => trivial
  | .nested commands, h => ⟨parse_commandString h, commandsReadBack_of_free commands h⟩

theorem Command.readsBack_of_free : (command : Command) → command.Free → command.ReadsBack
  | .mk _ arguments, h => argumentsReadBack_of_free arguments h.2

theorem argumentsReadBack_of_free : (arguments : List Argument) → argumentsFree arguments →
    argumentsReadBack arguments
  | [], _ => trivial
  | argument :: arguments, h =>
    ⟨argument.readsBack_of_free h.1, argumentsReadBack_of_free arguments h.2⟩

theorem commandsReadBack_of_free : (commands : List Command) → commandsFree commands →
    commandsReadBack commands
  | [], _ => trivial
  | command :: commands, h =>
    ⟨command.readsBack_of_free h.1, commandsReadBack_of_free commands h.2⟩

end

/-- Nested commands are read back at every depth exactly when no text is one semicolon. -/
theorem commandString_readsBack_iff (commands : List Command) :
    (Argument.nested commands).ReadsBack ↔ (Argument.nested commands).Free := by
  constructor
  · intro h
    exact commandsFree_of_readsBack commands (free_of_parse_joined h.1) h.2
  · exact (Argument.nested commands).readsBack_of_free

/-- A semicolon among keys ends the command, and the next key is a command. -/
theorem semicolon_key_lost : ¬(Argument.nested [.mk "send-keys".toList
    [.text "-t".toList, .text "%1".toList, .text ";".toList, .text "y".toList]]).ReadsBack := by
  intro h
  have hne := free_of_parse_joined h.1 _ (List.mem_singleton_self _) separator (by decide)
  exact hne rfl

end VdeTmux.Pane
