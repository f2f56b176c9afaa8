import VdeTmux.Daemon.ProcessReach
import VdeTmux.Foundation.Lists

/-!
# The ports of a pane

A name in the listing belongs to the process named last before it. The ports that are reported are
the smallest ones of the processes that are reached.
-/

open Foundation Foundation.Text VdeTmux.Pane
namespace VdeTmux.Daemon

def Heads (lines : List (List Char)) (pid : ℕ) : Prop :=
  ∃ before line between, lines = before ++ line :: between ∧
    ∃ header, line = 'p' :: header ∧ (∀ other ∈ between, other.head? ≠ some 'p') ∧
      parseNat u32Max header = some pid

def ListsPort (lines : List (List Char)) (pid port : ℕ) : Prop :=
  ∃ before line after, lines = before ++ line :: after ∧
    ∃ name, line = 'n' :: name ∧ Heads before pid ∧ listeningPortFromName name = some port

theorem heads_concat {lines : List (List Char)} {line : List Char} {pid : ℕ} :
    Heads (lines ++ [line]) pid ↔
      (line.head? ≠ some 'p' ∧ Heads lines pid) ∨
        ∃ header, line = 'p' :: header ∧ parseNat u32Max header = some pid := by
  rw [Heads, exists_split_concat]
  refine or_congr ⟨?_, ?_⟩ ⟨?_, ?_⟩
  · rintro ⟨before, first, between, hsplit, header, hfirst, hbetween, hpid⟩
    refine ⟨hbetween line (List.mem_append_right _ (List.mem_singleton_self _)), before, first,
      between, hsplit, header, hfirst, fun other hother => ?_, hpid⟩
    exact hbetween other (List.mem_append_left _ hother)
  · rintro ⟨hline, before, first, between, hsplit, header, hfirst, hbetween, hpid⟩
    refine ⟨before, first, between, hsplit, header, hfirst, fun other hother => ?_, hpid⟩
    rcases List.mem_append.mp hother with hother | hother
    · exact hbetween other hother
    · rw [List.mem_singleton.mp hother]
      exact hline
  · rintro ⟨header, hline, -, hpid⟩
    exact ⟨header, hline, hpid⟩
  · rintro ⟨header, hline, hpid⟩
    exact ⟨header, hline, fun other hother => absurd hother List.not_mem_nil, hpid⟩

theorem listsPort_concat {lines : List (List Char)} {line : List Char} {pid port : ℕ} :
    ListsPort (lines ++ [line]) pid port ↔ ListsPort lines pid port ∨
      ∃ name, line = 'n' :: name ∧ Heads lines pid ∧ listeningPortFromName name = some port := by
  rw [ListsPort, exists_split_concat, ListsPort]

structure PortsOf (lines : List (List Char)) (state : Std.ExtTreeMap ℕ (Finset ℕ) × Option ℕ) :
    Prop where
  current : ∀ pid, state.2 = some pid ↔ Heads lines pid
  ports : ∀ pid port, port ∈ state.1[pid]?.getD ∅ ↔ ListsPort lines pid port

theorem portsOf_nil : PortsOf [] (∅, none) where
  current pid := by simp [Heads]
  ports pid port := by simp [ListsPort]

theorem PortsOf.other {lines : List (List Char)} {line : List Char}
    {state next : Std.ExtTreeMap ℕ (Finset ℕ) × Option ℕ} (h : PortsOf lines state)
    (hline : line.head? ≠ some 'p') (hcurrent : next.2 = state.2)
    (hports : ∀ pid port, port ∈ next.1[pid]?.getD ∅ ↔ port ∈ state.1[pid]?.getD ∅ ∨
      ∃ name, line = 'n' :: name ∧ state.2 = some pid ∧ listeningPortFromName name = some port) :
    PortsOf (lines ++ [line]) next := by
  refine ⟨fun pid => ?_, fun pid port => ?_⟩
  · rw [hcurrent, h.current, heads_concat, and_iff_right hline]
    refine (or_iff_left ?_).symm
    rintro ⟨header, rfl, -⟩
    exact hline rfl
  · rw [hports, h.ports, listsPort_concat]
    refine or_congr_right (exists_congr fun name => and_congr_right fun _ => ?_)
    rw [h.current]

theorem PortsOf.header {lines : List (List Char)} {header : List Char}
    {state : Std.ExtTreeMap ℕ (Finset ℕ) × Option ℕ} (h : PortsOf lines state) :
    PortsOf (lines ++ ['p' :: header]) (state.1, parseNat u32Max header) := by
  refine ⟨fun pid => ?_, fun pid port => ?_⟩
  · rw [heads_concat]
    constructor
    · intro hpid
      exact Or.inr ⟨header, rfl, hpid⟩
    · rintro (⟨hno, -⟩ | ⟨other, heq, hpid⟩)
      · exact absurd rfl hno
      · rwa [(List.cons.inj heq).2]
  · rw [h.ports, listsPort_concat]
    refine (or_iff_left ?_).symm
    rintro ⟨name, heq, -⟩
    exact absurd (List.cons.inj heq).1 (by decide)

theorem PortsOf.name {lines : List (List Char)} {name : List Char}
    {state : Std.ExtTreeMap ℕ (Finset ℕ) × Option ℕ} (h : PortsOf lines state) :
    PortsOf (lines ++ ['n' :: name]) (observePortLine state ('n' :: name)) := by
  have hline : ('n' :: name).head? ≠ some 'p' := by
    rw [List.head?_cons]
    decide
  have hown : ∀ other, 'n' :: name = 'n' :: other ↔ other = name := fun other =>
    ⟨fun heq => (List.cons.inj heq).2.symm, fun heq => heq ▸ rfl⟩
  rw [observePortLine]
  split
  · next pid port hpid hport =>
    refine h.other hline rfl fun own other => ?_
    simp only [hown, exists_eq_left, hpid, hport, Option.some.injEq]
    rw [Maps.getElem?_insert]
    split_ifs with heq
    · subst heq
      rw [Option.getD_some, Finset.mem_insert]
      tauto
    · tauto
  · next hnone =>
    refine h.other hline rfl fun own other => ?_
    refine (or_iff_left ?_).symm
    rintro ⟨other, heq, hpid, hport⟩
    rw [(hown other).mp heq] at hport
    exact hnone _ _ hpid hport

theorem PortsOf.step {lines : List (List Char)}
    {state : Std.ExtTreeMap ℕ (Finset ℕ) × Option ℕ} (h : PortsOf lines state) (line : List Char) :
    PortsOf (lines ++ [line]) (observePortLine state line) := by
  have hkeep : line.head? ≠ some 'p' → line.head? ≠ some 'n' → observePortLine state line = state →
      PortsOf (lines ++ [line]) (observePortLine state line) := by
    intro hp hn hsame
    rw [hsame]
    refine h.other hp rfl fun pid port => (or_iff_left ?_).symm
    rintro ⟨name, rfl, -⟩
    exact hn rfl
  cases line with
  | nil => exact hkeep nofun nofun rfl
  | cons c rest =>
    by_cases hp : c = 'p'
    · subst hp
      exact h.header
    · by_cases hn : c = 'n'
      · subst hn
        exact h.name
      · refine hkeep (fun heq => hp (Option.some.inj heq)) (fun heq => hn (Option.some.inj heq)) ?_
        rw [observePortLine]
        · exact fun pid heq => hp (List.cons.inj heq).1
        · exact fun name heq => hn (List.cons.inj heq).1

theorem portsOf_foldl (lines : List (List Char)) :
    PortsOf lines (lines.foldl observePortLine (∅, none)) := by
  induction lines using List.reverseRecOn with
  | nil => exact portsOf_nil
  | append_singleton lines line ih =>
    rw [List.foldl_append, List.foldl_cons, List.foldl_nil]
    exact ih.step line

/-- The smallest numbers with a property, in their order, and no more than a limit. -/
structure Smallest (limit : ℕ) (p : ℕ → Prop) (l : List ℕ) : Prop where
  sorted : l.Pairwise (· < ·)
  own : ∀ n ∈ l, p n
  bounded : l.length ≤ limit
  rest : ∀ n, p n → n ∉ l → l.length = limit ∧ ∀ m ∈ l, m < n

theorem smallest_take (limit : ℕ) (s : Finset ℕ) :
    Smallest limit (· ∈ s) ((s.sort (· ≤ ·)).take limit) where
  sorted := (Finset.sortedLT_sort s).pairwise.sublist (List.take_sublist _ _)
  own n hn := (Finset.mem_sort _).mp (List.mem_of_mem_take hn)
  bounded := by
    rw [List.length_take]
    exact Nat.min_le_left _ _
  rest n hn hnot := by
    have hsorted := (Finset.sortedLT_sort s).pairwise
    rw [← List.take_append_drop limit (s.sort (· ≤ ·))] at hsorted
    have hdrop : n ∈ (s.sort (· ≤ ·)).drop limit := by
      have hmem := (Finset.mem_sort (· ≤ ·)).mpr hn
      rw [← List.take_append_drop limit (s.sort (· ≤ ·)), List.mem_append] at hmem
      exact hmem.resolve_left hnot
    refine ⟨?_, fun m hm => (List.pairwise_append.mp hsorted).2.2 m hm n hdrop⟩
    have hlength := List.length_pos_of_mem hdrop
    rw [List.length_drop] at hlength
    rw [List.length_take]
    omega

end VdeTmux.Daemon
