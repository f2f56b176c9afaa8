import VdeTmux.Daemon.ProcessTable

/-!
# Reading the process table

The table that was read has the parents and the commands of its lines, and it is complete when
every line is well formed and no process comes twice.
-/

open Foundation Foundation.Text VdeTmux.Pane
namespace VdeTmux.Daemon

def tableRows (output : List Char) : List ProcessLine :=
  (processLines output).filterMap parseProcessLine

/-- Every line is well formed, no process comes twice, and the root is there. -/
structure WellFormedTable (output : List Char) (rootPid : ℕ) : Prop where
  lines : ∀ line ∈ processLines output, (parseProcessLine line).isSome
  pids : ((tableRows output).map ProcessLine.pid).Nodup
  root : rootPid ∈ (tableRows output).map ProcessLine.pid

def Reaches (rows : List ProcessLine) (rootPid pid : ℕ) : Prop :=
  Relation.ReflTransGen (fun parent child => ∃ row ∈ rows, row.ppid = parent ∧ row.pid = child)
    rootPid pid

structure TableOf (lines : List (List Char)) (snapshot : AgentProcessSnapshot) : Prop where
  complete : snapshot.complete = true ↔ (∀ line ∈ lines, (parseProcessLine line).isSome) ∧
    ((lines.filterMap parseProcessLine).map ProcessLine.pid).Nodup
  pids : ∀ pid, pid ∈ snapshot.commands ↔
    pid ∈ (lines.filterMap parseProcessLine).map ProcessLine.pid
  children : ∀ parent child, child ∈ snapshot.childrenOf parent ↔
    ∃ row ∈ lines.filterMap parseProcessLine, row.ppid = parent ∧ row.pid = child
  commands : ((lines.filterMap parseProcessLine).map ProcessLine.pid).Nodup →
    ∀ row ∈ lines.filterMap parseProcessLine, snapshot.commands[row.pid]? = some row.command

theorem tableOf_nil : TableOf [] { complete := true } where
  complete := by simp
  pids pid := by simp
  children parent child := by simp [AgentProcessSnapshot.childrenOf]
  commands _ row hrow := absurd hrow List.not_mem_nil

theorem TableOf.bad {lines : List (List Char)} {snapshot : AgentProcessSnapshot} {line : List Char}
    (h : TableOf lines snapshot) (hline : parseProcessLine line = none) :
    TableOf (lines ++ [line]) (snapshot.addLine line) := by
  have hrows : (lines ++ [line]).filterMap parseProcessLine =
      lines.filterMap parseProcessLine := by
    rw [List.filterMap_append, List.filterMap_cons_none hline, List.filterMap_nil,
      List.append_nil]
  have hadd : snapshot.addLine line = { snapshot with complete := false } := by
    rw [AgentProcessSnapshot.addLine, hline]
  rw [hadd]
  refine ⟨?_, ?_, ?_, ?_⟩
  · refine iff_of_false Bool.false_ne_true fun hall => ?_
    have hsome := hall.1 line (List.mem_append_right _ (List.mem_singleton_self _))
    rw [hline] at hsome
    exact Bool.noConfusion hsome
  · rw [hrows]
    exact h.pids
  · rw [hrows]
    exact h.children
  · rw [hrows]
    exact h.commands

theorem TableOf.good {lines : List (List Char)} {snapshot : AgentProcessSnapshot}
    {line : List Char} {row : ProcessLine} (h : TableOf lines snapshot)
    (hline : parseProcessLine line = some row) :
    TableOf (lines ++ [line]) (snapshot.addLine line) := by
  have hrows : (lines ++ [line]).filterMap parseProcessLine =
      lines.filterMap parseProcessLine ++ [row] := by
    rw [List.filterMap_append, List.filterMap_cons_some hline, List.filterMap_nil]
  have hadd : snapshot.addLine line =
      { snapshot with
        complete := snapshot.complete && !snapshot.commands.contains row.pid
        commands := snapshot.commands.insert row.pid row.command
        children := snapshot.children.insert row.ppid
          ((snapshot.children[row.ppid]?.getD []) ++ [row.pid]) } := by
    rw [AgentProcessSnapshot.addLine, hline]
  have hnodup : ((lines.filterMap parseProcessLine ++ [row]).map ProcessLine.pid).Nodup ↔
      ((lines.filterMap parseProcessLine).map ProcessLine.pid).Nodup ∧
        row.pid ∉ (lines.filterMap parseProcessLine).map ProcessLine.pid := by
    rw [List.map_append, List.map_singleton, List.nodup_append]
    simp only [List.nodup_singleton, true_and, List.mem_singleton, forall_eq]
    exact and_congr_right fun _ => ⟨fun hall hmem => hall _ hmem rfl,
      fun hnot a ha heq => hnot (heq ▸ ha)⟩
  rw [hadd]
  refine ⟨?_, fun pid => ?_, fun parent child => ?_, fun hpids other hother => ?_⟩
  · rw [hrows, hnodup, Bool.and_eq_true, h.complete, Bool.not_eq_true', ← Bool.not_eq_true,
      Std.ExtTreeMap.contains_iff_mem, h.pids, List.forall_mem_append]
    simp only [List.forall_mem_singleton, hline, Option.isSome_some, and_true]
    tauto
  · rw [hrows, List.map_append, List.mem_append, List.map_singleton, List.mem_singleton,
      ← h.pids pid, Std.ExtTreeMap.mem_insert, Std.LawfulEqCmp.compare_eq_iff_eq]
    tauto
  · have hchildren : (snapshot.children.insert row.ppid
        ((snapshot.children[row.ppid]?.getD []) ++ [row.pid]))[parent]?.getD [] =
          if parent = row.ppid then snapshot.childrenOf row.ppid ++ [row.pid]
          else snapshot.childrenOf parent := by
      rw [Maps.getElem?_insert]
      split_ifs
      · rfl
      · rfl
    rw [AgentProcessSnapshot.childrenOf, hchildren, hrows]
    by_cases hparent : parent = row.ppid
    · rw [if_pos hparent, List.mem_append, h.children, List.mem_singleton, hparent]
      constructor
      · rintro (⟨other, hother, hpair⟩ | rfl)
        · exact ⟨other, List.mem_append_left _ hother, hpair⟩
        · exact ⟨row, List.mem_append_right _ (List.mem_singleton_self _), rfl, rfl⟩
      · rintro ⟨other, hother, hppid, rfl⟩
        rcases List.mem_append.mp hother with hother | hother
        · exact Or.inl ⟨other, hother, hppid, rfl⟩
        · rw [List.mem_singleton.mp hother]
          exact Or.inr rfl
    · rw [if_neg hparent, h.children]
      constructor
      · rintro ⟨other, hother, hpair⟩
        exact ⟨other, List.mem_append_left _ hother, hpair⟩
      · rintro ⟨other, hother, hppid, hpid⟩
        rcases List.mem_append.mp hother with hother | hother
        · exact ⟨other, hother, hppid, hpid⟩
        · rw [List.mem_singleton.mp hother] at hppid
          exact absurd hppid.symm hparent
  · rw [hrows, hnodup] at hpids
    rw [hrows] at hother
    rw [Maps.getElem?_insert]
    rcases List.mem_append.mp hother with hother | hother
    · have hne : other.pid ≠ row.pid := fun heq =>
        hpids.2 (heq ▸ List.mem_map_of_mem hother)
      rw [if_neg hne]
      exact h.commands hpids.1 other hother
    · rw [List.mem_singleton.mp hother, if_pos rfl]

theorem tableOf_parse (output : List Char) :
    TableOf (processLines output) (AgentProcessSnapshot.parse output true) := by
  rw [AgentProcessSnapshot.parse, if_pos rfl]
  induction processLines output using List.reverseRecOn with
  | nil => exact tableOf_nil
  | append_singleton lines line ih =>
    rw [List.foldl_append, List.foldl_cons, List.foldl_nil]
    cases hline : parseProcessLine line with
    | none => exact ih.bad hline
    | some row => exact ih.good hline

def observedTable (output : List Char) (listing : Option (List Char)) : AgentProcessSnapshot :=
  match listing with
  | none => .parse output true
  | some listing => (AgentProcessSnapshot.parse output true).observeListeningPorts listing

section Table
variable {output : List Char} {listing : Option (List Char)} {rootPid : ℕ}

theorem tableOf_observed (output : List Char) (listing : Option (List Char)) :
    TableOf (processLines output) (observedTable output listing) := by
  cases listing with
  | none => exact tableOf_parse output
  | some listing =>
    have h := tableOf_parse output
    exact ⟨h.complete, h.pids, h.children, h.commands⟩

theorem wellFormed_iff (listing : Option (List Char)) : (observedTable output listing).complete = true ∧
    rootPid ∈ (observedTable output listing).commands ↔ WellFormedTable output rootPid := by
  have h := tableOf_observed output listing
  rw [h.complete, h.pids]
  exact ⟨fun h => ⟨h.1.1, h.1.2, h.2⟩, fun h => ⟨⟨h.lines, h.pids⟩, h.root⟩⟩

theorem mem_visits {pid : ℕ} : pid ∈ (observedTable output listing).visits rootPid ↔
    Reaches (tableRows output) rootPid pid := by
  have hstep : (fun parent child => child ∈ (observedTable output listing).graph.children parent) =
      fun parent child => ∃ row ∈ tableRows output, row.ppid = parent ∧ row.pid = child := by
    funext parent child
    exact propext ((tableOf_observed output listing).children parent child)
  rw [AgentProcessSnapshot.visits, Traversal.mem_walk_iff, Traversal.Reach, Reaches, hstep]

theorem commands_eq (h : WellFormedTable output rootPid) {pid : ℕ} {command : List Char} :
    (observedTable output listing).commands[pid]? = some command ↔
      ∃ row ∈ tableRows output, row.pid = pid ∧ row.command = command := by
  have htable := tableOf_observed output listing
  constructor
  · intro hcommand
    have hmem : pid ∈ (observedTable output listing).commands :=
      Maps.mem_iff_exists.mpr ⟨command, hcommand⟩
    obtain ⟨row, hrow, hpid⟩ := List.mem_map.mp ((htable.pids pid).mp hmem)
    have hown := htable.commands h.pids row hrow
    rw [hpid, hcommand] at hown
    exact ⟨row, hrow, hpid, (Option.some.inj hown).symm⟩
  · rintro ⟨row, hrow, rfl, rfl⟩
    exact htable.commands h.pids row hrow

end Table

end VdeTmux.Daemon
