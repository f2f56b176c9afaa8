import VdeTmux.Daemon.ProcessDetected
import VdeTmux.Daemon.ProcessPorts

/-!
# What is observed below a pane

One table gives the agents, the verdict on a background command and the ports of the processes that
are reached. A command is searched from the left, and each match is skipped over.
-/

open Foundation Foundation.Text VdeTmux.Pane
namespace VdeTmux.Daemon

section Observed
variable {output : List Char} {listing : Option (List Char)} {rootPid : ℕ}

def StandsAt (text command : List Char) (index : ℕ) : Prop :=
  Matching.OccursAt command text index ∧ boundedAt text command index = true

def RunsBelow (output : List Char) (rootPid : ℕ) (command : List Char) : Prop :=
  ∃ row ∈ tableRows output, Reaches (tableRows output) rootPid row.pid ∧
    ∃ index, StandsAt (normalizeProcessText row.command) (normalizeProcessText command) index

def matchesOf (command : List Char) (row : ProcessLine) : List ℕ :=
  Matching.matchIndices (normalizeProcessText command) (normalizeProcessText row.command)

/-- No match in a line that is reached is at a token's ends, and one of them hides a place that is:
the command begins there again inside the match. -/
def Hidden (output : List Char) (rootPid : ℕ) (command : List Char) : Prop :=
  (∀ row ∈ tableRows output, Reaches (tableRows output) rootPid row.pid →
    ∀ index ∈ matchesOf command row,
      ¬StandsAt (normalizeProcessText row.command) (normalizeProcessText command) index) ∧
    ∃ row ∈ tableRows output, Reaches (tableRows output) rootPid row.pid ∧
      ∃ index ∈ matchesOf command row, ∃ inner, index < inner ∧
        inner < index + (normalizeProcessText command).length ∧
          StandsAt (normalizeProcessText row.command) (normalizeProcessText command) inner

theorem processLineMatchesCommand_iff {command : List Char}
    (hcommand : normalizeProcessText command ≠ []) (row : ProcessLine) :
    processLineMatchesCommand row.command command = true ↔ ∃ index ∈ matchesOf command row,
      StandsAt (normalizeProcessText row.command) (normalizeProcessText command) index := by
  rw [processLineMatchesCommand, if_neg hcommand, List.any_eq_true]
  refine exists_congr fun index => and_congr_right fun hmem => ?_
  exact (and_iff_right (Matching.occursAt_of_mem hmem)).symm

theorem matches_or_hidden {command : List Char} (hcommand : normalizeProcessText command ≠ [])
    (h : RunsBelow output rootPid command) :
    (∃ row ∈ tableRows output, Reaches (tableRows output) rootPid row.pid ∧
      processLineMatchesCommand row.command command = true) ∨ Hidden output rootPid command := by
  by_contra hnot
  rw [not_or] at hnot
  obtain ⟨hmatch, hhidden⟩ := hnot
  have hnone : ∀ row ∈ tableRows output, Reaches (tableRows output) rootPid row.pid →
      ∀ index ∈ matchesOf command row,
        ¬StandsAt (normalizeProcessText row.command) (normalizeProcessText command) index :=
    fun row hrow hreach index hindex hstands => hmatch ⟨row, hrow, hreach,
      (processLineMatchesCommand_iff hcommand row).mpr ⟨index, hindex, hstands⟩⟩
  obtain ⟨row, hrow, hreach, inner, hinner⟩ := h
  rcases Matching.mem_or_overlapped hcommand hinner.1 with hmem | ⟨index, hindex, hlt, hover⟩
  · exact hnone row hrow hreach inner hmem hinner
  · exact hhidden ⟨hnone, row, hrow, hreach, index, hindex, inner, hlt, hover, hinner⟩

theorem observation_incomplete (h : ¬WellFormedTable output rootPid)
    (command : Option (List Char)) (checked : Bool) (process : Option AgentProcessIdentity) :
    (observedTable output listing).processObservation rootPid command checked process = none := by
  have hdescendants : (observedTable output listing).descendants rootPid = none := by
    rw [AgentProcessSnapshot.descendants, if_pos]
    by_contra hcomplete
    rw [not_or, Bool.not_eq_false, not_not] at hcomplete
    exact h ((wellFormed_iff listing).mp hcomplete)
  rw [AgentProcessSnapshot.processObservation, hdescendants]

theorem descendants_complete (h : WellFormedTable output rootPid) :
    (observedTable output listing).descendants rootPid =
      some ((observedTable output listing).visits rootPid).toFinset := by
  obtain ⟨hcomplete, hroot⟩ := (wellFormed_iff listing).mpr h
  rw [AgentProcessSnapshot.descendants, if_neg]
  rw [not_or, Bool.not_eq_false, not_not]
  exact ⟨hcomplete, hroot⟩

theorem portsComplete_observed :
    (observedTable output listing).portsComplete = listing.isSome := by
  cases listing with
  | none =>
    rw [observedTable, AgentProcessSnapshot.parse, if_pos rfl]
    induction processLines output using List.reverseRecOn with
    | nil => rfl
    | append_singleton lines line ih =>
      rw [List.foldl_append, List.foldl_cons, List.foldl_nil, AgentProcessSnapshot.addLine]
      cases parseProcessLine line with
      | none => exact ih
      | some row => exact ih
  | some listing => rfl

theorem observation_complete (h : WellFormedTable output rootPid)
    (command : Option (List Char)) (checked : Bool) (process : Option AgentProcessIdentity) :
    (observedTable output listing).processObservation rootPid command checked process =
      if checked = true ∨ process.isSome = true ∨ command.isSome = true ∨ listing.isSome = true then
        some ⟨checked, process,
          command.map ((observedTable output listing).backgroundAlive
            ((observedTable output listing).visits rootPid).toFinset),
          if listing.isSome then some ((observedTable output listing).reportedPorts
            ((observedTable output listing).visits rootPid).toFinset) else none⟩
      else none := by
  rw [AgentProcessSnapshot.processObservation, descendants_complete h]
  dsimp only
  rw [portsComplete_observed, Option.isSome_map]
  cases listing with
  | none => rfl
  | some listing => rfl

theorem backgroundAlive_iff (h : WellFormedTable output rootPid) (command : List Char) :
    (observedTable output listing).backgroundAlive
        ((observedTable output listing).visits rootPid).toFinset command = true ↔
      ∃ row ∈ tableRows output, Reaches (tableRows output) rootPid row.pid ∧
        processLineMatchesCommand row.command command = true := by
  rw [AgentProcessSnapshot.backgroundAlive, decide_eq_true_iff]
  constructor
  · rintro ⟨pid, hpid, hany⟩
    obtain ⟨line, hline, hmatch⟩ := (Option.any_eq_true _ _).mp hany
    obtain ⟨row, hrow, rfl, rfl⟩ := (commands_eq h).mp hline
    exact ⟨row, hrow, mem_visits.mp (List.mem_toFinset.mp hpid), hmatch⟩
  · rintro ⟨row, hrow, hreach, hmatch⟩
    refine ⟨row.pid, List.mem_toFinset.mpr (mem_visits.mpr hreach), ?_⟩
    rw [Option.any_eq_true]
    exact ⟨row.command, (commands_eq h).mpr ⟨row, hrow, rfl, rfl⟩, hmatch⟩

theorem reportedPorts_smallest (output : List Char) (names : List Char) (rootPid : ℕ) :
    Smallest maxListeningPorts
      (fun port => ∃ pid, Reaches (tableRows output) rootPid pid ∧
        ListsPort (lines names) pid port)
      ((observedTable output (some names)).reportedPorts
        ((observedTable output (some names)).visits rootPid).toFinset) := by
  have hports := (portsOf_foldl (lines names)).ports
  have hown : (fun port => ∃ pid, Reaches (tableRows output) rootPid pid ∧
      ListsPort (lines names) pid port) = fun port =>
        port ∈ ((observedTable output (some names)).visits rootPid).toFinset.biUnion fun pid =>
          (observedTable output (some names)).listeningPorts[pid]?.getD ∅ := by
    funext port
    refine propext ?_
    rw [Finset.mem_biUnion]
    refine exists_congr fun pid => and_congr ?_ (hports pid port).symm
    rw [List.mem_toFinset, mem_visits]
  rw [hown]
  exact smallest_take maxListeningPorts _

section Order
variable {other : List Char} (hperm : (processLines other).Perm (processLines output))
include hperm

theorem tableRows_perm : (tableRows other).Perm (tableRows output) :=
  hperm.filterMap parseProcessLine

theorem wellFormed_perm (h : WellFormedTable output rootPid) : WellFormedTable other rootPid where
  lines line hline := h.lines line (hperm.mem_iff.mp hline)
  pids := (((tableRows_perm hperm).map ProcessLine.pid).nodup_iff).mpr h.pids
  root := ((tableRows_perm hperm).map ProcessLine.pid).mem_iff.mpr h.root

theorem reaches_perm (pid : ℕ) :
    Reaches (tableRows other) rootPid pid ↔ Reaches (tableRows output) rootPid pid := by
  simp only [Reaches, (tableRows_perm hperm).mem_iff]

theorem runs_perm (agent : AgentKind) (source : AgentProcessSource) (pid : ℕ) :
    Runs other rootPid agent source pid ↔ Runs output rootPid agent source pid := by
  simp only [Runs, reaches_perm hperm, (tableRows_perm hperm).mem_iff]

end Order

theorem detection_perm {other : List Char}
    (hperm : (processLines other).Perm (processLines output)) (startToken : ℕ → Option String) :
    let detection := (observedTable output listing).detectFromPidTree startToken rootPid
    let detection' := (observedTable other listing).detectFromPidTree startToken rootPid
    detection'.agents = detection.agents ∧ detection'.complete = detection.complete ∧
      ∀ agent, detection'.exactAgentProcess agent = detection.exactAgentProcess agent := by
  by_cases h : WellFormedTable output rootPid
  · have h' := wellFormed_perm hperm h
    refine ⟨Finset.ext fun agent => ?_, ?_, fun agent => Option.ext fun identity => ?_⟩
    · rw [mem_detected_agents h', mem_detected_agents h]
      simp only [runs_perm hperm]
    · rw [detect_complete h', detect_complete h]
    · rw [exactAgentProcess_detected h', exactAgentProcess_detected h]
      simp only [AllRead, OnlyRuns, runs_perm hperm]
  · have h' : ¬WellFormedTable other rootPid := fun h' => h (wellFormed_perm hperm.symm h')
    rw [detect_incomplete h, detect_incomplete h']
    exact ⟨rfl, rfl, fun _ => rfl⟩

theorem observation_perm {other : List Char}
    (hperm : (processLines other).Perm (processLines output)) (command : Option (List Char))
    (checked : Bool) (process : Option AgentProcessIdentity) :
    (observedTable other listing).processObservation rootPid command checked process =
      (observedTable output listing).processObservation rootPid command checked process := by
  by_cases h : WellFormedTable output rootPid
  · have h' := wellFormed_perm hperm h
    have hvisits : ((observedTable other listing).visits rootPid).toFinset =
        ((observedTable output listing).visits rootPid).toFinset := Finset.ext fun pid => by
      rw [List.mem_toFinset, List.mem_toFinset, mem_visits, mem_visits, reaches_perm hperm]
    have halive : (observedTable other listing).backgroundAlive
          ((observedTable other listing).visits rootPid).toFinset =
        (observedTable output listing).backgroundAlive
          ((observedTable output listing).visits rootPid).toFinset := by
      funext command
      rw [Bool.eq_iff_iff, backgroundAlive_iff h', backgroundAlive_iff h]
      simp only [reaches_perm hperm, (tableRows_perm hperm).mem_iff]
    rw [observation_complete h', observation_complete h, halive, hvisits]
    cases listing with
    | none => rfl
    | some names => rfl
  · have h' : ¬WellFormedTable other rootPid := fun h' => h (wellFormed_perm hperm.symm h')
    rw [observation_incomplete h, observation_incomplete h']

end Observed

section Exactly
variable (startToken : ℕ → Option String) (output : List Char) (listing : Option (List Char))
  (rootPid : ℕ) (command : Option (List Char)) (checked : Bool)
  (process : Option AgentProcessIdentity)

/-- What detection and observation say of the processes that are reached. -/
structure ObservedExactly : Prop where
  incomplete : ¬WellFormedTable output rootPid →
    (observedTable output listing).detectFromPidTree startToken rootPid =
        ⟨∅, fun _ => none, false, false⟩ ∧
      (∀ agent, ((observedTable output listing).detectFromPidTree startToken
        rootPid).exactAgentProcess agent = none) ∧
      (observedTable output listing).processObservation rootPid command checked process = none
  agents : WellFormedTable output rootPid →
    ((observedTable output listing).detectFromPidTree startToken rootPid).complete = true ∧
      ∀ agent, agent ∈
          ((observedTable output listing).detectFromPidTree startToken rootPid).agents ↔
        ∃ source pid, Runs output rootPid agent source pid
  order : ∀ other, (processLines other).Perm (processLines output) →
    (let detection := (observedTable output listing).detectFromPidTree startToken rootPid
    let detection' := (observedTable other listing).detectFromPidTree startToken rootPid
    detection'.agents = detection.agents ∧ detection'.complete = detection.complete ∧
      ∀ agent, detection'.exactAgentProcess agent = detection.exactAgentProcess agent) ∧
    (observedTable other listing).processObservation rootPid command checked process =
      (observedTable output listing).processObservation rootPid command checked process
  background : WellFormedTable output rootPid → ∀ text, command = some text →
    normalizeProcessText text ≠ [] → ∃ observation alive,
      (observedTable output listing).processObservation rootPid command checked process =
        some observation ∧ observation.backgroundProcessAlive = some alive ∧
          (alive = true ↔ RunsBelow output rootPid text)
  ports : WellFormedTable output rootPid → ∀ names, listing = some names →
    ∃ observation ports,
      (observedTable output listing).processObservation rootPid command checked process =
        some observation ∧ observation.listeningPorts = some ports ∧
          Smallest maxListeningPorts (fun port => ∃ pid,
            Reaches (tableRows output) rootPid pid ∧ ListsPort (lines names) pid port) ports
  exact : WellFormedTable output rootPid → ∀ agent identity,
    ((observedTable output listing).detectFromPidTree startToken rootPid).exactAgentProcess agent =
        some identity ↔
      AllRead output rootPid startToken ∧ startToken identity.pid = some identity.startToken ∧
        (OnlyRuns output rootPid agent .direct identity.pid ∨
          (∀ pid, ¬Runs output rootPid agent .direct pid) ∧
            OnlyRuns output rootPid agent .interpreted identity.pid)

variable {startToken output listing rootPid command checked process}

theorem alive_iff_of_not_hidden (listing : Option (List Char))
    (h : WellFormedTable output rootPid) {text : List Char}
    (htext : normalizeProcessText text ≠ []) (hhidden : ¬Hidden output rootPid text) :
    (observedTable output listing).backgroundAlive
        ((observedTable output listing).visits rootPid).toFinset text = true ↔
      RunsBelow output rootPid text := by
  rw [backgroundAlive_iff h]
  constructor
  · rintro ⟨row, hrow, hreach, hmatch⟩
    obtain ⟨index, -, hstands⟩ := (processLineMatchesCommand_iff htext row).mp hmatch
    exact ⟨row, hrow, hreach, index, hstands⟩
  · exact fun hruns => (matches_or_hidden htext hruns).resolve_right hhidden

theorem observed_of_not_hidden (hhidden : WellFormedTable output rootPid →
    ∀ text, command = some text → ¬Hidden output rootPid text) :
    ObservedExactly startToken output listing rootPid command checked process where
  incomplete h := by
    refine ⟨detect_incomplete h, fun agent => ?_, observation_incomplete h command checked process⟩
    rw [detect_incomplete h]
    rfl
  agents h := by
    refine ⟨?_, fun agent => mem_detected_agents h⟩
    rw [detect_complete h]
  order other hperm := ⟨detection_perm hperm startToken,
    observation_perm hperm command checked process⟩
  background h text hcommand htext := by
    refine ⟨_, _, observation_complete h command checked process |>.trans (if_pos ?_), ?_,
      alive_iff_of_not_hidden listing h htext (hhidden h text hcommand)⟩
    · exact Or.inr (Or.inr (Or.inl (by rw [hcommand]; rfl)))
    · rw [hcommand]
      rfl
  ports h names hlisting := by
    subst hlisting
    refine ⟨_, _, observation_complete h command checked process |>.trans (if_pos ?_), rfl,
      reportedPorts_smallest output names rootPid⟩
    exact Or.inr (Or.inr (Or.inr rfl))
  exact h agent identity := exactAgentProcess_detected h

theorem not_observed_of_hidden (h : WellFormedTable output rootPid) {text : List Char}
    (hcommand : command = some text) (hhidden : Hidden output rootPid text) :
    ¬ObservedExactly startToken output listing rootPid command checked process := by
  intro hobserved
  obtain ⟨hnone, row, hrow, hreach, index, -, inner, hlt, hover, hstands⟩ := hhidden
  have htext : normalizeProcessText text ≠ [] := by
    intro hempty
    rw [hempty, List.length_nil] at hover
    omega
  obtain ⟨observation, alive, hobservation, halive, hiff⟩ :=
    hobserved.background h text hcommand htext
  have htrue : alive = true := hiff.mpr ⟨row, hrow, hreach, inner, hstands⟩
  rw [observation_complete h, if_pos (Or.inr (Or.inr (Or.inl (by rw [hcommand]; rfl))))]
    at hobservation
  rw [← Option.some.inj hobservation, hcommand, Option.map_some, htrue, Option.some.injEq,
    backgroundAlive_iff h] at halive
  obtain ⟨other, hother, hotherReach, hmatch⟩ := halive
  obtain ⟨found, hfound, hfoundStands⟩ := (processLineMatchesCommand_iff htext other).mp hmatch
  exact hnone other hother hotherReach found hfound hfoundStands

/-- The processes of a pane are observed exactly when no place of the command is hidden. -/
theorem observedExactly_iff (startToken : ℕ → Option String) (output : List Char)
    (listing : Option (List Char)) (rootPid : ℕ) (command : Option (List Char)) (checked : Bool)
    (process : Option AgentProcessIdentity) :
    ObservedExactly startToken output listing rootPid command checked process ↔
      (WellFormedTable output rootPid → ∀ text, command = some text →
        ¬Hidden output rootPid text) := by
  constructor
  · intro hobserved h text hcommand hhidden
    exact not_observed_of_hidden h hcommand hhidden hobserved
  · exact observed_of_not_hidden

/-- A token before the first match hides the command behind it. -/
theorem hidden_command_missed : ¬ObservedExactly (fun _ => none) "1 0 1 1 xa a a".toList none 1
    (some "a a".toList) false none := by
  have hrows : tableRows "1 0 1 1 xa a a".toList = [⟨1, 0, 1, 1, "xa a a".toList⟩] := by
    decide +kernel
  have hmatches : Matching.matchIndices "a a".toList "xa a a".toList = [1] := by decide +kernel
  have htext : normalizeProcessText "a a".toList = "a a".toList := by decide +kernel
  have hline : normalizeProcessText "xa a a".toList = "xa a a".toList := by decide +kernel
  have hreach : Reaches (tableRows "1 0 1 1 xa a a".toList) 1 1 := .refl
  refine not_observed_of_hidden ⟨by decide +kernel, ?_, ?_⟩ rfl ⟨?_, ?_⟩
  · rw [hrows]
    exact List.nodup_singleton _
  · rw [hrows]
    exact List.mem_singleton_self _
  · intro row hrow _ index hindex
    rw [hrows] at hrow
    rw [List.mem_singleton.mp hrow, matchesOf, htext, hline, hmatches] at hindex
    rw [List.mem_singleton.mp hrow, List.mem_singleton.mp hindex, htext, hline, StandsAt]
    decide +kernel
  · refine ⟨⟨1, 0, 1, 1, "xa a a".toList⟩, by rw [hrows]; exact List.mem_singleton_self _, hreach,
      1, ?_, 3, by decide, ?_, ?_⟩
    · rw [matchesOf, htext, hline, hmatches]
      exact List.mem_singleton_self _
    · rw [htext]
      decide
    · rw [htext, hline, StandsAt]
      decide +kernel

end Exactly

end VdeTmux.Daemon
