import VdeTmux.Daemon.ProcessReach

/-!
# Which agents run below a pane

The agents are those of the processes that are reached, and a process is the exact one of an agent
when it is the only native one, or the only one under an interpreter where there is no native one.
-/

open Foundation Foundation.Text VdeTmux.Pane
namespace VdeTmux.Daemon

section Loop
variable (startToken : ℕ → Option String) (commands : Std.ExtTreeMap ℕ (List Char))

def agentOf (pid : ℕ) : Option DetectedProcessAgent := commands[pid]?.bind detectProcessAgent

def ProcessesByAgent.under (processes : ProcessesByAgent) (agent : AgentKind) :
    List AgentProcessIdentity := (processes agent).getD []

theorem under_add (processes : ProcessesByAgent) (agent other : AgentKind)
    (identity : AgentProcessIdentity) :
    (processes.add agent identity).under other =
      if other = agent then (processes.under agent).insert identity
      else processes.under other := by
  rw [ProcessesByAgent.under, ProcessesByAgent.add]
  split_ifs
  · rfl
  · rfl

structure Detecting.After (d : Detecting) (pids : List ℕ) : Prop where
  agents : ∀ agent, agent ∈ d.agents ↔
    ∃ pid ∈ pids, ∃ source, agentOf commands pid = some ⟨agent, source⟩
  directAgents : ∀ agent, agent ∈ d.directAgents ↔
    ∃ pid ∈ pids, agentOf commands pid = some ⟨agent, .direct⟩
  direct : ∀ agent identity, identity ∈ d.direct.under agent ↔ identity.pid ∈ pids ∧
    agentOf commands identity.pid = some ⟨agent, .direct⟩ ∧
      startToken identity.pid = some identity.startToken
  interpreted : ∀ agent identity, identity ∈ d.interpreted.under agent ↔ identity.pid ∈ pids ∧
    agentOf commands identity.pid = some ⟨agent, .interpreted⟩ ∧
      startToken identity.pid = some identity.startToken
  nodup : ∀ agent, (d.direct.under agent).Nodup ∧ (d.interpreted.under agent).Nodup
  identities : d.processIdentitiesComplete = true ↔
    ∀ pid ∈ pids, (agentOf commands pid).isSome → (startToken pid).isSome

theorem after_nil : Detecting.After startToken commands {} [] where
  agents agent := by simp
  directAgents agent := by simp
  direct agent identity := by simp [ProcessesByAgent.under]
  interpreted agent identity := by simp [ProcessesByAgent.under]
  nodup agent := ⟨List.nodup_nil, List.nodup_nil⟩
  identities := by simp

theorem mem_under_visit {processes : ProcessesByAgent} {source : AgentProcessSource}
    {pids : List ℕ} {pid : ℕ} {detected : DetectedProcessAgent} {token : String}
    (h : ∀ agent identity, identity ∈ processes.under agent ↔ identity.pid ∈ pids ∧
      agentOf commands identity.pid = some ⟨agent, source⟩ ∧
        startToken identity.pid = some identity.startToken)
    (hpid : agentOf commands pid = some detected) (hsource : detected.source = source)
    (htoken : startToken pid = some token) (agent : AgentKind) (identity : AgentProcessIdentity) :
    identity ∈ (processes.add detected.agent ⟨pid, token⟩).under agent ↔
      identity.pid ∈ pids ++ [pid] ∧ agentOf commands identity.pid = some ⟨agent, source⟩ ∧
        startToken identity.pid = some identity.startToken := by
  obtain ⟨detectedAgent, detectedSource⟩ := detected
  dsimp only at hsource
  subst hsource
  rw [under_add, List.mem_append, List.mem_singleton]
  split_ifs with hagent
  · subst hagent
    rw [List.mem_insert_iff, h]
    constructor
    · rintro (rfl | hold)
      · exact ⟨Or.inr rfl, hpid, htoken⟩
      · exact ⟨Or.inl hold.1, hold.2⟩
    · rintro ⟨hmem | hmem, hown, hread⟩
      · exact Or.inr ⟨hmem, hown, hread⟩
      · left
        rcases identity with ⟨own, ownToken⟩
        dsimp only at hmem hread
        subst hmem
        rw [htoken] at hread
        rw [Option.some.inj hread]
  · rw [h]
    constructor
    · rintro ⟨hmem, hrest⟩
      exact ⟨Or.inl hmem, hrest⟩
    · rintro ⟨hmem | hmem, hown, hread⟩
      · exact ⟨hmem, hown, hread⟩
      · rw [hmem, hpid] at hown
        exact absurd (congrArg DetectedProcessAgent.agent (Option.some.inj hown)).symm hagent

theorem mem_under_keep {processes : ProcessesByAgent} {source : AgentProcessSource}
    {pids : List ℕ} {pid : ℕ}
    (h : ∀ agent identity, identity ∈ processes.under agent ↔ identity.pid ∈ pids ∧
      agentOf commands identity.pid = some ⟨agent, source⟩ ∧
        startToken identity.pid = some identity.startToken)
    (hpid : startToken pid = none ∨ ∀ agent, agentOf commands pid ≠ some ⟨agent, source⟩)
    (agent : AgentKind) (identity : AgentProcessIdentity) :
    identity ∈ processes.under agent ↔ identity.pid ∈ pids ++ [pid] ∧
      agentOf commands identity.pid = some ⟨agent, source⟩ ∧
        startToken identity.pid = some identity.startToken := by
  rw [h, List.mem_append, List.mem_singleton]
  constructor
  · rintro ⟨hmem, hrest⟩
    exact ⟨Or.inl hmem, hrest⟩
  · rintro ⟨hmem | hmem, hown, hread⟩
    · exact ⟨hmem, hown, hread⟩
    · rw [hmem] at hown hread
      rcases hpid with hnone | hother
      · rw [hnone] at hread
        cases hread
      · exact absurd hown (hother agent)

end Loop

theorem exists_mem_concat {pids : List ℕ} {pid : ℕ} {p : ℕ → Prop} :
    (∃ q ∈ pids ++ [pid], p q) ↔ (∃ q ∈ pids, p q) ∨ p pid := by
  simp only [List.mem_append, List.mem_singleton, or_and_right, exists_or, exists_eq_left]

section Visit
variable {startToken : ℕ → Option String} {commands : Std.ExtTreeMap ℕ (List Char)}
  {d : Detecting} {pids : List ℕ} {pid : ℕ}

theorem Detecting.After.visit_none (h : d.After startToken commands pids)
    (hpid : agentOf commands pid = none) :
    (d.visit startToken commands pid).After startToken commands (pids ++ [pid]) := by
  have hvisit : d.visit startToken commands pid = d := by
    rw [Detecting.visit, show commands[pid]?.bind detectProcessAgent = none from hpid]
  have hother : ∀ detected, agentOf commands pid ≠ some detected := fun detected heq => by
    rw [hpid] at heq
    cases heq
  rw [hvisit]
  refine ⟨fun agent => ?_, fun agent => ?_, fun agent => ?_, fun agent => ?_, h.nodup, ?_⟩
  · rw [h.agents, exists_mem_concat]
    exact (or_iff_left fun hown => hother _ hown.choose_spec).symm
  · rw [h.directAgents, exists_mem_concat]
    exact (or_iff_left (hother _)).symm
  · exact mem_under_keep startToken commands h.direct (Or.inr fun agent => hother _) agent
  · exact mem_under_keep startToken commands h.interpreted (Or.inr fun agent => hother _) agent
  · rw [h.identities, List.forall_mem_append]
    simp [hpid]

theorem Detecting.After.agents_visit (h : d.After startToken commands pids)
    {detected : DetectedProcessAgent} (hpid : agentOf commands pid = some detected)
    (agent : AgentKind) : agent ∈ insert detected.agent d.agents ↔
      ∃ q ∈ pids ++ [pid], ∃ source, agentOf commands q = some ⟨agent, source⟩ := by
  rw [Finset.mem_insert, h.agents, exists_mem_concat, or_comm]
  refine or_congr_right ⟨?_, ?_⟩
  · rintro rfl
    exact ⟨detected.source, hpid⟩
  · rintro ⟨source, hown⟩
    rw [hpid] at hown
    exact (congrArg DetectedProcessAgent.agent (Option.some.inj hown)).symm

theorem Detecting.After.directAgents_visit (h : d.After startToken commands pids)
    {detected : DetectedProcessAgent} (hpid : agentOf commands pid = some detected)
    (agent : AgentKind) :
    agent ∈ (if detected.source = .direct then insert detected.agent d.directAgents
      else d.directAgents) ↔
      ∃ q ∈ pids ++ [pid], agentOf commands q = some ⟨agent, .direct⟩ := by
  obtain ⟨own, source⟩ := detected
  rw [exists_mem_concat, hpid]
  cases source with
  | direct =>
    rw [if_pos rfl, Finset.mem_insert, h.directAgents, or_comm]
    refine or_congr_right ⟨?_, ?_⟩
    · rintro rfl
      rfl
    · intro hown
      exact (congrArg DetectedProcessAgent.agent (Option.some.inj hown)).symm
  | interpreted =>
    rw [if_neg (show ¬AgentProcessSource.interpreted = .direct by decide), h.directAgents]
    refine (or_iff_left fun hown => ?_).symm
    cases congrArg DetectedProcessAgent.source (Option.some.inj hown)

theorem Detecting.After.visit_some (h : d.After startToken commands pids)
    {detected : DetectedProcessAgent} (hpid : agentOf commands pid = some detected) :
    (d.visit startToken commands pid).After startToken commands (pids ++ [pid]) := by
  have hbind : commands[pid]?.bind detectProcessAgent = some detected := hpid
  cases htoken : startToken pid with
  | none =>
    simp only [Detecting.visit, hbind, htoken]
    refine ⟨h.agents_visit hpid, h.directAgents_visit hpid, fun agent => ?_, fun agent => ?_,
      h.nodup, ?_⟩
    · exact mem_under_keep startToken commands h.direct (Or.inl htoken) agent
    · exact mem_under_keep startToken commands h.interpreted (Or.inl htoken) agent
    · refine iff_of_false Bool.false_ne_true fun hall => ?_
      have hsome := hall pid (List.mem_append_right _ (List.mem_singleton_self _))
        (by rw [hpid]; rfl)
      rw [htoken] at hsome
      exact Bool.noConfusion hsome
  | some token =>
    have hidentities : d.processIdentitiesComplete = true ↔ ∀ q ∈ pids ++ [pid],
        (agentOf commands q).isSome → (startToken q).isSome := by
      rw [h.identities, List.forall_mem_append]
      simp [htoken]
    cases hsource : detected.source with
    | direct =>
      have hother : ∀ agent, agentOf commands pid ≠ some ⟨agent, .interpreted⟩ :=
        fun agent heq => by
          rw [hpid] at heq
          rw [Option.some.inj heq] at hsource
          cases hsource
      have hdirect := h.directAgents_visit hpid
      rw [if_pos hsource] at hdirect
      simp only [Detecting.visit, hbind, htoken, hsource, if_true]
      refine ⟨h.agents_visit hpid, hdirect, fun agent => ?_, fun agent => ?_, fun agent => ?_,
        hidentities⟩
      · exact mem_under_visit startToken commands h.direct hpid hsource htoken agent
      · exact mem_under_keep startToken commands h.interpreted (Or.inr hother) agent
      · refine ⟨?_, (h.nodup agent).2⟩
        rw [under_add]
        split_ifs with hagent
        · exact (h.nodup _).1.insert
        · exact (h.nodup agent).1
    | interpreted =>
      have hother : ∀ agent, agentOf commands pid ≠ some ⟨agent, .direct⟩ :=
        fun agent heq => by
          rw [hpid] at heq
          rw [Option.some.inj heq] at hsource
          cases hsource
      have hne : ¬AgentProcessSource.interpreted = .direct := by decide
      have hdirect := h.directAgents_visit hpid
      rw [if_neg (hsource ▸ hne)] at hdirect
      simp only [Detecting.visit, hbind, htoken, hsource, if_neg hne]
      refine ⟨h.agents_visit hpid, hdirect, fun agent => ?_, fun agent => ?_, fun agent => ?_,
        hidentities⟩
      · exact mem_under_keep startToken commands h.direct (Or.inr hother) agent
      · exact mem_under_visit startToken commands h.interpreted hpid hsource htoken agent
      · refine ⟨(h.nodup agent).1, ?_⟩
        rw [under_add]
        split_ifs with hagent
        · exact (h.nodup _).2.insert
        · exact (h.nodup agent).2

end Visit

theorem after_visits (startToken : ℕ → Option String) (commands : Std.ExtTreeMap ℕ (List Char))
    (pids : List ℕ) :
    Detecting.After startToken commands (pids.foldl (Detecting.visit startToken commands) {})
      pids := by
  induction pids using List.reverseRecOn with
  | nil => exact after_nil startToken commands
  | append_singleton pids pid ih =>
    rw [List.foldl_append, List.foldl_cons, List.foldl_nil]
    cases hpid : agentOf commands pid with
    | none => exact ih.visit_none hpid
    | some detected => exact ih.visit_some hpid

section Agents
variable (output : List Char) (rootPid : ℕ)

def Runs (agent : AgentKind) (source : AgentProcessSource) (pid : ℕ) : Prop :=
  Reaches (tableRows output) rootPid pid ∧ ∃ row ∈ tableRows output, row.pid = pid ∧
    detectProcessAgent row.command = some ⟨agent, source⟩

def OnlyRuns (agent : AgentKind) (source : AgentProcessSource) (pid : ℕ) : Prop :=
  ∀ q, Runs output rootPid agent source q ↔ q = pid

def AllRead (startToken : ℕ → Option String) : Prop :=
  ∀ agent source pid, Runs output rootPid agent source pid → (startToken pid).isSome

variable {output rootPid} {listing : Option (List Char)}

theorem runs_iff (listing : Option (List Char)) (h : WellFormedTable output rootPid) {agent : AgentKind}
    {source : AgentProcessSource} {pid : ℕ} :
    Runs output rootPid agent source pid ↔ pid ∈ (observedTable output listing).visits rootPid ∧
      agentOf (observedTable output listing).commands pid = some ⟨agent, source⟩ := by
  rw [Runs, mem_visits, agentOf, Option.bind_eq_some_iff]
  refine and_congr_right fun _ => ⟨?_, ?_⟩
  · rintro ⟨row, hrow, hpid, hdetect⟩
    exact ⟨row.command, (commands_eq h).mpr ⟨row, hrow, hpid, rfl⟩, hdetect⟩
  · rintro ⟨command, hcommand, hdetect⟩
    obtain ⟨row, hrow, hpid, rfl⟩ := (commands_eq h).mp hcommand
    exact ⟨row, hrow, hpid, hdetect⟩

theorem eq_singleton_iff {l : List AgentProcessIdentity} (hl : l.Nodup)
    {identity : AgentProcessIdentity} : l = [identity] ↔ ∀ other, other ∈ l ↔ other = identity := by
  constructor
  · rintro rfl other
    exact List.mem_singleton
  · intro h
    have hperm : l.Perm [identity] :=
      (List.perm_ext_iff_of_nodup hl (List.nodup_singleton _)).mpr fun other => by
        rw [h, List.mem_singleton]
    exact List.perm_singleton.mp hperm

theorem some_singleton_iff {processes : ProcessesByAgent} {agent : AgentKind}
    {l : List AgentProcessIdentity} (hl : l ≠ []) :
    processes agent = some l ↔ processes.under agent = l := by
  rw [ProcessesByAgent.under]
  cases processes agent with
  | none => exact ⟨nofun, fun h => absurd h.symm hl⟩
  | some own => exact ⟨Option.some.inj, congrArg some⟩

theorem singleton_iff_onlyRuns {startToken : ℕ → Option String} {processes : ProcessesByAgent}
    {agent : AgentKind} {source : AgentProcessSource} (hnodup : (processes.under agent).Nodup)
    (hmem : ∀ identity, identity ∈ processes.under agent ↔
      Runs output rootPid agent source identity.pid ∧
        startToken identity.pid = some identity.startToken)
    (hread : ∀ pid, Runs output rootPid agent source pid → (startToken pid).isSome)
    {identity : AgentProcessIdentity} : processes agent = some [identity] ↔
      startToken identity.pid = some identity.startToken ∧
        OnlyRuns output rootPid agent source identity.pid := by
  rw [some_singleton_iff (List.cons_ne_nil _ _), eq_singleton_iff hnodup]
  constructor
  · intro hall
    obtain ⟨hruns, htoken⟩ := (hmem identity).mp ((hall identity).mpr rfl)
    refine ⟨htoken, fun q => ⟨fun hq => ?_, fun hq => hq ▸ hruns⟩⟩
    obtain ⟨token, hown⟩ := Option.isSome_iff_exists.mp (hread q hq)
    have hsame := (hall ⟨q, token⟩).mp ((hmem ⟨q, token⟩).mpr ⟨hq, hown⟩)
    exact congrArg AgentProcessIdentity.pid hsame
  · rintro ⟨htoken, honly⟩ ⟨pid, token⟩
    rw [hmem]
    constructor
    · rintro ⟨hruns, hown⟩
      have hpid : pid = identity.pid := (honly pid).mp hruns
      dsimp only at hown
      rw [hpid, htoken] at hown
      rw [hpid, ← Option.some.inj hown]
    · intro heq
      rw [heq]
      exact ⟨(honly _).mpr rfl, htoken⟩

variable {startToken : ℕ → Option String}

theorem after_observed (startToken : ℕ → Option String) (output : List Char)
    (listing : Option (List Char)) (rootPid : ℕ) :
    ((observedTable output listing).detecting startToken rootPid).After startToken
      (observedTable output listing).commands ((observedTable output listing).visits rootPid) :=
  after_visits _ _ _

theorem mem_agents_detecting (startToken : ℕ → Option String) (listing : Option (List Char))
    (h : WellFormedTable output rootPid) (agent : AgentKind) :
    agent ∈ ((observedTable output listing).detecting startToken rootPid).agents ↔
      ∃ source pid, Runs output rootPid agent source pid := by
  rw [(after_observed startToken output listing rootPid).agents]
  constructor
  · rintro ⟨pid, hpid, source, hown⟩
    exact ⟨source, pid, (runs_iff listing h).mpr ⟨hpid, hown⟩⟩
  · rintro ⟨source, pid, hruns⟩
    obtain ⟨hpid, hown⟩ := (runs_iff listing h).mp hruns
    exact ⟨pid, hpid, source, hown⟩

theorem mem_directAgents_detecting (startToken : ℕ → Option String) (listing : Option (List Char))
    (h : WellFormedTable output rootPid) (agent : AgentKind) :
    agent ∈ ((observedTable output listing).detecting startToken rootPid).directAgents ↔
      ∃ pid, Runs output rootPid agent .direct pid := by
  rw [(after_observed startToken output listing rootPid).directAgents]
  exact exists_congr fun pid => (runs_iff listing h).symm

theorem identities_detecting (h : WellFormedTable output rootPid) :
    ((observedTable output listing).detecting startToken rootPid).processIdentitiesComplete = true ↔
      AllRead output rootPid startToken := by
  rw [(after_observed startToken output listing rootPid).identities]
  constructor
  · intro hall agent source pid hruns
    obtain ⟨hpid, hown⟩ := (runs_iff listing h).mp hruns
    exact hall pid hpid (by rw [hown]; rfl)
  · intro hall pid hpid hsome
    obtain ⟨detected, hown⟩ := Option.isSome_iff_exists.mp hsome
    exact hall detected.agent detected.source pid ((runs_iff listing h).mpr ⟨hpid, hown⟩)

theorem direct_singleton_iff (h : WellFormedTable output rootPid)
    (hread : AllRead output rootPid startToken) {agent : AgentKind}
    {identity : AgentProcessIdentity} :
    ((observedTable output listing).detecting startToken rootPid).direct agent = some [identity] ↔
      startToken identity.pid = some identity.startToken ∧
        OnlyRuns output rootPid agent .direct identity.pid := by
  have hafter := after_observed startToken output listing rootPid
  refine singleton_iff_onlyRuns (hafter.nodup agent).1 (fun other => ?_) (hread agent _)
  rw [hafter.direct, runs_iff listing h, and_assoc]

theorem interpreted_singleton_iff (h : WellFormedTable output rootPid)
    (hread : AllRead output rootPid startToken) {agent : AgentKind}
    {identity : AgentProcessIdentity} :
    ((observedTable output listing).detecting startToken rootPid).interpreted agent =
        some [identity] ↔
      startToken identity.pid = some identity.startToken ∧
        OnlyRuns output rootPid agent .interpreted identity.pid := by
  have hafter := after_observed startToken output listing rootPid
  refine singleton_iff_onlyRuns (hafter.nodup agent).2 (fun other => ?_) (hread agent _)
  rw [hafter.interpreted, runs_iff listing h, and_assoc]

theorem detect_incomplete (h : ¬WellFormedTable output rootPid) :
    (observedTable output listing).detectFromPidTree startToken rootPid =
      ⟨∅, fun _ => none, false, false⟩ := by
  rw [AgentProcessSnapshot.detectFromPidTree, if_pos]
  by_contra hcomplete
  rw [not_or, Bool.not_eq_false, not_not] at hcomplete
  exact h ((wellFormed_iff listing).mp hcomplete)

theorem detect_complete (h : WellFormedTable output rootPid) :
    (observedTable output listing).detectFromPidTree startToken rootPid =
      (let d := (observedTable output listing).detecting startToken rootPid
      ⟨d.agents, preferDirectAgentProcesses d.agents d.directAgents d.direct d.interpreted, true,
        d.processIdentitiesComplete⟩) := by
  obtain ⟨hcomplete, hroot⟩ := (wellFormed_iff listing).mpr h
  rw [AgentProcessSnapshot.detectFromPidTree, if_neg]
  rw [not_or, Bool.not_eq_false, not_not]
  exact ⟨hcomplete, hroot⟩

theorem preferred_singleton_iff (h : WellFormedTable output rootPid)
    (hread : AllRead output rootPid startToken) {agent : AgentKind}
    {identity : AgentProcessIdentity} :
    ((observedTable output listing).detectFromPidTree startToken rootPid).agentProcesses agent =
        some [identity] ↔
      startToken identity.pid = some identity.startToken ∧
        (OnlyRuns output rootPid agent .direct identity.pid ∨
          (∀ pid, ¬Runs output rootPid agent .direct pid) ∧
            OnlyRuns output rootPid agent .interpreted identity.pid) := by
  rw [detect_complete h]
  dsimp only
  have hagents := mem_agents_detecting startToken listing h agent
  have hdirects := mem_directAgents_detecting startToken listing h agent
  rw [preferDirectAgentProcesses]
  by_cases hsome : ∃ pid, Runs output rootPid agent .direct pid
  · have hagent : ∃ source pid, Runs output rootPid agent source pid := ⟨.direct, hsome⟩
    rw [if_pos (hagents.mpr hagent), if_pos (hdirects.mpr hsome), direct_singleton_iff h hread]
    refine and_congr_right fun _ => (or_iff_left fun hnone => ?_).symm
    exact hsome.elim hnone.1
  · rw [if_neg (mt hdirects.mp hsome)]
    have hnone : ∀ pid, ¬Runs output rootPid agent .direct pid := not_exists.mp hsome
    have honly : ¬OnlyRuns output rootPid agent .direct identity.pid := fun honly =>
      hnone _ ((honly _).mpr rfl)
    rw [or_iff_right honly, and_iff_right hnone]
    split_ifs with hagent
    · exact interpreted_singleton_iff h hread
    · refine iff_of_false nofun fun honly => ?_
      exact hagent (hagents.mpr ⟨.interpreted, _, (honly.2 _).mpr rfl⟩)

theorem exactAgentProcess_iff {detection : ProcessDetection} {agent : AgentKind}
    {identity : AgentProcessIdentity} (hcomplete : detection.complete = true) :
    detection.exactAgentProcess agent = some identity ↔
      detection.processIdentitiesComplete = true ∧
        detection.agentProcesses agent = some [identity] := by
  rw [ProcessDetection.exactAgentProcess]
  cases hidentities : detection.processIdentitiesComplete with
  | false =>
    rw [if_pos (Or.inr rfl)]
    exact iff_of_false nofun fun h => Bool.false_ne_true h.1
  | true =>
    rw [if_neg (by rw [hcomplete]; decide)]
    split
    · next own hown =>
      rw [hown]
      simp
    · next hother =>
      exact iff_of_false nofun fun h => hother _ h.2

theorem mem_detected_agents (h : WellFormedTable output rootPid) {agent : AgentKind} :
    agent ∈ ((observedTable output listing).detectFromPidTree startToken rootPid).agents ↔
      ∃ source pid, Runs output rootPid agent source pid := by
  rw [detect_complete h]
  exact mem_agents_detecting startToken listing h agent

theorem exactAgentProcess_detected (h : WellFormedTable output rootPid) {agent : AgentKind}
    {identity : AgentProcessIdentity} :
    ((observedTable output listing).detectFromPidTree startToken rootPid).exactAgentProcess agent =
        some identity ↔
      AllRead output rootPid startToken ∧ startToken identity.pid = some identity.startToken ∧
        (OnlyRuns output rootPid agent .direct identity.pid ∨
          (∀ pid, ¬Runs output rootPid agent .direct pid) ∧
            OnlyRuns output rootPid agent .interpreted identity.pid) := by
  have hcomplete : ((observedTable output listing).detectFromPidTree startToken
      rootPid).complete = true := by rw [detect_complete h]
  have hidentities : ((observedTable output listing).detectFromPidTree startToken
      rootPid).processIdentitiesComplete = true ↔ AllRead output rootPid startToken := by
    rw [detect_complete h]
    exact identities_detecting h
  rw [exactAgentProcess_iff hcomplete, hidentities]
  exact and_congr_right fun hread => preferred_singleton_iff h hread

end Agents

end VdeTmux.Daemon
