import VdeTmux.Capacity.ChainSteps

/-!
# Runs of the chains

Prompts, samples, turns over the chains and configurations in any order, with any answers. A chain
is forgotten only for a prompt of the user, or when it has stopped and its place is needed; until
then at most three prompts are sent for it.
-/

open Foundation Foundation.Retries VdeTmux.Pane
namespace VdeTmux.Capacity

inductive Input
  | configure (config : CapacityConfig)
  | observe (pane : PaneInstance) (observation : ProviderObservation) (automatic : Bool)
      (answers : ObserveAnswers)
  | sample (answers : DetectAnswers) (moment : Moment) (sample : CapacitySample)
  | turn (answers : TickAnswers) (now : ℕ) (epoch : ℤ) (pane : PaneInstance)

section
variable [Sha256] [FromSlice] (daemon : Daemon)

def next (state : CapacityState) : Input → CapacityState × Option Dispatch
  | .configure config => ({ state with config := config }, none)
  | .observe pane observation automatic answers =>
    (observe daemon pane observation automatic answers state, none)
  | .sample answers moment sample => (detectSample daemon answers moment sample state, none)
  | .turn answers now epoch pane =>
    match state.chains[pane]? with
    | none => (state, none)
    | some chain => tickChain daemon answers now epoch pane chain state

def Step (state : CapacityState) (input : Input) (state' : CapacityState) : Prop :=
  (next daemon state input).1 = state'

abbrev Run (config : CapacityConfig) (past : List (CapacityState × Input))
    (state : CapacityState) : Prop :=
  Trace (Step daemon) (.new config) past state

/-- What is sent in a history, oldest first. -/
def sent (past : List (CapacityState × Input)) : List Dispatch :=
  past.reverse.filterMap fun e => (next daemon e.1 e.2).2

def Input.isTurn (pane : PaneInstance) : Input → Bool
  | .turn _ _ _ other => pane = other
  | _ => false

/-- Whether a step sends a prompt to a pane. -/
def sendsTo (pane : PaneInstance) (state : CapacityState) (input : Input) : Bool :=
  input.isTurn pane && (next daemon state input).2.isSome

end

/-- What makes the daemon forget the chain of a pane: a prompt of the user, or the start of the
chain of another pane when there is no room and the chain has stopped. -/
def Forgets (pane : PaneInstance) (state : CapacityState) : Input → Prop
  | .observe other observation automatic _ =>
    other = pane ∧ automatic = false ∧ observation.hookKind = .userPromptSubmit
  | .sample _ _ sample => sample.pane ≠ pane ∧ state.Crowded pane
  | _ => False

section
variable [Sha256] [FromSlice] {daemon : Daemon} {config : CapacityConfig} {pane : PaneInstance}
  {past later : List (CapacityState × Input)} {state state' : CapacityState} {input : Input}

theorem next_move (h : ¬Forgets pane state input) :
    Move 3 (state.phase pane) (sendsTo daemon pane state input)
      ((next daemon state input).1.phase pane) := by
  cases input with
  | configure config => exact .stay _
  | observe other observation automatic answers =>
    apply observe_move
    by_cases hpane : other = pane
    · by_cases hauto : automatic = true
      · exact Or.inl hauto
      · refine Or.inr (Or.inr fun hkind => h ⟨hpane, by simpa using hauto, hkind⟩)
    · exact Or.inr (Or.inl (Ne.symm hpane))
  | sample answers moment sample =>
    have hturned : Turned sample.pane state (detectSample daemon answers moment sample state) :=
      detectSample_turned
    by_cases hpane : sample.pane = pane
    · rw [← hpane]
      exact hturned.own
    · rcases hturned.others pane (Ne.symm hpane) with hsame | ⟨-, hcrowded⟩
      · rw [next, CapacityState.phase_congr_get hsame]
        exact .stay _
      · exact absurd ⟨hpane, hcrowded⟩ h
  | turn answers now epoch other =>
    simp only [sendsTo, next, Input.isTurn]
    cases hget : state.chains[other]? with
    | none =>
      rw [Option.isSome_none, Bool.and_false]
      exact .stay _
    | some chain => exact tickChain_move hget

theorem next_forgets (daemon : Daemon) (h : Forgets pane state input) :
    (next daemon state input).1.chains[pane]? = none ∨
      (next daemon state input).1.chains[pane]? = state.chains[pane]? := by
  cases input with
  | configure config => exact h.elim
  | observe other observation automatic answers =>
    obtain ⟨rfl, rfl, hkind⟩ := h
    simp only [next, observe, hkind, ite_true]
    split
    · exact Or.inr rfl
    · refine Or.inl ?_
      split
      · rw [CapacityState.retain_chains, Maps.getElem?_erase, if_pos rfl]
      · rw [CapacityState.bind_chains, CapacityState.retain_chains, Maps.getElem?_erase,
          if_pos rfl]
  | sample answers moment sample =>
    obtain ⟨hpane, -⟩ := h
    have hturned : Turned sample.pane state (detectSample daemon answers moment sample state) :=
      detectSample_turned
    rcases hturned.others pane (Ne.symm hpane) with hsame | ⟨hnone, -⟩
    · exact Or.inr hsame
    · exact Or.inl hnone
  | turn answers now epoch other => exact h.elim

theorem Run.valid (h : Run daemon config past state) : (state.phase pane).Valid 3 := by
  apply valid_of_trace (CapacityState.phase · pane) h (by decide)
  · have hidle : (CapacityState.new config).phase pane = .idle := by
      simp only [CapacityState.phase, CapacityState.new, Std.ExtTreeMap.getElem?_empty,
        Option.elim_none]
    rw [hidle]
    trivial
  · intro s i s' htaken
    rw [← htaken]
    by_cases hforgets : Forgets pane s i
    · rcases next_forgets daemon hforgets with hnone | hsame
      · refine Or.inl ?_
        rw [CapacityState.phase, hnone, Option.elim_none]
      · refine Or.inr ⟨false, ?_⟩
        rw [CapacityState.phase_congr_get hsame]
        exact .stay _
    · exact Or.inr ⟨_, next_move hforgets⟩

theorem moves (h : Trace (Step daemon) state later state')
    (hkept : ∀ e ∈ later, ¬Forgets pane e.1 e.2) :
    ∀ t ∈ transitions later state', Move 3 (t.1.phase pane) (sendsTo daemon pane t.1 t.2.1)
      (t.2.2.phase pane) := by
  induction h with
  | nil => simp [transitions]
  | @snoc past s s' i before taken ih =>
    obtain ⟨hnow, hbefore⟩ := List.forall_mem_cons.mp hkept
    refine List.forall_mem_cons.mpr ⟨?_, ih hbefore⟩
    have htaken : (next daemon s i).1 = s' := taken
    rw [← htaken]
    exact next_move hnow

/-- As long as the chain of a pane is not forgotten, at most three prompts are sent to it. -/
theorem sends_le (h : Run daemon config past state) (hlater : Trace (Step daemon) state later state')
    (hkept : ∀ e ∈ later, ¬Forgets pane e.1 e.2) :
    later.countP (fun e => sendsTo daemon pane e.1 e.2) ≤ 3 := by
  have hbound := tries_le (CapacityState.phase · pane) (sendsTo daemon pane) hlater (by decide)
    h.valid (moves hlater hkept)
  omega

/-- A stop is final: until it is forgotten a chain that has stopped stays so, with the attempts it
had, and nothing is sent for it. -/
theorem stopped_stays {chain : Chain} (hget : state.chains[pane]? = some chain)
    (hstopped : chain.reason.isSome = true) (hlater : Trace (Step daemon) state later state')
    (hkept : ∀ e ∈ later, ¬Forgets pane e.1 e.2) :
    (∃ chain', state'.chains[pane]? = some chain' ∧ chain'.reason.isSome = true ∧
      chain'.attempts = chain.attempts) ∧
    ∀ e ∈ later, sendsTo daemon pane e.1 e.2 = false := by
  have hover : state.phase pane = .finished chain.attempts := by
    rw [CapacityState.phase, hget]
    exact Chain.phase_stopped hstopped
  obtain ⟨hphase, hnone⟩ := over_stays (CapacityState.phase · pane) (sendsTo daemon pane) hlater
    hover (moves hlater hkept)
  exact ⟨CapacityState.of_over hphase, hnone⟩

theorem detect_trace (moment : Moment) (samples : List (CapacitySample × DetectAnswers))
    (state : CapacityState) :
    ∃ later, Trace (Step daemon) state later (detect daemon moment samples state) ∧
      later.reverse.map Prod.snd = samples.map fun s => .sample s.2 moment s.1 := by
  induction samples generalizing state with
  | nil => exact ⟨[], .nil, rfl⟩
  | cons s samples ih =>
    obtain ⟨later, htrace, hinputs⟩ := ih (detectSample daemon s.2 moment s.1 state)
    refine ⟨later ++ [(state, .sample s.2 moment s.1)], ?_, ?_⟩
    · exact Trace.append (.snoc .nil rfl) htrace
    · simp only [List.reverse_append, List.reverse_cons, List.reverse_nil, List.nil_append,
        List.map_cons, List.singleton_append, hinputs]

/-- A turn over the chains as they were is one over the chains as they are: none but the chain of
its own pane changes in a turn, and no pane has two. -/
theorem turns_trace (answers : PaneInstance → TickAnswers) (now : ℕ) (epoch : ℤ)
    {chains : List (PaneInstance × Chain)} (hkeys : (chains.map Prod.fst).Nodup)
    (hsame : ∀ e ∈ chains, state.chains[e.1]? = some e.2) (done : List Dispatch) :
    ∃ later, Trace (Step daemon) state later
        (chains.foldl (tickTurn daemon answers now epoch) (state, done)).1 ∧
      (chains.foldl (tickTurn daemon answers now epoch) (state, done)).2 =
        done ++ sent daemon later ∧
      later.reverse.map Prod.snd = chains.map fun e => .turn (answers e.1) now epoch e.1 := by
  induction chains generalizing state done with
  | nil => exact ⟨[], .nil, (List.append_nil done).symm, rfl⟩
  | cons entry chains ih =>
    obtain ⟨hfirst, hrest⟩ := List.nodup_cons.mp hkeys
    obtain ⟨hentry, hothers⟩ := List.forall_mem_cons.mp hsame
    have hnext : next daemon state (.turn (answers entry.1) now epoch entry.1) =
        tickChain daemon (answers entry.1) now epoch entry.1 entry.2 state := by
      simp only [next, hentry]
    have hstill : ∀ e ∈ chains,
        (tickChain daemon (answers entry.1) now epoch entry.1 entry.2 state).1.chains[e.1]? =
          some e.2 := by
      intro e he
      have hne : e.1 ≠ entry.1 := by
        intro heq
        exact hfirst (heq ▸ List.mem_map_of_mem he)
      rw [tickChain_other hentry hne]
      exact hothers e he
    obtain ⟨later, htrace, hsent, hinputs⟩ := ih hrest hstill
      (done ++ (tickChain daemon (answers entry.1) now epoch entry.1 entry.2 state).2.toList)
    refine ⟨later ++ [(state, .turn (answers entry.1) now epoch entry.1)], ?_, ?_, ?_⟩
    · exact Trace.append (.snoc .nil (congrArg Prod.fst hnext)) htrace
    · rw [List.foldl_cons, tickTurn, hsent, sent, sent, List.reverse_append, List.reverse_singleton,
        List.filterMap_append, List.filterMap_cons, List.filterMap_nil, hnext,
        List.append_assoc]
      cases (tickChain daemon (answers entry.1) now epoch entry.1 entry.2 state).2 <;> rfl
    · simp only [List.reverse_append, List.reverse_cons, List.reverse_nil, List.nil_append,
        List.map_cons, List.singleton_append, hinputs]

theorem tick_trace (daemon : Daemon) (answers : PaneInstance → TickAnswers) (now : ℕ) (epoch : ℤ)
    (state : CapacityState) :
    ∃ later, Trace (Step daemon) state later (tick daemon answers now epoch state).1 ∧
      (tick daemon answers now epoch state).2 = sent daemon later ∧
      later.reverse.map Prod.snd =
        state.chains.toList.map fun e => .turn (answers e.1) now epoch e.1 := by
  apply turns_trace
  · exact Maps.nodup_keys state.chains
  · intro e he
    exact Std.ExtTreeMap.mem_toList_iff_getElem?_eq_some.mp he

def Clocked (daemon : Daemon) (past : List (CapacityState × Input)) : Prop :=
  ∀ e ∈ past, ∀ d, (next daemon e.1 e.2).2 = some d → d.now ≤ d.clock

theorem next_lastSend (daemon : Daemon) (state : CapacityState) (input : Input) :
    ((next daemon state input).2 = none ∧
      (next daemon state input).1.lastSend = state.lastSend) ∨
    ∃ d, (next daemon state input).2 = some d ∧ state.intervalReady d.now = true ∧
      (next daemon state input).1.lastSend =
        if d.response.isResult = true then some d.clock else state.lastSend := by
  cases input with
  | configure config => exact Or.inl ⟨rfl, rfl⟩
  | observe pane observation automatic answers => exact Or.inl ⟨rfl, observe_lastSend⟩
  | sample answers moment sample => exact Or.inl ⟨rfl, detectSample_lastSend⟩
  | turn answers now epoch pane =>
    simp only [next]
    cases hget : state.chains[pane]? with
    | none => exact Or.inl ⟨rfl, rfl⟩
    | some chain =>
      rcases tickChain_cases daemon answers now epoch pane chain state with
        ⟨hnone, hmove⟩ | ⟨turn, frame, hready, heq⟩
      · refine Or.inl ⟨hnone, ?_⟩
        rcases hmove with heq | ⟨reason, heq⟩
        · exact congrArg CapacityState.lastSend heq
        · exact (congrArg CapacityState.lastSend heq).trans CapacityState.updateChain_lastSend
      · refine Or.inr ⟨_, congrArg Prod.snd heq, hready.interval, ?_⟩
        exact (congrArg (fun r => r.1.lastSend) heq).trans (answer_lastSend hget)

theorem sent_append (later past : List (CapacityState × Input)) :
    sent daemon (later ++ past) = sent daemon past ++ sent daemon later := by
  rw [sent, sent, sent, List.reverse_append, List.filterMap_append]

theorem sent_cons (e : CapacityState × Input) (past : List (CapacityState × Input)) :
    sent daemon (e :: past) = sent daemon past ++ (next daemon e.1 e.2).2.toList := by
  rw [← List.singleton_append, sent_append]
  cases hd : (next daemon e.1 e.2).2 <;> simp [sent, hd]

/-- Two seconds lie between the answer to a prompt and the decision on the next one, whatever the
panes, and in whatever state the daemon was before. -/
theorem sent_spaced {start : CapacityState} (h : Trace (Step daemon) start past state)
    (hclock : Clocked daemon past) :
    ((sent daemon past).Pairwise fun d d' =>
      d.response.isResult = true → d.clock + seconds 2 ≤ d'.now) ∧
    ∀ d ∈ sent daemon past, d.response.isResult = true →
      ∃ last, state.lastSend = some last ∧ d.clock ≤ last := by
  induction h with
  | nil => exact ⟨.nil, fun d hd => absurd hd List.not_mem_nil⟩
  | @snoc past s s' i before taken ih =>
    obtain ⟨hnow, hbefore⟩ := List.forall_mem_cons.mp hclock
    obtain ⟨hpairs, hlast⟩ := ih hbefore
    have htaken : (next daemon s i).1 = s' := taken
    rw [sent_cons, ← htaken]
    rcases next_lastSend daemon s i with ⟨hnone, hsame⟩ | ⟨d', hd', hinterval, hlastSend⟩
    · rw [hnone, Option.toList_none, List.append_nil, hsame]
      exact ⟨hpairs, hlast⟩
    · rw [hd', Option.toList_some, hlastSend]
      have hearlier : ∀ d ∈ sent daemon past, d.response.isResult = true →
          d.clock + seconds 2 ≤ d'.now := by
        intro d hd hresult
        obtain ⟨last, hsome, hle⟩ := hlast d hd hresult
        have hwait : seconds 2 ≤ d'.now - last := by
          simpa [CapacityState.intervalReady, hsome] using hinterval
        have hpos : 0 < seconds 2 := by decide
        omega
      refine ⟨List.pairwise_append.mpr ⟨hpairs, List.pairwise_singleton _ _, ?_⟩, ?_⟩
      · intro d hd d₂ hd₂
        rw [List.mem_singleton.mp hd₂]
        exact hearlier d hd
      · intro d hd hresult
        rcases List.mem_append.mp hd with hold | hnew
        · obtain ⟨last, hsome, hle⟩ := hlast d hold hresult
          split_ifs with hisResult
          · refine ⟨d'.clock, rfl, ?_⟩
            have hspaced := hearlier d hold hresult
            have hafter := hnow d' hd'
            omega
          · exact ⟨last, hsome, hle⟩
        · rw [List.mem_singleton.mp hnew] at hresult ⊢
          rw [if_pos hresult]
          exact ⟨_, rfl, Nat.le_refl _⟩

omit [Sha256] [FromSlice] in
theorem length_le_one {l : List Dispatch} (h : l.Pairwise fun _ _ => False) : l.length ≤ 1 := by
  cases h with
  | nil => exact Nat.zero_le 1
  | cons hfirst hrest =>
    rw [List.eq_nil_iff_forall_not_mem.mpr hfirst]
    exact Nat.le_refl 1

theorem turn_sent {answers : TickAnswers} {now : ℕ} {epoch : ℤ} {d : Dispatch}
    (h : (next daemon state (.turn answers now epoch pane)).2 = some d) :
    ∃ chain turn frame, state.chains[pane]? = some chain ∧
      Ready answers now chain state turn frame ∧
      d.request = promptRequest daemon pane chain turn frame answers.operationId epoch ∧
      d.response = answers.respond d.request ∧ d.now = now ∧ d.clock = answers.dispatchClock := by
  simp only [next] at h
  split at h
  · cases h
  · rename_i chain hget
    rcases tickChain_cases daemon answers now epoch pane chain state with
      ⟨hnone, -⟩ | ⟨turn, frame, hready, heq⟩
    · rw [hnone] at h
      cases h
    · rw [heq] at h
      cases h
      exact ⟨chain, turn, frame, hget, hready, rfl, rfl, rfl, rfl⟩

theorem tick_times {answers : PaneInstance → TickAnswers} {now : ℕ} {epoch : ℤ}
    (hinputs : later.reverse.map Prod.snd =
      state.chains.toList.map fun e => .turn (answers e.1) now epoch e.1)
    (hclock : ∀ pane, now ≤ (answers pane).dispatchClock) :
    ∀ e ∈ later, ∀ d, (next daemon e.1 e.2).2 = some d → d.now = now ∧ now ≤ d.clock := by
  intro e he d hd
  have hmem : e.2 ∈ later.reverse.map Prod.snd :=
    List.mem_map_of_mem (List.mem_reverse.mpr he)
  rw [hinputs] at hmem
  obtain ⟨entry, -, hentry⟩ := List.mem_map.mp hmem
  rw [← hentry] at hd
  obtain ⟨-, -, -, -, -, -, -, hnow, hclockd⟩ := turn_sent hd
  exact ⟨hnow, hclockd ▸ hclock entry.1⟩

theorem tick_clocked {answers : PaneInstance → TickAnswers} {now : ℕ} {epoch : ℤ}
    (hinputs : later.reverse.map Prod.snd =
      state.chains.toList.map fun e => .turn (answers e.1) now epoch e.1)
    (hclock : ∀ pane, now ≤ (answers pane).dispatchClock) : Clocked daemon later := by
  intro e he d hd
  obtain ⟨hnow, hle⟩ := tick_times hinputs hclock e he d hd
  omega

omit [FromSlice] in
/-- However many chains are due, one tick has at most one prompt answered. -/
theorem tick_sends_once (daemon : Daemon) (answers : PaneInstance → TickAnswers) (now : ℕ) (epoch : ℤ)
    (state : CapacityState) (hclock : ∀ pane, now ≤ (answers pane).dispatchClock) :
    (tick daemon answers now epoch state).2.countP (fun d => d.response.isResult) ≤ 1 := by
  -- No transcript is read in a tick, so that any reader will do.
  let reader : FromSlice := ⟨fun _ => .error ""⟩
  obtain ⟨later, htrace, hsent, hinputs⟩ := tick_trace daemon answers now epoch state
  have htimes := @tick_times _ reader daemon _ state _ _ _ hinputs hclock
  have hclocked := @tick_clocked _ reader daemon _ state _ _ _ hinputs hclock
  have hall : ∀ d ∈ sent daemon later, d.now = now ∧ now ≤ d.clock := by
    intro d hd
    obtain ⟨e, he, hstep⟩ := List.mem_filterMap.mp hd
    exact htimes e (List.mem_reverse.mp he) d hstep
  have hpairs : ((sent daemon later).filter fun d => d.response.isResult).Pairwise
      fun _ _ => False := by
    refine List.pairwise_filter.mpr ((sent_spaced htrace hclocked).1.imp_of_mem ?_)
    intro d d' hd hd' hspaced hresult _
    have hwait := hspaced hresult
    have hpos : 0 < seconds 2 := by decide
    obtain ⟨-, hle⟩ := hall d hd
    obtain ⟨hnow, -⟩ := hall d' hd'
    omega
  rw [hsent, List.countP_eq_length_filter]
  exact length_le_one hpairs

end

namespace FirstAttempt

def pane : PaneInstance := ⟨"%1", 7⟩

def other : PaneInstance := ⟨"%2", 8⟩

def daemon : Daemon := ⟨⟨1, 0⟩, "hash", ⟨"daemon"⟩⟩

def config : CapacityConfig := ⟨true, "Resume the work."⟩

def record (pane : PaneInstance) : PaneState :=
  { initialState pane ⟨"codex"⟩ (some ⟨"session"⟩) true false ⟨"state"⟩ with
    agentProcess := some ⟨9, "start"⟩
    agentPresent := true
    currentRun := some ⟨pane.paneId, 1, 1⟩ }

/-- The run of a pane goes by the id of the pane. -/
def run (pane : PaneInstance) : RunRecord where
  runId := pane.paneId
  revision := 1
  binding := ⟨⟨1, 0⟩, pane, ⟨"state"⟩, 1, ⟨"codex"⟩, ⟨"session"⟩, ⟨9, "start"⟩⟩
  providerTurnKey := some "turn"
  operationId := none
  executionPhase := .running
  semanticOutcome := .unresolved
  evidence := ⟨[], none, none⟩
  updatedAt := 0

def runs : Runs where
  required id := [run pane, run other].find? fun run => run.runId = id
  required_runId h := by simpa using List.find?_some h
  currentRunForBinding binding := some (run binding.paneInstance)
  currentRuns := [run pane, run other]
  saves _ := true

def locator : QuestionNotice.TranscriptLocator := ⟨"home", "rollout.jsonl", 1, 2⟩

def frame : ReadyFrame := ⟨Vector.replicate 32 0, "80:24"⟩

/-- What a reader makes of the one record of the transcript. -/
@[reducible] def json : FromSlice where
  fromSlice _ := .ok (.object [("type", .string "event_msg"), ("payload", .object
    [("type", .string "task_complete"), ("turn_id", .string "turn"),
      ("error", .object [("codex_error_info", .string "server_overloaded")])])])

def failure (pane : PaneInstance) : DetectAnswers where
  record := some (record pane)
  runs := runs
  recoveredLocator _ := none
  found _ := ⟨true, true, 1, 2, [newline]⟩
  eventId := ⟨"event"⟩
  applied _ _ := true
  supported _ := true
  readyFrame _ := .ok frame

def prompted (pane : PaneInstance) : Input :=
  .observe pane ⟨.userPromptSubmit, some "turn", some ⟨some ⟨"daemon"⟩, true, some locator⟩⟩ false
    ⟨some (record pane), runs⟩

def screen (pane : PaneInstance) : CapacitySample := ⟨pane, true, false, none⟩

def inputs : List Input := [prompted pane, .sample (failure pane) ⟨0, 0, 0⟩ (screen pane)]

def attempt (clock : ℕ) (pane : PaneInstance) : TickAnswers :=
  ⟨some (record pane), fun _ => some .dispatchStarted, pane.paneId,
    fun _ => .agentPromptResult .dispatchStarted, clock⟩

def history : List (CapacityState × Input) × CapacityState :=
  replay (fun s i => (@next .constant json daemon s i).1) (.new config) [] inputs

/-- The attempt that is due a minute after the failure. -/
def attempted : Input := .turn (attempt (seconds 61) pane) (seconds 60) 60 pane

theorem history_run : @Run .constant json daemon config history.1 history.2 :=
  replay_trace inputs .nil

theorem attempt_sent : ∃ d, (@next .constant json daemon history.2 attempted).2 = some d :=
  Option.isSome_iff_exists.mp (by decide +kernel)

theorem attempt_run : @Trace CapacityState Input (@Step .constant json daemon) history.2
    [(history.2, attempted)] (@next .constant json daemon history.2 attempted).1 :=
  .snoc .nil rfl

theorem attempt_once :
    ([(history.2, attempted)].countP fun e => @sendsTo .constant json daemon pane e.1 e.2) ≤ 3 :=
  @sends_le .constant json _ _ _ _ _ _ _ history_run attempt_run
    (List.forall_mem_singleton.mpr id)

def restarted : CapacityState :=
  observe daemon pane ⟨.sessionStart, none, none⟩ false ⟨some (record pane), runs⟩ history.2

theorem restarted_run : @Trace CapacityState Input (@Step .constant json daemon) restarted
    [(restarted, attempted)] (@next .constant json daemon restarted attempted).1 :=
  .snoc .nil rfl

theorem restarted_stays : ∃ chain, restarted.chains[pane]? = some chain ∧
    (∃ chain', (@next .constant json daemon restarted attempted).1.chains[pane]? = some chain' ∧
      chain'.reason.isSome = true ∧ chain'.attempts = chain.attempts) ∧
    ∀ e ∈ [(restarted, attempted)], @sendsTo .constant json daemon pane e.1 e.2 = false := by
  have hstopped : (restarted.chains[pane]?).any (fun c => c.reason.isSome) = true := by
    decide +kernel
  obtain ⟨chain, hget, hreason⟩ := (Option.any_eq_true _ _).mp hstopped
  exact ⟨chain, hget, @stopped_stays .constant json _ _ _ _ _ _ hget hreason restarted_run
    (List.forall_mem_singleton.mpr id)⟩

def bothFailed : CapacityState :=
  @detect .constant json daemon ⟨0, 0, 0⟩ [(screen pane, failure pane), (screen other, failure other)]
    (replay (fun s i => (@next .constant json daemon s i).1) (.new config) []
      [prompted pane, prompted other]).2

def firstTick : CapacityState × List Dispatch :=
  @tick .constant daemon (attempt (seconds 61)) (seconds 60) 60 bothFailed

def secondTick : CapacityState × List Dispatch :=
  @tick .constant daemon (attempt (seconds 71)) (seconds 70) 70 firstTick.1

theorem bothFailed_run : ∃ past, @Run .constant json daemon config past bothFailed := by
  obtain ⟨later, htrace, -⟩ := @detect_trace .constant json daemon ⟨0, 0, 0⟩
    [(screen pane, failure pane), (screen other, failure other)]
    (replay (fun s i => (@next .constant json daemon s i).1) (.new config) []
      [prompted pane, prompted other]).2
  exact ⟨_, (replay_trace [prompted pane, prompted other] .nil).append htrace⟩

/-- Two panes are due at once: the second is prompted ten seconds after the first. -/
theorem attempt_spaced : (∃ past, @Run .constant json daemon config past bothFailed) ∧ ∃ past,
    @Trace CapacityState Input (@Step .constant json daemon) bothFailed past secondTick.1 ∧
    (@sent .constant json daemon past).countP (fun d => d.response.isResult) = 2 ∧
    ((@sent .constant json daemon past).Pairwise fun d d' =>
      d.response.isResult = true → d.clock + seconds 2 ≤ d'.now) ∧
    ∀ d ∈ @sent .constant json daemon past, d.response.isResult = true →
      ∃ last, secondTick.1.lastSend = some last ∧ d.clock ≤ last := by
  let : Sha256 := .constant
  let : FromSlice := json
  obtain ⟨first, hfirst, hfirstSent, hfirstInputs⟩ := tick_trace daemon
    (attempt (seconds 61)) (seconds 60) 60 bothFailed
  obtain ⟨second, hsecond, hsecondSent, hsecondInputs⟩ := tick_trace daemon
    (attempt (seconds 71)) (seconds 70) 70 firstTick.1
  have hrun := hfirst.append hsecond
  have hclock : Clocked daemon (second ++ first) := by
    intro e he d hd
    rcases List.mem_append.mp he with he | he
    · exact tick_clocked hsecondInputs (fun _ => show seconds 70 ≤ seconds 71 by decide) e he d hd
    · exact tick_clocked hfirstInputs (fun _ => show seconds 60 ≤ seconds 61 by decide) e he d hd
  have htwo : (firstTick.2 ++ secondTick.2).countP (fun d => d.response.isResult) = 2 := by
    decide +kernel
  refine ⟨bothFailed_run, second ++ first, hrun, ?_, sent_spaced hrun hclock⟩
  rw [sent_append, ← hfirstSent, ← hsecondSent]
  exact htwo

/-- Two chains are due in the first tick, and one prompt is answered. -/
theorem tick_once :
    (bothFailed.chains.toList.countP fun e => e.2.due.any fun due => due ≤ seconds 60) = 2 ∧
      (@tick .constant daemon (attempt (seconds 61)) (seconds 60) 60 bothFailed).2.countP
        (fun d => d.response.isResult) ≤ 1 :=
  ⟨by decide +kernel, @tick_sends_once .constant daemon (attempt (seconds 61)) (seconds 60) 60
    bothFailed (fun _ => show seconds 60 ≤ seconds 61 by decide)⟩

end FirstAttempt

end VdeTmux.Capacity
