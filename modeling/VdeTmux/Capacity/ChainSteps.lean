import VdeTmux.Capacity.Chains
import VdeTmux.Foundation.Maps
import VdeTmux.Foundation.Retries

/-!
# What one step does to a chain

The steps are a prompt, one turn of the loop over the samples, one turn of the loop over the
chains, and a new configuration. Seen from one pane each is a move of a bounded retry, unless it
forgets the chain.
-/

open Foundation Foundation.Retries VdeTmux.Pane
namespace VdeTmux.Capacity

def Chain.phase (chain : Chain) : Phase :=
  if chain.reason.isSome then .finished chain.attempts
  else if chain.pending.isSome then .sent chain.attempts
  else if chain.due.isSome then .waiting chain.attempts
  else .working chain.attempts

def CapacityState.phase (state : CapacityState) (pane : PaneInstance) : Phase :=
  (state.chains[pane]?).elim .idle Chain.phase

namespace Chain
variable (chain : Chain)

theorem phase_ne_idle : chain.phase ≠ .idle := by
  simp only [phase]
  split_ifs <;> simp

theorem tried_phase : chain.phase.tried = chain.attempts := by
  simp only [phase]
  split_ifs <;> rfl

variable {chain}

theorem phase_stopped (h : chain.reason.isSome = true) : chain.phase = .finished chain.attempts := by
  simp only [phase, h, ite_true]

theorem halt {chain' : Chain} (hreason : chain'.reason.isSome = true)
    (hattempts : chain'.attempts = chain.attempts) : Move 3 chain.phase false chain'.phase := by
  rw [phase_stopped hreason, hattempts, ← tried_phase chain]
  exact .halt chain.phase_ne_idle

end Chain

namespace CapacityState
variable {state : CapacityState} {pane other : PaneInstance} {f : Chain → Chain}

/-! ## One chain at a time -/

theorem updateChain_get (state : CapacityState) (pane other : PaneInstance) (f : Chain → Chain) :
    (state.updateChain pane f).chains[other]? =
      if other = pane then (state.chains[pane]?).map f else state.chains[other]? := by
  simp only [updateChain]
  cases hget : state.chains[pane]? with
  | none =>
    split_ifs with heq
    · rw [heq, hget, Option.map_none]
    · rfl
  | some chain =>
    rw [Maps.getElem?_insert, Option.map_some]

@[simp] theorem updateChain_bound : (state.updateChain pane f).bound = state.bound := by
  simp only [updateChain]
  split <;> rfl

@[simp] theorem updateChain_config : (state.updateChain pane f).config = state.config := by
  simp only [updateChain]
  split <;> rfl

@[simp] theorem updateChain_lastSend : (state.updateChain pane f).lastSend = state.lastSend := by
  simp only [updateChain]
  split <;> rfl

@[simp] theorem updateChain_size :
    (state.updateChain pane f).chains.size = state.chains.size := by
  simp only [updateChain]
  cases hget : state.chains[pane]? with
  | none => rfl
  | some chain =>
    have hmem : state.chains.contains pane = true :=
      Std.ExtTreeMap.contains_iff_mem.mpr (Maps.mem_iff_exists.mpr ⟨chain, hget⟩)
    simp only [Std.ExtTreeMap.size_insert, hmem, ite_true]

theorem updateChain_move (h : ∀ c, state.chains[pane]? = some c → Move 3 c.phase false (f c).phase) :
    Move 3 (state.phase other) false ((state.updateChain pane f).phase other) := by
  simp only [CapacityState.phase, updateChain_get]
  split_ifs with heq
  · rw [heq]
    cases hget : state.chains[pane]? with
    | none => exact .stay _
    | some chain => exact h chain hget
  · exact .stay _

theorem stop_move (state : CapacityState) (pane other : PaneInstance) (reason : String) :
    Move 3 (state.phase other) false ((state.stop pane reason).phase other) := by
  apply updateChain_move
  intro chain _
  exact Chain.halt rfl rfl

@[simp] theorem bind_chains (runId : String) (turn : BoundTurn) :
    (state.bind runId turn).chains = state.chains := by
  simp only [bind]
  split_ifs <;> rfl

@[simp] theorem bind_config (runId : String) (turn : BoundTurn) :
    (state.bind runId turn).config = state.config := by
  simp only [bind]
  split_ifs <;> rfl

@[simp] theorem retain_chains (active : List String) :
    (state.retain active).chains = state.chains := rfl

theorem of_over {n : ℕ} (h : state.phase pane = .finished n) :
    ∃ chain, state.chains[pane]? = some chain ∧ chain.reason.isSome = true ∧ chain.attempts = n := by
  cases hget : state.chains[pane]? with
  | none =>
    rw [CapacityState.phase, hget] at h
    cases h
  | some chain =>
    rw [CapacityState.phase, hget] at h
    have hphase : chain.phase = .finished n := h
    refine ⟨chain, rfl, ?_, ?_⟩
    · by_contra hgoing
      have hreason : chain.reason.isSome = false := by simpa using hgoing
      simp only [Chain.phase, hreason, Bool.false_eq_true, ite_false] at hphase
      split_ifs at hphase
    · rw [← chain.tried_phase, hphase, Phase.tried]

theorem phase_congr_get {state' : CapacityState}
    (h : state'.chains[pane]? = state.chains[pane]?) : state'.phase pane = state.phase pane := by
  simp only [CapacityState.phase, h]

theorem phase_congr {state' : CapacityState} (h : state'.chains = state.chains) :
    state'.phase pane = state.phase pane := by
  simp only [CapacityState.phase, h]

end CapacityState

/-! ## Prompts -/

section
variable {daemon : Daemon} {pane other : PaneInstance} {observation : ProviderObservation}
  {automatic : Bool} {state : CapacityState}

theorem Chain.submitted_move (chain : Chain) (run : RunRecord) :
    Move 3 chain.phase false (chain.submitted run).phase := by
  simp only [submitted]
  split_ifs with hmatch
  · obtain ⟨hreason, -, -, hpending⟩ := hmatch
    have hsent : chain.phase = .sent chain.attempts := by
      simp only [phase, Option.isNone_iff_eq_none.mp hreason, hpending, Option.isSome_none,
        Bool.false_eq_true, ite_false, ite_true]
    have hworking : Chain.phase
        { chain with run := run, pending := none, due := none, frame := none } =
          .working chain.attempts := by
      simp only [phase, Option.isNone_iff_eq_none.mp hreason, Option.isSome_none,
        Bool.false_eq_true, ite_false]
    rw [hsent, hworking]
    exact .confirm _
  · exact Chain.halt rfl rfl

theorem observe_move {answers : ObserveAnswers} (h : automatic = true ∨ other ≠ pane ∨
      observation.hookKind ≠ .userPromptSubmit) :
    Move 3 (state.phase other) false
      ((observe daemon pane observation automatic answers state).phase other) := by
  simp only [observe]
  split
  · apply CapacityState.updateChain_move
    intro chain _
    exact Chain.halt rfl rfl
  · rename_i hkind
    split
    · exact .stay _
    · rename_i run hrun
      have hmoved : Move 3 (state.phase other) false (CapacityState.phase
          (if automatic = false then { state with chains := state.chains.erase pane }
            else state.updateChain pane fun chain => chain.submitted run) other) := by
        split_ifs with hauto
        · have hother : other ≠ pane := by
            rcases h with h | h | h
            · exact absurd (h.symm.trans hauto) (by decide)
            · exact h
            · exact absurd hkind h
          have hsame : CapacityState.phase { state with chains := state.chains.erase pane } other =
              state.phase other := by
            simp only [CapacityState.phase, Maps.getElem?_erase, hother, ite_false]
          rw [hsame]
          exact .stay _
        · apply CapacityState.updateChain_move
          intro chain _
          exact chain.submitted_move run
      split
      · exact hmoved
      · rw [CapacityState.phase_congr (CapacityState.bind_chains _ _)]
        exact hmoved
  · exact .stay _

end

/-! ## Samples -/

def CapacityState.Crowded (state : CapacityState) (pane : PaneInstance) : Prop :=
  512 ≤ state.chains.size ∧ (state.chains[pane]?).any (fun c => c.reason.isSome) = true

theorem Chain.schedule_move (chain : Chain) (failed : RunRecord)
    (frame : Except String ReadyFrame) (moment : Moment) :
    Move 3 chain.phase false (chain.schedule failed frame moment).phase := by
  simp only [schedule]
  split_ifs with hother hfew
  · exact .stay _
  · obtain ⟨hreason, -⟩ := not_or.mp hother
    have hnone : chain.reason = none := by simpa using hreason
    cases frame with
    | error reason => exact Chain.halt rfl rfl
    | ok frame =>
      simp only [phase, hnone, Option.isSome_none, Bool.false_eq_true, ite_false,
        Option.isSome_some, ite_true]
      split_ifs
      · exact .stay _
      · exact .stay _
      · exact .again hfew
  · exact Chain.halt rfl rfl

/-- What a sample of a pane does: a move of its own chain, and of the others at most one that has
stopped is let go to make room. -/
structure Turned (pane : PaneInstance) (state state' : CapacityState) : Prop where
  own : Move 3 (state.phase pane) false (state'.phase pane)
  others : ∀ other ≠ pane, state'.chains[other]? = state.chains[other]? ∨
    state'.chains[other]? = none ∧ state.Crowded other

section
variable {state state' : CapacityState} {pane other : PaneInstance} {failed : RunRecord}
  {turn : BoundTurn} {epoch : ℤ}

theorem Turned.of_chains (h : state'.chains = state.chains) : Turned pane state state' where
  own := by
    rw [CapacityState.phase_congr h]
    exact .stay _
  others other _ := by
    rw [h]
    exact Or.inl rfl

theorem Turned.of_stop (state : CapacityState) (pane : PaneInstance) (reason : String) :
    Turned pane state (state.stop pane reason) where
  own := CapacityState.stop_move state pane pane reason
  others other hother := by
    rw [CapacityState.stop, CapacityState.updateChain_get, if_neg hother]
    exact Or.inl rfl

theorem Turned.congr {before : CapacityState} (h : before.chains = state.chains)
    (hturned : Turned pane before state') : Turned pane state state' where
  own := by
    rw [← CapacityState.phase_congr h]
    exact hturned.own
  others other hother := by
    have hothers := hturned.others other hother
    rwa [CapacityState.Crowded, h] at hothers

theorem Turned.of_stopped {reason : String}
    (h : Turned pane (state.stop pane reason) state') : Turned pane state state' where
  own := by
    cases hget : state.chains[pane]? with
    | none =>
      have hsame : (state.stop pane reason).phase pane = state.phase pane := by
        apply CapacityState.phase_congr_get
        rw [CapacityState.stop, CapacityState.updateChain_get, if_pos rfl, hget, Option.map_none]
      rw [← hsame]
      exact h.own
    | some chain =>
      have hphase : state.phase pane = chain.phase := by
        simp only [CapacityState.phase, hget, Option.elim_some]
      have hover : (state.stop pane reason).phase pane = .finished chain.phase.tried := by
        simp only [CapacityState.phase, CapacityState.stop, CapacityState.updateChain_get, hget,
          ite_true, Option.map_some, Option.elim_some, Chain.tried_phase]
        exact Chain.phase_stopped rfl
      have hown := h.own
      rw [hover] at hown
      rw [hphase]
      exact hown.after_halt chain.phase_ne_idle
  others other hother := by
    have hothers := h.others other hother
    rwa [CapacityState.Crowded, CapacityState.stop, CapacityState.updateChain_size,
      CapacityState.updateChain_get, if_neg hother] at hothers

theorem openChain_other (hother : other ≠ pane) :
    (openChain state pane failed turn epoch).chains[other]? = state.chains[other]? ∨
      (openChain state pane failed turn epoch).chains[other]? = none ∧ state.Crowded other := by
  have hcleared (hsize : 512 ≤ state.chains.size) :
      (state.chains.filter fun _ c => c.reason.isNone)[other]? = state.chains[other]? ∨
        (state.chains.filter fun _ c => c.reason.isNone)[other]? = none ∧
          state.Crowded other := by
    rw [Std.ExtTreeMap.getElem?_filter', CapacityState.Crowded]
    cases hget : state.chains[other]? with
    | none => exact Or.inl rfl
    | some chain =>
      cases hreason : chain.reason with
      | none =>
        simp only [Option.filter_some, hreason, Option.isNone_none, ite_true]
        exact Or.inl trivial
      | some reason =>
        simp only [Option.filter_some, hreason, Option.isNone_some, Bool.false_eq_true,
          ite_false, Option.any_some, Option.isSome_some]
        exact Or.inr ⟨trivial, hsize, trivial⟩
  simp only [openChain]
  split_ifs with hkept hsize hfew hfew
  · exact Or.inl rfl
  · simp only [Maps.getElem?_insert, hother, ite_false]
    exact hcleared hsize
  · exact hcleared hsize
  · simp only [Maps.getElem?_insert, hother, ite_false]
    exact Or.inl trivial
  · exact Or.inl rfl

theorem openChain_self (state : CapacityState) (pane : PaneInstance) (failed : RunRecord)
    (turn : BoundTurn) (epoch : ℤ) : (openChain state pane failed turn epoch).chains[pane]? =
      state.chains[pane]? ∨
    state.chains[pane]? = none ∧ turn.eligible = true ∧
      (openChain state pane failed turn epoch).chains[pane]? =
        some ⟨failed, state.config.chainPrompt, 0, none, none, epoch, none, none⟩ := by
  simp only [openChain]
  split_ifs with hkept hsize hfew hfew
  · exact Or.inl rfl
  all_goals
    obtain ⟨hnew, heligible⟩ := not_or.mp hkept
    have hnone : state.chains[pane]? = none := by
      rw [Std.ExtTreeMap.contains_iff_mem] at hnew
      exact Std.ExtTreeMap.getElem?_eq_none hnew
  · refine Or.inr ⟨hnone, by simpa using heligible, ?_⟩
    exact Std.ExtTreeMap.getElem?_insert_self
  · refine Or.inl ?_
    simp only [Std.ExtTreeMap.getElem?_filter', hnone, Option.filter_none]
  · refine Or.inr ⟨hnone, by simpa using heligible, ?_⟩
    exact Std.ExtTreeMap.getElem?_insert_self
  · exact Or.inl rfl

theorem schedule_new {frame : Except String ReadyFrame} {moment : Moment} {prompt : String} :
    Move 3 .idle false (Chain.schedule ⟨failed, prompt, 0, none, none, epoch, none, none⟩
      failed frame moment).phase := by
  cases frame with
  | ok frame =>
    simp only [Chain.schedule, Chain.phase, Option.isSome_none, Bool.false_eq_true, ne_eq,
      not_true_eq_false, or_self, ite_false, Option.isSome_some, ite_true, Nat.zero_lt_succ,
      dite_true]
    exact .start
  | error reason =>
    simp only [Chain.schedule, Chain.phase, Option.isSome_none, Bool.false_eq_true, ne_eq,
      not_true_eq_false, or_self, ite_false, Option.isSome_some, ite_true, Nat.zero_lt_succ,
      dite_true]
    exact .reject

theorem openChain_turned {frame : Except String ReadyFrame} {moment : Moment} :
    Turned pane state ((openChain state pane failed turn epoch).updateChain pane
      fun c => c.schedule failed frame moment) where
  own := by
    rcases openChain_self state pane failed turn epoch with hkept | ⟨hnone, -, hnew⟩
    · rw [← CapacityState.phase_congr_get hkept]
      apply CapacityState.updateChain_move
      intro chain _
      exact chain.schedule_move failed frame moment
    · simp only [CapacityState.phase, CapacityState.updateChain_get, hnone, hnew, ite_true,
        Option.map_some, Option.elim_none, Option.elim_some]
      exact schedule_new
  others other hother := by
    rw [CapacityState.updateChain_get, if_neg hother]
    exact openChain_other hother

end

section
variable {state : CapacityState} {pane : PaneInstance} {sample : CapacitySample}

theorem lookUpTurn_chains (answers : DetectAnswers) (state : CapacityState) (run : RunRecord) :
    (lookUpTurn answers state run).2.chains = state.chains := by
  simp only [lookUpTurn]
  split
  · rfl
  · split_ifs
    · rfl
    · split <;> rfl

theorem lookUpTurn_cases (answers : DetectAnswers) (state : CapacityState) (run : RunRecord) :
    (∃ looked, lookUpTurn answers state run = (none, looked) ∧
      looked.chains = state.chains ∧ looked.bound = state.bound) ∨
    ∃ turn, lookUpTurn answers state run = (some turn, state) ∧
      (state.bound[run.runId]? = some turn ∨
        answers.recoveredLocator run = some turn.locator ∧ turn.eligible = false) := by
  simp only [lookUpTurn]
  cases hbound : state.bound[run.runId]? with
  | some turn => exact Or.inr ⟨turn, rfl, Or.inl rfl⟩
  | none =>
    split_ifs
    · exact Or.inl ⟨state, rfl, rfl, rfl⟩
    · cases hlocator : answers.recoveredLocator run with
      | none => exact Or.inl ⟨_, rfl, rfl, rfl⟩
      | some locator => exact Or.inr ⟨_, rfl, Or.inr ⟨rfl, rfl⟩⟩

theorem checkViewport_bound : (checkViewport state sample).bound = state.bound := by
  simp only [checkViewport]
  split_ifs
  · exact CapacityState.updateChain_bound
  · rfl

theorem checkViewport_config : (checkViewport state sample).config = state.config := by
  simp only [checkViewport]
  split_ifs
  · exact CapacityState.updateChain_config
  · rfl

variable {daemon : Daemon} {answers : DetectAnswers} {moment : Moment}

theorem resume_turned {failed : RunRecord} {turn : BoundTurn} :
    Turned pane state (resume answers moment state pane failed turn) := by
  have hcounted : ∀ counted : CapacityState, counted.chains = state.chains →
      Turned pane state
        (if resumable counted pane failed turn = false then counted
          else (openChain counted pane failed turn moment.epoch).updateChain pane fun c =>
            c.schedule failed
              (if answers.supported failed.binding.process = true then answers.readyFrame pane
                else .error "unsupported_codex_version") moment) := by
    intro counted hchains
    by_cases hresumable : resumable counted pane failed turn = false
    · rw [if_pos hresumable]
      exact .of_chains hchains
    · rw [if_neg hresumable]
      exact openChain_turned.congr hchains
  exact hcounted _ rfl

variable [Sha256]

theorem failRun_turned {record : PaneState} {run : RunRecord}
    {turn : BoundTurn} :
    Turned sample.pane state (failRun daemon answers moment state sample record run turn) := by
  simp only [failRun]
  split_ifs with hknown
  · exact .of_chains rfl
  · split
    · exact .of_chains rfl
    · split_ifs with happlied
      · exact .of_chains rfl
      · exact resume_turned

theorem judge_turned {record : PaneState} {run : RunRecord}
    {turn : BoundTurn} (terminal : Except String TerminalOutcome) :
    Turned sample.pane state (judge daemon answers moment state sample record run turn terminal) := by
  cases terminal with
  | error message => exact .of_stop _ _ _
  | ok outcome =>
    cases outcome with
    | pending => exact .of_chains rfl
    | capacity => exact failRun_turned
    | otherError => exact .of_stop _ _ _
    | success => exact .of_stop _ _ _

variable [FromSlice]

theorem readTranscript_turned {record : PaneState} {run : RunRecord}
    {key : String} :
    Turned sample.pane state
      (readTranscript daemon answers moment state sample record run key) := by
  have hlooked := lookUpTurn_chains answers state run
  simp only [readTranscript]
  split
  · rename_i looked hlook
    rw [hlook] at hlooked
    exact .of_chains hlooked
  · rename_i turn looked hlook
    rw [hlook] at hlooked
    apply (judge_turned _).congr
    rw [CapacityState.bind_chains, hlooked]

theorem detectSample_turned :
    Turned sample.pane state (detectSample daemon answers moment sample state) := by
  have hseen : ∀ {after : CapacityState},
      Turned sample.pane (checkViewport state sample) after → Turned sample.pane state after := by
    intro after hturned
    simp only [checkViewport] at hturned
    split_ifs at hturned
    · exact hturned.of_stopped
    · exact hturned
  simp only [detectSample]
  split
  · exact .of_chains rfl
  · rename_i record run hsampled
    split_ifs
    · exact hseen (.of_chains rfl)
    · split
      · exact hseen (.of_chains rfl)
      · exact hseen readTranscript_turned

end

/-! ## Attempts -/

section
variable [Sha256] {daemon : Daemon} {answers : TickAnswers} {now : ℕ} {epoch : ℤ}
  {pane other : PaneInstance} {chain : Chain} {state : CapacityState}

omit [Sha256] in
theorem Chain.answered_move (operationId : String) (response : PromptResponse)
    (h : chain.phase = .waiting chain.attempts) :
    Move 3 chain.phase true (chain.answered operationId response).phase := by
  rw [h]
  have hnone : chain.reason = none := by
    by_contra hsome
    rw [phase_stopped (Option.ne_none_iff_isSome.mp hsome)] at h
    exact absurd h (by simp)
  cases response with
  | agentPromptResult dispatchState =>
    by_cases hgood : dispatchState = .rejected ∨ dispatchState = .deliveryUnknown
    · have hstopped : (chain.answered operationId (.agentPromptResult dispatchState)).phase =
          .finished (chain.attempts + 1) := by
        apply phase_stopped
        rcases hgood with rfl | rfl <;> rfl
      rw [hstopped]
      exact .refuse (Nat.le_refl _)
    · obtain ⟨hrejected, hunknown⟩ := not_or.mp hgood
      have hsent : (chain.answered operationId (.agentPromptResult dispatchState)).phase =
          .sent (chain.attempts + 1) := by
        simp only [phase, answered, hrejected, hunknown, ite_false, hnone, Option.isSome_none,
          Bool.false_eq_true, Option.isSome_some, ite_true]
      rw [hsent]
      exact .attempt _
  | promptDispatchBusy =>
    have hstopped : (chain.answered operationId .promptDispatchBusy).phase = .finished chain.attempts :=
      phase_stopped rfl
    rw [hstopped]
    exact .refuse (Nat.le_succ _)
  | error =>
    have hstopped : (chain.answered operationId .error).phase = .finished chain.attempts :=
      phase_stopped rfl
    rw [hstopped]
    exact .refuse (Nat.le_succ _)
  | other =>
    have hstopped : (chain.answered operationId .other).phase = .finished chain.attempts :=
      phase_stopped rfl
    rw [hstopped]
    exact .refuse (Nat.le_succ _)

omit [Sha256] in
theorem answer_get {operationId : String} {response : PromptResponse} {clock : ℕ}
    (h : state.chains[pane]? = some chain) :
    (answer state pane operationId response clock).chains[other]? =
      if other = pane then some (chain.answered operationId response)
      else state.chains[other]? := by
  have hthere : state.chains.contains pane = true :=
    Std.ExtTreeMap.contains_iff_mem.mpr (Maps.mem_iff_exists.mpr ⟨chain, h⟩)
  simp only [answer, hthere, Bool.true_eq_false, ite_false]
  split_ifs with hresult hother hother <;>
    simp only [CapacityState.updateChain_get, h, hother, Option.map_some, ite_true, ite_false]

structure Ready (answers : TickAnswers) (now : ℕ) (chain : Chain) (state : CapacityState)
    (turn : BoundTurn) (frame : ReadyFrame) : Prop where
  going : chain.reason = none
  confirmed : chain.pending = none
  due : ∃ due, chain.due = some due ∧ due ≤ now
  identity : ∃ record, answers.record = some record ∧ current record chain.run = true
  enabled : state.config.enabled = true
  interval : state.intervalReady now = true
  bound : state.bound[chain.run.runId]? = some turn
  frame : chain.frame = some frame

omit [Sha256] in
theorem Ready.phase {turn : BoundTurn} {frame : ReadyFrame}
    (h : Ready answers now chain state turn frame) : chain.phase = .waiting chain.attempts := by
  obtain ⟨due, hdue, -⟩ := h.due
  simp only [Chain.phase, h.going, h.confirmed, hdue, Option.isSome_none, Option.isSome_some,
    Bool.false_eq_true, ite_false, ite_true]

theorem tickChain_cases (daemon : Daemon) (answers : TickAnswers) (now : ℕ) (epoch : ℤ)
    (pane : PaneInstance) (chain : Chain) (state : CapacityState) :
    ((tickChain daemon answers now epoch pane chain state).2 = none ∧
      ((tickChain daemon answers now epoch pane chain state).1 = state ∨
        ∃ reason, (tickChain daemon answers now epoch pane chain state).1 =
          state.stop pane reason)) ∨
    ∃ turn frame, Ready answers now chain state turn frame ∧
      tickChain daemon answers now epoch pane chain state =
        (answer state pane answers.operationId
            (answers.respond (promptRequest daemon pane chain turn frame answers.operationId epoch))
            answers.dispatchClock,
          some ⟨promptRequest daemon pane chain turn frame answers.operationId epoch,
            answers.respond (promptRequest daemon pane chain turn frame answers.operationId epoch),
            now, answers.dispatchClock⟩) := by
  simp only [tickChain]
  by_cases hreason : chain.reason.isSome = true
  · rw [if_pos hreason]
    exact Or.inl ⟨rfl, Or.inl rfl⟩
  rw [if_neg hreason]
  cases hrecord : answers.record.filter fun record => current record chain.run with
  | none => exact Or.inl ⟨rfl, Or.inr ⟨_, rfl⟩⟩
  | some record =>
    obtain ⟨hsome, hcurrent⟩ := Option.filter_eq_some_iff.mp hrecord
    by_cases henabled : state.config.enabled = false
    · refine Or.inl ?_
      simp only [if_pos henabled]
      exact ⟨trivial, Or.inr ⟨_, rfl⟩⟩
    simp only [if_neg henabled]
    cases hpending : chain.pending with
    | some id =>
      refine Or.inl ⟨rfl, ?_⟩
      simp only [awaitConfirmation]
      split
      · exact Or.inl rfl
      all_goals exact Or.inr ⟨_, rfl⟩
    | none =>
      cases hdue : chain.due with
      | none =>
        refine Or.inl ⟨rfl, ?_⟩
        simp only [awaitEnd]
        split
        · exact Or.inr ⟨_, rfl⟩
        · exact Or.inr ⟨_, rfl⟩
        · exact Or.inl rfl
      | some due =>
        by_cases hready : state.intervalReady now = false ∨ now < due
        · refine Or.inl ?_
          simp only [if_pos hready]
          exact ⟨trivial, Or.inl trivial⟩
        simp only [if_neg hready, sendDue]
        obtain ⟨hinterval, hnow⟩ := not_or.mp hready
        cases hturn : state.bound[chain.run.runId]? with
        | none => exact Or.inl ⟨rfl, Or.inr ⟨_, rfl⟩⟩
        | some turn =>
          cases hframe : chain.frame with
          | none => exact Or.inl ⟨rfl, Or.inr ⟨_, rfl⟩⟩
          | some frame =>
            refine Or.inr ⟨turn, frame, ?_, rfl⟩
            exact
              { going := by simpa using hreason
                confirmed := hpending
                due := ⟨due, hdue, Nat.le_of_not_lt hnow⟩
                identity := ⟨record, hsome, hcurrent⟩
                enabled := by simpa using henabled
                interval := by simpa using hinterval
                bound := hturn
                frame := hframe }

theorem tickChain_move (h : state.chains[pane]? = some chain) :
    Move 3 (state.phase other)
      (decide (other = pane) && (tickChain daemon answers now epoch pane chain state).2.isSome)
      ((tickChain daemon answers now epoch pane chain state).1.phase other) := by
  rcases tickChain_cases daemon answers now epoch pane chain state with
    ⟨hnone, hmove⟩ | ⟨turn, frame, hready, heq⟩
  · rw [hnone, Option.isSome_none, Bool.and_false]
    rcases hmove with heq | ⟨reason, heq⟩
    · rw [heq]
      exact .stay _
    · rw [heq]
      exact CapacityState.stop_move _ _ _ _
  · rw [heq]
    by_cases hother : other = pane
    · subst hother
      simp only [decide_true, Option.isSome_some, Bool.and_self, CapacityState.phase,
        answer_get h, ite_true, h, Option.elim_some]
      exact Chain.answered_move _ _ hready.phase
    · simp only [hother, decide_false, Bool.false_and, CapacityState.phase, answer_get h,
        ite_false]
      exact .stay _

theorem tickChain_other (h : state.chains[pane]? = some chain) (hother : other ≠ pane) :
    (tickChain daemon answers now epoch pane chain state).1.chains[other]? =
      state.chains[other]? := by
  rcases tickChain_cases daemon answers now epoch pane chain state with
    ⟨-, heq | ⟨reason, heq⟩⟩ | ⟨turn, frame, -, heq⟩
  · rw [heq]
  · rw [heq, CapacityState.stop, CapacityState.updateChain_get, if_neg hother]
  · rw [heq, answer_get h, if_neg hother]

end

/-! ## What a step leaves alone -/

namespace CapacityState
variable {state : CapacityState} {pane : PaneInstance}

@[simp] theorem stop_lastSend (reason : String) :
    (state.stop pane reason).lastSend = state.lastSend := updateChain_lastSend

@[simp] theorem bind_lastSend (runId : String) (turn : BoundTurn) :
    (state.bind runId turn).lastSend = state.lastSend := by
  simp only [bind]
  split_ifs <;> rfl

@[simp] theorem retain_lastSend (active : List String) :
    (state.retain active).lastSend = state.lastSend := rfl

end CapacityState

section
variable {daemon : Daemon} {state : CapacityState} {pane : PaneInstance}

theorem observe_lastSend {observation : ProviderObservation} {automatic : Bool}
    {answers : ObserveAnswers} :
    (observe daemon pane observation automatic answers state).lastSend = state.lastSend := by
  simp only [observe]
  split
  · exact CapacityState.updateChain_lastSend
  · split
    · rfl
    · split <;> split_ifs <;> simp
  · rfl

theorem openChain_bound {failed : RunRecord} {turn : BoundTurn} {epoch : ℤ} :
    (openChain state pane failed turn epoch).bound = state.bound := by
  simp only [openChain]
  split_ifs <;> rfl

theorem openChain_lastSend {failed : RunRecord} {turn : BoundTurn} {epoch : ℤ} :
    (openChain state pane failed turn epoch).lastSend = state.lastSend := by
  simp only [openChain]
  split_ifs <;> rfl

theorem lookUpTurn_lastSend (answers : DetectAnswers) (state : CapacityState) (run : RunRecord) :
    (lookUpTurn answers state run).2.lastSend = state.lastSend := by
  simp only [lookUpTurn]
  split
  · rfl
  · split_ifs
    · rfl
    · split <;> rfl

variable {answers : DetectAnswers} {moment : Moment} {sample : CapacitySample}

theorem resume_bound {failed : RunRecord} {turn : BoundTurn} :
    (resume answers moment state pane failed turn).bound = state.bound := by
  simp only [resume]
  split
  · rfl
  · rw [CapacityState.updateChain_bound, openChain_bound]

theorem resume_lastSend {failed : RunRecord} {turn : BoundTurn} :
    (resume answers moment state pane failed turn).lastSend = state.lastSend := by
  simp only [resume]
  split
  · rfl
  · rw [CapacityState.updateChain_lastSend, openChain_lastSend]

theorem judge_lastSend [Sha256] {record : PaneState} {run : RunRecord} {turn : BoundTurn}
    (terminal : Except String TerminalOutcome) :
    (judge daemon answers moment state sample record run turn terminal).lastSend =
      state.lastSend := by
  cases terminal with
  | error message => exact CapacityState.updateChain_lastSend
  | ok outcome =>
    cases outcome with
    | pending => rfl
    | otherError => exact CapacityState.updateChain_lastSend
    | success => exact CapacityState.updateChain_lastSend
    | capacity =>
      simp only [judge, failRun]
      split
      · rfl
      · split
        · rfl
        · split
          · rfl
          · exact resume_lastSend

theorem detectSample_lastSend [Sha256] [FromSlice] :
    (detectSample daemon answers moment sample state).lastSend = state.lastSend := by
  have hseen : (checkViewport state sample).lastSend = state.lastSend := by
    simp only [checkViewport]
    split_ifs
    · exact CapacityState.updateChain_lastSend
    · rfl
  simp only [detectSample]
  split
  · rfl
  · rename_i record run hsampled
    split_ifs
    · exact hseen
    · split
      · exact hseen
      · have hlooked := lookUpTurn_lastSend answers (checkViewport state sample) run
        simp only [readTranscript]
        split
        · rename_i looked hlook
          rw [hlook] at hlooked
          exact hlooked.trans hseen
        · rename_i turn looked hlook
          rw [hlook] at hlooked
          rw [judge_lastSend, CapacityState.bind_lastSend]
          exact hlooked.trans hseen

theorem answer_bound {operationId : String} {response : PromptResponse} {clock : ℕ} :
    (answer state pane operationId response clock).bound = state.bound := by
  simp only [answer]
  split_ifs
  · rfl
  · exact CapacityState.updateChain_bound
  · exact CapacityState.updateChain_bound

theorem answer_lastSend {chain : Chain} {operationId : String} {response : PromptResponse}
    {clock : ℕ} (h : state.chains[pane]? = some chain) :
    (answer state pane operationId response clock).lastSend =
      if response.isResult = true then some clock else state.lastSend := by
  have hthere : state.chains.contains pane = true :=
    Std.ExtTreeMap.contains_iff_mem.mpr (Maps.mem_iff_exists.mpr ⟨chain, h⟩)
  simp only [answer, hthere, Bool.true_eq_false, ite_false, CapacityState.updateChain_lastSend]
  split_ifs <;> rfl

end

end VdeTmux.Capacity
