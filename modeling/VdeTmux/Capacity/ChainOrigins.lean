import VdeTmux.Capacity.ChainRuns

/-!
# Where an automatic prompt comes from

A prompt that is sent goes back to a failure that was read from the transcript of its run, after
the delay of its attempt, and its chain to a prompt of the user.
-/

open Foundation VdeTmux.Pane
namespace VdeTmux.Capacity

section
variable [Sha256]

theorem capacityFailure_runId {runs : Runs} {id : String} {observedAt : ℤ} {failed : RunRecord}
    (h : capacityFailure runs id observedAt = some failed) : failed.runId = id := by
  simp only [capacityFailure, Option.bind_eq_bind, Option.bind_eq_some_iff] at h
  obtain ⟨run, hrequired, -, -, turn, -, failed', hfailed, -, -, hsome⟩ := h
  have hrun := runs.required_runId hrequired
  simp only [RunRecord.failed] at hfailed
  split at hfailed
  · cases hfailed
  · cases hfailed
    cases hsome
    exact hrun

variable [FromSlice]

/-- A failure for lack of capacity that was read from a transcript and taken in. -/
structure Failure (daemon : Daemon) (state : CapacityState) (answers : DetectAnswers)
    (moment : Moment) (sample : CapacitySample) (failed : RunRecord) (eligible : Bool) :
    Prop where
  evidence : ∃ record run key turn, sampledRun daemon answers = some (record, run) ∧
    run.providerTurnKey = some key ∧
    (state.bound[run.runId]? = some turn ∧ turn.eligible = eligible ∨
      answers.recoveredLocator run = some turn.locator ∧ eligible = false) ∧
    (readTerminal turn.locator (answers.found turn.locator) key turn.size).1 = .ok .capacity ∧
    capacityFailure answers.runs run.runId moment.epoch = some failed ∧
    answers.applied (failureEvent daemon answers sample run moment.epoch) failed = true

def frameOf (answers : DetectAnswers) (pane : PaneInstance) (failed : RunRecord) :
    Except String ReadyFrame :=
  if answers.supported failed.binding.process = true then answers.readyFrame pane
  else .error "unsupported_codex_version"

inductive Outcome (daemon : Daemon) (state : CapacityState) (answers : DetectAnswers)
    (moment : Moment) (sample : CapacitySample) : Option Chain → Option Chain → Prop
  | kept (c : Option Chain) : Outcome daemon state answers moment sample c c
  | stopped (chain : Chain) (reason : String) :
      Outcome daemon state answers moment sample (some chain)
        (some { chain with reason := some reason, due := none })
  | resumed {failed : RunRecord} {eligible : Bool} (chain : Chain)
      (failure : Failure daemon state answers moment sample failed eligible) :
      Outcome daemon state answers moment sample (some chain)
        (some (chain.schedule failed (frameOf answers sample.pane failed) moment))
  | opened {failed : RunRecord}
      (failure : Failure daemon state answers moment sample failed true) :
      Outcome daemon state answers moment sample none
        (some (Chain.schedule
          ⟨failed, state.config.chainPrompt, 0, none, none, moment.epoch, none, none⟩ failed
          (frameOf answers sample.pane failed) moment))

variable {daemon : Daemon} {state now : CapacityState} {answers : DetectAnswers} {moment : Moment}
  {sample : CapacitySample}

theorem Outcome.of_stop (now : CapacityState) (reason : String) :
    Outcome daemon state answers moment sample now.chains[sample.pane]?
      (now.stop sample.pane reason).chains[sample.pane]? := by
  rw [CapacityState.stop, CapacityState.updateChain_get, if_pos rfl]
  cases now.chains[sample.pane]? with
  | none => exact .kept none
  | some chain => exact .stopped chain reason

theorem resume_outcome {failed : RunRecord} {turn : BoundTurn} (hconfig : now.config = state.config)
    (hfailure : Failure daemon state answers moment sample failed turn.eligible) :
    Outcome daemon state answers moment sample now.chains[sample.pane]?
      (resume answers moment now sample.pane failed turn).chains[sample.pane]? := by
  have hcounted : ∀ counted : CapacityState, counted.chains = now.chains →
      counted.config = state.config →
      Outcome daemon state answers moment sample now.chains[sample.pane]?
        ((openChain counted sample.pane failed turn moment.epoch).updateChain sample.pane fun c =>
          c.schedule failed (frameOf answers sample.pane failed) moment).chains[sample.pane]? := by
    intro counted hchains hcounted
    rw [CapacityState.updateChain_get, if_pos rfl, ← hchains]
    rcases openChain_self counted sample.pane failed turn moment.epoch with
      hkept | ⟨hnone, heligible, hnew⟩
    · rw [hkept]
      cases counted.chains[sample.pane]? with
      | none => exact .kept none
      | some chain => exact .resumed chain hfailure
    · rw [hnone, hnew, Option.map_some, hcounted]
      rw [heligible] at hfailure
      exact .opened hfailure
  simp only [resume]
  split
  · exact .kept _
  · exact hcounted { now with failures := min (now.failures + 1) u64Max } rfl hconfig

theorem judge_outcome {record : PaneState} {run : RunRecord} {turn : BoundTurn}
    {terminal : Except String TerminalOutcome} (hconfig : now.config = state.config)
    (hfailure : ∀ failed, terminal = .ok .capacity →
      capacityFailure answers.runs run.runId moment.epoch = some failed →
      answers.applied (failureEvent daemon answers sample run moment.epoch) failed = true →
      Failure daemon state answers moment sample failed turn.eligible) :
    Outcome daemon state answers moment sample now.chains[sample.pane]?
      (judge daemon answers moment now sample record run turn terminal).chains[sample.pane]? := by
  cases terminal with
  | error message => exact .of_stop _ _
  | ok outcome =>
    cases outcome with
    | pending => exact .kept _
    | otherError => exact .of_stop _ _
    | success => exact .of_stop _ _
    | capacity =>
      simp only [judge, failRun]
      split_ifs with hknown
      · exact .kept _
      · cases hfailed : capacityFailure answers.runs run.runId moment.epoch with
        | none => exact .kept _
        | some failed =>
          simp only []
          split_ifs with happlied
          · exact .kept _
          · exact resume_outcome hconfig (hfailure failed rfl hfailed (by simpa using happlied))

theorem readTranscript_outcome {record : PaneState} {run : RunRecord} {key : String}
    (hsampled : sampledRun daemon answers = some (record, run))
    (hkey : run.providerTurnKey = some key) (hconfig : now.config = state.config)
    (hbound : now.bound = state.bound) :
    Outcome daemon state answers moment sample now.chains[sample.pane]?
      (readTranscript daemon answers moment now sample record run key).chains[sample.pane]? := by
  simp only [readTranscript]
  rcases lookUpTurn_cases answers now run with ⟨looked, hlook, hchains, -⟩ | ⟨turn, hlook, hturn⟩
  · rw [hlook, ← hchains]
    exact .kept _
  · rw [hlook]
    simp only []
    rw [← CapacityState.bind_chains run.runId
      ⟨turn.locator, (readTerminal turn.locator (answers.found turn.locator) key turn.size).2,
        turn.eligible⟩]
    apply judge_outcome
    · rw [CapacityState.bind_config, hconfig]
    · intro failed hterminal hfailed happlied
      rw [hbound] at hturn
      exact ⟨record, run, key, turn, hsampled, hkey, hturn.imp_left fun h => ⟨h, rfl⟩, hterminal,
        hfailed, happlied⟩

/-- What one sample does: its pane's chain may be stopped for its screen, and then comes what the
transcript says. -/
theorem detectSample_outcome (daemon : Daemon) (state : CapacityState) (answers : DetectAnswers)
    (moment : Moment) (sample : CapacitySample) : ∃ seen,
    (seen = state.chains[sample.pane]? ∨ ∃ chain, state.chains[sample.pane]? = some chain ∧
      seen = some { chain with reason := some "viewport_changed", due := none }) ∧
    Outcome daemon state answers moment sample seen
      (detectSample daemon answers moment sample state).chains[sample.pane]? := by
  have hseen : (checkViewport state sample).chains[sample.pane]? = state.chains[sample.pane]? ∨
      ∃ chain, state.chains[sample.pane]? = some chain ∧
        (checkViewport state sample).chains[sample.pane]? =
          some { chain with reason := some "viewport_changed", due := none } := by
    simp only [checkViewport]
    split_ifs with hchanged
    · rw [CapacityState.stop, CapacityState.updateChain_get, if_pos rfl]
      cases hget : state.chains[sample.pane]? with
      | none => exact Or.inl rfl
      | some chain => exact Or.inr ⟨chain, rfl, rfl⟩
    · exact Or.inl rfl
  simp only [detectSample]
  split
  · exact ⟨_, Or.inl rfl, .kept _⟩
  · rename_i record run hsampled
    refine ⟨_, hseen, ?_⟩
    split_ifs with hsuspect
    · exact .kept _
    · split
      · exact .kept _
      · rename_i key hkey
        exact readTranscript_outcome hsampled hkey checkViewport_config checkViewport_bound

/-- The attempt of a chain was put down after a failure, for when its delay is over. -/
structure Scheduled (daemon : Daemon) (state : CapacityState) (answers : DetectAnswers)
    (moment : Moment) (sample : CapacitySample) (chain : Chain) : Prop where
  failure : ∃ eligible, Failure daemon state answers moment sample chain.run eligible
  attempt : ∃ h : chain.attempts < 3,
    chain.due = some (moment.now + seconds (delay ⟨chain.attempts, h⟩ moment.random))
  failedAt : chain.failedAt = moment.epoch
  frame : ∃ frame, frameOf answers sample.pane chain.run = .ok frame ∧ chain.frame = some frame

omit [Sha256] [FromSlice] in
theorem schedule_going {chain : Chain} {failed : RunRecord} {frame : Except String ReadyFrame}
    (h : (chain.schedule failed frame moment).reason = none) :
    chain.schedule failed frame moment = chain ∨
    ∃ (hfew : chain.attempts < 3) (shown : ReadyFrame), frame = .ok shown ∧
      chain.schedule failed frame moment =
        { chain with
          run := failed
          failedAt := moment.epoch
          frame := some shown
          due := some (moment.now + seconds (delay ⟨chain.attempts, hfew⟩ moment.random)) } := by
  simp only [Chain.schedule] at h ⊢
  split_ifs at h ⊢ with hother hfew
  · exact Or.inl rfl
  · cases frame with
    | ok shown => exact Or.inr ⟨hfew, shown, rfl, rfl⟩
    | error reason => cases h

theorem Outcome.going {c : Option Chain} {chain : Chain}
    (h : Outcome daemon state answers moment sample c (some chain)) (hgoing : chain.reason = none)
    (hdue : chain.due.isSome = true) :
    c = some chain ∨ Scheduled daemon state answers moment sample chain := by
  cases h with
  | kept => exact Or.inl rfl
  | stopped => cases hgoing
  | resumed before failure =>
    rcases schedule_going hgoing with hsame | ⟨hfew, shown, hframe, hnew⟩
    · exact Or.inl (congrArg some hsame.symm)
    · rw [hnew]
      exact Or.inr ⟨⟨_, failure⟩, ⟨hfew, rfl⟩, rfl, ⟨shown, hframe, rfl⟩⟩
  | opened failure =>
    rcases schedule_going hgoing with hsame | ⟨hfew, shown, hframe, hnew⟩
    · rw [hsame] at hdue
      cases hdue
    · rw [hnew]
      exact Or.inr ⟨⟨_, failure⟩, ⟨hfew, rfl⟩, rfl, ⟨shown, hframe, rfl⟩⟩

theorem detectSample_going {chain : Chain}
    (hget : (detectSample daemon answers moment sample state).chains[sample.pane]? = some chain)
    (hgoing : chain.reason = none) (hdue : chain.due.isSome = true) :
    state.chains[sample.pane]? = some chain ∨
      Scheduled daemon state answers moment sample chain := by
  obtain ⟨seen, hseen, houtcome⟩ := detectSample_outcome daemon state answers moment sample
  rw [hget] at houtcome
  rcases houtcome.going hgoing hdue with hsame | hscheduled
  · rcases hseen with heq | ⟨before, -, heq⟩
    · exact Or.inl (heq.symm.trans hsame)
    · rw [heq] at hsame
      cases hsame
      cases hgoing
  · exact Or.inr hscheduled

omit [Sha256] [FromSlice] in
theorem submitted_due {chain : Chain} {run : RunRecord} :
    (chain.submitted run).due = none := by
  simp only [Chain.submitted]
  split_ifs <;> rfl

omit [Sha256] [FromSlice] in
theorem observe_going {pane other : PaneInstance} {observation : ProviderObservation}
    {automatic : Bool} {observed : ObserveAnswers} {chain : Chain}
    (hget : (observe daemon pane observation automatic observed state).chains[other]? = some chain)
    (hdue : chain.due.isSome = true) : state.chains[other]? = some chain := by
  have hupdate : ∀ f : Chain → Chain, (∀ c, (f c).due = none) →
      (state.updateChain pane f).chains[other]? = some chain →
      state.chains[other]? = some chain := by
    intro f hf hget
    rw [CapacityState.updateChain_get] at hget
    split_ifs at hget with heq
    · obtain ⟨c, -, rfl⟩ := Option.map_eq_some_iff.mp hget
      rw [hf] at hdue
      cases hdue
    · exact hget
  have hmoved : ∀ run, (if automatic = false then
        ({ state with chains := state.chains.erase pane } : CapacityState)
      else state.updateChain pane fun chain => chain.submitted run).chains[other]? =
        some chain → state.chains[other]? = some chain := by
    intro run hget
    split_ifs at hget with hauto
    · rw [Maps.getElem?_erase] at hget
      split_ifs at hget with heq
      exact hget
    · exact hupdate _ (fun _ => submitted_due) hget
  simp only [observe] at hget
  split at hget
  · exact hupdate _ (fun _ => rfl) hget
  · split at hget
    · exact hget
    · rename_i run hrun
      split at hget
      · exact hmoved run hget
      · rw [CapacityState.bind_chains] at hget
        exact hmoved run hget
  · exact hget

omit [Sha256] [FromSlice] in
theorem answered_going {chain : Chain} {operationId : String} {response : PromptResponse} :
    (chain.answered operationId response).due = none := by
  cases response <;> rfl

theorem next_going {pane : PaneInstance} {input : Input} {chain : Chain}
    (hget : (next daemon state input).1.chains[pane]? = some chain)
    (hgoing : chain.reason = none) (hdue : chain.due.isSome = true) :
    state.chains[pane]? = some chain ∨ ∃ answers moment sample,
      input = .sample answers moment sample ∧ sample.pane = pane ∧
        Scheduled daemon state answers moment sample chain := by
  cases input with
  | configure config => exact Or.inl hget
  | observe other observation automatic observed => exact Or.inl (observe_going hget hdue)
  | sample answers moment sample =>
    by_cases hpane : sample.pane = pane
    · subst hpane
      exact (detectSample_going hget hgoing hdue).imp_right fun h => ⟨_, _, _, rfl, rfl, h⟩
    · have hturned : Turned sample.pane state (detectSample daemon answers moment sample state) :=
        detectSample_turned
      rcases hturned.others pane (Ne.symm hpane) with hsame | ⟨hnone, -⟩
      · exact Or.inl (hsame.symm.trans hget)
      · rw [next, hnone] at hget
        cases hget
  | turn answers now epoch other =>
    refine Or.inl ?_
    simp only [next] at hget
    split at hget
    · exact hget
    · rename_i before hbefore
      by_cases hpane : pane = other
      · subst hpane
        rcases tickChain_cases daemon answers now epoch pane before state with
          ⟨-, heq | ⟨reason, heq⟩⟩ | ⟨turn, frame, -, heq⟩
        · rwa [heq] at hget
        · rw [heq, CapacityState.stop, CapacityState.updateChain_get, if_pos rfl] at hget
          obtain ⟨c, -, rfl⟩ := Option.map_eq_some_iff.mp hget
          cases hdue
        · rw [heq, answer_get hbefore, if_pos rfl] at hget
          cases hget
          rw [answered_going] at hdue
          cases hdue
      · rwa [tickChain_other hbefore hpane] at hget

variable {config : CapacityConfig} {past : List (CapacityState × Input)} {pane : PaneInstance}

theorem Run.scheduled (h : Run daemon config past state) {chain : Chain}
    (hget : state.chains[pane]? = some chain) (hgoing : chain.reason = none)
    (hdue : chain.due.isSome = true) : ∃ later before answers moment sample earlier,
      past = later ++ (before, .sample answers moment sample) :: earlier ∧ sample.pane = pane ∧
      Scheduled daemon before answers moment sample chain ∧
      ∀ e ∈ later, e.1.chains[pane]? = some chain := by
  induction h with
  | nil =>
    rw [CapacityState.new, Std.ExtTreeMap.getElem?_empty] at hget
    cases hget
  | @snoc past s s' i before taken ih =>
    have htaken : (next daemon s i).1 = s' := taken
    rw [← htaken] at hget
    rcases next_going hget hgoing hdue with hsame | ⟨answers, moment, sample, rfl, hpane, hnew⟩
    · obtain ⟨later, first, answers, moment, sample, earlier, rfl, hpane, hfirst, hlater⟩ := ih hsame
      exact ⟨(s, i) :: later, first, answers, moment, sample, earlier, rfl, hpane, hfirst,
        List.forall_mem_cons.mpr ⟨hsame, hlater⟩⟩
    · exact ⟨[], s, answers, moment, sample, past, rfl, hpane, hnew, by simp⟩

/-- Each prompt is sent for a failure that was taken in before, with the screen and the time it had
then, and not before the delay of its attempt was over. -/
theorem Run.sent_scheduled (h : Run daemon config past state) {answers : TickAnswers} {now : ℕ}
    {epoch : ℤ} {d : Dispatch}
    (hsent : (next daemon state (.turn answers now epoch pane)).2 = some d) :
    ∃ later before taken moment sample earlier, ∃ attempt : Fin 3,
      past = later ++ (before, .sample taken moment sample) :: earlier ∧ sample.pane = pane ∧
      (state.chains[pane]?).map Chain.attempts = some attempt.val ∧
      (∃ eligible, Failure daemon before taken moment sample d.request.candidate.failed eligible) ∧
      frameOf taken pane d.request.candidate.failed = .ok d.request.candidate.frame ∧
      d.request.candidate.failedAt = moment.epoch ∧
      moment.now + seconds (delay attempt moment.random) ≤ d.now ∧
      ∀ e ∈ later, e.1.chains[pane]? = state.chains[pane]? := by
  obtain ⟨chain, turn, frame, hget, hready, hrequest, -, hnow, -⟩ := turn_sent hsent
  obtain ⟨due, hdue, hle⟩ := hready.due
  obtain ⟨later, before, taken, moment, sample, earlier, hpast, hpane, hscheduled, hlater⟩ :=
    h.scheduled hget hready.going (by rw [hdue, Option.isSome_some])
  obtain ⟨hfew, hattempt⟩ := hscheduled.attempt
  obtain ⟨shown, hshown, hframe⟩ := hscheduled.frame
  refine ⟨later, before, taken, moment, sample, earlier, ⟨chain.attempts, hfew⟩, hpast, hpane, ?_,
    ?_, ?_, ?_, ?_, ?_⟩
  · rw [hget, Option.map_some]
  · rw [hrequest]
    exact hscheduled.failure
  · rw [hready.frame] at hframe
    cases hframe
    rw [hrequest, ← hpane]
    exact hshown
  · rw [hrequest]
    exact hscheduled.failedAt
  · rw [hdue] at hattempt
    cases hattempt
    rw [hnow]
    exact hle
  · rw [hget]
    exact hlater

/-- A prompt of the user, typed into the session of the daemon's own generation, that opened a
run. -/
def Prompted (daemon : Daemon) (runId : String) : Input → Prop
  | .observe _ observation automatic answers =>
    automatic = false ∧ observation.hookKind = .userPromptSubmit ∧
      (∃ run, observedRun daemon answers observation.providerTurnKey = some run ∧
        run.runId = runId) ∧
      ∃ m, observation.questionResolver = some m ∧ m.parentOriginVerified = true ∧
        m.daemonGeneration = some daemon.daemonInstanceId
  | _ => False

def StartsFrom (state : CapacityState) (runId : String) : Prop :=
  ∃ turn, state.bound[runId]? = some turn ∧ turn.eligible = true

omit [Sha256] [FromSlice] in
theorem startsFrom_bind {runId other : String} {turn : BoundTurn}
    (h : StartsFrom (state.bind other turn) runId) :
    StartsFrom state runId ∨ runId = other ∧ turn.eligible = true := by
  obtain ⟨found, hfound, heligible⟩ := h
  simp only [CapacityState.bind] at hfound
  split_ifs at hfound with hroom
  · rw [Maps.getElem?_insert] at hfound
    split_ifs at hfound with hsame
    · cases hfound
      exact Or.inr ⟨hsame, heligible⟩
    · exact Or.inl ⟨found, hfound, heligible⟩
  · exact Or.inl ⟨found, hfound, heligible⟩

omit [Sha256] [FromSlice] in
theorem startsFrom_congr {runId : String} (h : now.bound = state.bound) :
    StartsFrom now runId ↔ StartsFrom state runId := by
  rw [StartsFrom, StartsFrom, h]

omit [Sha256] [FromSlice] in
theorem eligible_eq_true {metadata : Option ResolverInput} {automatic : Bool}
    (h : eligible daemon metadata automatic = true) :
    automatic = false ∧ ∃ m, metadata = some m ∧ m.parentOriginVerified = true ∧
      m.daemonGeneration = some daemon.daemonInstanceId := by
  cases metadata with
  | none => cases h
  | some m =>
    simp only [eligible, Option.any_some, Bool.and_eq_true, decide_eq_true_eq,
      Bool.not_eq_true'] at h
    exact ⟨h.2, m, rfl, h.1.1, h.1.2⟩

omit [Sha256] [FromSlice] in
theorem observe_startsFrom {other : PaneInstance} {observation : ProviderObservation}
    {automatic : Bool} {observed : ObserveAnswers} {runId : String}
    (h : StartsFrom (observe daemon other observation automatic observed state) runId) :
    StartsFrom state runId ∨
      Prompted daemon runId (.observe other observation automatic observed) := by
  have hretain : ∀ (moved : CapacityState) (active : List String), moved.bound = state.bound →
      StartsFrom (moved.retain active) runId → StartsFrom state runId := by
    intro moved active hmoved hstarts
    obtain ⟨turn, hturn, heligible⟩ := hstarts
    refine ⟨turn, ?_, heligible⟩
    rw [← hmoved]
    exact (Maps.getElem?_filter_eq_some.mp hturn).1
  have hmoved : ∀ run, (if automatic = false then
        ({ state with chains := state.chains.erase other } : CapacityState)
      else state.updateChain other fun chain => chain.submitted run).bound = state.bound := by
    intro run
    split_ifs
    · rfl
    · exact CapacityState.updateChain_bound
  simp only [observe] at h
  split at h
  · exact Or.inl ((startsFrom_congr CapacityState.updateChain_bound).mp h)
  · rename_i hkind
    split at h
    · exact Or.inl h
    · rename_i run hrun
      split at h
      · exact Or.inl (hretain _ _ (hmoved run) h)
      · rcases startsFrom_bind h with hbefore | ⟨hid, heligible⟩
        · exact Or.inl (hretain _ _ (hmoved run) hbefore)
        · obtain ⟨hauto, hmetadata⟩ := eligible_eq_true heligible
          exact Or.inr ⟨hauto, hkind, ⟨run, hrun, hid.symm⟩, hmetadata⟩
  · exact Or.inl h

omit [FromSlice] in
theorem judge_bound {record : PaneState} {run : RunRecord} {turn : BoundTurn}
    (terminal : Except String TerminalOutcome) :
    (judge daemon answers moment now sample record run turn terminal).bound = now.bound := by
  cases terminal with
  | error message => exact CapacityState.updateChain_bound
  | ok outcome =>
    cases outcome with
    | pending => rfl
    | otherError => exact CapacityState.updateChain_bound
    | success => exact CapacityState.updateChain_bound
    | capacity =>
      simp only [judge, failRun]
      split
      · rfl
      · split
        · rfl
        · split
          · rfl
          · exact resume_bound

theorem detectSample_startsFrom {runId : String}
    (h : StartsFrom (detectSample daemon answers moment sample state) runId) :
    StartsFrom state runId := by
  have hseen : StartsFrom (checkViewport state sample) runId → StartsFrom state runId :=
    (startsFrom_congr checkViewport_bound).mp
  simp only [detectSample] at h
  split at h
  · exact h
  · rename_i record run hsampled
    split_ifs at h with hsuspect
    · exact hseen h
    · split at h
      · exact hseen h
      · rename_i key hkey
        simp only [readTranscript] at h
        rcases lookUpTurn_cases answers (checkViewport state sample) run with
          ⟨looked, hlook, -, hbound⟩ | ⟨turn, hlook, hturn⟩
        · rw [hlook] at h
          exact hseen ((startsFrom_congr hbound).mp h)
        · rw [hlook] at h
          rcases startsFrom_bind ((startsFrom_congr (judge_bound _)).mp h) with
            hbefore | ⟨hid, heligible⟩
          · exact hseen hbefore
          · rcases hturn with hturn | ⟨-, hfresh⟩
            · rw [hid]
              exact (startsFrom_congr checkViewport_bound).mp ⟨turn, hturn, heligible⟩
            · have hnot : turn.eligible = true := heligible
              rw [hfresh] at hnot
              cases hnot

theorem next_startsFrom {input : Input} {runId : String}
    (h : StartsFrom (next daemon state input).1 runId) :
    StartsFrom state runId ∨ Prompted daemon runId input := by
  cases input with
  | configure config => exact Or.inl h
  | observe other observation automatic observed => exact observe_startsFrom h
  | sample answers moment sample => exact Or.inl (detectSample_startsFrom h)
  | turn answers now epoch other =>
    refine Or.inl ?_
    simp only [next] at h
    split at h
    · exact h
    · rename_i chain hget
      rcases tickChain_cases daemon answers now epoch other chain state with
        ⟨-, heq | ⟨reason, heq⟩⟩ | ⟨turn, frame, -, heq⟩
      · rwa [heq] at h
      · rw [heq] at h
        exact (startsFrom_congr CapacityState.updateChain_bound).mp h
      · rw [heq] at h
        exact (startsFrom_congr answer_bound).mp h

theorem Run.prompted (h : Run daemon config past state) {runId : String}
    (hstarts : StartsFrom state runId) : ∃ e ∈ past, Prompted daemon runId e.2 := by
  induction h with
  | nil =>
    obtain ⟨turn, hturn, -⟩ := hstarts
    rw [CapacityState.new, Std.ExtTreeMap.getElem?_empty] at hturn
    cases hturn
  | @snoc past s s' i before taken ih =>
    have htaken : (next daemon s i).1 = s' := taken
    rw [← htaken] at hstarts
    rcases next_startsFrom hstarts with hbefore | hprompted
    · obtain ⟨e, he, hprompted⟩ := ih hbefore
      exact ⟨e, List.mem_cons_of_mem _ he, hprompted⟩
    · exact ⟨(s, i), List.mem_cons_self, hprompted⟩

/-- The chain of a pane was started by a failure of a prompt of the user. -/
structure Started (daemon : Daemon) (state : CapacityState) (answers : DetectAnswers)
    (moment : Moment) (sample : CapacitySample) (failed : RunRecord) (prompt : String) : Prop where
  absent : state.chains[sample.pane]? = none
  failure : Failure daemon state answers moment sample failed true
  prompt : prompt = state.config.chainPrompt

omit [Sha256] [FromSlice] in
@[simp] theorem schedule_prompt {chain : Chain} {failed : RunRecord}
    {frame : Except String ReadyFrame} :
    (chain.schedule failed frame moment).prompt = chain.prompt := by
  simp only [Chain.schedule]
  split_ifs
  · rfl
  · cases frame <;> rfl
  · rfl

theorem detectSample_prompt {chain : Chain}
    (hget : (detectSample daemon answers moment sample state).chains[sample.pane]? = some chain) :
    (∃ before, state.chains[sample.pane]? = some before ∧ before.prompt = chain.prompt) ∨
      ∃ failed, Started daemon state answers moment sample failed chain.prompt := by
  obtain ⟨seen, hseen, houtcome⟩ := detectSample_outcome daemon state answers moment sample
  have hbefore : ∀ c, seen = some c →
      ∃ before, state.chains[sample.pane]? = some before ∧ before.prompt = c.prompt := by
    intro c hc
    rcases hseen with heq | ⟨before, hbefore, heq⟩
    · exact ⟨c, heq.symm.trans hc, rfl⟩
    · rw [hc] at heq
      cases heq
      exact ⟨before, hbefore, rfl⟩
  rw [hget] at houtcome
  generalize hchain : (some chain : Option Chain) = after at houtcome
  cases houtcome with
  | kept => exact Or.inl (hbefore chain hchain.symm)
  | stopped c reason =>
    cases hchain
    exact Or.inl (hbefore c rfl)
  | resumed c failure =>
    cases hchain
    rw [schedule_prompt]
    exact Or.inl (hbefore c rfl)
  | @opened failed failure =>
    cases hchain
    refine Or.inr ⟨failed, ?_, failure, schedule_prompt⟩
    rcases hseen with heq | ⟨before, -, heq⟩
    · exact heq.symm
    · cases heq

omit [Sha256] [FromSlice] in
theorem updateChain_prompt {pane other : PaneInstance} {f : Chain → Chain} {chain : Chain}
    (hget : (state.updateChain pane f).chains[other]? = some chain)
    (hf : ∀ c, (f c).prompt = c.prompt) :
    ∃ before, state.chains[other]? = some before ∧ before.prompt = chain.prompt := by
  rw [CapacityState.updateChain_get] at hget
  split_ifs at hget with heq
  · obtain ⟨c, hc, rfl⟩ := Option.map_eq_some_iff.mp hget
    rw [heq]
    exact ⟨c, hc, (hf c).symm⟩
  · exact ⟨chain, hget, rfl⟩

omit [Sha256] [FromSlice] in
theorem observe_prompt {pane other : PaneInstance} {observation : ProviderObservation}
    {automatic : Bool} {observed : ObserveAnswers} {chain : Chain}
    (hget : (observe daemon other observation automatic observed state).chains[pane]? =
      some chain) :
    ∃ before, state.chains[pane]? = some before ∧ before.prompt = chain.prompt := by
  have hmoved : ∀ run, (if automatic = false then
        ({ state with chains := state.chains.erase other } : CapacityState)
      else state.updateChain other fun chain => chain.submitted run).chains[pane]? = some chain →
        ∃ before, state.chains[pane]? = some before ∧ before.prompt = chain.prompt := by
    intro run hget
    split_ifs at hget with hauto
    · rw [Maps.getElem?_erase] at hget
      split_ifs at hget with heq
      exact ⟨chain, hget, rfl⟩
    · refine updateChain_prompt hget fun c => ?_
      simp only [Chain.submitted]
      split_ifs <;> rfl
  simp only [observe] at hget
  split at hget
  · exact updateChain_prompt hget fun _ => rfl
  · split at hget
    · exact ⟨chain, hget, rfl⟩
    · rename_i run hrun
      split at hget
      · exact hmoved run hget
      · rw [CapacityState.bind_chains] at hget
        exact hmoved run hget
  · exact ⟨chain, hget, rfl⟩

theorem next_prompt {input : Input} {chain : Chain}
    (hget : (next daemon state input).1.chains[pane]? = some chain) :
    (∃ before, state.chains[pane]? = some before ∧ before.prompt = chain.prompt) ∨
    ∃ answers moment sample failed, input = .sample answers moment sample ∧
      sample.pane = pane ∧ Started daemon state answers moment sample failed chain.prompt := by
  cases input with
  | configure config => exact Or.inl ⟨chain, hget, rfl⟩
  | observe other observation automatic observed => exact Or.inl (observe_prompt hget)
  | sample answers moment sample =>
    by_cases hpane : sample.pane = pane
    · subst hpane
      rcases detectSample_prompt hget with hkept | ⟨failed, hstarted⟩
      · exact Or.inl hkept
      · exact Or.inr ⟨answers, moment, sample, failed, rfl, rfl, hstarted⟩
    · have hturned : Turned sample.pane state (detectSample daemon answers moment sample state) :=
        detectSample_turned
      rcases hturned.others pane (Ne.symm hpane) with hsame | ⟨hnone, -⟩
      · exact Or.inl ⟨chain, hsame.symm.trans hget, rfl⟩
      · rw [next, hnone] at hget
        cases hget
  | turn answers now epoch other =>
    refine Or.inl ?_
    simp only [next] at hget
    split at hget
    · exact ⟨chain, hget, rfl⟩
    · rename_i before hbefore
      rcases tickChain_cases daemon answers now epoch other before state with
        ⟨-, heq | ⟨reason, heq⟩⟩ | ⟨turn, frame, -, heq⟩
      · rw [heq] at hget
        exact ⟨chain, hget, rfl⟩
      · rw [heq] at hget
        exact updateChain_prompt hget fun _ => rfl
      · rw [heq, answer_get hbefore] at hget
        split_ifs at hget with hpane
        · cases hget
          rw [hpane]
          refine ⟨before, hbefore, ?_⟩
          cases answers.respond (promptRequest daemon other before turn frame answers.operationId
            epoch) <;> rfl
        · exact ⟨chain, hget, rfl⟩

theorem Run.started (h : Run daemon config past state) {chain : Chain}
    (hget : state.chains[pane]? = some chain) :
    ∃ later before answers moment sample earlier failed,
      past = later ++ (before, .sample answers moment sample) :: earlier ∧ sample.pane = pane ∧
      Started daemon before answers moment sample failed chain.prompt ∧
      ∀ e ∈ later, (e.1.chains[pane]?).isSome = true := by
  induction h generalizing chain with
  | nil =>
    rw [CapacityState.new, Std.ExtTreeMap.getElem?_empty] at hget
    cases hget
  | @snoc past s s' i before taken ih =>
    have htaken : (next daemon s i).1 = s' := taken
    rw [← htaken] at hget
    rcases next_prompt hget with ⟨c, hc, hprompt⟩ | ⟨answers, moment, sample, failed, rfl, hpane, hnew⟩
    · obtain ⟨later, first, answers, moment, sample, earlier, failed, rfl, hpane, hfirst, hlater⟩ :=
        ih hc
      refine ⟨(s, i) :: later, first, answers, moment, sample, earlier, failed, rfl, hpane, ?_,
        List.forall_mem_cons.mpr ⟨by rw [hc, Option.isSome_some], hlater⟩⟩
      rw [← hprompt]
      exact hfirst
    · exact ⟨[], s, answers, moment, sample, past, failed, rfl, hpane, hnew, by simp⟩

/-- Behind each prompt that is sent there is a prompt of the user: the run it opened failed, that
failure started the chain, and the text is the one that was configured then. -/
theorem Run.sent_prompted (h : Run daemon config past state) {answers : TickAnswers} {now : ℕ}
    {epoch : ℤ} {d : Dispatch}
    (hsent : (next daemon state (.turn answers now epoch pane)).2 = some d) :
    ∃ later before taken moment sample earlier failed,
      past = later ++ (before, .sample taken moment sample) :: earlier ∧ sample.pane = pane ∧
      Started daemon before taken moment sample failed d.request.prompt ∧
      (∀ e ∈ later, (e.1.chains[pane]?).isSome = true) ∧
      ∃ e ∈ earlier, Prompted daemon failed.runId e.2 := by
  obtain ⟨chain, turn, frame, hget, -, hrequest, -⟩ := turn_sent hsent
  obtain ⟨later, before, taken, moment, sample, earlier, failed, rfl, hpane, hstarted, hlater⟩ :=
    h.started hget
  refine ⟨later, before, taken, moment, sample, earlier, failed, rfl, hpane, ?_, hlater, ?_⟩
  · rw [hrequest]
    exact hstarted
  · obtain ⟨s₁, hearlier, -, -⟩ := h.split
    obtain ⟨record, run, key, turn, -, -, hturn, -, hfailed, -⟩ := hstarted.failure.evidence
    have hstarts : StartsFrom before failed.runId := by
      rw [capacityFailure_runId hfailed]
      rcases hturn with hbound | ⟨-, hfalse⟩
      · exact ⟨turn, hbound⟩
      · cases hfalse
    exact Run.prompted hearlier hstarts

end

namespace FirstAttempt

theorem attempt_scheduled : ∃ d : Dispatch,
    (@next .constant json daemon history.2 attempted).2 = some d ∧
    ∃ later before taken moment sample earlier, ∃ attempt : Fin 3,
      history.1 = later ++ (before, .sample taken moment sample) :: earlier ∧ sample.pane = pane ∧
      (history.2.chains[pane]?).map Chain.attempts = some attempt.val ∧
      (∃ eligible, @Failure .constant json daemon before taken moment sample
        d.request.candidate.failed eligible) ∧
      frameOf taken pane d.request.candidate.failed = .ok d.request.candidate.frame ∧
      d.request.candidate.failedAt = moment.epoch ∧
      moment.now + seconds (delay attempt moment.random) ≤ d.now ∧
      ∀ e ∈ later, e.1.chains[pane]? = history.2.chains[pane]? := by
  obtain ⟨d, hd⟩ := attempt_sent
  exact ⟨d, hd, @Run.sent_scheduled .constant json _ _ _ _ _ history_run _ _ _ _ hd⟩

theorem attempt_prompted : ∃ d : Dispatch,
    (@next .constant json daemon history.2 attempted).2 = some d ∧
    ∃ later before taken moment sample earlier failed,
      history.1 = later ++ (before, .sample taken moment sample) :: earlier ∧ sample.pane = pane ∧
      @Started .constant json daemon before taken moment sample failed d.request.prompt ∧
      (∀ e ∈ later, (e.1.chains[pane]?).isSome = true) ∧
      ∃ e ∈ earlier, Prompted daemon failed.runId e.2 := by
  obtain ⟨d, hd⟩ := attempt_sent
  exact ⟨d, hd, @Run.sent_prompted .constant json _ _ _ _ _ history_run _ _ _ _ hd⟩

end FirstAttempt

end VdeTmux.Capacity
