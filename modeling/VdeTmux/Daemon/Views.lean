import VdeTmux.Foundation.Maps
import VdeTmux.Daemon.Topology

/-!
# The views of the clients

Which pane a window shows and which window a session shows, as the witnesses of all attached
clients have it. Witnesses that contradict each other are refused as a whole.
-/

open Foundation VdeTmux.Pane
namespace VdeTmux.Daemon

def maxViewPanes : ℕ := 512
def maxViewWitnesses : ℕ := 64

def TopologySnapshot.windowPanes (topology : TopologySnapshot) (windowId : String) :
    Option (List PaneInstance) :=
  match topology.panes.filter (·.windowId = windowId) with
  | [] => none
  | panes => some (Std.ExtTreeSet.ofList (panes.map (·.paneInstance))).toList

structure WindowView where
  activePane : PaneInstance
  observedPanes : List PaneInstance
deriving DecidableEq

structure CurrentClientViews where
  clients : Std.ExtTreeMap ℕ ClientWitness := ∅
  windows : Std.ExtTreeMap String WindowView := ∅
  sessions : Std.ExtTreeMap String (String × PaneInstance) := ∅
deriving DecidableEq

def isTmuxId (sigil : Char) (value : String) : Bool :=
  match value.toList with
  | c :: digits => c = sigil && !digits.isEmpty && digits.all fun c => '0' ≤ c && c ≤ '9'
  | [] => false

def validateTmuxId (value : String) (sigil : Char) (field : String) : Except String Unit :=
  refuse (isTmuxId sigil value = false) s!"invalid {field} ID"

def validatePane (pane : PaneInstance) : Except String Unit :=
  pane.validate.mapError (·.message)

def validateEach (pids : List ℕ) : List ClientWitness → Except String Unit
  | [] => .ok ()
  | witness :: rest => do
    refuse (witness.clientPid = 0 ∨ witness.clientPid ∈ pids) "invalid or duplicate client witness"
    validateTmuxId witness.sessionId '$' "witness session"
    validateTmuxId witness.windowId '@' "witness window"
    validatePane witness.activePane
    validateEach (witness.clientPid :: pids) rest

def validateWitnesses (witnesses : List ClientWitness) : Except String Unit := do
  refuse (maxViewWitnesses < witnesses.length) "too many client witnesses"
  validateEach [] witnesses

def validateWindowView (activePane : PaneInstance) (observedPanes : List PaneInstance) :
    Except String Unit := do
  refuse (maxViewPanes < observedPanes.length) "too many panes in window view"
  validatePane activePane
  observedPanes.forM validatePane
  refuse (¬observedPanes.Nodup ∨ activePane ∉ observedPanes) "invalid panes in window view"

structure ObservedViews where
  windows : Std.ExtTreeMap String WindowView := ∅
  sessions : Std.ExtTreeMap String (String × PaneInstance) := ∅

namespace ObservedViews

def observe (next : ObservedViews) (windowPanes : String → Option (List PaneInstance))
    (witness : ClientWitness) : Except String ObservedViews :=
  match windowPanes witness.windowId with
  | none => .error "client window is missing from topology"
  | some observedPanes => do
    validateWindowView witness.activePane observedPanes
    let view : WindowView := ⟨witness.activePane, observedPanes⟩
    refuse (∃ other ∈ next.windows[witness.windowId]?, other ≠ view)
      "clients disagree about a window active pane"
    let shown := (witness.windowId, witness.activePane)
    refuse (∃ other ∈ next.sessions[witness.sessionId]?, other ≠ shown)
      "clients disagree about a session active window"
    return ⟨next.windows.insert witness.windowId view, next.sessions.insert witness.sessionId shown⟩

def observeAll (windowPanes : String → Option (List PaneInstance)) (next : ObservedViews) :
    List ClientWitness → Except String ObservedViews
  | [] => .ok next
  | witness :: rest => do
    let next ← next.observe windowPanes witness
    observeAll windowPanes next rest

end ObservedViews

/-- The views after the witnesses, and whether they changed. -/
def CurrentClientViews.reconcile (views : CurrentClientViews) (witnesses : List ClientWitness)
    (windowPanes : String → Option (List PaneInstance)) :
    Except String (Bool × CurrentClientViews) := do
  validateWitnesses witnesses
  let clients := witnesses.foldl (fun clients witness => clients.insert witness.clientPid witness) ∅
  let next ← ObservedViews.observeAll windowPanes {} witnesses
  let reconciled : CurrentClientViews := ⟨clients, next.windows, next.sessions⟩
  return (views ≠ reconciled, reconciled)

structure PaneReadIntent where
  paneInstance : PaneInstance
  throughOrder : ℕ
deriving DecidableEq

def readable (records : PaneMap PaneState) (throughOrder : ℕ) (pane : PaneInstance) : Bool :=
  records[pane]?.any fun state =>
    state.unread.latest.any fun latest =>
      state.unread.isUnread && latest.order ≤ throughOrder

def paneReadIntentsForPanes (focusedPanes : Std.ExtTreeSet PaneInstance) (throughOrder : ℕ)
    (records : PaneMap PaneState) : Except String (List PaneReadIntent) := do
  focusedPanes.toList.forM validatePane
  -- a set gives its panes in order, so that sorting the intents changes nothing
  return (focusedPanes.toList.filter fun pane => readable records throughOrder pane).map
    fun pane => ⟨pane, throughOrder⟩

def paneReadEnvelopesForPanes (daemonInstanceId : DaemonInstanceId) (eventId : EventId)
    (focusedPanes : Std.ExtTreeSet PaneInstance) (throughOrder : ℕ) (records : PaneMap PaneState) :
    Except String (List PaneEventEnvelope) := do
  let intents ← paneReadIntentsForPanes focusedPanes throughOrder records
  return intents.map fun intent =>
    ⟨daemonInstanceId, eventId, intent.paneInstance, none, none, .markPaneRead intent.throughOrder⟩

theorem envelopes_spec {daemonInstanceId : DaemonInstanceId} {eventId : EventId}
    {focusedPanes : Std.ExtTreeSet PaneInstance} {throughOrder : ℕ} {records : PaneMap PaneState}
    {envelopes : List PaneEventEnvelope}
    (h : paneReadEnvelopesForPanes daemonInstanceId eventId focusedPanes throughOrder records =
      .ok envelopes) :
    (∀ envelope ∈ envelopes, envelope.event = .markPaneRead throughOrder) ∧
      (envelopes.map (·.paneInstance)).Nodup ∧
      ∀ pane ∈ envelopes.map (·.paneInstance), pane ∈ focusedPanes := by
  obtain ⟨intents, hintents, rfl⟩ := bind_pure_eq_ok.mp h
  obtain ⟨-, hintents⟩ := seq_eq_ok.mp hintents
  cases hintents
  have hpanes : ((((focusedPanes.toList.filter fun pane => readable records throughOrder pane).map
      fun pane => (⟨pane, throughOrder⟩ : PaneReadIntent)).map fun intent =>
        (⟨daemonInstanceId, eventId, intent.paneInstance, none, none,
          .markPaneRead intent.throughOrder⟩ : PaneEventEnvelope)).map (·.paneInstance)) =
      focusedPanes.toList.filter fun pane => readable records throughOrder pane := by
    simp [Function.comp_def]
  refine ⟨?_, ?_, ?_⟩
  · intro envelope henvelope
    simp only [List.map_map, List.mem_map, Function.comp_apply] at henvelope
    obtain ⟨pane, -, rfl⟩ := henvelope
    rfl
  · rw [hpanes]
    exact (Maps.nodup_toList_set focusedPanes).filter _
  · intro pane hpane
    rw [hpanes] at hpane
    exact Std.ExtTreeSet.mem_toList.mp (List.mem_of_mem_filter hpane)

theorem envelopes_error {daemonInstanceId : DaemonInstanceId} {eventId : EventId}
    {focusedPanes : Std.ExtTreeSet PaneInstance} {throughOrder : ℕ} {records : PaneMap PaneState}
    {message : String}
    (h : paneReadEnvelopesForPanes daemonInstanceId eventId focusedPanes throughOrder records =
      .error message) : ∃ pane ∈ focusedPanes, validatePane pane ≠ .ok () := by
  by_contra hvalid
  push Not at hvalid
  have hchecked : focusedPanes.toList.forM validatePane = .ok () :=
    forM_eq_ok.mpr fun pane hpane => hvalid pane (Std.ExtTreeSet.mem_toList.mp hpane)
  simp only [paneReadEnvelopesForPanes, paneReadIntentsForPanes, hchecked] at h
  cases h

/-- What a server can report of its clients at the moment of the topology. -/
structure SameInstant (topology : TopologySnapshot) (witnesses : List ClientWitness) : Prop where
  pids : ∀ witness ∈ witnesses, witness.clientPid ≠ 0
  distinct : (witnesses.map (·.clientPid)).Nodup
  ids : ∀ witness ∈ witnesses,
    isTmuxId '$' witness.sessionId = true ∧ isTmuxId '@' witness.windowId = true
  instances : ∀ pane ∈ topology.panes, validatePane pane.paneInstance = .ok ()
  shown : ∀ witness ∈ witnesses, ∃ pane ∈ topology.panes,
    pane.windowId = witness.windowId ∧ pane.paneInstance = witness.activePane
  sessions : ∀ witness ∈ witnesses, ∀ other ∈ witnesses,
    witness.sessionId = other.sessionId → witness.windowId = other.windowId
  windows : ∀ witness ∈ witnesses, ∀ other ∈ witnesses, witness.windowId = other.windowId →
    witness.activePaneFlag = false → other.activePaneFlag = false →
      witness.activePane = other.activePane

/-- The views are within their limits, and also the clients with a pane of their own show the one
that other clients of the window show. -/
structure Reconcilable (topology : TopologySnapshot) (witnesses : List ClientWitness) : Prop where
  clients : witnesses.length ≤ maxViewWitnesses
  panes : ∀ windowId panes, topology.windowPanes windowId = some panes →
    panes.length ≤ maxViewPanes
  agree : ∀ witness ∈ witnesses, ∀ other ∈ witnesses, witness.windowId = other.windowId →
    witness.activePane = other.activePane

section
variable {topology : TopologySnapshot} {witnesses : List ClientWitness}

theorem windowPanes_eq_some {windowId : String} {panes : List PaneInstance}
    (h : topology.windowPanes windowId = some panes) : panes.Nodup ∧
      ∀ pane, pane ∈ panes ↔
        ∃ p ∈ topology.panes, p.windowId = windowId ∧ p.paneInstance = pane := by
  unfold TopologySnapshot.windowPanes at h
  generalize hfilter : topology.panes.filter (·.windowId = windowId) = inside at h
  cases inside with
  | nil => cases h
  | cons first rest =>
    cases h
    refine ⟨?_, fun pane => ?_⟩
    · exact Maps.nodup_toList_set _
    · rw [← hfilter, Std.ExtTreeSet.mem_toList, Std.ExtTreeSet.mem_ofList, List.contains_iff_mem]
      simp [and_assoc]

theorem windowPanes_of_mem {pane : TopologyPane} (h : pane ∈ topology.panes) :
    ∃ panes, topology.windowPanes pane.windowId = some panes := by
  have hin : pane ∈ topology.panes.filter (·.windowId = pane.windowId) := by
    simp [h]
  unfold TopologySnapshot.windowPanes
  generalize topology.panes.filter (·.windowId = pane.windowId) = inside at hin
  cases inside with
  | nil => cases hin
  | cons first rest => exact ⟨_, rfl⟩

theorem validateEach_ok {pids : List ℕ} (hpids : ∀ witness ∈ witnesses, witness.clientPid ≠ 0)
    (hdistinct : (pids ++ witnesses.map (·.clientPid)).Nodup)
    (hids : ∀ witness ∈ witnesses,
      isTmuxId '$' witness.sessionId = true ∧ isTmuxId '@' witness.windowId = true)
    (hpanes : ∀ witness ∈ witnesses, validatePane witness.activePane = .ok ()) :
    validateEach pids witnesses = .ok () := by
  induction witnesses generalizing pids with
  | nil => rfl
  | cons witness rest ih =>
    obtain ⟨hpid, hpids⟩ := List.forall_mem_cons.mp hpids
    obtain ⟨⟨hsession, hwindow⟩, hids⟩ := List.forall_mem_cons.mp hids
    obtain ⟨hpane, hpanes⟩ := List.forall_mem_cons.mp hpanes
    have hmoved : (pids ++ (witness :: rest).map (·.clientPid)).Perm
        (witness.clientPid :: pids ++ rest.map (·.clientPid)) := by
      simp
    have hdistinct' := hmoved.nodup_iff.mp hdistinct
    have hnew : witness.clientPid ∉ pids := fun hin =>
      (List.nodup_cons.mp hdistinct').1 (List.mem_append_left _ hin)
    refine seq_eq_ok.mpr ⟨refuse_eq_ok.mpr (not_or.mpr ⟨hpid, hnew⟩), seq_eq_ok.mpr ⟨?_, ?_⟩⟩
    · exact refuse_eq_ok.mpr (by simp [hsession])
    · refine seq_eq_ok.mpr ⟨refuse_eq_ok.mpr (by simp [hwindow]), seq_eq_ok.mpr ⟨hpane, ?_⟩⟩
      exact ih hpids hdistinct' hids hpanes

/-- What is noted of windows and sessions was said by a witness. -/
structure ObservedViews.From (topology : TopologySnapshot) (witnesses : List ClientWitness)
    (next : ObservedViews) : Prop where
  windows : ∀ windowId view, next.windows[windowId]? = some view → ∃ witness ∈ witnesses,
    witness.windowId = windowId ∧ witness.activePane = view.activePane ∧
      topology.windowPanes windowId = some view.observedPanes
  sessions : ∀ (sessionId : String) (shown : String × PaneInstance),
    next.sessions[sessionId]? = some shown → ∃ witness ∈ witnesses,
      witness.sessionId = sessionId ∧ shown = (witness.windowId, witness.activePane)

theorem SameInstant.activePane (hinstant : SameInstant topology witnesses)
    {witness : ClientWitness} (h : witness ∈ witnesses) :
    validatePane witness.activePane = .ok () := by
  obtain ⟨pane, hpane, -, hsame⟩ := hinstant.shown witness h
  exact hsame ▸ hinstant.instances pane hpane

theorem validateWindowView_ok (hinstant : SameInstant topology witnesses)
    (hreconcilable : Reconcilable topology witnesses) {witness : ClientWitness}
    (h : witness ∈ witnesses) {panes : List PaneInstance}
    (hpanes : topology.windowPanes witness.windowId = some panes) :
    validateWindowView witness.activePane panes = .ok () := by
  obtain ⟨hnodup, hmem⟩ := windowPanes_eq_some hpanes
  have hcount := hreconcilable.panes _ _ hpanes
  refine seq_eq_ok.mpr ⟨refuse_eq_ok.mpr (by omega), seq_eq_ok.mpr ⟨hinstant.activePane h, ?_⟩⟩
  refine seq_eq_ok.mpr ⟨forM_eq_ok.mpr fun pane hpane => ?_, refuse_eq_ok.mpr ?_⟩
  · obtain ⟨p, hp, -, rfl⟩ := (hmem pane).mp hpane
    exact hinstant.instances p hp
  · obtain ⟨p, hp, hwindow, hsame⟩ := hinstant.shown witness h
    exact not_or.mpr ⟨not_not.mpr hnodup, not_not.mpr ((hmem _).mpr ⟨p, hp, hwindow, hsame⟩)⟩

theorem ObservedViews.observe_ok (hinstant : SameInstant topology witnesses)
    (hreconcilable : Reconcilable topology witnesses) {next : ObservedViews}
    (hfrom : next.From topology witnesses) {witness : ClientWitness} (h : witness ∈ witnesses) :
    ∃ next', next.observe topology.windowPanes witness = .ok next' ∧
      next'.From topology witnesses := by
  obtain ⟨p, hp, hwindow, -⟩ := hinstant.shown witness h
  obtain ⟨panes, hpanes⟩ := windowPanes_of_mem hp
  rw [hwindow] at hpanes
  unfold observe
  rw [hpanes]
  refine ⟨_, seq_eq_ok.mpr ⟨validateWindowView_ok hinstant hreconcilable h hpanes,
    seq_eq_ok.mpr ⟨refuse_eq_ok.mpr ?_, seq_eq_ok.mpr ⟨refuse_eq_ok.mpr ?_, rfl⟩⟩⟩, ?_, ?_⟩
  · rintro ⟨view, hview, hother⟩
    obtain ⟨other, hin, hsame, hactive, hobserved⟩ := hfrom.windows _ _ hview
    have hpane := hreconcilable.agree other hin witness h hsame
    have hpanes' := Option.some.inj (hobserved.symm.trans hpanes)
    exact hother (by rw [← hpanes', ← hpane, hactive])
  · rintro ⟨shown, hshown, hother⟩
    obtain ⟨other, hin, hsame, hvalue⟩ := hfrom.sessions _ _ hshown
    have hwindows := hinstant.sessions other hin witness h hsame
    have hpane := hreconcilable.agree other hin witness h hwindows
    exact hother (by rw [hvalue, hwindows, hpane])
  · intro windowId view hview
    rw [Maps.getElem?_insert] at hview
    split_ifs at hview with hsame
    · cases hview
      exact ⟨witness, h, hsame.symm, rfl, hsame ▸ hpanes⟩
    · exact hfrom.windows _ _ hview
  · intro sessionId shown hshown
    rw [Maps.getElem?_insert] at hshown
    split_ifs at hshown with hsame
    · cases hshown
      exact ⟨witness, h, hsame.symm, rfl⟩
    · exact hfrom.sessions _ _ hshown

theorem ObservedViews.observeAll_ok (hinstant : SameInstant topology witnesses)
    (hreconcilable : Reconcilable topology witnesses) {next : ObservedViews}
    (hfrom : next.From topology witnesses) {rest : List ClientWitness}
    (hrest : ∀ witness ∈ rest, witness ∈ witnesses) :
    ∃ next', observeAll topology.windowPanes next rest = .ok next' := by
  induction rest generalizing next with
  | nil => exact ⟨next, rfl⟩
  | cons witness rest ih =>
    obtain ⟨hwitness, hrest⟩ := List.forall_mem_cons.mp hrest
    obtain ⟨next', hnext, hfrom'⟩ := observe_ok hinstant hreconcilable hfrom hwitness
    obtain ⟨last, hlast⟩ := ih hfrom' hrest
    exact ⟨last, bind_eq_ok.mpr ⟨next', hnext, hlast⟩⟩

/-- Witnesses of one moment that agree are not refused. -/
theorem CurrentClientViews.reconcile_ok (hinstant : SameInstant topology witnesses)
    (hreconcilable : Reconcilable topology witnesses) (views : CurrentClientViews) :
    ∃ result, views.reconcile witnesses topology.windowPanes = .ok result := by
  have hvalid : validateWitnesses witnesses = .ok () := by
    have hcount := hreconcilable.clients
    exact seq_eq_ok.mpr ⟨refuse_eq_ok.mpr (by omega), validateEach_ok hinstant.pids
      hinstant.distinct hinstant.ids fun _ => hinstant.activePane⟩
  have hempty : ObservedViews.From topology witnesses {} := ⟨by simp, by simp⟩
  obtain ⟨next, hnext⟩ := ObservedViews.observeAll_ok hinstant hreconcilable hempty
    (fun witness (h : witness ∈ witnesses) => h)
  exact ⟨_, seq_eq_ok.mpr ⟨hvalid, bind_eq_ok.mpr ⟨next, hnext, rfl⟩⟩⟩

end

end VdeTmux.Daemon
