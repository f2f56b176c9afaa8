import VdeTmux.Foundation.Maps
import VdeTmux.Pane.UnreadOrder

/-!
# Occurrence orders over whole runs

Whatever operations come after hydration, restarts included, the orders of the panes stay those of
one counter: nobody shares one, a new one passes all that were issued before, and the two checks of
the store that watch over the order never fail.
-/

open Foundation Foundation.Text
namespace VdeTmux.Pane

theorem le_foldl_max {l : List ℕ} {n : ℕ} (h : n ∈ l) (start : ℕ) : n ≤ l.foldl max start := by
  have hstart : ∀ (l : List ℕ) (start : ℕ), start ≤ l.foldl max start := by
    intro l
    induction l with
    | nil => exact fun _ => le_rfl
    | cons a l ih => exact fun start => (le_max_left start a).trans (ih (max start a))
  induction l generalizing start with
  | nil => cases h
  | cons a l ih =>
    rcases List.mem_cons.mp h with rfl | hmem
    · exact (le_max_right start n).trans (hstart l (max start n))
    · exact ih hmem (max start a)

namespace CanonicalStateRuntime

def DistinctOrders (entries : List (PaneInstance × PaneState)) : Prop :=
  entries.Pairwise fun e e' => ∀ n ∈ e.2.latestOrder?, n ∉ e'.2.latestOrder?

section
variable [Sha256]

theorem validateRecords_ok {seen : List ℕ} {entries : List (PaneInstance × PaneState)}
    (h : validateRecords seen entries = .ok ()) :
    (∀ e ∈ entries, e.2.paneInstance = e.1 ∧ e.2.Valid ∧ ∀ n ∈ e.2.latestOrder?, n ∉ seen) ∧
      DistinctOrders entries := by
  induction entries generalizing seen with
  | nil => exact ⟨fun e he => absurd he List.not_mem_nil, .nil⟩
  | cons e rest ih =>
    obtain ⟨pane, state⟩ := e
    unfold validateRecords at h
    obtain ⟨hpane, h⟩ := seq_eq_ok.mp h
    obtain ⟨hvalid, h⟩ := seq_eq_ok.mp h
    have hpane : state.paneInstance = pane := by simpa using hpane
    have hvalid := PaneState.validate_eq_ok.mp (mapError_eq_ok.mp hvalid)
    cases hlatest : state.unread.latest with
    | none =>
      simp only [hlatest] at h
      obtain ⟨hrest, hdistinct⟩ := ih h
      have hnone : ∀ n, n ∉ state.latestOrder? := by simp [PaneState.latestOrder?, hlatest]
      refine ⟨List.forall_mem_cons.mpr ⟨⟨hpane, hvalid, fun n hn => absurd hn (hnone n)⟩, hrest⟩, ?_⟩
      exact .cons (fun _ _ n hn => absurd hn (hnone n)) hdistinct
    | some latest =>
      simp only [hlatest] at h
      obtain ⟨hfresh, h⟩ := seq_eq_ok.mp h
      have hfresh : latest.order ∉ seen := by simpa using hfresh
      obtain ⟨hrest, hdistinct⟩ := ih h
      have hone : ∀ n, n ∈ state.latestOrder? ↔ n = latest.order := by
        simp [PaneState.latestOrder?, hlatest, eq_comm]
      refine ⟨List.forall_mem_cons.mpr ⟨⟨hpane, hvalid, ?_⟩, ?_⟩, .cons ?_ hdistinct⟩
      · intro n hn
        rw [(hone n).mp hn]
        exact hfresh
      · intro e he
        obtain ⟨hkeyed, hgood, hnew⟩ := hrest e he
        exact ⟨hkeyed, hgood, fun n hn hmem => hnew n hn (List.mem_cons_of_mem _ hmem)⟩
      · intro e he n hn hshared
        refine (hrest e he).2.2 n hshared ?_
        rw [(hone n).mp hn]
        exact List.mem_cons_self

theorem validateRecords_errors {seen : List ℕ} {entries : List (PaneInstance × PaneState)}
    (hdistinct : DistinctOrders entries)
    (hseen : ∀ e ∈ entries, ∀ n ∈ e.2.latestOrder?, n ∉ seen) :
    ErrorsIn (fun e => ¬OrderError e) (validateRecords seen entries) := by
  induction entries generalizing seen with
  | nil => exact errorsIn_ok
  | cons e rest ih =>
    obtain ⟨pane, state⟩ := e
    obtain ⟨hnow, hrest⟩ := List.forall_mem_cons.mp hseen
    obtain ⟨hfirst, hdistinct⟩ := List.pairwise_cons.mp hdistinct
    unfold validateRecords
    refine (errorsIn_refuse fun _ => by decide).bind fun _ _ => ?_
    refine ErrorsIn.bind ?_ fun _ _ => ?_
    · intro e he
      obtain ⟨e', he', rfl⟩ := mapError_eq_error.mp he
      exact state.validate_plain e' he'
    · cases hlatest : state.unread.latest with
      | none => exact ih hdistinct hrest
      | some latest =>
        have hmem : latest.order ∈ state.latestOrder? := by
          rw [PaneState.latestOrder?, hlatest]
          rfl
        refine (errorsIn_refuse fun hshared => absurd hshared (hnow _ hmem)).bind fun _ _ => ?_
        refine ih hdistinct fun e he n hn hmem' => ?_
        rcases List.mem_cons.mp hmem' with rfl | hold
        · exact hfirst e he _ hmem hn
        · exact hrest e he n hn hold

omit [Sha256] in
theorem mem_toList {records : PaneMap PaneState} {pane : PaneInstance} {s : PaneState} :
    (pane, s) ∈ records.toList ↔ records[pane]? = some s :=
  Std.ExtTreeMap.mem_toList_iff_getElem?_eq_some

omit [Sha256] in
theorem holds_ledger {runtime : CanonicalStateRuntime} {pane : PaneInstance} {n : ℕ} :
    runtime.ledger.tickets.Holds pane n ↔
      ∃ s, runtime.records[pane]? = some s ∧ s.latestOrder? = some n := Ledger.holds_tickets

theorem distinctOrders_of_sound {runtime : CanonicalStateRuntime} (h : runtime.ledger.Sound) :
    DistinctOrders runtime.records.toList := by
  refine List.Pairwise.imp_of_mem ?_ (Maps.nodup_toList runtime.records)
  rintro ⟨pane, s⟩ ⟨pane', s'⟩ he he' hne n hn hn'
  have hs := mem_toList.mp he
  have hs' := mem_toList.mp he'
  have hpane : pane = pane' :=
    h.tickets.distinct pane pane' n (holds_ledger.mpr ⟨s, hs, hn⟩) (holds_ledger.mpr ⟨s', hs', hn'⟩)
  subst hpane
  rw [hs] at hs'
  cases hs'
  exact hne rfl

omit [Sha256] in
theorem hydrateRecord_core (runtime : CanonicalStateRuntime) (entry : PaneInstance × PaneState) :
    (runtime.hydrateRecord entry).records = runtime.records ∧
      (runtime.hydrateRecord entry).latestUnreadOrder = runtime.latestUnreadOrder := by
  unfold hydrateRecord
  dsimp only
  split_ifs
  · exact ⟨rfl, rfl⟩
  · exact ⟨rfl, rfl⟩

omit [Sha256] in
theorem hydrateRecords_core (entries : List (PaneInstance × PaneState))
    (runtime : CanonicalStateRuntime) :
    (entries.foldl hydrateRecord runtime).records = runtime.records ∧
      (entries.foldl hydrateRecord runtime).latestUnreadOrder = runtime.latestUnreadOrder := by
  induction entries generalizing runtime with
  | nil => exact ⟨rfl, rfl⟩
  | cons entry rest ih =>
    obtain ⟨hrecords, horder⟩ := ih (runtime.hydrateRecord entry)
    obtain ⟨hrecords', horder'⟩ := hydrateRecord_core runtime entry
    exact ⟨hrecords.trans hrecords', horder.trans horder'⟩

omit [Sha256] in
theorem le_latestOrders {records : PaneMap PaneState} {pane : PaneInstance} {s : PaneState} {n : ℕ}
    (hs : records[pane]? = some s) (hn : s.latestOrder? = some n) :
    n ≤ (latestOrders records).foldl max 0 := by
  refine le_foldl_max (List.mem_filterMap.mpr ⟨(pane, s), mem_toList.mpr hs, ?_⟩) 0
  exact hn

theorem hydrate_ok {records : PaneMap PaneState} {hydrated : CanonicalStateRuntime}
    (h : hydrate records = .ok hydrated) :
    hydrated.records = records ∧
      hydrated.latestUnreadOrder = (latestOrders records).foldl max 0 ∧
      validateRecords [] records.toList = .ok () := by
  obtain ⟨hvalid, h⟩ := seq_eq_ok.mp h
  obtain ⟨hrecords, -⟩ := seq_eq_ok.mp hvalid
  cases h
  obtain ⟨hsame, horder⟩ := hydrateRecords_core records.toList
    { records := records, latestUnreadOrder := (latestOrders records).foldl max 0 }
  exact ⟨hsame, horder, hrecords⟩

theorem hydrate_sound {records : PaneMap PaneState} {hydrated : CanonicalStateRuntime}
    (h : hydrate records = .ok hydrated) : hydrated.ledger.Sound := by
  obtain ⟨hrecords, horder, hvalid⟩ := hydrate_ok h
  obtain ⟨hentries, hdistinct⟩ := validateRecords_ok hvalid
  have hlist {pane : PaneInstance} {s : PaneState} (hs : hydrated.records[pane]? = some s) :
      (pane, s) ∈ records.toList := by
    rw [hrecords] at hs
    exact mem_toList.mpr hs
  refine ⟨fun pane s hs => ?_, ⟨?_, ?_⟩⟩
  · obtain ⟨hpane, hgood, -⟩ := hentries _ (hlist hs)
    exact ⟨hpane, hgood⟩
  · intro pane n hn
    obtain ⟨s, hs, hlatest⟩ := holds_ledger.mp hn
    rw [hrecords] at hs
    exact (le_latestOrders hs hlatest).trans horder.ge
  · intro pane pane' n hn hn'
    obtain ⟨s, hs, hlatest⟩ := holds_ledger.mp hn
    obtain ⟨s', hs', hlatest'⟩ := holds_ledger.mp hn'
    by_contra hne
    have hsymm : Std.Symm fun e e' : PaneInstance × PaneState =>
        ∀ n ∈ e.2.latestOrder?, n ∉ e'.2.latestOrder? := ⟨fun e e' he n hn hn' => he n hn' hn⟩
    have hapart := hdistinct.forall (hlist hs) (hlist hs') fun heq => hne (congrArg Prod.fst heq)
    exact hapart n hlatest hlatest'

end

section
variable [Sha256] [ProjectionFrame]

omit [ProjectionFrame] in
theorem steps_advance {ledger ledger' : Ledger} (h : ledger.Sound)
    (hsteps : LedgerSteps (fun _ => False) ledger ledger') :
    ledger'.Sound ∧ ledger.tickets.Advances ledger'.tickets := by
  have hrun : ledger'.Sound ∧
      Relation.ReflTransGen (Tickets.Step fun _ => False) ledger.tickets ledger'.tickets := by
    induction hsteps with
    | refl => exact ⟨h, .refl⟩
    | tail _ hstep ih =>
      obtain ⟨hsound, hbefore⟩ := ih
      obtain ⟨hticket, -⟩ := hstep.tickets hsound
      simp only [exists_false] at hticket
      exact ⟨hstep.sound hsound, hbefore.tail hticket⟩
  exact ⟨hrun.1, Tickets.advances_of_steps h.tickets hrun.2⟩

omit [ProjectionFrame] in
theorem sound_of_records {runtime runtime' : CanonicalStateRuntime} (h : runtime.ledger.Sound)
    (hrecords : runtime'.records = runtime.records)
    (hcovers : ∀ pane n, runtime.ledger.tickets.Holds pane n → n ≤ runtime'.latestUnreadOrder) :
    runtime'.ledger.Sound ∧ runtime.ledger.tickets.Advances runtime'.ledger.tickets := by
  have hcell (pane : PaneInstance) :
      (runtime'.ledger.cell pane).record = (runtime.ledger.cell pane).record :=
    congrArg (fun records : PaneMap PaneState => records[pane]?) hrecords
  have htickets : runtime'.ledger.tickets =
      ⟨runtime'.latestUnreadOrder, runtime.ledger.tickets.held⟩ := by
    simp only [Ledger.tickets, hcell]
    rfl
  have hadvances := h.tickets.fallBack hcovers
  rw [← htickets] at hadvances
  refine ⟨⟨fun pane s hs => ?_, hadvances.valid⟩, hadvances⟩
  rw [hcell] at hs
  exact h.records pane s hs

omit [Sha256] [ProjectionFrame] in
theorem expireScreenEvidence_kept (runtime : CanonicalStateRuntime) (now : ℤ) :
    (runtime.expireScreenEvidence now).2.records = runtime.records ∧
      (runtime.expireScreenEvidence now).2.latestUnreadOrder = runtime.latestUnreadOrder := by
  unfold expireScreenEvidence
  dsimp only
  split_ifs
  · rcases commit_snd _ _ with hsame | ⟨_, draft, hresult, hcommit⟩
    · rw [hsame]
      exact ⟨rfl, rfl⟩
    · rw [hcommit]
      obtain ⟨bumped, hbumped, hresult⟩ := map_eq_ok.mp hresult
      cases hresult
      obtain ⟨-, rfl⟩ := bumpSnapshotRevision_eq_ok.mp hbumped
      exact ⟨rfl, rfl⟩
  · exact ⟨rfl, rfl⟩

theorem perform_advances {runtime : CanonicalStateRuntime} (h : runtime.ledger.Sound)
    (operation : Operation) : (runtime.perform operation).2.ledger.Sound ∧
      runtime.ledger.tickets.Advances (runtime.perform operation).2.ledger.tickets := by
  cases operation with
  | applyEvent saved envelope visibility privateTaskPrompt generated =>
    rcases applyEvent_ledger runtime saved envelope visibility privateTaskPrompt generated
      (fun _ hid => hid) with hsame | hstep
    · have hledger : (runtime.perform (.applyEvent saved envelope visibility privateTaskPrompt
          generated)).2.ledger = runtime.ledger := hsame
      rw [hledger]
      exact ⟨h, .refl h.tickets⟩
    · exact ⟨hstep.sound h, (hstep.tickets h).1.advances h.tickets⟩
  | expireScreenEvidence now =>
    obtain ⟨hrecords, horder⟩ := expireScreenEvidence_kept runtime now
    exact sound_of_records h hrecords fun pane n hn =>
      (h.tickets.le_last pane n hn).trans horder.ge
  | restart =>
    rcases commit_snd runtime ((hydrate runtime.records).map fun hydrated => ((), hydrated))
      with hsame | ⟨_, draft, hresult, hcommit⟩
    · have hkept : (runtime.perform .restart).2 = runtime := hsame
      rw [hkept]
      exact ⟨h, .refl h.tickets⟩
    · have hdraft : (runtime.perform .restart).2 = draft := hcommit
      rw [hdraft]
      obtain ⟨hydrated, hhydrate, hresult⟩ := map_eq_ok.mp hresult
      cases hresult
      obtain ⟨hrecords, horder, -⟩ := hydrate_ok hhydrate
      refine sound_of_records h hrecords fun pane n hn => ?_
      obtain ⟨s, hs, hlatest⟩ := holds_ledger.mp hn
      exact (le_latestOrders hs hlatest).trans horder.ge
  | _ => exact steps_advance h (perform_steps runtime rfl fun _ hnone => hnone)

def states (past : List (CanonicalStateRuntime × Operation)) (runtime : CanonicalStateRuntime) :
    List CanonicalStateRuntime := runtime :: past.map Prod.fst

theorem run_advances {start runtime : CanonicalStateRuntime}
    {past : List (CanonicalStateRuntime × Operation)} (hstart : start.ledger.Sound)
    (hrun : Trace Step start past runtime) : runtime.ledger.Sound ∧
      ((states past runtime).map (·.ledger.tickets)).IsChain fun t' t => t.Advances t' := by
  induction hrun with
  | nil => exact ⟨hstart, .singleton _⟩
  | @snoc past before after operation _ taken ih =>
    obtain ⟨hsound, hchain⟩ := ih
    obtain ⟨hafter, hadvances⟩ := perform_advances hsound operation
    rw [← show after = (before.perform operation).2 from taken] at hafter hadvances
    exact ⟨hafter, .cons_cons hadvances hchain⟩

end

end CanonicalStateRuntime

end VdeTmux.Pane
