import Mathlib.Data.List.Dedup
import VdeTmux.Daemon.StatusSnapshot

/-!
# Status counts are conserved

What the maps over the panes hold, and what the snapshot counts from them: every pane once in the
summary, in its window, in each of its sessions and in each category of one of them.
-/

open Foundation VdeTmux.Pane VdeTmux.Category
namespace VdeTmux.Daemon

/-! ## The panes themselves -/

namespace ResolvedSnapshot

def badge (resolved : ResolvedSnapshot) (pane : PaneInstance) : Option BadgeState :=
  (resolved.panes.filter fun p => p.paneInstance = pane).findSome? (·.resolved)

def counted (resolved : ResolvedSnapshot) (kind : PanePresentation → Bool) (state : BadgeState) :
    ℕ :=
  ((resolved.panes.filter kind).map (·.paneInstance)).dedup.countP fun pane =>
    resolved.badge pane = some state

end ResolvedSnapshot

def PanePresentation.linked (pane : PanePresentation) (sessionId : String) : Bool :=
  pane.sessionLinks.any fun link => link.sessionId = sessionId

def panesOf (m : Std.ExtTreeMap String (Std.ExtTreeSet PaneInstance)) (key : String) :
    Std.ExtTreeSet PaneInstance := m[key]?.getD ∅

theorem mem_addPane {m : Std.ExtTreeMap String (Std.ExtTreeSet PaneInstance)} {key k : String}
    {pane p : PaneInstance} :
    p ∈ panesOf (addPane m key pane) k ↔ k = key ∧ p = pane ∨ p ∈ panesOf m k := by
  unfold panesOf addPane
  rw [Maps.getElem?_insert]
  split_ifs with hk
  · subst hk
    rw [Option.getD_some, Std.ExtTreeSet.mem_insert, Std.LawfulEqCmp.compare_eq_iff_eq]
    constructor
    · rintro (rfl | hp)
      · exact Or.inl ⟨rfl, rfl⟩
      · exact Or.inr hp
    · rintro (⟨-, rfl⟩ | hp)
      · exact Or.inl rfl
      · exact Or.inr hp
  · simp [hk]

namespace StatusAggregate
variable {a : StatusAggregate}

/-! ## After the panes -/

theorem windowPanes_foldl {panes : List PanePresentation} {key : String} {p : PaneInstance} :
    p ∈ panesOf (panes.foldl StatusAggregate.pane a).windowPanes key ↔
      (∃ pane ∈ panes, pane.windowId = key ∧ pane.paneInstance = p) ∨
        p ∈ panesOf a.windowPanes key := by
  induction panes generalizing a with
  | nil => simp
  | cons pane panes ih =>
    rw [List.foldl_cons, ih]
    change _ ∨ p ∈ panesOf (addPane a.windowPanes pane.windowId pane.paneInstance) key ↔ _
    rw [mem_addPane, List.exists_mem_cons_iff, @eq_comm _ key, @eq_comm _ p]
    exact or_left_comm.trans or_assoc.symm

theorem sessionPanes_links {links : List SessionLinkPresentation} {pane p : PaneInstance}
    {m : Std.ExtTreeMap String (Std.ExtTreeSet PaneInstance)} {key : String} :
    p ∈ panesOf (links.foldl (fun panes link => addPane panes link.sessionId pane) m) key ↔
      (links.any fun link => link.sessionId = key) = true ∧ pane = p ∨ p ∈ panesOf m key := by
  induction links generalizing m with
  | nil => simp
  | cons link links ih =>
    rw [List.foldl_cons, ih, mem_addPane, List.any_cons, Bool.or_eq_true, decide_eq_true_eq,
      @eq_comm _ key, @eq_comm _ p]
    tauto

theorem sessionPanes_foldl {panes : List PanePresentation} {key : String} {p : PaneInstance} :
    p ∈ panesOf (panes.foldl StatusAggregate.pane a).sessionPanes key ↔
      (∃ pane ∈ panes, pane.linked key = true ∧ pane.paneInstance = p) ∨
        p ∈ panesOf a.sessionPanes key := by
  induction panes generalizing a with
  | nil => simp
  | cons pane panes ih =>
    have hpane : p ∈ panesOf (a.pane pane).sessionPanes key ↔
        pane.linked key = true ∧ pane.paneInstance = p ∨ p ∈ panesOf a.sessionPanes key :=
      sessionPanes_links
    rw [List.foldl_cons, ih, hpane, List.exists_mem_cons_iff]
    exact or_left_comm.trans or_assoc.symm

theorem sessionNames_links {links : List SessionLinkPresentation}
    {m : Std.ExtTreeMap String String} {key : String} :
    key ∈ links.foldl (fun names link => names.insertIfNew link.sessionId link.sessionName) m ↔
      (links.any fun link => link.sessionId = key) = true ∨ key ∈ m := by
  induction links generalizing m with
  | nil => simp
  | cons link links ih =>
    rw [List.foldl_cons, ih, Std.ExtTreeMap.mem_insertIfNew, Std.LawfulEqCmp.compare_eq_iff_eq,
      List.any_cons, Bool.or_eq_true, decide_eq_true_eq]
    tauto

theorem sessionNames_foldl {panes : List PanePresentation} {key : String} :
    key ∈ (panes.foldl StatusAggregate.pane a).sessionNames ↔
      (∃ pane ∈ panes, pane.linked key = true) ∨ key ∈ a.sessionNames := by
  induction panes generalizing a with
  | nil => simp
  | cons pane panes ih =>
    have hpane : key ∈ (a.pane pane).sessionNames ↔
        pane.linked key = true ∨ key ∈ a.sessionNames := sessionNames_links
    rw [List.foldl_cons, ih, hpane, List.exists_mem_cons_iff]
    exact or_left_comm.trans or_assoc.symm

theorem windows_foldl {panes : List PanePresentation} {key : String} :
    key ∈ (panes.foldl StatusAggregate.pane a).windows ↔
      (∃ pane ∈ panes, pane.windowId = key) ∨ key ∈ a.windows := by
  induction panes generalizing a with
  | nil => simp
  | cons pane panes ih =>
    rw [List.foldl_cons, ih]
    change _ ∨ key ∈ a.windows.insert pane.windowId _ ↔ _
    rw [Std.ExtTreeMap.mem_insert, Std.LawfulEqCmp.compare_eq_iff_eq, List.exists_mem_cons_iff]
    exact or_left_comm.trans or_assoc.symm

theorem paneBadges_pane (a : StatusAggregate) (pane : PanePresentation) (p : PaneInstance) :
    (a.pane pane).paneBadges[p]? =
      a.paneBadges[p]?.or (if pane.paneInstance = p then pane.resolved else none) := by
  change (pane.resolved.elim a.paneBadges (a.paneBadges.insertIfNew pane.paneInstance))[p]? = _
  cases pane.resolved with
  | none => simp
  | some badge =>
    simp only [Option.elim_some, Std.ExtTreeMap.getElem?_insertIfNew,
      Std.LawfulEqCmp.compare_eq_iff_eq]
    by_cases hp : pane.paneInstance = p
    · subst hp
      by_cases hknown : pane.paneInstance ∈ a.paneBadges
      · simp [hknown]
      · simp [hknown]
    · simp [hp]

theorem paneBadges_foldl {panes : List PanePresentation} {p : PaneInstance} :
    (panes.foldl StatusAggregate.pane a).paneBadges[p]? = a.paneBadges[p]?.or
      ((panes.filter fun pane => pane.paneInstance = p).findSome? (·.resolved)) := by
  induction panes generalizing a with
  | nil => simp
  | cons pane panes ih =>
    rw [List.foldl_cons, ih, paneBadges_pane, Option.or_assoc]
    congr 1
    by_cases hp : pane.paneInstance = p
    · rw [List.filter_cons_of_pos (by simpa using hp), List.findSome?_cons, if_pos hp]
      cases pane.resolved <;> rfl
    · rw [List.filter_cons_of_neg (by simpa using hp), if_neg hp, Option.none_or]

def Linked (a : StatusAggregate) : Prop :=
  ∀ (windowId : String) (window : WindowStatusAggregate) (sessionId : String)
    (link : SessionLinkPresentation), a.windows[windowId]? = some window →
      window.links[sessionId]? = some link → link.sessionId = sessionId

theorem links_foldl {links : List SessionLinkPresentation} {window : WindowStatusAggregate}
    (h : ∀ (sessionId : String) (link : SessionLinkPresentation),
      window.links[sessionId]? = some link → link.sessionId = sessionId)
    {sessionId : String} {link : SessionLinkPresentation}
    (hlink : (links.foldl WindowStatusAggregate.link window).links[sessionId]? = some link) :
    link.sessionId = sessionId := by
  induction links generalizing window with
  | nil => exact h sessionId link hlink
  | cons first links ih =>
    refine ih ?_ hlink
    intro sessionId' link' hlink'
    change (window.links.insertIfNew first.sessionId first)[sessionId']? = some link' at hlink'
    simp only [Std.ExtTreeMap.getElem?_insertIfNew, Std.LawfulEqCmp.compare_eq_iff_eq] at hlink'
    split_ifs at hlink' with hnew
    · obtain rfl := Option.some_inj.mp hlink'
      exact hnew.1
    · exact h sessionId' link' hlink'

theorem linked_pane (h : a.Linked) (pane : PanePresentation) : (a.pane pane).Linked := by
  intro windowId window sessionId link hwindow hlink
  change (a.windows.insert pane.windowId _)[windowId]? = some window at hwindow
  rw [Maps.getElem?_insert] at hwindow
  split_ifs at hwindow with hsame
  · obtain rfl := Option.some_inj.mp hwindow
    refine links_foldl ?_ hlink
    intro sessionId' link' hlink'
    have hcommand (w : WindowStatusAggregate) : (w.command pane).links = w.links := by
      unfold WindowStatusAggregate.command
      split_ifs <;> rfl
    rw [hcommand] at hlink'
    cases hknown : a.windows[pane.windowId]? with
    | none =>
      rw [hknown] at hlink'
      simp at hlink'
    | some known =>
      rw [hknown] at hlink'
      exact h pane.windowId known sessionId' link' hknown hlink'
  · exact h windowId window sessionId link hwindow hlink

theorem linked_foldl (h : a.Linked) (panes : List PanePresentation) :
    (panes.foldl StatusAggregate.pane a).Linked := by
  induction panes generalizing a with
  | nil => exact h
  | cons pane panes ih => exact ih (linked_pane h pane)

/-! ## After the metadata -/

theorem session_foldl (sessions : List (String × SessionProjectionMetadata)) :
    (sessions.foldl StatusAggregate.session a).paneBadges = a.paneBadges ∧
      (sessions.foldl StatusAggregate.session a).windowPanes = a.windowPanes ∧
      (sessions.foldl StatusAggregate.session a).windows = a.windows := by
  induction sessions generalizing a with
  | nil => exact ⟨rfl, rfl, rfl⟩
  | cons session sessions ih => exact ih

theorem sessionPanes_session (sessions : List (String × SessionProjectionMetadata)) (key : String)
    (p : PaneInstance) :
    p ∈ panesOf (sessions.foldl StatusAggregate.session a).sessionPanes key ↔
      p ∈ panesOf a.sessionPanes key := by
  induction sessions generalizing a with
  | nil => rfl
  | cons session sessions ih =>
    rw [List.foldl_cons, ih]
    change p ∈ (a.sessionPanes.insertIfNew session.1 ∅)[key]?.getD ∅ ↔ _
    simp only [Std.ExtTreeMap.getElem?_insertIfNew, Std.LawfulEqCmp.compare_eq_iff_eq]
    split_ifs with hnew
    · obtain ⟨rfl, hnew⟩ := hnew
      simp [panesOf, Std.ExtTreeMap.getElem?_eq_none hnew]
    · rfl

theorem sessionNames_session {sessions : List (String × SessionProjectionMetadata)} {key : String} :
    key ∈ (sessions.foldl StatusAggregate.session a).sessionNames ↔
      key ∈ a.sessionNames ∨ key ∈ sessions.map Prod.fst := by
  induction sessions generalizing a with
  | nil => simp
  | cons session sessions ih =>
    rw [List.foldl_cons, ih]
    change key ∈ a.sessionNames.insertIfNew session.1 _ ∨ _ ↔ _
    rw [Std.ExtTreeMap.mem_insertIfNew, Std.LawfulEqCmp.compare_eq_iff_eq, List.map_cons,
      List.mem_cons, @eq_comm _ key, or_assoc]
    exact or_left_comm

end StatusAggregate

/-! ## What the maps hold -/

section
variable (resolved : ResolvedSnapshot) (metadata : StatusProjectionMetadata)

/-- A session that a pane is linked to or that the metadata names. -/
def Known (sessionId : String) : Prop :=
  (∃ pane ∈ resolved.panes, pane.linked sessionId = true) ∨ sessionId ∈ metadata.sessions

theorem paneBadges_eq (p : PaneInstance) :
    (statusAggregate resolved metadata).paneBadges[p]? = resolved.badge p := by
  rw [statusAggregate, (StatusAggregate.session_foldl _).1, StatusAggregate.paneBadges_foldl]
  exact Option.none_or

theorem mem_windowPanes {windowId : String} {p : PaneInstance} :
    p ∈ panesOf (statusAggregate resolved metadata).windowPanes windowId ↔
      ∃ pane ∈ resolved.panes, pane.windowId = windowId ∧ pane.paneInstance = p := by
  rw [statusAggregate, (StatusAggregate.session_foldl _).2.1, StatusAggregate.windowPanes_foldl]
  simp [panesOf]

theorem mem_sessionPanes {sessionId : String} {p : PaneInstance} :
    p ∈ panesOf (statusAggregate resolved metadata).sessionPanes sessionId ↔
      ∃ pane ∈ resolved.panes, pane.linked sessionId = true ∧ pane.paneInstance = p := by
  rw [statusAggregate, StatusAggregate.sessionPanes_session, StatusAggregate.sessionPanes_foldl]
  simp [panesOf]

theorem mem_sessionNames {sessionId : String} :
    sessionId ∈ (statusAggregate resolved metadata).sessionNames ↔
      Known resolved metadata sessionId := by
  rw [statusAggregate, StatusAggregate.sessionNames_session, StatusAggregate.sessionNames_foldl]
  have hkeys : sessionId ∈ metadata.sessions.toList.map Prod.fst ↔
      sessionId ∈ metadata.sessions := by
    rw [List.mem_map, Maps.mem_iff_exists]
    constructor
    · rintro ⟨⟨key, session⟩, hentry, rfl⟩
      exact ⟨session, Std.ExtTreeMap.mem_toList_iff_getElem?_eq_some.mp hentry⟩
    · rintro ⟨session, hsession⟩
      exact ⟨(sessionId, session), Std.ExtTreeMap.mem_toList_iff_getElem?_eq_some.mpr hsession, rfl⟩
  rw [hkeys, Known]
  simp

theorem mem_windows {windowId : String} :
    windowId ∈ (statusAggregate resolved metadata).windows ↔
      ∃ pane ∈ resolved.panes, pane.windowId = windowId := by
  rw [statusAggregate, (StatusAggregate.session_foldl _).2.2, StatusAggregate.windows_foldl]
  simp

theorem linked_statusAggregate : (statusAggregate resolved metadata).Linked := by
  have hpanes : (resolved.panes.foldl StatusAggregate.pane {}).Linked := by
    refine StatusAggregate.linked_foldl ?_ _
    intro windowId window sessionId link hwindow
    simp at hwindow
  intro windowId window sessionId link hwindow
  rw [statusAggregate, (StatusAggregate.session_foldl _).2.2] at hwindow
  exact hpanes windowId window sessionId link hwindow

/-! ## Counting -/

variable {resolved metadata}

theorem of_states {panes : Std.ExtTreeSet PaneInstance} {kind : PanePresentation → Bool}
    (hpanes : ∀ p, p ∈ panes ↔
      ∃ pane ∈ resolved.panes, kind pane = true ∧ pane.paneInstance = p) (state : BadgeState) :
    (BadgeStateCounts.fromStates (panes.toList.filterMap fun p =>
      (statusAggregate resolved metadata).paneBadges[p]?)).of state =
        resolved.counted kind state := by
  have hperm : panes.toList.Perm ((resolved.panes.filter kind).map (·.paneInstance)).dedup := by
    refine (List.perm_ext_iff_of_nodup (Maps.nodup_toList_set panes) (List.nodup_dedup _)).mpr ?_
    intro p
    rw [Std.ExtTreeSet.mem_toList, hpanes, List.mem_dedup, List.mem_map]
    simp only [List.mem_filter, and_assoc]
  rw [BadgeStateCounts.of_fromStates, List.count_filterMap, hperm.countP_eq,
    ResolvedSnapshot.counted]
  apply List.countP_congr
  intro p _
  rw [paneBadges_eq]
  simp

theorem of_countsFor {key : String} {m : Std.ExtTreeMap String (Std.ExtTreeSet PaneInstance)}
    {kind : PanePresentation → Bool} (hpanes : ∀ p, p ∈ panesOf m key ↔
      ∃ pane ∈ resolved.panes, kind pane = true ∧ pane.paneInstance = p) (state : BadgeState) :
    ((statusAggregate resolved metadata).countsFor m[key]?).of state =
      resolved.counted kind state :=
  of_states hpanes state

theorem of_summary (state : BadgeState) :
    (BadgeStateCounts.fromStates
      (Maps.values (statusAggregate resolved metadata).paneBadges)).of state =
        resolved.counted (fun _ => true) state := by
  let entries := (statusAggregate resolved metadata).paneBadges.toList
  have hkeys : (entries.map Prod.fst).Nodup := by
    rw [List.Nodup, List.pairwise_map]
    refine Std.ExtTreeMap.distinct_keys_toList.imp ?_
    intro e e' hne heq
    exact hne (Std.LawfulEqCmp.compare_eq_iff_eq.mpr heq)
  have hperm : ((entries.filter fun e => e.2 = state).map Prod.fst).Perm
      ((((resolved.panes.filter fun _ => true).map (·.paneInstance)).dedup).filter fun p =>
        resolved.badge p = some state) := by
    refine (List.perm_ext_iff_of_nodup (hkeys.sublist (List.filter_sublist.map _))
      ((List.nodup_dedup _).filter _)).mpr ?_
    intro p
    simp only [List.mem_map, List.mem_filter, decide_eq_true_eq, Prod.exists, List.mem_dedup,
      exists_and_right, exists_eq_right, entries, Std.ExtTreeMap.mem_toList_iff_getElem?_eq_some,
      paneBadges_eq, and_true]
    constructor
    · intro hbadge
      refine ⟨?_, hbadge⟩
      obtain ⟨pane, hpane, -⟩ := List.exists_of_findSome?_eq_some hbadge
      rw [List.mem_filter, decide_eq_true_eq] at hpane
      exact ⟨pane, hpane.1, hpane.2⟩
    · rintro ⟨-, hbadge⟩
      exact hbadge
  rw [BadgeStateCounts.of_fromStates, ResolvedSnapshot.counted, List.countP_eq_length_filter,
    ← hperm.length_eq, List.length_map, Maps.values, List.count, List.countP_map,
    List.countP_eq_length_filter]
  congr 2

/-! ## The parts of the snapshot -/

section
variable (context : StatusContext) (config : StatusConfig)

def sessionCategories (resolved : ResolvedSnapshot) (metadata : StatusProjectionMetadata) :
    Std.ExtTreeMap String String :=
  (statusAggregate resolved metadata).sessionNames.map fun sessionId _ =>
    effectiveCategory resolved metadata sessionId

theorem sessionCategories_eq {sessionId category : String} :
    (sessionCategories resolved metadata)[sessionId]? = some category ↔
      Known resolved metadata sessionId ∧ effectiveCategory resolved metadata sessionId = category := by
  rw [sessionCategories, Std.ExtTreeMap.getElem?_map, Option.map_eq_some_iff,
    ← mem_sessionNames, Maps.mem_iff_exists]
  constructor
  · rintro ⟨name, hname, rfl⟩
    exact ⟨⟨name, hname⟩, rfl⟩
  · rintro ⟨⟨name, hname⟩, rfl⟩
    exact ⟨name, hname, rfl⟩

theorem sessionsByCategory_foldl (sessions : List SessionStatusPresentation) (category : String)
    (groups : Std.ExtTreeMap String (List SessionStatusPresentation)) :
    (sessions.foldl (fun groups session =>
      groups.insert (session.category.getD "")
        ((groups[session.category.getD ""]?.getD []) ++ [session])) groups)[category]?.getD [] =
      groups[category]?.getD [] ++ sessions.filter fun session =>
        session.category.getD "" = category := by
  induction sessions generalizing groups with
  | nil => simp
  | cons session sessions ih =>
    rw [List.foldl_cons, ih, Maps.getElem?_insert]
    by_cases hcategory : session.category.getD "" = category
    · rw [List.filter_cons_of_pos (by simpa using hcategory), if_pos hcategory.symm,
        Option.getD_some, hcategory, List.append_assoc]
      rfl
    · rw [List.filter_cons_of_neg (by simpa using hcategory), if_neg (Ne.symm hcategory)]

theorem getD_sessionsByCategory (sessions : List SessionStatusPresentation) (category : String) :
    (sessionsByCategory sessions)[category]?.getD [] =
      sessions.filter fun session => session.category.getD "" = category := by
  rw [sessionsByCategory, sessionsByCategory_foldl]
  simp

theorem mem_sessions {session : SessionStatusPresentation}
    (h : session ∈ (buildStatusSnapshot resolved context metadata config).sessions) :
    ∃ entry ∈ (statusAggregate resolved metadata).sessionNames.toList,
      session = (statusAggregate resolved metadata).sessionPresentation metadata
        (sessionCategories resolved metadata) context.sessionId? entry := by
  have hall : session ∈ sortBy StatusAggregate.compareSessions
      ((statusAggregate resolved metadata).sessionNames.toList.map
        ((statusAggregate resolved metadata).sessionPresentation metadata
          (sessionCategories resolved metadata) context.sessionId?)) := by
    cases context with
    | global => exact h
    | session sessionId =>
      change session ∈ (sessionsByCategory _)[_]?.getD [] at h
      rw [getD_sessionsByCategory] at h
      exact (List.mem_filter.mp h).1
  obtain ⟨entry, hentry, rfl⟩ := List.mem_map.mp (mem_sortBy.mp hall)
  exact ⟨entry, hentry, rfl⟩

theorem mem_windowPresentations {window : WindowStatusPresentation}
    (h : window ∈ (buildStatusSnapshot resolved context metadata config).windows) :
    ∃ entry ∈ (statusAggregate resolved metadata).windows.toList,
      (statusAggregate resolved metadata).windowPresentation metadata context.sessionId? entry =
        some window :=
  List.mem_filterMap.mp (mem_sortBy.mp h)

theorem windowPresentation_eq {a : StatusAggregate} {activeSession : Option String}
    {entry : String × WindowStatusAggregate} {window : WindowStatusPresentation}
    (h : a.windowPresentation metadata activeSession entry = some window) :
    window.windowId = entry.1 ∧ window.counts = a.countsFor a.windowPanes[entry.1]? := by
  unfold StatusAggregate.windowPresentation at h
  dsimp only at h
  split_ifs at h
  obtain rfl := Option.some_inj.mp h
  exact ⟨rfl, rfl⟩

def addSession (a : StatusAggregate) (panes : Std.ExtTreeSet PaneInstance) (sessionId : String) :
    Std.ExtTreeSet PaneInstance := panes ∪ panesOf a.sessionPanes sessionId

theorem mem_categoryPanes {sessionIds : List String} {p : PaneInstance}
    {panes : Std.ExtTreeSet PaneInstance} :
    p ∈ sessionIds.foldl (addSession (statusAggregate resolved metadata)) panes ↔
      p ∈ panes ∨ ∃ pane ∈ resolved.panes,
        (pane.sessionLinks.any fun link => sessionIds.contains link.sessionId) = true ∧
          pane.paneInstance = p := by
  induction sessionIds generalizing panes with
  | nil => simp
  | cons sessionId sessionIds ih =>
    rw [List.foldl_cons, ih, addSession, Std.ExtTreeSet.mem_union_iff, mem_sessionPanes, or_assoc]
    apply or_congr_right
    constructor
    · rintro (⟨pane, hpane, hlinked, rfl⟩ | ⟨pane, hpane, hlinked, rfl⟩)
      · refine ⟨pane, hpane, ?_, rfl⟩
        obtain ⟨link, hlink, hsame⟩ := List.any_eq_true.mp hlinked
        exact List.any_eq_true.mpr ⟨link, hlink, by simp [of_decide_eq_true hsame]⟩
      · refine ⟨pane, hpane, ?_, rfl⟩
        obtain ⟨link, hlink, hmem⟩ := List.any_eq_true.mp hlinked
        refine List.any_eq_true.mpr ⟨link, hlink, ?_⟩
        rw [List.contains_cons, hmem, Bool.or_true]
    · rintro ⟨pane, hpane, hlinked, rfl⟩
      obtain ⟨link, hlink, hmem⟩ := List.any_eq_true.mp hlinked
      rw [List.contains_cons, Bool.or_eq_true, beq_iff_eq] at hmem
      rcases hmem with rfl | hmem
      · exact Or.inl ⟨pane, hpane, List.any_eq_true.mpr ⟨link, hlink, by simp⟩, rfl⟩
      · exact Or.inr ⟨pane, hpane, List.any_eq_true.mpr ⟨link, hlink, hmem⟩, rfl⟩

end

/-! ## One context against the other -/

def WindowStatusPresentation.shared (window : WindowStatusPresentation) :
    WindowStatusPresentation :=
  { window with active := false, last := false, windowIndex := none, sessionIds := [] }

def SessionStatusPresentation.activeFor (sessionId : String) (x : SessionStatusPresentation) :
    SessionStatusPresentation := { x with active := x.sessionId = sessionId }

def CategoryStatusPresentation.activeFor (category : String) (c : CategoryStatusPresentation) :
    CategoryStatusPresentation := { c with active := c.category = category }

theorem compareSessions_activeFor (sessionId : String) (x y : SessionStatusPresentation) :
    StatusAggregate.compareSessions x y =
      StatusAggregate.compareSessions (x.activeFor sessionId) (y.activeFor sessionId) := rfl

theorem compareCategories_activeFor (config : StatusConfig) (category : String)
    (c d : CategoryStatusPresentation) :
    StatusAggregate.compareCategories config c d =
      StatusAggregate.compareCategories config (c.activeFor category) (d.activeFor category) := rfl

/-- The snapshot of a session against the global one. -/
structure RestrictsTo (sessionId category : String) (g s : StatusSnapshot) : Prop where
  revision : s.snapshotRevision = g.snapshotRevision
  summary : s.summary = g.summary
  attention : s.attention = g.attention
  sessions : s.sessions = (g.sessions.filter fun x => x.category.getD "" = category).map
    (·.activeFor sessionId)
  windows : (s.windows.map (·.shared)).Perm
    ((g.windows.filter fun w => w.sessionIds.contains sessionId).map (·.shared))
  categories : s.categories = g.categories.map (·.activeFor category)

def categoryOf (resolved : ResolvedSnapshot) (metadata : StatusProjectionMetadata)
    (sessionId : String) : String :=
  (sessionCategories resolved metadata)[sessionId]?.getD ""

section
variable (config : StatusConfig) (sessionId : String)

theorem sessions_restrict :
    (buildStatusSnapshot resolved (.session sessionId) metadata config).sessions =
      ((buildStatusSnapshot resolved .global metadata config).sessions.filter fun x =>
        x.category.getD "" = categoryOf resolved metadata sessionId).map
          (·.activeFor sessionId) := by
  let entries := (statusAggregate resolved metadata).sessionNames.toList
  let present := (statusAggregate resolved metadata).sessionPresentation metadata
    (sessionCategories resolved metadata)
  have hactive : entries.map (present (some sessionId)) =
      (entries.map (present none)).map (·.activeFor sessionId) := by
    rw [List.map_map]
    apply List.map_congr_left
    intro entry _
    simp [present, StatusAggregate.sessionPresentation, SessionStatusPresentation.activeFor, eq_comm]
  change (sessionsByCategory (sortBy StatusAggregate.compareSessions
    (entries.map (present (some sessionId)))))[categoryOf resolved metadata sessionId]?.getD [] = _
  rw [getD_sessionsByCategory, hactive, ← map_sortBy (compareSessions_activeFor sessionId),
    List.filter_map]
  rfl

theorem categories_restrict :
    (buildStatusSnapshot resolved (.session sessionId) metadata config).categories =
      (buildStatusSnapshot resolved .global metadata config).categories.map
        (·.activeFor (categoryOf resolved metadata sessionId)) := by
  let names := (Std.ExtTreeSet.ofList (Maps.values (sessionCategories resolved metadata))).toList
  let present := (statusAggregate resolved metadata).categoryPresentation
    (sessionCategories resolved metadata)
  have hactive : names.map (present (some (categoryOf resolved metadata sessionId))) =
      (names.map (present none)).map (·.activeFor (categoryOf resolved metadata sessionId)) := by
    rw [List.map_map]
    apply List.map_congr_left
    intro category _
    simp [present, StatusAggregate.categoryPresentation, CategoryStatusPresentation.activeFor,
      eq_comm]
  change sortBy (StatusAggregate.compareCategories config)
    (names.map (present (some (categoryOf resolved metadata sessionId)))) = _
  rw [hactive, ← map_sortBy (compareCategories_activeFor config _)]
  rfl

theorem windows_restrict :
    ((buildStatusSnapshot resolved (.session sessionId) metadata config).windows.map
      (·.shared)).Perm
      (((buildStatusSnapshot resolved .global metadata config).windows.filter fun w =>
        w.sessionIds.contains sessionId).map (·.shared)) := by
  let a := statusAggregate resolved metadata
  have hsame (entries : List (String × WindowStatusAggregate))
      (hentries : ∀ e ∈ entries, a.windows[e.1]? = some e.2) :
      (entries.filterMap (a.windowPresentation metadata (some sessionId))).map (·.shared) =
        ((entries.filterMap (a.windowPresentation metadata none)).filter fun w =>
          w.sessionIds.contains sessionId).map (·.shared) := by
    induction entries with
    | nil => rfl
    | cons e entries ih =>
      obtain ⟨he, hentries⟩ := List.forall_mem_cons.mp hentries
      have hkeyed := linked_statusAggregate resolved metadata e.1 e.2
      obtain ⟨w, hw, hids⟩ : ∃ w, a.windowPresentation metadata none e = some w ∧
          w.sessionIds = (Maps.values e.2.links).map (·.sessionId) := ⟨_, rfl, rfl⟩
      have hlinked : w.sessionIds.contains sessionId = e.2.links[sessionId]?.isSome := by
        rw [hids, Bool.eq_iff_iff, List.contains_iff_mem, List.mem_map, Option.isSome_iff_exists]
        simp only [Maps.mem_values]
        constructor
        · rintro ⟨link, ⟨key, hlink⟩, rfl⟩
          exact ⟨link, (hkeyed key link he hlink) ▸ hlink⟩
        · rintro ⟨link, hlink⟩
          exact ⟨link, ⟨sessionId, hlink⟩, hkeyed sessionId link he hlink⟩
      rw [List.filterMap_cons, List.filterMap_cons, hw]
      cases hlink : e.2.links[sessionId]? with
      | none =>
        have hnone : a.windowPresentation metadata (some sessionId) e = none := by
          simp [StatusAggregate.windowPresentation, StatusAggregate.selectedLinks, hlink]
        rw [hnone, List.filter_cons_of_neg (by rw [hlinked, hlink]; decide)]
        exact ih hentries
      | some link =>
        have hsome : ∃ w', a.windowPresentation metadata (some sessionId) e = some w' ∧
            w'.shared = w.shared := by
          obtain rfl := Option.some_inj.mp hw
          refine ⟨_, if_neg (by simp [StatusAggregate.selectedLinks, hlink]), rfl⟩
        obtain ⟨w', hw', hshared⟩ := hsome
        rw [hw', List.filter_cons_of_pos (by rw [hlinked, hlink]; rfl), List.map_cons,
          List.map_cons, hshared, ih hentries]
  refine ((sortBy_perm _).map _).trans ?_
  refine List.Perm.trans ?_ (((sortBy_perm _).filter _).map _).symm
  refine (List.Perm.of_eq (hsame _ ?_))
  intro e he
  exact Std.ExtTreeMap.mem_toList_iff_getElem?_eq_some.mp he

end

/-! ## Every part once -/

section
variable (context : StatusContext) (config : StatusConfig)

theorem nodup_keys {α : Type} (m : Std.ExtTreeMap String α) : (m.toList.map Prod.fst).Nodup := by
  rw [List.Nodup, List.pairwise_map]
  refine Std.ExtTreeMap.distinct_keys_toList.imp ?_
  intro e e' hne heq
  exact hne (Std.LawfulEqCmp.compare_eq_iff_eq.mpr heq)

theorem keys_nodup {α : Type} (m : Std.ExtTreeMap String α) : m.keys.Nodup := by
  have hkeys : m.keys = m.toList.map Prod.fst := by simp
  rw [hkeys]
  exact nodup_keys m

theorem nodup_sessions :
    ((buildStatusSnapshot resolved context metadata config).sessions.map (·.sessionId)).Nodup := by
  have hall (active : Option String) : ((sortBy StatusAggregate.compareSessions
      ((statusAggregate resolved metadata).sessionNames.toList.map
        ((statusAggregate resolved metadata).sessionPresentation metadata
          (sessionCategories resolved metadata) active))).map (·.sessionId)).Nodup := by
    rw [((sortBy_perm _).map _).nodup_iff, List.map_map]
    exact nodup_keys _
  cases context with
  | global => exact hall none
  | session sessionId =>
    rw [sessions_restrict, List.map_map]
    exact (hall none).sublist (List.filter_sublist.map _)

theorem nodup_windows :
    ((buildStatusSnapshot resolved context metadata config).windows.map (·.windowId)).Nodup := by
  have hsublist (entries : List (String × WindowStatusAggregate)) :
      ((entries.filterMap ((statusAggregate resolved metadata).windowPresentation metadata
        context.sessionId?)).map (·.windowId)).Sublist (entries.map Prod.fst) := by
    induction entries with
    | nil => exact .refl _
    | cons e entries ih =>
      rw [List.filterMap_cons]
      split
      · exact ih.trans (List.sublist_cons_self _ _)
      · rename_i window hwindow
        rw [List.map_cons, List.map_cons, (windowPresentation_eq hwindow).1]
        exact ih.cons_cons e.1
  change ((sortBy StatusAggregate.compareWindows _).map _).Nodup
  rw [((sortBy_perm _).map _).nodup_iff]
  exact (nodup_keys _).sublist (hsublist _)

theorem nodup_categories :
    ((buildStatusSnapshot resolved context metadata config).categories.map (·.category)).Nodup := by
  change ((sortBy (StatusAggregate.compareCategories config) _).map _).Nodup
  rw [((sortBy_perm _).map _).nodup_iff, List.map_map]
  have hsame : (CategoryStatusPresentation.category ∘
      (statusAggregate resolved metadata).categoryPresentation (sessionCategories resolved metadata)
        (context.sessionId?.map (categoryOf resolved metadata))) = id := rfl
  exact (congrArg (List.Nodup <| List.map · _) hsame).mpr
    (by rw [List.map_id]; exact Maps.nodup_toList_set _)

theorem mem_categories {category : CategoryStatusPresentation}
    (h : category ∈ (buildStatusSnapshot resolved context metadata config).categories) :
    (∀ id, id ∈ category.sessionIds ↔ Known resolved metadata id ∧
      effectiveCategory resolved metadata id = category.category) ∧
    ∀ state, category.counts.of state = resolved.counted
      (fun pane => pane.sessionLinks.any fun link => category.sessionIds.contains link.sessionId)
      state := by
  have hmem := mem_sortBy.mp h
  obtain ⟨name, -, rfl⟩ := List.mem_map.mp hmem
  refine ⟨fun id => ?_, fun state => ?_⟩
  · change id ∈ (sessionCategories resolved metadata).keys.filter _ ↔ _
    rw [List.mem_filter, Std.ExtTreeMap.mem_keys, decide_eq_true_eq, Maps.mem_iff_exists]
    simp only [sessionCategories_eq]
    change (_ ∧ ((sessionCategories resolved metadata)[id]?.getD "") = name) ↔ _ ∧ _ = name
    constructor
    · rintro ⟨⟨category, hknown, hcategory⟩, hname⟩
      rw [sessionCategories_eq.mpr ⟨hknown, rfl⟩] at hname
      exact ⟨hknown, hname⟩
    · rintro ⟨hknown, hname⟩
      refine ⟨⟨_, hknown, rfl⟩, ?_⟩
      rw [sessionCategories_eq.mpr ⟨hknown, rfl⟩]
      exact hname
  · refine of_states (fun p => ?_) state
    refine mem_categoryPanes.trans ?_
    simp only [Std.ExtTreeSet.not_mem_empty, false_or]
    rfl

theorem of_sessions {session : SessionStatusPresentation}
    (h : session ∈ (buildStatusSnapshot resolved context metadata config).sessions)
    (state : BadgeState) :
    session.counts.of state = resolved.counted (·.linked session.sessionId) state := by
  obtain ⟨entry, -, rfl⟩ := mem_sessions context config h
  exact of_countsFor (fun p => mem_sessionPanes resolved metadata) state

theorem of_windows {window : WindowStatusPresentation}
    (h : window ∈ (buildStatusSnapshot resolved context metadata config).windows)
    (state : BadgeState) :
    window.counts.of state = resolved.counted (fun pane => pane.windowId = window.windowId) state := by
  obtain ⟨entry, -, hwindow⟩ := mem_windowPresentations context config h
  obtain ⟨hid, hcounts⟩ := windowPresentation_eq hwindow
  rw [hcounts, hid]
  refine of_countsFor (fun p => ?_) state
  simp only [mem_windowPanes, decide_eq_true_eq]

theorem categories_divide :
    ((buildStatusSnapshot resolved context metadata config).categories.flatMap
      (·.sessionIds)).Nodup ∧
    ∀ id, id ∈ (buildStatusSnapshot resolved context metadata config).categories.flatMap
      (·.sessionIds) ↔ Known resolved metadata id := by
  have hnames : ((buildStatusSnapshot resolved context metadata config).categories.map
      (·.category)).Nodup := nodup_categories context config
  constructor
  · rw [List.nodup_flatMap]
    constructor
    · intro category hcategory
      obtain ⟨name, -, rfl⟩ := List.mem_map.mp (mem_sortBy.mp hcategory)
      exact List.Nodup.filter _ (keys_nodup _)
    · rw [List.Nodup, List.pairwise_map] at hnames
      refine hnames.imp_of_mem ?_
      intro c d hc hd hne id hidc hidd
      have hcategory := ((mem_categories context config hc).1 id).mp hidc
      have hcategory' := ((mem_categories context config hd).1 id).mp hidd
      exact hne (hcategory.2.symm.trans hcategory'.2)
  · intro id
    rw [List.mem_flatMap]
    constructor
    · rintro ⟨category, hcategory, hid⟩
      exact (((mem_categories context config hcategory).1 id).mp hid).1
    · intro hknown
      have hcategory := sessionCategories_eq.mpr ⟨hknown, rfl⟩
      have hname : effectiveCategory resolved metadata id ∈
          (Std.ExtTreeSet.ofList (Maps.values (sessionCategories resolved metadata))).toList := by
        rw [Std.ExtTreeSet.mem_toList, Std.ExtTreeSet.mem_ofList, List.contains_iff_mem]
        exact Maps.mem_values.mpr ⟨id, hcategory⟩
      have hmem : (statusAggregate resolved metadata).categoryPresentation
          (sessionCategories resolved metadata)
            (context.sessionId?.map (categoryOf resolved metadata))
            (effectiveCategory resolved metadata id) ∈
          (buildStatusSnapshot resolved context metadata config).categories :=
        mem_sortBy.mpr (List.mem_map_of_mem hname)
      exact ⟨_, hmem, ((mem_categories context config hmem).1 id).mpr ⟨hknown, rfl⟩⟩

theorem global_complete :
    (∀ pane ∈ resolved.panes, pane.windowId ∈
      (buildStatusSnapshot resolved .global metadata config).windows.map (·.windowId)) ∧
    ∀ id, Known resolved metadata id →
      id ∈ (buildStatusSnapshot resolved .global metadata config).sessions.map (·.sessionId) := by
  constructor
  · intro pane hpane
    obtain ⟨window, hwindow⟩ := Maps.mem_iff_exists.mp
      ((mem_windows resolved metadata).mpr ⟨pane, hpane, rfl⟩)
    obtain ⟨w, hw, hid⟩ : ∃ w, (statusAggregate resolved metadata).windowPresentation metadata none
        (pane.windowId, window) = some w ∧ w.windowId = pane.windowId := ⟨_, rfl, rfl⟩
    refine List.mem_map.mpr ⟨w, mem_sortBy.mpr (List.mem_filterMap.mpr ⟨_, ?_, hw⟩), hid⟩
    exact Std.ExtTreeMap.mem_toList_iff_getElem?_eq_some.mpr hwindow
  · intro id hknown
    obtain ⟨name, hname⟩ := Maps.mem_iff_exists.mp ((mem_sessionNames resolved metadata).mpr hknown)
    have hentry : (id, name) ∈ (statusAggregate resolved metadata).sessionNames.toList :=
      Std.ExtTreeMap.mem_toList_iff_getElem?_eq_some.mpr hname
    exact List.mem_map.mpr ⟨_, mem_sortBy.mpr (List.mem_map_of_mem hentry), rfl⟩

end

end

/-! ## Conservation -/

/-- Each pane is counted once for every part it belongs to, and every known session is in one
category. -/
structure Conserved (resolved : ResolvedSnapshot) (metadata : StatusProjectionMetadata)
    (s : StatusSnapshot) : Prop where
  summary : ∀ state, s.summary.of state = resolved.counted (fun _ => true) state
  windows : (s.windows.map (·.windowId)).Nodup ∧ ∀ window ∈ s.windows, ∀ state,
    window.counts.of state = resolved.counted (fun pane => pane.windowId = window.windowId) state
  sessions : (s.sessions.map (·.sessionId)).Nodup ∧ ∀ session ∈ s.sessions, ∀ state,
    session.counts.of state = resolved.counted (·.linked session.sessionId) state
  categories : (s.categories.map (·.category)).Nodup ∧ ∀ category ∈ s.categories, ∀ state,
    category.counts.of state = resolved.counted
      (fun pane => pane.sessionLinks.any fun link => category.sessionIds.contains link.sessionId)
      state
  divided : (s.categories.flatMap (·.sessionIds)).Nodup ∧
    ∀ id, id ∈ s.categories.flatMap (·.sessionIds) ↔ Known resolved metadata id

/-- The counts are conserved in every context, and the snapshot of a session is the global one
restricted to it, but for the width of the sessions and the order of the windows. -/
theorem status_counts_conserved (resolved : ResolvedSnapshot) (metadata : StatusProjectionMetadata)
    (config : StatusConfig) :
    (∀ context, Conserved resolved metadata (buildStatusSnapshot resolved context metadata config)) ∧
    (∀ pane ∈ resolved.panes, pane.windowId ∈
      (buildStatusSnapshot resolved .global metadata config).windows.map (·.windowId)) ∧
    (∀ id, Known resolved metadata id →
      id ∈ (buildStatusSnapshot resolved .global metadata config).sessions.map (·.sessionId)) ∧
    ∀ sessionId, RestrictsTo sessionId (categoryOf resolved metadata sessionId)
      (buildStatusSnapshot resolved .global metadata config)
      (buildStatusSnapshot resolved (.session sessionId) metadata config) := by
  refine ⟨fun context => ?_, (global_complete config).1, (global_complete config).2,
    fun sessionId => ?_⟩
  · constructor
    · exact of_summary
    · exact ⟨nodup_windows context config, fun window hwindow => of_windows context config hwindow⟩
    · exact ⟨nodup_sessions context config, fun session hsession =>
        of_sessions context config hsession⟩
    · exact ⟨nodup_categories context config, fun category hcategory =>
        (mem_categories context config hcategory).2⟩
    · exact categories_divide context config
  · constructor
    · rfl
    · rfl
    · rfl
    · exact sessions_restrict config sessionId
    · exact windows_restrict config sessionId
    · exact categories_restrict config sessionId

namespace FixedWidth

def resolved : ResolvedSnapshot := ⟨1, [], ∅, ∅, []⟩

def metadata : StatusProjectionMetadata where
  sessions := (∅ : Std.ExtTreeMap String SessionProjectionMetadata).insert "$1"
    ⟨"main", "/src", none, none⟩

def config : StatusConfig := { fixedWidth := true, sessionsDisplayWidth := List.length }

end FixedWidth

/-- With a fixed width only the snapshot of a session has the width of the zone. -/
theorem session_zone_width_differs : ¬∀ resolved metadata config sessionId,
    RestrictsTo sessionId (categoryOf resolved metadata sessionId)
      (buildStatusSnapshot resolved .global metadata config)
      (buildStatusSnapshot resolved (.session sessionId) metadata config) ∧
    (buildStatusSnapshot resolved (.session sessionId) metadata config).sessionZoneWidth =
      (buildStatusSnapshot resolved .global metadata config).sessionZoneWidth := by
  intro hclaim
  have hwidth := (hclaim FixedWidth.resolved FixedWidth.metadata FixedWidth.config "$1").2
  simp [buildStatusSnapshot, StatusContext.sessionId?, FixedWidth.config] at hwidth

end VdeTmux.Daemon
