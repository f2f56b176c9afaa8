import VdeTmux.Sidebar.TreeCategories

/-!
# The panes of a projection

Which panes are in scope, which of them are shown, and what the steps of the projection do to the
groups: none of them loses a pane or doubles one.
-/

open Foundation Foundation.Outline VdeTmux.Pane VdeTmux.Category
namespace VdeTmux.Sidebar

structure GroupsOf (groups : Groups) (panes : List AgentPane) : Prop where
  keyed : ∀ (category : String) (key : RepoKey) (group : List AgentPane),
    groups[(category, key)]? = some group →
      ∀ pane ∈ group, pane.category = category ∧ pane.repoKey = key
  perm : (groupedPanes groups).Perm panes

theorem groupedPanes_perm (groups : Groups) (key : String × String) :
    (groupedPanes groups).Perm (groups[key]?.getD [] ++ groupedPanes (groups.erase key)) := by
  cases hget : groups[key]? with
  | none => rw [Maps.erase_of_none hget, Option.getD_none, List.nil_append]
  | some group => exact (Maps.toList_perm hget).flatMap_right Prod.snd

namespace GroupsOf
variable {groups : Groups} {panes : List AgentPane}

theorem empty : GroupsOf ∅ [] where
  keyed category key group h := by simp at h
  perm := by simp [groupedPanes]

theorem push (h : GroupsOf groups panes) (pane : AgentPane) :
    GroupsOf (groups.insert (pane.category, pane.repoKey)
      (groups[(pane.category, pane.repoKey)]?.getD [] ++ [pane])) (panes ++ [pane]) where
  keyed category key group hget := by
    rw [Maps.getElem?_insert] at hget
    split_ifs at hget with hkey
    · obtain ⟨rfl, rfl⟩ := Prod.mk.inj hkey
      obtain rfl := Option.some_inj.mp hget
      refine List.forall_mem_append.mpr ⟨fun other hother => ?_, by simp⟩
      cases hold : groups[(pane.category, pane.repoKey)]? with
      | none =>
        rw [hold] at hother
        simp at hother
      | some group =>
        rw [hold] at hother
        exact h.keyed _ _ group hold other hother
    · exact h.keyed category key group hget
  perm := by
    have herase : (groups.insert (pane.category, pane.repoKey)
        (groups[(pane.category, pane.repoKey)]?.getD [] ++ [pane])).erase
          (pane.category, pane.repoKey) = groups.erase (pane.category, pane.repoKey) := by
      refine Std.ExtTreeMap.ext_getElem? fun {key} => ?_
      simp only [Maps.getElem?_erase, Maps.getElem?_insert]
      split_ifs <;> rfl
    refine (groupedPanes_perm _ (pane.category, pane.repoKey)).trans ?_
    rw [herase, Std.ExtTreeMap.getElem?_insert_self, Option.getD_some, List.append_assoc]
    refine (List.Perm.append_left _ List.perm_append_comm).trans ?_
    rw [← List.append_assoc]
    exact ((groupedPanes_perm _ _).symm.trans h.perm).append_right _

theorem groupPanes (panes : List AgentPane) : GroupsOf (groupPanes panes) panes := by
  have hfold (more : List AgentPane) (groups : Groups) (panes : List AgentPane)
      (h : GroupsOf groups panes) : GroupsOf (more.foldl (fun groups pane =>
        groups.insert (pane.category, pane.repoKey)
          (groups[(pane.category, pane.repoKey)]?.getD [] ++ [pane])) groups) (panes ++ more) := by
    induction more generalizing groups panes with
    | nil => simpa using h
    | cons pane more ih =>
      have hrest := ih _ _ (h.push pane)
      rwa [List.append_assoc, List.singleton_append] at hrest
  exact hfold panes ∅ [] empty

theorem filterCategory (h : GroupsOf groups panes) (p : String → Bool) :
    GroupsOf (groups.filter fun key _ => p key.1) (panes.filter fun pane => p pane.category) where
  keyed category key group hget :=
    h.keyed category key group (Maps.getElem?_filter_eq_some.mp hget).1
  perm := by
    refine List.Perm.trans (List.Perm.of_eq ?_) (h.perm.filter _)
    rw [groupedPanes, groupedPanes, Std.ExtTreeMap.toList_filter, List.filter_flatMap]
    have hentries : ∀ entry ∈ groups.toList, ∀ pane ∈ entry.2, pane.category = entry.1.1 := by
      rintro ⟨⟨category, key⟩, group⟩ hentry pane hpane
      exact (h.keyed category key group
        (Std.ExtTreeMap.mem_toList_iff_getElem?_eq_some.mp hentry) pane hpane).1
    generalize groups.toList = entries at hentries
    induction entries with
    | nil => rfl
    | cons entry entries ih =>
      obtain ⟨hentry, hrest⟩ := List.forall_mem_cons.mp hentries
      rw [List.flatMap_cons, ← ih hrest]
      by_cases hp : p entry.1.1 = true
      · have hall : entry.2.filter (fun pane => p pane.category) = entry.2 :=
          List.filter_eq_self.mpr fun pane hpane => by rwa [hentry pane hpane]
        have hkeep : (entry :: entries).filter (fun e => p e.1.1) =
            entry :: entries.filter fun e => p e.1.1 := List.filter_cons_of_pos hp
        rw [hall, hkeep, List.flatMap_cons]
      · have hnone : entry.2.filter (fun pane => p pane.category) = [] :=
          List.filter_eq_nil_iff.mpr fun pane hpane => by rwa [hentry pane hpane]
        have hdrop : (entry :: entries).filter (fun e => p e.1.1) =
            entries.filter fun e => p e.1.1 := List.filter_cons_of_neg hp
        rw [hnone, hdrop, List.nil_append]

theorem mapPerm (h : GroupsOf groups panes) {f : List AgentPane → List AgentPane}
    (hf : ∀ group, (f group).Perm group) : GroupsOf (groups.map fun _ group => f group) panes where
  keyed category key group hget pane hpane := by
    rw [Std.ExtTreeMap.getElem?_map] at hget
    obtain ⟨old, hold, rfl⟩ := Option.map_eq_some_iff.mp hget
    exact h.keyed category key old hold pane ((hf old).mem_iff.mp hpane)
  perm := by
    refine List.Perm.trans ?_ h.perm
    rw [groupedPanes, groupedPanes, Std.ExtTreeMap.toList_map, List.flatMap_map]
    exact List.Perm.flatMap_left _ fun entry _ => hf entry.2

theorem keepPanes (h : GroupsOf groups panes) (p : AgentPane → Bool) :
    GroupsOf (keepPanes p groups) (panes.filter p) where
  keyed category key group hget pane hpane := by
    rw [Sidebar.keepPanes, Std.ExtTreeMap.getElem?_map] at hget
    obtain ⟨old, hold, rfl⟩ := Option.map_eq_some_iff.mp hget
    exact h.keyed category key old hold pane (List.mem_filter.mp hpane).1
  perm := by
    refine List.Perm.trans (List.Perm.of_eq ?_) (h.perm.filter p)
    rw [groupedPanes, groupedPanes, Sidebar.keepPanes, Std.ExtTreeMap.toList_map,
      List.flatMap_map, List.filter_flatMap]

theorem dropEmpty (h : GroupsOf groups panes) :
    GroupsOf (dropEmpty groups) panes ∧ Keyed (dropEmpty groups) := by
  have hget (category : String) (key : RepoKey) (group : List AgentPane)
      (hg : (Sidebar.dropEmpty groups)[(category, key)]? = some group) :
      groups[(category, key)]? = some group ∧ group ≠ [] := by
    obtain ⟨hold, hne⟩ := Maps.getElem?_filter_eq_some.mp hg
    exact ⟨hold, by simpa using hne⟩
  refine ⟨⟨fun category key group hg => h.keyed category key group (hget _ _ _ hg).1, ?_⟩,
    fun category key group hg => ⟨(hget _ _ _ hg).2, h.keyed _ _ _ (hget _ _ _ hg).1⟩⟩
  refine List.Perm.trans (List.Perm.of_eq ?_) h.perm
  rw [groupedPanes, groupedPanes, Sidebar.dropEmpty, Std.ExtTreeMap.toList_filter]
  induction groups.toList with
  | nil => rfl
  | cons entry entries ih =>
    rw [List.flatMap_cons, ← ih]
    by_cases hne : entry.2 = []
    · have hdrop : (entry :: entries).filter (fun e => decide (e.2 ≠ [])) =
          entries.filter fun e => decide (e.2 ≠ []) := List.filter_cons_of_neg (by simp [hne])
      rw [hdrop, hne, List.nil_append]
    · have hkeep : (entry :: entries).filter (fun e => decide (e.2 ≠ [])) =
          entry :: entries.filter fun e => decide (e.2 ≠ []) :=
        List.filter_cons_of_pos (by simpa using hne)
      rw [hkeep, List.flatMap_cons]

theorem exists_group (h : GroupsOf groups panes) {pane : AgentPane} :
    pane ∈ panes ↔ ∃ group, groups[(pane.category, pane.repoKey)]? = some group ∧ pane ∈ group := by
  rw [← h.perm.mem_iff, groupedPanes, List.mem_flatMap]
  constructor
  · rintro ⟨⟨⟨category, key⟩, group⟩, hentry, hpane⟩
    have hget := Std.ExtTreeMap.mem_toList_iff_getElem?_eq_some.mp hentry
    obtain ⟨rfl, rfl⟩ := h.keyed category key group hget pane hpane
    exact ⟨group, hget, hpane⟩
  · rintro ⟨group, hget, hpane⟩
    exact ⟨_, Std.ExtTreeMap.mem_toList_iff_getElem?_eq_some.mpr hget, hpane⟩

end GroupsOf

section Presentations
variable [Sha256] {panes : List PanePresentation} {state : SidebarState}
  {order : SidebarPreferences} {ctx : RowBuildContext}

def inScope (state : SidebarState) (pane : AgentPane) : Bool :=
  state.categoryScope = .all || state.currentCategory = some pane.category

def scopedPanes (panes : List PanePresentation) (state : SidebarState) (order : SidebarPreferences)
    (ctx : RowBuildContext) : List AgentPane := (agentPanes panes order ctx).filter (inScope state)

def shownPanes (panes : List PanePresentation) (state : SidebarState) (order : SidebarPreferences)
    (ctx : RowBuildContext) : List AgentPane :=
  (scopedPanes panes state order ctx).filter (·.matchesFilter state.filter)

variable (panes state order ctx) in
theorem scopedGroups_of : GroupsOf
    (scopedGroups (groupPanes (agentPanes panes order ctx)) state order)
    (scopedPanes panes state order ctx) := by
  have hgroups := GroupsOf.groupPanes (agentPanes panes order ctx)
  refine GroupsOf.mapPerm ?_ fun group => orderAgentPanes_perm group order
  split_ifs with hscope
  · have hfilter := hgroups.filterCategory fun category => state.currentCategory = some category
    have hsame : scopedPanes panes state order ctx = (agentPanes panes order ctx).filter
        fun pane => decide (state.currentCategory = some pane.category) :=
      List.filter_congr fun pane _ => by simp [inScope, hscope]
    rwa [hsame]
  · have hall : state.categoryScope = .all := by
      cases hvalue : state.categoryScope with
      | current => exact absurd hvalue hscope
      | all => rfl
    have hsame : scopedPanes panes state order ctx = agentPanes panes order ctx :=
      List.filter_eq_self.mpr fun pane _ => by simp [inScope, hall]
    rwa [hsame]

theorem mem_agentPanes {pane : AgentPane} (h : pane ∈ agentPanes panes order ctx) :
    ∃ presentation ∈ panes, pane.paneInstance = presentation.paneInstance ∧
      pane.category = ctx.category pane.repoKey := by
  obtain ⟨presentation, hmem, hpane⟩ := List.mem_filterMap.mp h
  obtain ⟨resolved, -, rfl⟩ := Option.map_eq_some_iff.mp hpane
  exact ⟨presentation, hmem, rfl, rfl⟩

theorem nodup_agentPanes (h : (panes.map (·.paneInstance)).Nodup) :
    ((agentPanes panes order ctx).map (·.paneInstance)).Nodup := by
  have hsub : ((agentPanes panes order ctx).map (·.paneInstance)).Sublist
      (panes.map (·.paneInstance)) := by
    rw [agentPanes, List.map_filterMap]
    clear h
    induction panes with
    | nil => exact List.Sublist.refl _
    | cons pane panes ih =>
      rw [List.filterMap_cons, List.map_cons]
      cases pane.resolved with
      | none => exact ih.cons _
      | some resolved => exact ih.cons_cons _
  exact h.sublist hsub

variable (state order ctx) in
theorem nodup_shownPanes (h : (panes.map (·.paneInstance)).Nodup) :
    ((shownPanes panes state order ctx).map (·.paneInstance)).Nodup :=
  (nodup_agentPanes h).sublist
    ((List.filter_sublist.trans List.filter_sublist).map _)

def triagePanes (panes : List PanePresentation) (state : SidebarState) (order : SidebarPreferences)
    (ctx : RowBuildContext) : List AgentPane :=
  (orderAgentPanes ((groupedPanes (scopedGroups (groupPanes (agentPanes panes order ctx)) state
    order)).filter (inTriage ctx)) order).filter (·.matchesFilter state.filter)

def fleetGroups (panes : List PanePresentation) (state : SidebarState) (order : SidebarPreferences)
    (ctx : RowBuildContext) : Groups :=
  dropEmpty (keepPanes (·.matchesFilter state.filter) (keepPanes (!inTriage ctx ·)
    (scopedGroups (groupPanes (agentPanes panes order ctx)) state order)))

theorem triagePanes_perm : (triagePanes panes state order ctx).Perm
    ((shownPanes panes state order ctx).filter (inTriage ctx)) := by
  have hscoped := (scopedGroups_of panes state order ctx).perm
  refine ((orderAgentPanes_perm _ order).filter _).trans ?_
  refine ((hscoped.filter _).filter _).trans (List.Perm.of_eq ?_)
  rw [shownPanes, List.filter_filter, List.filter_filter]
  exact List.filter_congr fun pane _ => Bool.and_comm ..

variable (panes state order ctx) in
theorem fleetGroups_of : GroupsOf (fleetGroups panes state order ctx)
      ((shownPanes panes state order ctx).filter (!inTriage ctx ·)) ∧
    Keyed (fleetGroups panes state order ctx) := by
  have hkept := ((scopedGroups_of panes state order ctx).keepPanes (!inTriage ctx ·)).keepPanes (·.matchesFilter state.filter)
  have hsame : ((scopedPanes panes state order ctx).filter (!inTriage ctx ·)).filter
      (·.matchesFilter state.filter) =
      (shownPanes panes state order ctx).filter (!inTriage ctx ·) := by
    rw [shownPanes, List.filter_filter, List.filter_filter]
    exact List.filter_congr fun pane _ => Bool.and_comm ..
  rw [hsame] at hkept
  exact hkept.dropEmpty

theorem split_shown : ((shownPanes panes state order ctx).filter (inTriage ctx) ++
    (shownPanes panes state order ctx).filter (!inTriage ctx ·)).Perm
      (shownPanes panes state order ctx) := List.filter_append_perm _ _

end Presentations

end VdeTmux.Sidebar
