import Mathlib.Data.List.Count
import VdeTmux.Sidebar.TreePanes

/-!
# Every pane once

What the rows of a projection say of the panes in scope: each shown pane has one chat row, zones,
repositories and categories count what is under them, and the badge counts are those of the panes in
scope. The ids of the rows are distinct as long as no pinned repository is placed in a category of
the model and no two repositories have the same id.
-/

open Foundation Foundation.Outline VdeTmux.Pane VdeTmux.Category
namespace VdeTmux.Sidebar

/-! ## Badge counts -/

theorem push_counts (counts : BadgeCounts) (pane : AgentPane) : counts.push pane =
    ⟨counts.needsAction + pane.matchesAttentionFilter.toNat, counts.total + 1,
      counts.blocked + (decide (pane.badgeState = .blocked)).toNat,
      counts.limited + (decide (pane.badgeState = .limited)).toNat,
      counts.working + (decide (pane.badgeState = .working)).toNat,
      counts.done + (decide (pane.badgeState = .done)).toNat,
      counts.unknown + (decide (pane.badgeState = .unknown)).toNat,
      counts.idle + (decide (pane.badgeState = .idle)).toNat⟩ := by
  unfold BadgeCounts.push
  cases pane.badgeState <;> rfl

theorem foldl_push_comm (counts : BadgeCounts) (left right : AgentPane) :
    (counts.push left).push right = (counts.push right).push left := by
  rw [push_counts, push_counts, push_counts, push_counts, BadgeCounts.mk.injEq]
  exact ⟨Nat.add_right_comm .., rfl, Nat.add_right_comm .., Nat.add_right_comm ..,
    Nat.add_right_comm .., Nat.add_right_comm .., Nat.add_right_comm .., Nat.add_right_comm ..⟩

theorem badgeCounts_perm {panes panes' : List AgentPane} (h : panes.Perm panes') :
    badgeCountsFromAgentPanes panes = badgeCountsFromAgentPanes panes' :=
  h.foldl_eq' (fun left _ right _ counts => foldl_push_comm counts left right) {}

def BadgeCounts.states (counts : BadgeCounts) : ℕ :=
  counts.blocked + counts.limited + counts.working + counts.done + counts.unknown + counts.idle

theorem states_eq_total (panes : List AgentPane) :
    (badgeCountsFromAgentPanes panes).states = (badgeCountsFromAgentPanes panes).total := by
  have hfold (counts : BadgeCounts) (h : counts.states = counts.total) :
      (panes.foldl BadgeCounts.push counts).states =
        (panes.foldl BadgeCounts.push counts).total := by
    induction panes generalizing counts with
    | nil => exact h
    | cons pane panes ih =>
      refine ih _ ?_
      rw [push_counts]
      simp only [BadgeCounts.states] at h ⊢
      cases pane.badgeState <;> simp <;> omega
  exact hfold {} rfl

/-! ## What the rows account for -/

/-- The rows of a zone: those up to the next zone, and for the triage zone its own section. -/
def zoneRows (zone : SidebarRow) (rest : List SidebarRow) : List SidebarRow :=
  if zone.id = triageZoneId then below SidebarRow.depth zone rest
  else rest.takeWhile fun row => row.kind ≠ .zone

structure Accounts (shown : List AgentPane) (rows : List SidebarRow) : Prop where
  once : ∀ pane, (rows.countP fun row => row.kind = .chat ∧ row.id = chatRowId pane) =
    if pane ∈ shown.map (·.paneInstance) then 1 else 0
  only : ∀ row ∈ rows, row.kind = .chat → ∃ pane ∈ shown, row.id = chatRowId pane.paneInstance
  zones : Each (fun row rest => row.kind = .zone →
    row.chatCount = (zoneRows row rest).countP isChat) rows
  repos : Each (fun row rest => row.kind = .repo →
    row.chatCount = (below SidebarRow.depth row rest).countP isChat) rows
  categories : Each (fun row rest => row.kind = .category →
    row.chatCount = (((below SidebarRow.depth row rest).filter (·.kind = .repo)).map
      (·.chatCount)).sum) rows

section Accounts
variable {depth : ℕ} {heads rows : List SidebarRow} {panes shown : List AgentPane}

theorem Outlined.once (h : Outlined depth heads panes rows)
    (hpanes : (panes.map (·.paneInstance)).Nodup) (pane : PaneInstance) :
    (rows.countP fun row => row.kind = .chat ∧ row.id = chatRowId pane) =
      if pane ∈ panes.map (·.paneInstance) then 1 else 0 := by
  have hcount : (rows.countP fun row => row.kind = .chat ∧ row.id = chatRowId pane) =
      ((rows.filter isChat).map (·.id)).count (chatRowId pane) := by
    rw [List.count, List.countP_map, List.countP_filter]
    refine List.countP_congr fun row _ => ?_
    simp [isChat, and_comm]
  have hids : (panes.map fun pane => chatRowId pane.paneInstance) =
      (panes.map (·.paneInstance)).map chatRowId := by
    rw [List.map_map]
    rfl
  rw [hcount, h.chats.count_eq, hids, List.count_map_of_injective _ _ chatRowId_injective,
    hpanes.count]

theorem Outlined.only (h : Outlined depth heads panes rows) {row : SidebarRow} (hrow : row ∈ rows)
    (hkind : row.kind = .chat) : ∃ pane ∈ panes, row.id = chatRowId pane.paneInstance := by
  have hmem : row.id ∈ (rows.filter isChat).map (·.id) :=
    List.mem_map_of_mem (List.mem_filter.mpr ⟨hrow, by simp [isChat, hkind]⟩)
  obtain ⟨pane, hpane, hid⟩ := List.mem_map.mp (h.chats.mem_iff.mp hmem)
  exact ⟨pane, hpane, hid.symm⟩

theorem Outlined.accounts (h : Outlined depth heads panes rows)
    (hpanes : (panes.map (·.paneInstance)).Nodup) (hshown : panes.Perm shown)
    (hzones : Each (fun row rest => row.kind = .zone →
      zoneRows row rest = below SidebarRow.depth row rest) rows) : Accounts shown rows where
  once pane := by
    rw [h.once hpanes, if_congr (hshown.map _).mem_iff rfl rfl]
  only row hrow hkind := by
    obtain ⟨pane, hpane, hid⟩ := h.only hrow hkind
    exact ⟨pane, hshown.mem_iff.mp hpane, hid⟩
  zones := by
    have hcounted := h.counted
    clear h
    induction rows with
    | nil => exact trivial
    | cons row rest ih =>
      refine ⟨fun hkind => ?_, ih hzones.2 hcounted.2⟩
      have hrow : Counted row (below SidebarRow.depth row rest) := hcounted.1
      rw [Counted, hkind] at hrow
      rw [hzones.1 hkind]
      exact hrow
  repos := h.counted.imp_of_mem fun row rest _ hrow hkind => by
    rw [Counted, hkind] at hrow
    exact hrow
  categories := h.counted.imp_of_mem fun row rest _ hrow hkind => by
    rw [Counted, hkind] at hrow
    exact hrow

theorem zones_of_triage (h : Outlined depth heads panes rows)
    (hheads : ∀ head ∈ heads, head.kind = .zone → head.id = triageZoneId) :
    Each (fun row rest => row.kind = .zone →
      zoneRows row rest = below SidebarRow.depth row rest) rows := by
  refine each_of_forall fun row hrow rest hkind => ?_
  obtain ⟨blocks, -, hblocks, hrows⟩ := h.blocks
  rcases List.mem_append.mp (hrows.mem_iff.mp hrow) with hhead | hblock
  · rw [zoneRows, if_pos (hheads row hhead hkind)]
  · obtain ⟨block, hmem, hrow⟩ := List.mem_flatMap.mp hblock
    obtain ⟨d, hisBlock⟩ := hblocks block hmem
    rcases hisBlock.kind hrow with heq | heq
    · cases hkind.symm.trans heq
    · cases hkind.symm.trans heq

theorem zones_of_depth (h : ∀ row ∈ rows, row.kind = .zone ↔ row.depth = 0) :
    Each (fun row rest => row.kind = .zone →
      zoneRows row rest = below SidebarRow.depth row rest) rows := by
  have hall : Each (fun _ _ => True) rows := each_of_forall fun _ _ _ => trivial
  refine hall.imp_of_mem fun row rest hmem _ hkind => ?_
  unfold zoneRows
  split_ifs
  · rfl
  · have hdepth := (h row (hmem row List.mem_cons_self)).mp hkind
    unfold below
    have hrest : ∀ r ∈ rest, decide (r.kind ≠ .zone) = decide (row.depth < r.depth) := by
      intro r hr
      have hr := h r (hmem r (List.mem_cons_of_mem row hr))
      rw [hdepth, decide_eq_decide, Nat.pos_iff_ne_zero, ne_eq, ne_eq, hr]
    clear hmem
    induction rest with
    | nil => rfl
    | cons r rest ih =>
      obtain ⟨hr, hrest⟩ := List.forall_mem_cons.mp hrest
      rw [List.takeWhile_cons, List.takeWhile_cons, hr, ih hrest]

end Accounts

theorem priority_zones (groups : Groups) (state : SidebarState) (order : SidebarPreferences)
    (now : ℤ) : ∀ row ∈ priorityRows groups state order now, row.kind = .zone ↔ row.depth = 0 := by
  intro row hrow
  obtain ⟨s, -, hrow⟩ := List.mem_flatMap.mp hrow
  unfold PrioritySection.rows at hrow
  split_ifs at hrow
  · exact absurd hrow List.not_mem_nil
  · rcases List.mem_cons.mp hrow with rfl | hrow
    · exact iff_of_true rfl rfl
    · obtain ⟨pane, -, hrow⟩ := List.mem_flatMap.mp hrow
      have hblock : IsBlock pane 1 (pane.priorityChatRows state now) :=
        priorityChatRows_isBlock state now
      have hdeep := hblock.from.deep row hrow
      refine iff_of_false ?_ (by omega)
      rcases hblock.kind hrow with hkind | hkind
      · simp [hkind]
      · simp [hkind]

/-! ## The repositories of the tree -/

/-- Heads of the tree: no zones, and ids of repositories or categories. -/
structure TreeHeads (heads : List SidebarRow) : Prop where
  kind : ∀ head ∈ heads, head.kind ≠ .zone
  mark : ∀ head ∈ heads, idMark head.id ≠ ['z', 'o']

theorem treeHeads_repos {rows : List SidebarRow} {ids : List (String × RepoKey)}
    (h : ((repoHeads rows).map (·.id)).Perm (ids.map fun id => repoId id.1 id.2)) :
    TreeHeads (repoHeads rows) where
  kind head hhead := by
    have hkind : head.kind = .repo := by simpa using (List.mem_filter.mp hhead).2
    simp [hkind]
  mark head hhead := by
    obtain ⟨id, -, hid⟩ := List.mem_map.mp (h.mem_iff.mp (List.mem_map_of_mem hhead))
    rw [← hid, idMark_repo]
    decide

section Tree
variable {state : SidebarState} {ctx : RowBuildContext} {groups : Groups} {metas : GroupMetas}

def groupKeys (groups : Groups) : List (String × RepoKey) := groups.toList.map Prod.fst

theorem mem_groupKeys {category : String} {key : RepoKey} : (category, key) ∈ groupKeys groups ↔
    ∃ group : List AgentPane, groups[(category, key)]? = some group := by
  simp only [groupKeys, List.mem_map, Prod.exists, Std.ExtTreeMap.mem_toList_iff_getElem?_eq_some]
  constructor
  · rintro ⟨_, _, group, h, heq⟩
    obtain ⟨rfl, rfl⟩ := Prod.mk.inj heq
    exact ⟨group, h⟩
  · rintro ⟨group, h⟩
    exact ⟨category, key, group, h, rfl⟩

variable (ctx metas) in
theorem keyedMap_outlined (hkeyed : Keyed groups) (hexpanded : Expanded state) :
    Outlined 0 (repoHeads (repoRowsFromKeyedMap state ctx 0 metas groups)) (groupedPanes groups)
        (repoRowsFromKeyedMap state ctx 0 metas groups) ∧
      ((repoHeads (repoRowsFromKeyedMap state ctx 0 metas groups)).map (·.id)).Perm
        ((groupKeys groups).map fun id => repoId id.1 id.2) := by
  have hperm : (orderRepoGroups (groups.toList.map Prod.snd) ctx.categoryState).Perm
      (groups.toList.map Prod.snd) := sortBy_perm _
  have hentry : ∀ entry ∈ groups.toList, entry.2 ≠ [] ∧
      groupId entry.2 = repoId entry.1.1 entry.1.2 := by
    rintro ⟨⟨category, key⟩, group⟩ hmem
    obtain ⟨hne, hgroup⟩ := hkeyed category key group
      (Std.ExtTreeMap.mem_toList_iff_getElem?_eq_some.mp hmem)
    obtain ⟨first, hfirst, hin⟩ := exists_head hne
    obtain ⟨hcategory, hkey⟩ := hgroup first hin
    refine ⟨hne, ?_⟩
    rw [groupId, hfirst, Option.map_some, Option.getD_some, hcategory, hkey]
  have hne : ∀ panes ∈ orderRepoGroups (groups.toList.map Prod.snd) ctx.categoryState,
      panes ≠ [] := by
    intro panes hpanes
    obtain ⟨entry, hmem, rfl⟩ := List.mem_map.mp (hperm.mem_iff.mp hpanes)
    exact (hentry entry hmem).1
  obtain ⟨hstretch, hids⟩ := groups_stretch ctx 0 metas hexpanded hne
  constructor
  · refine hstretch.outlined.perm (List.Perm.refl _) ?_
    have hflatten := hperm.flatten
    rwa [← List.flatMap_def] at hflatten
  · have hgroups := hperm.map groupId
    rw [List.map_map] at hgroups
    refine (List.Perm.of_eq hids).trans (hgroups.trans (List.Perm.of_eq ?_))
    rw [groupKeys, List.map_map]
    exact List.map_congr_left fun entry hmem => (hentry entry hmem).2

def orderedCategories (state : SidebarState) (ctx : RowBuildContext) (groups : Groups) :
    List (String × RepoGroups) :=
  sortBy (compareCategories ctx) (shownCategories state ctx groups).toList

def treeRepos (state : SidebarState) (ctx : RowBuildContext) (groups : Groups) :
    List (String × RepoKey) :=
  (orderedCategories state ctx groups).flatMap fun entry =>
    (shownRepos state ctx entry).map fun repo => (entry.1, repo)

def categoryHeads (state : SidebarState) (ctx : RowBuildContext) (metas : GroupMetas)
    (groups : Groups) : List SidebarRow :=
  (orderedCategories state ctx groups).flatMap fun entry =>
    categoryRow state ctx metas entry.1 entry.2 :: repoHeads (categoryBody state ctx metas entry)

theorem mem_orderedCategories {category : String} {repos : RepoGroups} :
    (category, repos) ∈ orderedCategories state ctx groups ↔
      (shownCategories state ctx groups)[category]? = some repos := by
  rw [orderedCategories, mem_sortBy, Std.ExtTreeMap.mem_toList_iff_getElem?_eq_some]

theorem keyedIn_of_mem (hkeyed : Keyed groups) {entry : String × RepoGroups}
    (h : entry ∈ orderedCategories state ctx groups) : KeyedIn entry.1 entry.2 :=
  (shownCategories_nests state ctx groups).keyedIn hkeyed (mem_orderedCategories.mp h)

theorem categories_outlined (hkeyed : Keyed groups) (hexpanded : Expanded state) :
    Outlined 0 (categoryHeads state ctx metas groups) (groupedPanes groups)
      (categoryRows state ctx groups metas) := by
  have hflat : Outlined 0 (categoryHeads state ctx metas groups)
      ((orderedCategories state ctx groups).flatMap fun entry => repoPanes entry.2)
      (categoryRows state ctx groups metas) := Outlined.flatMap fun entry hentry =>
    (categoryGroup_outlined (keyedIn_of_mem hkeyed hentry) hexpanded).2
  refine hflat.perm (List.Perm.refl _) ?_
  exact ((sortBy_perm _).flatMap_right _).trans (shownCategories_nests state ctx groups).panes_perm

theorem categoryHeads_ids (hkeyed : Keyed groups) (hexpanded : Expanded state) :
    ((categoryHeads state ctx metas groups).map (·.id)).Perm
      ((orderedCategories state ctx groups).map (fun entry => categoryId entry.1) ++
        (treeRepos state ctx groups).map fun id => repoId id.1 id.2) := by
  have hall : ∀ entry ∈ orderedCategories state ctx groups,
      ((repoHeads (categoryBody state ctx metas entry)).map (·.id)).Perm
        ((shownRepos state ctx entry).map (repoId entry.1)) := fun entry hentry =>
    (merged_spec ctx metas (keyedIn_of_mem hkeyed hentry) hexpanded).2
  rw [categoryHeads, treeRepos]
  generalize orderedCategories state ctx groups = entries at hall
  induction entries with
  | nil => exact List.Perm.refl _
  | cons entry entries ih =>
    obtain ⟨hentry, hrest⟩ := List.forall_mem_cons.mp hall
    simp only [List.flatMap_cons, List.map_append, List.map_cons, List.cons_append, List.map_map]
    refine List.Perm.cons _ ((hentry.append (ih hrest)).trans ?_)
    rw [← List.append_assoc, ← List.append_assoc]
    exact List.perm_append_comm.append_right _

variable (ctx metas) in
theorem treeHeads_categories (hkeyed : Keyed groups) (hexpanded : Expanded state) :
    TreeHeads (categoryHeads state ctx metas groups) where
  kind head hhead := by
    obtain ⟨entry, hentry, hhead⟩ := List.mem_flatMap.mp hhead
    rcases List.mem_cons.mp hhead with rfl | hhead
    · exact SidebarRowKind.noConfusion
    · have hkind : head.kind = .repo := by simpa using (List.mem_filter.mp hhead).2
      simp [hkind]
  mark head hhead := by
    have hid := (categoryHeads_ids hkeyed hexpanded).mem_iff.mp (List.mem_map_of_mem hhead)
    rcases List.mem_append.mp hid with hid | hid
    · obtain ⟨entry, -, hid⟩ := List.mem_map.mp hid
      rw [← hid, idMark_category]
      decide
    · obtain ⟨id, -, hid⟩ := List.mem_map.mp hid
      rw [← hid, idMark_repo]
      decide

theorem categoryHeads_nodup (hkeyed : Keyed groups) (hexpanded : Expanded state) :
    ((categoryHeads state ctx metas groups).map (·.id)).Nodup ↔
      ((treeRepos state ctx groups).map fun id => repoId id.1 id.2).Nodup := by
  rw [(categoryHeads_ids hkeyed hexpanded).nodup_iff, List.nodup_append]
  refine ⟨fun h => h.2.1, fun h => ⟨?_, h, ?_⟩⟩
  · have hnames : ((orderedCategories state ctx groups).map Prod.fst).Nodup :=
      ((sortBy_perm _).map _).nodup_iff.mpr (Maps.nodup_keys _)
    have hids := hnames.map categoryId_injective
    rwa [List.map_map] at hids
  · rintro id hid id' hid' rfl
    obtain ⟨entry, -, rfl⟩ := List.mem_map.mp hid
    obtain ⟨repo, -, heq⟩ := List.mem_map.mp hid'
    have hmark := congrArg idMark heq
    rw [idMark_repo, idMark_category] at hmark
    exact absurd hmark (by decide)

theorem mem_treeRepos {category : String} {repo : RepoKey} :
    (category, repo) ∈ treeRepos state ctx groups ↔
      (category, repo) ∈ groupKeys groups ∨
        state.filter = .all ∧ category ∈ categoryNames ctx ∧
          ∃ placement, ctx.categories.placements[repo]? = some placement ∧
            placement.category = category := by
  have hnests := shownCategories_nests state ctx groups
  have hplaced (name : String) : repo ∈ ctx.categories.orderedRepos ctx.categoryState name ↔
      ∃ placement, ctx.categories.placements[repo]? = some placement ∧ placement.category = name :=
    EffectiveCategoryModel.mem_orderedRepos.trans EffectiveCategoryModel.mem_members
  have hkeys (repos : RepoGroups)
      (hrepos : (shownCategories state ctx groups)[category]? = some repos) :
      repo ∈ repos.keys ↔ (category, repo) ∈ groupKeys groups := by
    have hlookup := hnests category repo
    rw [lookupGroup, hrepos, Option.getD_some] at hlookup
    rw [Std.ExtTreeMap.mem_keys, Maps.mem_iff_exists, hlookup, mem_groupKeys]
  simp only [treeRepos, List.mem_flatMap, List.mem_map, Prod.mk.injEq, Prod.exists,
    exists_eq_right_right, mem_orderedCategories, shownRepos, List.mem_append]
  constructor
  · rintro ⟨name, repos, hrepos, hmem, rfl⟩
    rcases hmem with hmem | hmem
    · exact Or.inl ((hkeys repos hrepos).mp hmem)
    · rw [addedRepos] at hmem
      split_ifs at hmem with hall
      · exact Or.inr ⟨hall.1, hall.2, (hplaced name).mp (List.mem_filter.mp hmem).1⟩
      · exact absurd hmem List.not_mem_nil
  · rintro (hgroup | ⟨hfilter, hname, hplacement⟩)
    · obtain ⟨group, hgroup'⟩ := mem_groupKeys.mp hgroup
      have hlookup := (hnests category repo).trans hgroup'
      cases hrepos : (shownCategories state ctx groups)[category]? with
      | none =>
        rw [lookupGroup, hrepos] at hlookup
        simp at hlookup
      | some repos =>
        exact ⟨category, repos, hrepos, Or.inl ((hkeys repos hrepos).mpr hgroup), rfl⟩
    · obtain ⟨repos, hrepos⟩ :=
        Maps.mem_iff_exists.mp (mem_shownCategories_of_name groups hfilter hname)
      refine ⟨category, repos, hrepos, ?_, rfl⟩
      by_cases hmem : repo ∈ repos.keys
      · exact Or.inl hmem
      · refine Or.inr ?_
        rw [addedRepos, if_pos ⟨hfilter, hname⟩]
        refine List.mem_filter.mpr ⟨(hplaced category).mpr hplacement, ?_⟩
        have hnone : repos[repo]? = none := by
          rw [Std.ExtTreeMap.getElem?_eq_none]
          rwa [Std.ExtTreeMap.mem_keys] at hmem
        simp [hnone]

theorem nodup_treeRepos : (treeRepos state ctx groups).Nodup ↔
    (state.filter = .all → ∀ (category : String) (repo : RepoKey) (group : List AgentPane),
      groups[(category, repo)]? = some group → hasPin group = true → category ∈ categoryNames ctx →
        repo ∉ ctx.categories.orderedRepos ctx.categoryState category) := by
  have hnests := shownCategories_nests state ctx groups
  have hsections : (treeRepos state ctx groups).Nodup ↔
      ∀ entry ∈ orderedCategories state ctx groups, (shownRepos state ctx entry).Nodup := by
    rw [treeRepos, List.nodup_flatMap]
    constructor
    · intro h entry hentry
      exact (h.1 entry hentry).of_map _
    · intro h
      refine ⟨fun entry hentry => (h entry hentry).map (Prod.mk_right_injective _), ?_⟩
      have hnames : ((orderedCategories state ctx groups).map Prod.fst).Nodup :=
        ((sortBy_perm _).map _).nodup_iff.mpr (Maps.nodup_keys _)
      refine (List.pairwise_map.mp hnames).imp fun {entry entry'} hne x hx hx' => ?_
      obtain ⟨repo, -, rfl⟩ := List.mem_map.mp hx
      obtain ⟨repo', -, heq⟩ := List.mem_map.mp hx'
      exact hne (Prod.ext_iff.mp heq).1.symm
  have hadded (entry : String × RepoGroups) : (shownRepos state ctx entry).Nodup ↔
      ∀ repo ∈ entry.2.keys, repo ∉ addedRepos state ctx entry.1 entry.2 := by
    have hnodup : (addedRepos state ctx entry.1 entry.2).Nodup := by
      unfold addedRepos
      split_ifs
      · exact (EffectiveCategoryModel.nodup_orderedRepos _ _ _).filter _
      · exact List.nodup_nil
    rw [shownRepos, List.nodup_append]
    constructor
    · intro h repo hrepo hmem
      exact h.2.2 repo hrepo repo hmem rfl
    · intro h
      refine ⟨Std.ExtTreeMap.nodup_keys, hnodup, ?_⟩
      rintro repo hrepo _ hmem rfl
      exact h repo hrepo hmem
  rw [hsections]
  constructor
  · intro h hfilter category repo group hgroup hpin hname hordered
    obtain ⟨repos, hrepos⟩ :=
      Maps.mem_iff_exists.mp (mem_shownCategories_of_name groups hfilter hname)
    have hlookup := (hnests category repo).trans hgroup
    rw [lookupGroup, hrepos, Option.getD_some] at hlookup
    refine (hadded (category, repos)).mp (h _ (mem_orderedCategories.mpr hrepos)) repo ?_ ?_
    · exact Std.ExtTreeMap.mem_keys.mpr (Maps.mem_iff_exists.mpr ⟨group, hlookup⟩)
    · rw [addedRepos, if_pos ⟨hfilter, hname⟩]
      refine List.mem_filter.mpr ⟨hordered, ?_⟩
      simp [hlookup, hpin]
  · intro h entry hentry
    obtain ⟨category, repos⟩ := entry
    have hrepos := mem_orderedCategories.mp hentry
    refine (hadded (category, repos)).mpr fun repo hrepo hmem => ?_
    obtain ⟨group, hgroup⟩ := Maps.mem_iff_exists.mp (Std.ExtTreeMap.mem_keys.mp hrepo)
    have hlookup := hnests category repo
    rw [lookupGroup, hrepos, Option.getD_some] at hlookup
    rw [addedRepos] at hmem
    split_ifs at hmem with hall
    · obtain ⟨hordered, hpin⟩ := List.mem_filter.mp hmem
      have hpinned : hasPin group = true := by simpa [hgroup] using hpin
      exact h hall.1 category repo group (hlookup.symm.trans hgroup) hpinned hall.2 hordered
    · exact absurd hmem List.not_mem_nil

end Tree

/-! ## The projection -/

section Projection
variable [Sha256] {panes : List PanePresentation} {state : SidebarState}
  {order : SidebarPreferences} {ctx : RowBuildContext}

def projectedRows (panes : List PanePresentation) (state : SidebarState)
    (order : SidebarPreferences) (ctx : RowBuildContext) : List SidebarRow :=
  (buildRowsFromPresentations panes state order ctx).1

def projectedCounts (panes : List PanePresentation) (state : SidebarState)
    (order : SidebarPreferences) (ctx : RowBuildContext) : BadgeCounts :=
  (buildRowsFromPresentations panes state order ctx).2

/-- A repository of the tree over all categories: one of a pane below the triage zone, or with every
pane shown one that is placed in a category of the model. -/
def ShownRepo (panes : List PanePresentation) (state : SidebarState) (order : SidebarPreferences)
    (ctx : RowBuildContext) (repo : String × RepoKey) : Prop :=
  (∃ pane ∈ shownPanes panes state order ctx, inTriage ctx pane = false ∧
      pane.category = repo.1 ∧ pane.repoKey = repo.2) ∨
    state.filter = .all ∧ repo.1 ∈ categoryNames ctx ∧
      ∃ placement, ctx.categories.placements[repo.2]? = some placement ∧
        placement.category = repo.1

structure DistinctRepos (panes : List PanePresentation) (state : SidebarState)
    (order : SidebarPreferences) (ctx : RowBuildContext) : Prop where
  pinned : state.filter = .all → ∀ pane ∈ scopedPanes panes state order ctx, pane.pinned = true →
    ∀ placement, ctx.categories.placements[pane.repoKey]? = some placement →
      placement.category ∉ categoryNames ctx
  ids : ∀ left right, ShownRepo panes state order ctx left → ShownRepo panes state order ctx right →
    repoId left.1 left.2 = repoId right.1 right.2 → left = right

structure Projected (panes : List PanePresentation) (state : SidebarState)
    (order : SidebarPreferences) (ctx : RowBuildContext) : Prop where
  accounts : Accounts (shownPanes panes state order ctx) (projectedRows panes state order ctx)
  distinct : ((projectedRows panes state order ctx).map (·.id)).Nodup
  counts : projectedCounts panes state order ctx =
    badgeCountsFromAgentPanes (scopedPanes panes state order ctx)
  frame : ∀ (state' : SidebarState) (triage : Std.ExtTreeSet PaneInstance),
    state'.categoryScope = state.categoryScope → state'.currentCategory = state.currentCategory →
    projectedCounts panes state' order { ctx with triage := triage } =
      projectedCounts panes state order ctx
  total : (projectedCounts panes state order ctx).states =
    (projectedCounts panes state order ctx).total

theorem projectedCounts_eq : projectedCounts panes state order ctx =
    badgeCountsFromAgentPanes (scopedPanes panes state order ctx) := by
  have hgroups := badgeCounts_perm (scopedGroups_of panes state order ctx).perm
  unfold projectedCounts buildRowsFromPresentations buildRowsFromGroups
  by_cases hmode : state.presentationMode = .priority
  · simpa [hmode] using hgroups
  · simpa [hmode] using hgroups

theorem projectedRows_priority (hmode : state.presentationMode = .priority) :
    projectedRows panes state order ctx =
      priorityRows (dropEmpty (keepPanes (·.matchesFilter state.filter)
        (scopedGroups (groupPanes (agentPanes panes order ctx)) state order))) state order
        ctx.now := by
  unfold projectedRows buildRowsFromPresentations buildRowsFromGroups
  simp only [hmode, if_true]

def scopedMetas (panes : List PanePresentation) (state : SidebarState)
    (order : SidebarPreferences) (ctx : RowBuildContext) : GroupMetas :=
  (scopedGroups (groupPanes (agentPanes panes order ctx)) state order).map fun _ panes =>
    groupMeta panes

theorem projectedRows_fleet (hmode : state.presentationMode ≠ .priority) :
    projectedRows panes state order ctx =
      triageZoneRows (triagePanes panes state order ctx) state ctx.now ++
        fleetRows (fleetGroups panes state order ctx) state order ctx
          (scopedMetas panes state order ctx) := by
  unfold projectedRows buildRowsFromPresentations buildRowsFromGroups
  simp only [hmode, if_false]
  rfl

theorem mem_fleetKeys {category : String} {repo : RepoKey} :
    (category, repo) ∈ groupKeys (fleetGroups panes state order ctx) ↔
      ∃ pane ∈ shownPanes panes state order ctx, inTriage ctx pane = false ∧
        pane.category = category ∧ pane.repoKey = repo := by
  obtain ⟨hgroups, hkeyed⟩ := fleetGroups_of panes state order ctx
  have hmem (pane : AgentPane) : (pane ∈ shownPanes panes state order ctx ∧
      inTriage ctx pane = false) ↔ ∃ group : List AgentPane, (fleetGroups panes state order ctx)[
        (pane.category, pane.repoKey)]? = some group ∧ pane ∈ group := by
    rw [← hgroups.exists_group, List.mem_filter, Bool.not_eq_true']
  rw [mem_groupKeys]
  constructor
  · rintro ⟨group, hgroup⟩
    obtain ⟨hne, hpanes⟩ := hkeyed category repo group hgroup
    obtain ⟨first, -, hfirst⟩ := exists_head hne
    obtain ⟨rfl, rfl⟩ := hpanes first hfirst
    obtain ⟨hshown, htriage⟩ := (hmem first).mpr ⟨group, hgroup, hfirst⟩
    exact ⟨first, hshown, htriage, rfl, rfl⟩
  · rintro ⟨pane, hshown, htriage, rfl, rfl⟩
    obtain ⟨group, hgroup, -⟩ := (hmem pane).mp ⟨hshown, htriage⟩
    exact ⟨group, hgroup⟩

theorem mem_treeRepos_fleet (repo : String × RepoKey) :
    repo ∈ treeRepos state ctx (fleetGroups panes state order ctx) ↔
      ShownRepo panes state order ctx repo := by
  obtain ⟨category, key⟩ := repo
  rw [mem_treeRepos, mem_fleetKeys]
  rfl

theorem distinct_iff (hexpanded : Expanded state) :
    ((categoryHeads state ctx (scopedMetas panes state order ctx)
      (fleetGroups panes state order ctx)).map (·.id)).Nodup ↔
      DistinctRepos panes state order ctx := by
  obtain ⟨hgroups, hkeyed⟩ := fleetGroups_of panes state order ctx
  rw [categoryHeads_nodup hkeyed hexpanded]
  have hinj (hnodup : (treeRepos state ctx (fleetGroups panes state order ctx)).Nodup) :
      ((treeRepos state ctx (fleetGroups panes state order ctx)).map fun id =>
        repoId id.1 id.2).Nodup ↔ ∀ left right, ShownRepo panes state order ctx left →
          ShownRepo panes state order ctx right →
          repoId left.1 left.2 = repoId right.1 right.2 → left = right := by
    rw [List.nodup_map_iff_inj_on hnodup]
    constructor
    · intro h left right hleft hright
      exact h left ((mem_treeRepos_fleet left).mpr hleft) right ((mem_treeRepos_fleet right).mpr hright)
    · intro h left hleft right hright
      exact h left right ((mem_treeRepos_fleet left).mp hleft) ((mem_treeRepos_fleet right).mp hright)
  have hpinned : (treeRepos state ctx (fleetGroups panes state order ctx)).Nodup ↔
      (state.filter = .all → ∀ pane ∈ scopedPanes panes state order ctx, pane.pinned = true →
        ∀ placement, ctx.categories.placements[pane.repoKey]? = some placement →
          placement.category ∉ categoryNames ctx) := by
    rw [nodup_treeRepos]
    refine forall_congr' fun hfilter => ?_
    have hall : shownPanes panes state order ctx = scopedPanes panes state order ctx :=
      List.filter_eq_self.mpr fun pane _ => by rw [hfilter]; rfl
    constructor
    · intro h pane hpane hpin placement hplacement hname
      obtain ⟨-, -, -, hcategory⟩ := mem_agentPanes (List.mem_filter.mp hpane).1
      have hplaced : pane.category = placement.category := by
        rw [hcategory, RowBuildContext.category, hplacement]
        rfl
      have htriage : inTriage ctx pane = false := by simp [inTriage, hpin]
      obtain ⟨group, hgroup, hin⟩ := hgroups.exists_group.mp
        (List.mem_filter.mpr ⟨hall ▸ hpane, by simp [htriage]⟩)
      refine h pane.category pane.repoKey group hgroup ?_ (hplaced ▸ hname) ?_
      · exact List.any_eq_true.mpr ⟨pane, hin, hpin⟩
      · exact EffectiveCategoryModel.mem_orderedRepos.mpr
          (EffectiveCategoryModel.mem_members.mpr ⟨placement, hplacement, hplaced.symm⟩)
    · intro h category repo group hgroup hpin hname hordered
      obtain ⟨pane, hin, hpin⟩ := List.any_eq_true.mp hpin
      obtain ⟨rfl, rfl⟩ := hgroups.keyed category repo group hgroup pane hin
      have hshown := (List.mem_filter.mp (hgroups.exists_group.mpr ⟨group, hgroup, hin⟩)).1
      obtain ⟨placement, hplacement, hcategory⟩ := EffectiveCategoryModel.mem_members.mp
        (EffectiveCategoryModel.mem_orderedRepos.mp hordered)
      exact h pane (hall ▸ hshown) hpin placement hplacement (hcategory ▸ hname)
  constructor
  · intro h
    have hnodup := h.of_map _
    exact ⟨hpinned.mp hnodup, (hinj hnodup).mp h⟩
  · intro h
    exact (hinj (hpinned.mpr h.pinned)).mpr h.ids

theorem currentHeads_nodup (hscope : state.categoryScope = .current) (hexpanded : Expanded state)
    {metas : GroupMetas} : ((repoHeads (repoRowsFromKeyedMap state ctx 0 metas
      (fleetGroups panes state order ctx))).map (·.id)).Nodup := by
  obtain ⟨-, hkeyed⟩ := fleetGroups_of panes state order ctx
  rw [(keyedMap_outlined ctx metas hkeyed hexpanded).2.nodup_iff]
  refine (List.nodup_map_iff_inj_on (Maps.nodup_keys _)).mpr ?_
  have hcurrent : ∀ id ∈ groupKeys (fleetGroups panes state order ctx),
      state.currentCategory = some id.1 := by
    rintro ⟨category, repo⟩ hid
    obtain ⟨pane, hpane, -, rfl, rfl⟩ := mem_fleetKeys.mp hid
    have hin := (List.mem_filter.mp (List.mem_filter.mp hpane).1).2
    simpa [inScope, hscope] using hin
  rintro ⟨category, repo⟩ hid ⟨category', repo'⟩ hid' heq
  obtain rfl : category = category' :=
    Option.some_inj.mp ((hcurrent _ hid).symm.trans (hcurrent _ hid'))
  exact congrArg (Prod.mk category) (repoId_inj heq)

variable (panes order ctx) in
theorem fleet_spec (hmode : state.presentationMode ≠ .priority) (hexpanded : Expanded state) :
    ∃ heads, Outlined 0 heads (groupedPanes (fleetGroups panes state order ctx))
        (fleetRows (fleetGroups panes state order ctx) state order ctx
          (scopedMetas panes state order ctx)) ∧ TreeHeads heads ∧
      ((heads.map (·.id)).Nodup ↔ (state.presentationMode = .tree → state.categoryScope = .all →
        DistinctRepos panes state order ctx)) := by
  obtain ⟨-, hkeyed⟩ := fleetGroups_of panes state order ctx
  cases hpresentation : state.presentationMode with
  | priority => exact absurd hpresentation hmode
  | flat =>
    refine ⟨[], ?_, ⟨fun _ h => absurd h List.not_mem_nil, fun _ h => absurd h List.not_mem_nil⟩, ?_⟩
    · unfold fleetRows
      rw [hpresentation]
      exact flat_outlined _ state order ctx.now _
    · simp
  | tree =>
    cases hscope : state.categoryScope with
    | current =>
      obtain ⟨houtlined, hids⟩ := keyedMap_outlined ctx (scopedMetas panes state order ctx)
        hkeyed hexpanded
      refine ⟨_, ?_, treeHeads_repos hids, iff_of_true (currentHeads_nodup hscope hexpanded) ?_⟩
      · unfold fleetRows
        rw [hpresentation]
        simp only [hscope, if_true]
        exact houtlined
      · intro _ h
        cases h
    | all =>
      refine ⟨_, ?_, treeHeads_categories ctx (scopedMetas panes state order ctx) hkeyed
        hexpanded, ?_⟩
      · unfold fleetRows
        rw [hpresentation]
        simp only [hscope]
        exact categories_outlined hkeyed hexpanded
      · rw [distinct_iff hexpanded]
        exact ⟨fun h _ _ => h, fun h => h rfl rfl⟩

variable (order ctx) in
theorem rows_spec (hpanes : (panes.map (·.paneInstance)).Nodup) (hexpanded : Expanded state) :
    Accounts (shownPanes panes state order ctx) (projectedRows panes state order ctx) ∧
      (((projectedRows panes state order ctx).map (·.id)).Nodup ↔
        (state.presentationMode = .tree → state.categoryScope = .all →
          DistinctRepos panes state order ctx)) := by
  have hnodup := nodup_shownPanes state order ctx hpanes
  by_cases hmode : state.presentationMode = .priority
  · rw [projectedRows_priority hmode]
    have hgroups := ((scopedGroups_of panes state order ctx).keepPanes
      (·.matchesFilter state.filter)).dropEmpty.1
    have houtlined := (priority_outlined (dropEmpty (keepPanes (·.matchesFilter state.filter)
      (scopedGroups (groupPanes (agentPanes panes order ctx)) state order))) state order
      ctx.now).perm (List.Perm.refl _) hgroups.perm
    refine ⟨houtlined.accounts hnodup (List.Perm.refl _)
      (zones_of_depth (priority_zones _ state order ctx.now)), ?_⟩
    rw [houtlined.ids_nodup hnodup]
    refine iff_of_true (priority_heads_nodup _ order) fun htree => ?_
    rw [hmode] at htree
    cases htree
  · rw [projectedRows_fleet hmode]
    obtain ⟨heads, hfleet, htree, hids⟩ :=
      fleet_spec panes order ctx hmode hexpanded
    have htriage := triage_outlined (triagePanes panes state order ctx) state ctx.now
    have hall := htriage.append hfleet
    have hperm : (triagePanes panes state order ctx ++
        groupedPanes (fleetGroups panes state order ctx)).Perm
          (shownPanes panes state order ctx) :=
      (triagePanes_perm.append (fleetGroups_of panes state order ctx).1.perm).trans split_shown
    have hinstances := (hperm.map (·.paneInstance)).nodup_iff.mpr hnodup
    have hzone : ∀ head ∈ triageHead (triagePanes panes state order ctx),
        head.id = triageZoneId := by
      intro head hhead
      unfold triageHead at hhead
      split_ifs at hhead
      · exact absurd hhead List.not_mem_nil
      · obtain rfl := List.mem_singleton.mp hhead
        rfl
    refine ⟨hall.accounts hinstances hperm (zones_of_triage hall ?_), ?_⟩
    · intro head hhead hkind
      rcases List.mem_append.mp hhead with hhead | hhead
      · exact hzone head hhead
      · exact absurd hkind (htree.kind head hhead)
    · rw [hall.ids_nodup hinstances, ← hids, List.map_append, List.nodup_append]
      refine ⟨fun h => h.2.1, fun h => ⟨?_, h, ?_⟩⟩
      · unfold triageHead
        split_ifs
        · exact List.nodup_nil
        · exact List.nodup_singleton _
      · rintro id hid id' hid' rfl
        obtain ⟨head, hhead, rfl⟩ := List.mem_map.mp hid
        obtain ⟨head', hhead', heq⟩ := List.mem_map.mp hid'
        refine htree.mark head' hhead' ?_
        rw [heq, hzone head hhead]
        decide

/-- The projection keeps its promise unless the tree over all categories has a pinned repository
that is placed in a category, or two repositories of one id. -/
theorem every_pane_once (hpanes : (panes.map (·.paneInstance)).Nodup) (hexpanded : Expanded state) :
    Projected panes state order ctx ↔ (state.presentationMode = .tree →
      state.categoryScope = .all → DistinctRepos panes state order ctx) := by
  obtain ⟨haccounts, hids⟩ := rows_spec order ctx hpanes hexpanded
  constructor
  · intro h
    exact hids.mp h.distinct
  · intro h
    refine ⟨haccounts, hids.mpr h, projectedCounts_eq, fun state' triage hscope hcurrent => ?_, ?_⟩
    · have hscoped : scopedPanes panes state' order { ctx with triage := triage } =
          scopedPanes panes state order ctx := by
        refine List.filter_congr fun pane _ => ?_
        rw [inScope, inScope, hscope, hcurrent]
      rw [projectedCounts_eq, projectedCounts_eq, hscoped]
    · rw [projectedCounts_eq]
      exact states_eq_total _

end Projection

/-! ## One repository that is placed in a category -/

def sampleResolved : ResolvedPane where
  canonical := initialState ⟨"%1", 7⟩ ⟨"claude"⟩ none true false ⟨"state"⟩
  badge := .idle

def samplePane : PanePresentation where
  paneInstance := ⟨"%1", 7⟩
  sessionLinks := []
  currentPath := "/repo"
  questionNotice := none
  resolved := some sampleResolved

def samplePlacement : EffectiveRepoPlacement :=
  ⟨⟨"path:/repo", "/repo", "repo"⟩, "work", true⟩

def sampleContext : RowBuildContext where
  categories :=
    { categories := [⟨"work", .dynamic, "work"⟩]
      placements := (∅ : Std.ExtTreeMap RepoKey EffectiveRepoPlacement).insert "path:/repo"
        samplePlacement }

def wholeTree : SidebarState where
  categoryScope := .all

def pinnedOrder : SidebarPreferences where
  pinnedPanes := (∅ : Std.ExtTreeSet PaneInstance).insert ⟨"%1", 7⟩

theorem expanded_wholeTree : Expanded wholeTree := fun _ =>
  ⟨Std.ExtTreeSet.not_mem_empty, fun _ => Std.ExtTreeSet.not_mem_empty⟩

def sampleAgent (order : SidebarPreferences) : AgentPane :=
  @AgentPane.of .constant order sampleContext samplePane sampleResolved

theorem sample_nodup : ([samplePane].map (·.paneInstance)).Nodup := List.nodup_singleton _

theorem sampleAgent_repoKey (order : SidebarPreferences) :
    (sampleAgent order).repoKey = "path:/repo" := by
  show sampleContext.repoKey "/repo" = "path:/repo"
  rw [RowBuildContext.repoKey]
  have hnone : sampleContext.repoIdentities["/repo"]? = none := Std.ExtTreeMap.getElem?_empty
  rw [hnone]
  decide

/-- The row of a pinned repository comes up once more without its panes. -/
theorem pinned_repository_twice :
    ¬@Projected .constant [samplePane] wholeTree pinnedOrder sampleContext := by
  intro h
  let _ : Sha256 := .constant
  have hdistinct := (rows_spec pinnedOrder sampleContext sample_nodup expanded_wholeTree).2.mp h.distinct rfl rfl
  have hmem : sampleAgent pinnedOrder ∈
      scopedPanes [samplePane] wholeTree pinnedOrder sampleContext :=
    List.mem_filter.mpr ⟨List.mem_filterMap.mpr ⟨samplePane, List.mem_singleton_self _, rfl⟩, rfl⟩
  have hpinned : pinnedOrder.pinnedPanes.contains ⟨"%1", 7⟩ = true :=
    Std.ExtTreeSet.contains_insert_self
  refine hdistinct.pinned rfl _ hmem hpinned samplePlacement ?_ (by decide)
  rw [sampleAgent_repoKey]
  exact Std.ExtTreeMap.getElem?_insert_self

/-! ## Several repositories, of which the one that is not placed has the pin -/

def pathPane (paneId path : String) (badge : BadgeState) : PanePresentation where
  paneInstance := ⟨paneId, 7⟩
  sessionLinks := []
  currentPath := path
  questionNotice := none
  resolved := some { sampleResolved with badge := badge }

def severalPanes : List PanePresentation :=
  [pathPane "%1" "/tmp" .idle, pathPane "%2" "/repo" .idle, pathPane "%3" "/repo" .blocked,
    pathPane "%4" "/lib" .blocked]

def libPlacement : EffectiveRepoPlacement :=
  ⟨⟨"path:/lib", "/lib", "lib"⟩, "work", true⟩

def severalPlacements : Std.ExtTreeMap RepoKey EffectiveRepoPlacement :=
  ((∅ : Std.ExtTreeMap RepoKey EffectiveRepoPlacement).insert "path:/repo" samplePlacement).insert
    "path:/lib" libPlacement

def severalContext : RowBuildContext where
  categories :=
    { categories := [⟨"work", .dynamic, "work"⟩]
      placements := severalPlacements }

theorem severalPlacements_get (key : RepoKey) : severalPlacements[key]? =
    if key = "path:/lib" then some libPlacement
    else if key = "path:/repo" then some samplePlacement else none := by
  rw [severalPlacements, Maps.getElem?_insert, Maps.getElem?_insert, Std.ExtTreeMap.getElem?_empty]

theorem several_repoKey (path : String) : severalContext.repoKey path = s!"path:{path}" := by
  have hnone : severalContext.repoIdentities[path]? = none := Std.ExtTreeMap.getElem?_empty
  rw [RowBuildContext.repoKey, hnone]
  rfl

theorem several_category (key : RepoKey) : severalContext.category key =
    if key = "path:/lib" ∨ key = "path:/repo" then "work" else uncategorized := by
  have hget : severalContext.categories.placements[key]? = _ := severalPlacements_get key
  rw [RowBuildContext.category, hget]
  split_ifs with hlib hrepo hkey hkey <;> first | rfl | simp_all

def pathAgent (order : SidebarPreferences) (paneId path : String) (badge : BadgeState) :
    AgentPane :=
  @AgentPane.of .constant order severalContext (pathPane paneId path badge)
    { sampleResolved with badge := badge }

theorem pathAgent_place (order : SidebarPreferences) (paneId path : String) (badge : BadgeState) :
    (pathAgent order paneId path badge).repoKey = s!"path:{path}" ∧
      (pathAgent order paneId path badge).category = severalContext.category s!"path:{path}" := by
  have hkey : (pathAgent order paneId path badge).repoKey = severalContext.repoKey path := rfl
  have hcategory : (pathAgent order paneId path badge).category =
      severalContext.category (severalContext.repoKey path) := rfl
  rw [hkey, hcategory, several_repoKey]
  exact ⟨rfl, rfl⟩

theorem several_agents (order : SidebarPreferences) :
    @agentPanes .constant severalPanes order severalContext =
      [pathAgent order "%1" "/tmp" .idle, pathAgent order "%2" "/repo" .idle,
        pathAgent order "%3" "/repo" .blocked, pathAgent order "%4" "/lib" .blocked] := rfl

def severalPlaces : List (String × RepoKey) :=
  [(uncategorized, "path:/tmp"), ("work", "path:/repo"), ("work", "path:/lib")]

theorem several_places {order : SidebarPreferences} {pane : AgentPane}
    (h : pane ∈ @agentPanes .constant severalPanes order severalContext) :
    (pane.category, pane.repoKey) ∈ severalPlaces := by
  rw [several_agents] at h
  simp only [List.mem_cons, List.not_mem_nil, or_false] at h
  have hplace (paneId path : String) (badge : BadgeState) :
      ((pathAgent order paneId path badge).category, (pathAgent order paneId path badge).repoKey) =
        (severalContext.category s!"path:{path}", s!"path:{path}") :=
    Prod.ext (pathAgent_place order paneId path badge).2 (pathAgent_place order paneId path badge).1
  rcases h with rfl | rfl | rfl | rfl <;> rw [hplace, several_category] <;> decide

theorem several_pinned {pane : AgentPane}
    (h : pane ∈ @agentPanes .constant severalPanes pinnedOrder severalContext)
    (hpin : pane.pinned = true) : pane.repoKey = "path:/tmp" := by
  have hpinned {paneId path : String} {badge : BadgeState}
      (h : (pathAgent pinnedOrder paneId path badge).pinned = true) : paneId = "%1" := by
    have hmem : (⟨paneId, 7⟩ : PaneInstance) ∈ pinnedOrder.pinnedPanes := h
    rcases Std.ExtTreeSet.mem_insert.mp hmem with heq | hmem
    · exact (congrArg PaneInstance.paneId (Std.LawfulEqCmp.eq_of_compare heq)).symm
    · exact absurd hmem Std.ExtTreeSet.not_mem_empty
  rw [several_agents] at h
  simp only [List.mem_cons, List.not_mem_nil, or_false] at h
  rcases h with rfl | rfl | rfl | rfl
  · exact (pathAgent_place _ _ _ _).1
  all_goals exact absurd (hpinned hpin) (by decide)

theorem several_nodup : (severalPanes.map (·.paneInstance)).Nodup := by decide

theorem several_repositories_once :
    @Projected .constant severalPanes wholeTree pinnedOrder severalContext := by
  let _ : Sha256 := .constant
  refine (every_pane_once several_nodup expanded_wholeTree).mpr fun _ _ => ⟨?_, ?_⟩
  · intro _ pane hscoped hpin placement hplacement
    have hget : severalContext.categories.placements[pane.repoKey]? = _ :=
      severalPlacements_get pane.repoKey
    rw [hget, several_pinned (List.mem_filter.mp hscoped).1 hpin] at hplacement
    simp at hplacement
  · have hrepo (repo : String × RepoKey)
        (h : ShownRepo severalPanes wholeTree pinnedOrder severalContext repo) :
        repo ∈ severalPlaces := by
      obtain ⟨category, key⟩ := repo
      rcases h with ⟨pane, hshown, -, rfl, rfl⟩ | ⟨-, -, placement, hplacement, rfl⟩
      · exact several_places (List.mem_filter.mp (List.mem_filter.mp hshown).1).1
      · have hget : severalContext.categories.placements[key]? = _ := severalPlacements_get key
        rw [hget] at hplacement
        split_ifs at hplacement with hlib hrepo <;> obtain rfl := Option.some_inj.mp hplacement
        · subst hlib
          decide
        · subst hrepo
          decide
    have hids : (severalPlaces.map fun repo => repoId repo.1 repo.2).Nodup := by decide
    intro left right hleft hright heq
    exact List.inj_on_of_nodup_map hids (hrepo left hleft) (hrepo right hright) heq

end VdeTmux.Sidebar
