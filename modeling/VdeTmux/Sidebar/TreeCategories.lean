import VdeTmux.Category.Effective
import VdeTmux.Sidebar.TreeRepositories

/-!
# The categories of the tree

The groups of a category as they are taken out of the groups of all repositories, and the rows of a
category: its repositories with panes and, when every pane is shown, the others. A pinned repository
that is placed in the category comes up in both.
-/

open Foundation Foundation.Outline VdeTmux.Pane VdeTmux.Category
namespace VdeTmux.Sidebar

abbrev CategoryGroups := Std.ExtTreeMap String RepoGroups

def lookupGroup (m : CategoryGroups) (category : String) (repo : RepoKey) : Option (List AgentPane) :=
  (m[category]?.getD ∅)[repo]?

def Nests (m : CategoryGroups) (groups : Groups) : Prop :=
  ∀ category repo, lookupGroup m category repo = groups[(category, repo)]?

def insertGroup (m : CategoryGroups) (entry : (String × String) × List AgentPane) :
    CategoryGroups :=
  m.insert entry.1.1 ((m[entry.1.1]?.getD ∅).insert entry.1.2 entry.2)

theorem lookupGroup_insert (m : CategoryGroups) (entry : (String × String) × List AgentPane)
    (category : String) (repo : RepoKey) : lookupGroup (insertGroup m entry) category repo =
      if entry.1 = (category, repo) then some entry.2 else lookupGroup m category repo := by
  obtain ⟨⟨category', repo'⟩, panes⟩ := entry
  rw [lookupGroup, insertGroup, Maps.getElem?_insert]
  by_cases hcategory : category = category'
  · subst hcategory
    rw [if_pos rfl, Option.getD_some, Maps.getElem?_insert]
    by_cases hrepo : repo = repo'
    · subst hrepo
      simp
    · simp [hrepo, Ne.symm hrepo, lookupGroup]
  · simp [hcategory, Ne.symm hcategory, lookupGroup]

theorem lookupGroup_foldl {entries : List ((String × String) × List AgentPane)}
    (h : (entries.map Prod.fst).Nodup) (m : CategoryGroups) (category : String) (repo : RepoKey) :
    lookupGroup (entries.foldl insertGroup m) category repo =
      ((entries.find? fun entry => entry.1 = (category, repo)).map Prod.snd).or
        (lookupGroup m category repo) := by
  induction entries generalizing m with
  | nil => rfl
  | cons entry entries ih =>
    obtain ⟨hentry, hrest⟩ := List.nodup_cons.mp h
    rw [List.foldl_cons, ih hrest, lookupGroup_insert]
    by_cases hkey : entry.1 = (category, repo)
    · have hnone : entries.find? (fun entry => entry.1 = (category, repo)) = none := by
        refine List.find?_eq_none.mpr fun other hother => ?_
        have hne : other.1 ≠ (category, repo) := fun heq =>
          hentry (hkey ▸ heq ▸ List.mem_map_of_mem hother)
        simpa using hne
      simp [hkey, hnone]
    · simp [hkey]

theorem find?_toList (groups : Groups) (key : String × String) :
    (groups.toList.find? fun entry => entry.1 = key).map Prod.snd = groups[key]? := by
  cases hfind : groups.toList.find? fun entry => entry.1 = key with
  | some entry =>
    have hmem := List.mem_of_find?_eq_some hfind
    have hkey : entry.1 = key := by simpa using List.find?_some hfind
    obtain ⟨key', panes⟩ := entry
    obtain rfl : key' = key := hkey
    exact (Std.ExtTreeMap.mem_toList_iff_getElem?_eq_some.mp hmem).symm
  | none =>
    have hnone := List.find?_eq_none.mp hfind
    cases hget : groups[key]? with
    | none => rfl
    | some panes =>
      have hmem := Std.ExtTreeMap.mem_toList_iff_getElem?_eq_some.mpr hget
      exact absurd (hnone _ hmem) (by simp)

theorem groupsByCategory_nests (groups : Groups) : Nests (groupsByCategory groups) groups := by
  intro category repo
  have hfold := lookupGroup_foldl (Maps.nodup_keys groups) ∅ category repo
  have hempty : lookupGroup ∅ category repo = none := by simp [lookupGroup]
  rw [hempty, Option.or_none, find?_toList] at hfold
  exact hfold

theorem nests_insertIfNew {m : CategoryGroups} {groups : Groups} (h : Nests m groups)
    (category : String) : Nests (m.insertIfNew category ∅) groups := by
  intro category' repo
  rw [← h category' repo]
  simp only [lookupGroup, Std.ExtTreeMap.getElem?_insertIfNew, Std.LawfulEqCmp.compare_eq_iff_eq]
  split_ifs with hnew
  · obtain ⟨rfl, hnone⟩ := hnew
    rw [Std.ExtTreeMap.getElem?_eq_none hnone]
    rfl
  · rfl

section Shown
variable (state : SidebarState) (ctx : RowBuildContext)

def categoryNames : List CategoryName := ctx.categories.categories.map (·.name)

variable {state ctx}

variable (state ctx) in
theorem shownCategories_nests (groups : Groups) : Nests (shownCategories state ctx groups) groups := by
  have hfold (categories : List EffectiveCategory) (m : CategoryGroups) (h : Nests m groups) :
      Nests (categories.foldl (fun m category => m.insertIfNew category.name ∅) m) groups := by
    induction categories generalizing m with
    | nil => exact h
    | cons category categories ih => exact ih _ (nests_insertIfNew h category.name)
  unfold shownCategories
  split_ifs
  · exact hfold _ _ (groupsByCategory_nests groups)
  · exact groupsByCategory_nests groups

theorem mem_shownCategories_of_name (groups : Groups) {category : String}
    (hfilter : state.filter = .all) (h : category ∈ categoryNames ctx) :
    category ∈ shownCategories state ctx groups := by
  have hfold (categories : List EffectiveCategory) (m : CategoryGroups)
      (hin : category ∈ m ∨ category ∈ categories.map (·.name)) :
      category ∈ categories.foldl (fun m category => m.insertIfNew category.name ∅) m := by
    induction categories generalizing m with
    | nil => simpa using hin
    | cons first categories ih =>
      refine ih _ ?_
      rw [Std.ExtTreeMap.mem_insertIfNew, Std.LawfulEqCmp.compare_eq_iff_eq]
      rcases hin with hin | hin
      · exact Or.inl (Or.inr hin)
      · rcases List.mem_cons.mp hin with rfl | hin
        · exact Or.inl (Or.inl rfl)
        · exact Or.inr hin
  rw [shownCategories, if_pos hfilter]
  exact hfold _ _ (Or.inr h)

end Shown

def nestedEntries (m : CategoryGroups) : List ((String × String) × List AgentPane) :=
  m.toList.flatMap fun entry => entry.2.toList.map fun repo => ((entry.1, repo.1), repo.2)

theorem mem_nestedEntries {m : CategoryGroups} {category : String} {repo : RepoKey}
    {panes : List AgentPane} :
    ((category, repo), panes) ∈ nestedEntries m ↔ lookupGroup m category repo = some panes := by
  simp only [nestedEntries, List.mem_flatMap, List.mem_map, Prod.exists, Prod.mk.injEq,
    Std.ExtTreeMap.mem_toList_iff_getElem?_eq_some, lookupGroup]
  constructor
  · rintro ⟨category, repos, hrepos, repo, panes, hpanes, ⟨rfl, rfl⟩, rfl⟩
    rw [hrepos]
    exact hpanes
  · intro h
    cases hrepos : m[category]? with
    | none =>
      rw [hrepos] at h
      simp at h
    | some repos =>
      rw [hrepos] at h
      exact ⟨category, repos, hrepos, repo, panes, h, ⟨rfl, rfl⟩, rfl⟩

theorem nodup_nestedEntries (m : CategoryGroups) : (nestedEntries m).Nodup := by
  refine List.nodup_flatMap.mpr ⟨fun entry _ => ?_, ?_⟩
  · refine (Maps.nodup_toList entry.2).map fun a b hab => ?_
    exact Prod.ext (Prod.ext_iff.mp (Prod.ext_iff.mp hab).1).2 (Prod.ext_iff.mp hab).2
  · refine (List.pairwise_map.mp (Maps.nodup_keys m)).imp fun {entry entry'} hne => ?_
    intro x hx hx'
    obtain ⟨repo, -, rfl⟩ := List.mem_map.mp hx
    obtain ⟨repo', -, heq⟩ := List.mem_map.mp hx'
    exact hne (Prod.ext_iff.mp (Prod.ext_iff.mp heq).1).1.symm

theorem Nests.perm {m : CategoryGroups} {groups : Groups} (h : Nests m groups) :
    (nestedEntries m).Perm groups.toList := by
  refine (List.perm_ext_iff_of_nodup (nodup_nestedEntries m) (Maps.nodup_toList groups)).mpr ?_
  rintro ⟨⟨category, repo⟩, panes⟩
  rw [mem_nestedEntries, h category repo, Std.ExtTreeMap.mem_toList_iff_getElem?_eq_some]

theorem Nests.panes_perm {m : CategoryGroups} {groups : Groups} (h : Nests m groups) :
    (m.toList.flatMap fun entry => repoPanes entry.2).Perm (groupedPanes groups) := by
  refine List.Perm.trans (List.Perm.of_eq ?_) (h.perm.flatMap_right Prod.snd)
  rw [nestedEntries, List.flatMap_assoc]
  refine List.flatMap_congr fun entry _ => ?_
  rw [repoPanes, List.flatMap_map]

theorem Nests.keyedIn {m : CategoryGroups} {groups : Groups} (h : Nests m groups)
    (hkeyed : Keyed groups) {category : String} {repos : RepoGroups}
    (hrepos : m[category]? = some repos) : KeyedIn category repos := by
  intro key panes hpanes
  refine hkeyed category key panes ?_
  rw [← h category key, lookupGroup, hrepos]
  exact hpanes

def groupId (panes : List AgentPane) : String :=
  (panes.head?.map fun first => repoId first.category first.repoKey).getD ""

section Repositories
variable {state : SidebarState} {ctx : RowBuildContext} {depth : ℕ} {metas : GroupMetas}
  {groups : List (List AgentPane)}

def groupChunk (state : SidebarState) (ctx : RowBuildContext) (metas : GroupMetas)
    (panes : List AgentPane) : Chunk := (groupId panes, repoGroupRows state ctx 1 metas panes)

variable (ctx metas depth) in
theorem group_stretch (hexpanded : Expanded state) {panes : List AgentPane} (h : panes ≠ []) :
    Stretch depth panes (repoGroupRows state ctx depth metas panes) ∧
      (repoHeads (repoGroupRows state ctx depth metas panes)).map (·.id) = [groupId panes] := by
  obtain ⟨first, hfirst, -⟩ := exists_head h
  obtain ⟨hstretch, hheads⟩ := repoGroup_stretch ctx depth metas hfirst hexpanded
  refine ⟨hstretch, ?_⟩
  rw [hheads, groupId, hfirst]
  rfl

variable (ctx metas depth) in
theorem groups_stretch (hexpanded : Expanded state) (h : ∀ panes ∈ groups, panes ≠ []) :
    Stretch depth groups.flatten (groups.flatMap (repoGroupRows state ctx depth metas)) ∧
      (repoHeads (groups.flatMap (repoGroupRows state ctx depth metas))).map (·.id) =
        groups.map groupId := by
  rw [repoHeads_flatMap]
  induction groups with
  | nil => exact ⟨Stretch.nil, rfl⟩
  | cons panes groups ih =>
    obtain ⟨hpanes, hgroups⟩ := List.forall_mem_cons.mp h
    obtain ⟨hstretch, hids⟩ := group_stretch ctx depth metas hexpanded hpanes
    obtain ⟨hrest, hrestIds⟩ := ih hgroups
    refine ⟨hstretch.append hrest, ?_⟩
    rw [List.flatMap_cons, List.map_append, hids, hrestIds]
    rfl

theorem chunksOf_groups (hexpanded : Expanded state) (h : ∀ panes ∈ groups, panes ≠ []) :
    chunksOf (groups.flatMap (repoGroupRows state ctx 1 metas)) =
      groups.map (groupChunk state ctx metas) := by
  refine chunksOf_flatMap fun panes hpanes => ?_
  obtain ⟨first, hfirst, -⟩ := exists_head (h panes hpanes)
  refine ⟨repoRow state ctx 1 metas first panes, (repoGroup_stretch ctx 1 metas hfirst hexpanded).2, ?_, ?_⟩
  · rw [repoGroupRows_of_head hfirst hexpanded]
    rfl
  · rw [groupId, hfirst]
    rfl

theorem chunkPinned_group (hexpanded : Expanded state) {panes : List AgentPane} (h : panes ≠ []) :
    chunkPinned (groupChunk state ctx metas panes) = hasPin panes := by
  obtain ⟨first, hfirst, -⟩ := exists_head h
  rw [chunkPinned, groupChunk, repoGroupRows_of_head hfirst hexpanded]
  simp [repoRow]

end Repositories

def keyedEntries (repos : RepoGroups) : List ((String × String) × List AgentPane) :=
  repos.toList.map fun entry =>
    (((entry.2.head?.map (·.category)).getD uncategorized, entry.1), entry.2)

theorem keyedEntries_nodup (repos : RepoGroups) :
    ((keyedEntries repos).map Prod.fst).Nodup := by
  have hsnd : (((keyedEntries repos).map Prod.fst).map Prod.snd).Nodup := by
    rw [keyedEntries, List.map_map, List.map_map]
    exact Maps.nodup_keys repos
  exact hsnd.of_map _

theorem keyedEntries_perm (repos : RepoGroups) :
    ((Std.ExtTreeMap.ofList (keyedEntries repos) Maps.lex).toList.map Prod.snd).Perm
      (repos.toList.map Prod.snd) := by
  refine ((Maps.toList_ofList_perm (keyedEntries_nodup repos)).map Prod.snd).trans (List.Perm.of_eq ?_)
  rw [keyedEntries, List.map_map]
  rfl

def orderedGroups (ctx : RowBuildContext) (repos : RepoGroups) : List (List AgentPane) :=
  orderRepoGroups ((Std.ExtTreeMap.ofList (keyedEntries repos) Maps.lex).toList.map Prod.snd)
    ctx.categoryState

theorem repoRowsFromMap_eq (state : SidebarState) (ctx : RowBuildContext) (depth : ℕ)
    (metas : GroupMetas) (repos : RepoGroups) : repoRowsFromMap state ctx depth metas repos =
      (orderedGroups ctx repos).flatMap (repoGroupRows state ctx depth metas) := rfl

theorem orderedGroups_perm (ctx : RowBuildContext) (repos : RepoGroups) :
    (orderedGroups ctx repos).Perm (repos.toList.map Prod.snd) :=
  (sortBy_perm _).trans (keyedEntries_perm repos)

section Category
variable {state : SidebarState} {ctx : RowBuildContext} {metas : GroupMetas} {category : String}
  {repos : RepoGroups}

theorem exists_key_of_mem {panes : List AgentPane} (h : panes ∈ orderedGroups ctx repos) :
    ∃ key : RepoKey, repos[key]? = some panes := by
  obtain ⟨⟨key, panes⟩, hmem, rfl⟩ := List.mem_map.mp ((orderedGroups_perm ctx repos).mem_iff.mp h)
  exact ⟨key, Std.ExtTreeMap.mem_toList_iff_getElem?_eq_some.mp hmem⟩

theorem groupId_of_keyed (hkeyed : KeyedIn category repos) {key : RepoKey} {panes : List AgentPane}
    (h : repos[key]? = some panes) : groupId panes = repoId category key := by
  obtain ⟨hne, hpanes⟩ := hkeyed key panes h
  obtain ⟨first, hfirst, hmem⟩ := exists_head hne
  obtain ⟨hcategory, hkey⟩ := hpanes first hmem
  rw [groupId, hfirst, Option.map_some, Option.getD_some, hcategory, hkey]

variable (ctx) in
theorem orderedGroups_ne_nil (hkeyed : KeyedIn category repos) :
    ∀ panes ∈ orderedGroups ctx repos, panes ≠ [] := by
  intro panes hpanes
  obtain ⟨key, hkey⟩ := exists_key_of_mem hpanes
  exact (hkeyed key panes hkey).1

theorem orderedGroups_flatten_perm : (orderedGroups ctx repos).flatten.Perm (repoPanes repos) := by
  have hperm := (orderedGroups_perm ctx repos).flatten
  rwa [← List.flatMap_def] at hperm

theorem orderedGroups_ids_perm (hkeyed : KeyedIn category repos) :
    ((orderedGroups ctx repos).map groupId).Perm (repos.keys.map (repoId category)) := by
  refine ((orderedGroups_perm ctx repos).map groupId).trans (List.Perm.of_eq ?_)
  rw [← Std.ExtTreeMap.map_fst_toList_eq_keys, List.map_map, List.map_map]
  refine List.map_congr_left fun entry hentry => ?_
  exact groupId_of_keyed hkeyed (Std.ExtTreeMap.mem_toList_iff_getElem?_eq_some.mp hentry)

def addedRepos (state : SidebarState) (ctx : RowBuildContext) (category : String)
    (repos : RepoGroups) : List RepoKey :=
  if state.filter = .all ∧ category ∈ categoryNames ctx then
    (ctx.categories.orderedRepos ctx.categoryState category).filter fun repo =>
      !repos[repo]?.any (!hasPin ·)
  else []

theorem category_of_mem (h : category ∈ categoryNames ctx) :
    ∃ found, ctx.categories.category category = some found ∧ found.name = category := by
  cases hfind : ctx.categories.category category with
  | none =>
    obtain ⟨entry, hentry, rfl⟩ := List.mem_map.mp h
    exact absurd (List.find?_eq_none.mp hfind entry hentry) (by simp)
  | some found => exact ⟨found, rfl, by simpa using List.find?_some hfind⟩

theorem category_of_not_mem (h : category ∉ categoryNames ctx) :
    ctx.categories.category category = none := by
  refine List.find?_eq_none.mpr fun entry hentry => ?_
  have hne : entry.name ≠ category := fun heq => h (List.mem_map.mpr ⟨entry, hentry, heq⟩)
  simpa using hne

theorem missing_groups (hkeyed : KeyedIn category repos) (hexpanded : Expanded state)
    (ordered : List RepoKey) : missing category ordered
      (((orderedGroups ctx repos).map (groupChunk state ctx metas)).filter (!chunkPinned ·)) =
      ordered.filter fun repo => !repos[repo]?.any (!hasPin ·) := by
  refine List.filter_congr fun repo _ => ?_
  congr 1
  rw [Bool.eq_iff_iff, List.any_eq_true, Option.any_eq_true]
  constructor
  · rintro ⟨chunk, hchunk, hid⟩
    obtain ⟨hmem, hpin⟩ := List.mem_filter.mp hchunk
    obtain ⟨panes, hpanes, rfl⟩ := List.mem_map.mp hmem
    obtain ⟨key, hkey⟩ := exists_key_of_mem hpanes
    have hid : groupId panes = repoId category repo := of_decide_eq_true hid
    rw [groupId_of_keyed hkeyed hkey] at hid
    obtain rfl := repoId_inj hid
    rw [chunkPinned_group hexpanded (hkeyed key panes hkey).1] at hpin
    exact ⟨panes, hkey, hpin⟩
  · rintro ⟨panes, hpanes, hpin⟩
    have hmem : panes ∈ orderedGroups ctx repos := (orderedGroups_perm ctx repos).mem_iff.mpr
      (List.mem_map.mpr ⟨_, Std.ExtTreeMap.mem_toList_iff_getElem?_eq_some.mpr hpanes, rfl⟩)
    refine ⟨groupChunk state ctx metas panes, List.mem_filter.mpr
      ⟨List.mem_map_of_mem hmem, ?_⟩, ?_⟩
    · rwa [chunkPinned_group hexpanded (hkeyed repo panes hpanes).1]
    · exact decide_eq_true (groupId_of_keyed hkeyed hpanes)

theorem emptyRepoRow_stretch (repo : RepoKey) (placement : EffectiveRepoPlacement) :
    Stretch 1 [] [emptyRepoRow state category repo placement] := by
  have hid : (emptyRepoRow state category repo placement).id = repoId category repo := rfl
  have hmark : idMark (emptyRepoRow state category repo placement).id = ['r', 'e'] := by
    rw [hid]
    exact idMark_repo _ _
  have hkind : (emptyRepoRow state category repo placement).kind = .repo := rfl
  have hdepth : (emptyRepoRow state category repo placement).depth = 1 := rfl
  have hcount : (emptyRepoRow state category repo placement).chatCount =
      ([] : List AgentPane).length := rfl
  exact (Stretch.repo hkind hmark hdepth hcount Outlined.nil).1

theorem emptyChunks_stretch {extra : List RepoKey}
    (h : ∀ repo ∈ extra, ∃ placement, ctx.categories.placements[repo]? = some placement) :
    ∀ chunk ∈ emptyChunks state ctx category extra, Stretch 1 [] chunk.2 := by
  intro chunk hchunk
  obtain ⟨repo, hrepo, hchunk⟩ := List.mem_flatMap.mp hchunk
  obtain ⟨placement, hplacement⟩ := h repo hrepo
  rw [hplacement] at hchunk
  obtain rfl := List.mem_singleton.mp hchunk
  exact emptyRepoRow_stretch repo placement

theorem emptyChunks_ids {extra : List RepoKey}
    (h : ∀ repo ∈ extra, ∃ placement, ctx.categories.placements[repo]? = some placement) :
    ((emptyChunks state ctx category extra).flatMap fun chunk => (repoHeads chunk.2).map (·.id)) =
      extra.map (repoId category) := by
  induction extra with
  | nil => rfl
  | cons repo extra ih =>
    obtain ⟨⟨placement, hplacement⟩, hextra⟩ := List.forall_mem_cons.mp h
    rw [emptyChunks, List.flatMap_cons, List.flatMap_append, ← emptyChunks, ih hextra, hplacement]
    rfl

variable (ctx metas) in
theorem merged_spec (hkeyed : KeyedIn category repos) (hexpanded : Expanded state) :
    Stretch 1 (repoPanes repos) (mergeCategoryRepositoryRows state ctx category
        (repoRowsFromMap state ctx 1 metas repos)) ∧
      ((repoHeads (mergeCategoryRepositoryRows state ctx category
        (repoRowsFromMap state ctx 1 metas repos))).map (·.id)).Perm
        ((repos.keys ++ addedRepos state ctx category repos).map (repoId category)) := by
  have hne := orderedGroups_ne_nil ctx hkeyed
  obtain ⟨hstretch, hids⟩ := groups_stretch ctx 1 metas hexpanded hne
  by_cases hmerge : state.filter = .all ∧ category ∈ categoryNames ctx
  · obtain ⟨found, hfound, hname⟩ := category_of_mem hmerge.2
    rw [mergeCategoryRepositoryRows, if_neg (not_not.mpr hmerge.1), hfound, addedRepos,
      if_pos hmerge]
    simp only [hname]
    have hperm := mergedChunks_perm state ctx category (repoRowsFromMap state ctx 1 metas repos)
      (EffectiveCategoryModel.nodup_orderedRepos ctx.categories ctx.categoryState category)
    rw [repoRowsFromMap_eq, chunksOf_groups hexpanded hne, missing_groups hkeyed hexpanded] at hperm
    have hplaced : ∀ repo ∈ (ctx.categories.orderedRepos ctx.categoryState category).filter
        (fun repo => !repos[repo]?.any (!hasPin ·)),
        ∃ placement, ctx.categories.placements[repo]? = some placement := by
      intro repo hrepo
      obtain ⟨placement, hplacement, -⟩ := EffectiveCategoryModel.mem_members.mp
        (EffectiveCategoryModel.mem_orderedRepos.mp (List.mem_filter.mp hrepo).1)
      exact ⟨placement, hplacement⟩
    constructor
    · have hchunks : List.Forall₂ (fun chunk panes => Stretch 1 panes chunk.2)
          ((orderedGroups ctx repos).map (groupChunk state ctx metas))
          (orderedGroups ctx repos) := by
        refine List.forall₂_map_left_iff.mpr (List.forall₂_same.mpr fun panes hpanes => ?_)
        exact (group_stretch ctx 1 metas hexpanded (hne panes hpanes)).1
      have hempty : List.Forall₂ (fun (chunk : Chunk) panes => Stretch 1 panes chunk.2)
          (emptyChunks state ctx category _)
          ((emptyChunks state ctx category _).map fun _ => []) :=
        List.forall₂_map_right_iff.mpr (List.forall₂_same.mpr (emptyChunks_stretch hplaced))
      obtain ⟨w, hw, hwperm⟩ := List.perm_comp_forall₂ hperm (List.rel_append hchunks hempty)
      refine (Stretch.forall₂ hw).perm (hwperm.flatten.trans ?_)
      rw [List.flatten_append]
      have hnil : ((emptyChunks state ctx category
          ((ctx.categories.orderedRepos ctx.categoryState category).filter
            fun repo => !repos[repo]?.any (!hasPin ·))).map
          fun _ => ([] : List AgentPane)).flatten = [] := by
        rw [List.flatten_eq_nil_iff]
        intro l hl
        obtain ⟨chunk, -, rfl⟩ := List.mem_map.mp hl
        rfl
      rw [hnil, List.append_nil]
      exact orderedGroups_flatten_perm
    · rw [repoHeads_flatMap, List.map_flatMap]
      refine (hperm.flatMap_right _).trans ?_
      rw [List.flatMap_append, emptyChunks_ids hplaced, List.map_append]
      refine List.Perm.append_right _ ?_
      have hgroups : ((orderedGroups ctx repos).map (groupChunk state ctx metas)).flatMap
          (fun chunk => (repoHeads chunk.2).map (·.id)) = (orderedGroups ctx repos).map groupId := by
        rw [List.flatMap_map, ← hids, repoHeads_flatMap, List.map_flatMap]
        exact List.flatMap_congr fun panes hpanes => by
          rw [groupChunk, (group_stretch ctx 1 metas hexpanded (hne panes hpanes)).2]
      rw [hgroups]
      exact orderedGroups_ids_perm hkeyed
  · have hsame : mergeCategoryRepositoryRows state ctx category
        (repoRowsFromMap state ctx 1 metas repos) = repoRowsFromMap state ctx 1 metas repos := by
      unfold mergeCategoryRepositoryRows
      by_cases hfilter : state.filter = .all
      · rw [if_neg (not_not.mpr hfilter),
          category_of_not_mem fun hmem => hmerge ⟨hfilter, hmem⟩]
      · rw [if_pos hfilter]
    rw [hsame, repoRowsFromMap_eq, addedRepos, if_neg hmerge, List.append_nil, hids]
    exact ⟨hstretch.perm orderedGroups_flatten_perm, orderedGroups_ids_perm hkeyed⟩

def categoryBody (state : SidebarState) (ctx : RowBuildContext) (metas : GroupMetas)
    (entry : String × RepoGroups) : List SidebarRow :=
  mergeCategoryRepositoryRows state ctx entry.1 (repoRowsFromMap state ctx 1 metas entry.2)

def shownRepos (state : SidebarState) (ctx : RowBuildContext) (entry : String × RepoGroups) :
    List RepoKey := entry.2.keys ++ addedRepos state ctx entry.1 entry.2

theorem categoryGroup_outlined (hkeyed : KeyedIn category repos) (hexpanded : Expanded state) :
    categoryGroupRows state ctx metas (category, repos) =
        categoryRow state ctx metas category repos ::
          categoryBody state ctx metas (category, repos) ∧
      Outlined 0 (categoryRow state ctx metas category repos ::
          repoHeads (categoryBody state ctx metas (category, repos))) (repoPanes repos)
        (categoryGroupRows state ctx metas (category, repos)) := by
  have hopen := isExpanded_of_not_mem (hexpanded category).1
  have hrows : categoryGroupRows state ctx metas (category, repos) =
      categoryRow state ctx metas category repos ::
        categoryBody state ctx metas (category, repos) := by
    rw [categoryGroupRows, if_pos hopen]
    rfl
  obtain ⟨hstretch, -⟩ := merged_spec ctx metas hkeyed hexpanded
  refine ⟨hrows, ?_⟩
  rw [hrows]
  have hhead : IsHead (categoryRow state ctx metas category repos) := by
    have hkind : (categoryRow state ctx metas category repos).kind = .category := rfl
    have hmark : idMark (categoryRow state ctx metas category repos).id = ['c', 'a'] :=
      idMark_category category
    exact isHead_of_mark (by simp [hkind]) hmark (by decide)
  exact hstretch.outlined.under rfl Nat.zero_lt_one hhead hstretch.sum.symm

end Category

end VdeTmux.Sidebar
