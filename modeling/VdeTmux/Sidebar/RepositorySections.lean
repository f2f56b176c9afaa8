import VdeTmux.Sidebar.RepositoryRows

/-!
# The sections of the categories

The rows of a tree divide into sections, one for each category. What the repository rows of a section
show is said in terms of what the repositories have left below the triage zone.
-/

open Foundation Foundation.Outline VdeTmux.Pane VdeTmux.Category
namespace VdeTmux.Sidebar

section Sections
variable [Sha256] (panes : List PanePresentation) (state : SidebarState)
  (order : SidebarPreferences) (ctx : RowBuildContext) (category : String)

def leftKeys : List RepoKey :=
  ((fleetGroups panes state order ctx).toList.filter fun entry => entry.1.1 = category).map
    fun entry => entry.1.2

def leftOf (key : RepoKey) : List AgentPane := remaining panes state order ctx (category, key)

variable {panes state order ctx category}

theorem mem_fleetGroups {repo : String × RepoKey} {group : List AgentPane} :
    (repo, group) ∈ (fleetGroups panes state order ctx).toList ↔
      remaining panes state order ctx repo = group ∧ group ≠ [] := by
  rw [Std.ExtTreeMap.mem_toList_iff_getElem?_eq_some, fleetGroups_get, nonempty_eq_some]

theorem mem_leftKeys {key : RepoKey} : key ∈ leftKeys panes state order ctx category ↔
    leftOf panes state order ctx category key ≠ [] := by
  simp only [leftKeys, List.mem_map, List.mem_filter, Prod.exists, decide_eq_true_eq,
    mem_fleetGroups]
  constructor
  · rintro ⟨_, _, group, ⟨⟨hgroup, hne⟩, rfl⟩, rfl⟩
    rwa [leftOf, hgroup]
  · intro h
    exact ⟨category, key, _, ⟨⟨rfl, h⟩, rfl⟩, rfl⟩

theorem fleetGroups_sorted :
    (fleetGroups panes state order ctx).toList.Pairwise fun a b => Maps.lex a.1 b.1 = .lt :=
  Std.ExtTreeMap.ordered_keys_toList

variable (panes state order ctx category) in
theorem grouped : Grouped category (leftKeys panes state order ctx category)
    (leftOf panes state order ctx category) where
  sorted := by
    refine List.pairwise_map.mpr (List.Pairwise.imp_of_mem ?_ (fleetGroups_sorted.filter _))
    rintro ⟨⟨c, key⟩, group⟩ ⟨⟨c', key'⟩, group'⟩ ha hb hlt
    have hc : c = category := by simpa using (List.mem_filter.mp ha).2
    have hc' : c' = category := by simpa using (List.mem_filter.mp hb).2
    subst hc
    subst hc'
    rcases compareLex_eq_lt.mp hlt with hfst | ⟨-, hsnd⟩
    · exact absurd (hfst.symm.trans Std.ReflCmp.compare_self) (by decide)
    · exact hsnd
  ne_nil key hkey := mem_leftKeys.mp hkey
  keyed key hkey pane hpane := by
    have hget := (fleetGroups_get panes state order ctx (category, key)).trans
      (nonempty_eq_some.mpr ⟨rfl, mem_leftKeys.mp hkey⟩)
    exact ((fleetGroups_of panes state order ctx).2 category key _ hget).2 pane hpane

variable (panes state order ctx category) in
def leftEntries : List ((String × RepoKey) × List AgentPane) :=
  (leftKeys panes state order ctx category).map fun key =>
    ((category, key), leftOf panes state order ctx category key)

theorem mem_leftEntries {c : String} {key : RepoKey} {group : List AgentPane} :
    ((c, key), group) ∈ leftEntries panes state order ctx category ↔
      c = category ∧ (fleetGroups panes state order ctx)[(c, key)]? = some group := by
  simp only [leftEntries, List.mem_map, Prod.mk.injEq, mem_leftKeys, fleetGroups_get,
    nonempty_eq_some]
  constructor
  · rintro ⟨_, hne, ⟨rfl, rfl⟩, rfl⟩
    exact ⟨rfl, rfl, hne⟩
  · rintro ⟨rfl, rfl, hne⟩
    exact ⟨key, hne, ⟨rfl, rfl⟩, rfl⟩

theorem leftEntries_sorted :
    (leftEntries panes state order ctx category).Pairwise fun a b => Maps.lex a.1 b.1 = .lt := by
  refine List.pairwise_map.mpr ((grouped panes state order ctx category).sorted.imp ?_)
  intro a b hlt
  exact compareLex_eq_lt.mpr (Or.inr ⟨Std.ReflCmp.compare_self, hlt⟩)

theorem fleetGroups_current (hscope : state.categoryScope = .current)
    (hcurrent : state.currentCategory = some category) :
    (fleetGroups panes state order ctx).toList = leftEntries panes state order ctx category := by
  refine Maps.eq_of_sorted fleetGroups_sorted leftEntries_sorted ?_
  rintro ⟨⟨c, key⟩, group⟩
  rw [mem_leftEntries, Std.ExtTreeMap.mem_toList_iff_getElem?_eq_some]
  refine ⟨fun hget => ⟨?_, hget⟩, fun h => h.2⟩
  have hkeys : (c, key) ∈ groupKeys (fleetGroups panes state order ctx) :=
    mem_groupKeys.mpr ⟨group, hget⟩
  obtain ⟨pane, hpane, -, rfl, rfl⟩ := mem_fleetKeys.mp hkeys
  have hin := (List.mem_filter.mp (List.mem_filter.mp hpane).1).2
  simp only [inScope, hscope, Bool.or_eq_true, decide_eq_true_eq] at hin
  exact Option.some_inj.mp ((hin.resolve_left (by simp)).symm.trans hcurrent)

theorem orderedGroups_left {repos : RepoGroups}
    (h : (category, repos) ∈ orderedCategories state ctx (fleetGroups panes state order ctx)) :
    orderedGroups ctx repos = orderRepoGroups ((leftKeys panes state order ctx category).map
      (leftOf panes state order ctx category)) ctx.categoryState := by
  have hrepos := mem_orderedCategories.mp h
  have hget (key : RepoKey) : repos[key]? =
      (fleetGroups panes state order ctx)[(category, key)]? := by
    rw [← shownCategories_nests state ctx _ category key, lookupGroup, hrepos]
    rfl
  have hkeyed := keyedIn_of_mem (fleetGroups_of panes state order ctx).2 h
  have hentries : (Std.ExtTreeMap.ofList (keyedEntries repos) Maps.lex).toList =
      leftEntries panes state order ctx category := by
    refine Maps.eq_of_sorted Std.ExtTreeMap.ordered_keys_toList leftEntries_sorted ?_
    rintro ⟨⟨c, key⟩, group⟩
    rw [(Maps.toList_ofList_perm (keyedEntries_nodup repos)).mem_iff, mem_leftEntries]
    simp only [keyedEntries, List.mem_map, Prod.exists, Prod.mk.injEq,
      Std.ExtTreeMap.mem_toList_iff_getElem?_eq_some]
    have hcategory {key : RepoKey} {group : List AgentPane} (hgroup : repos[key]? = some group) :
        (group.head?.map (·.category)).getD uncategorized = category := by
      obtain ⟨hne, hpanes⟩ := hkeyed key group hgroup
      obtain ⟨first, hfirst, hmem⟩ := exists_head hne
      rw [hfirst]
      exact (hpanes first hmem).1
    constructor
    · rintro ⟨_, _, hgroup, ⟨rfl, rfl⟩, rfl⟩
      have hc := hcategory hgroup
      exact ⟨hc, by rw [hc, ← hget]; exact hgroup⟩
    · rintro ⟨rfl, hgroup⟩
      rw [← hget] at hgroup
      exact ⟨key, group, hgroup, ⟨hcategory hgroup, rfl⟩, rfl⟩
  rw [orderedGroups, hentries, leftEntries, List.map_map]
  rfl

def isCategory (row : SidebarRow) : Bool := row.kind = .category

omit [Sha256] in
theorem not_isCategory {row : SidebarRow} (h : row.kind ≠ .category) : isCategory row = false :=
  decide_eq_false h

theorem triage_kind : ∀ row ∈ triageZoneRows (triagePanes panes state order ctx) state ctx.now,
    isCategory row = false := by
  intro row hrow
  unfold triageZoneRows at hrow
  split_ifs at hrow
  · exact absurd hrow List.not_mem_nil
  · rcases List.mem_cons.mp hrow with rfl | hrow
    · rfl
    · obtain ⟨pane, -, hpane⟩ := List.mem_flatMap.mp hrow
      refine not_isCategory ?_
      rcases (triageChatRows_isBlock state ctx.now).kind hpane with h | h <;> simp [h]

variable (panes state order ctx category) in
def belowCategory : List SidebarRow :=
  mergeCategoryRepositoryRows state ctx category
    (Grouped.rowsOf state ctx (scopedMetas panes state order ctx)
      (leftKeys panes state order ctx category) (leftOf panes state order ctx category))

theorem projectedRows_tree (hmode : state.presentationMode = .tree)
    (hscope : state.categoryScope = .all) : projectedRows panes state order ctx =
      triageZoneRows (triagePanes panes state order ctx) state ctx.now ++
        (orderedCategories state ctx (fleetGroups panes state order ctx)).flatMap fun entry =>
          categoryRow state ctx (scopedMetas panes state order ctx) entry.1 entry.2 ::
            if state.isExpanded (categoryId entry.1) then
              belowCategory panes state order ctx entry.1
            else [] := by
  rw [projectedRows_fleet (by simp [hmode]), fleetRows, hmode]
  simp only [hscope]
  refine congrArg _ (List.flatMap_congr fun entry hentry => ?_)
  rw [categoryGroupRows, repoRowsFromMap_eq, orderedGroups_left hentry]
  rfl

theorem sections_tree (hmode : state.presentationMode = .tree)
    (hscope : state.categoryScope = .all) :
    sections isCategory (projectedRows panes state order ctx) =
      (orderedCategories state ctx (fleetGroups panes state order ctx)).map fun entry =>
        (categoryRow state ctx (scopedMetas panes state order ctx) entry.1 entry.2,
          if state.isExpanded (categoryId entry.1) then
            belowCategory panes state order ctx entry.1
          else []) := by
  rw [projectedRows_tree hmode hscope, sections_append triage_kind]
  refine sections_flatMap (fun _ _ => rfl) fun entry _ row hrow => ?_
  split_ifs at hrow
  · exact not_isCategory ((grouped panes state order ctx entry.1).merge_kind row hrow)
  · exact absurd hrow List.not_mem_nil

/-- The repository rows of a category: those of its section, or all of them when only the current
category is shown. -/
def repoRowsOf (state : SidebarState) (rows : List SidebarRow) (category : String) :
    List SidebarRow :=
  match state.categoryScope with
  | .all => (((sections isCategory rows).find? fun s => s.1.id = categoryId category).map fun s =>
      repoHeads s.2).getD []
  | .current => if state.currentCategory = some category then repoHeads rows else []

def Opened (state : SidebarState) (category : String) : Prop :=
  match state.categoryScope with
  | .all => state.isExpanded (categoryId category) = true
  | .current => state.currentCategory = some category

theorem entry_of_left {key : RepoKey} (hkey : key ∈ leftKeys panes state order ctx category) :
    ∃ repos, (category, repos) ∈ orderedCategories state ctx (fleetGroups panes state order ctx) := by
  have hget := fleetGroups_get panes state order ctx (category, key)
  rw [← shownCategories_nests state ctx _ category key, lookupGroup] at hget
  cases hrepos : (shownCategories state ctx (fleetGroups panes state order ctx))[category]? with
  | some repos => exact ⟨repos, mem_orderedCategories.mpr hrepos⟩
  | none =>
    rw [hrepos] at hget
    have hnone : nonempty (remaining panes state order ctx (category, key)) = none := by
      rw [← hget]
      simp
    have hne := mem_leftKeys.mp hkey
    cases hnone.symm.trans (nonempty_eq_some.mpr ⟨rfl, hne⟩)

omit [Sha256] in
theorem categoryRow_id (metas : GroupMetas) (repos : RepoGroups) :
    (categoryRow state ctx metas category repos).id = categoryId category := rfl

omit [Sha256] in
theorem find?_section {entries : List (String × RepoGroups)} {repos : RepoGroups}
    (h : (category, repos) ∈ entries) (f : String → List SidebarRow) (metas : GroupMetas) :
    ((entries.map fun entry => (categoryRow state ctx metas entry.1 entry.2, f entry.1)).find?
      fun s => s.1.id = categoryId category).map (fun s => repoHeads s.2) =
      some (repoHeads (f category)) := by
  induction entries with
  | nil => exact absurd h List.not_mem_nil
  | cons entry entries ih =>
    rw [List.map_cons]
    by_cases hentry : entry.1 = category
    · rw [List.find?_cons_of_pos (by simp [categoryRow_id, hentry]), Option.map_some, hentry]
    · have hne : categoryId entry.1 ≠ categoryId category := fun heq =>
        hentry (categoryId_injective heq)
      have hrest := (List.mem_cons.mp h).resolve_left fun heq => hentry (heq ▸ rfl)
      rw [List.find?_cons_of_neg (by simp [categoryRow_id, hne])]
      exact ih hrest

theorem triage_heads :
    faces (triageZoneRows (triagePanes panes state order ctx) state ctx.now) = [] := by
  have hnone : repoHeads (triageZoneRows (triagePanes panes state order ctx) state ctx.now) = [] := by
    have hrepos := (triage_outlined (triagePanes panes state order ctx) state ctx.now).repos_perm
    have hzone : (triageHead (triagePanes panes state order ctx)).filter (·.kind = .repo) = [] := by
      unfold triageHead
      split_ifs <;> rfl
    rw [hzone] at hrepos
    exact hrepos.eq_nil
  rw [faces, hnone, List.map_nil]

theorem faces_of_entry (hmode : state.presentationMode = .tree) (hopened : Opened state category)
    (hshown : state.categoryScope = .all → ∃ repos,
      (category, repos) ∈ orderedCategories state ctx (fleetGroups panes state order ctx)) :
    (repoRowsOf state (projectedRows panes state order ctx) category).map (·.face) =
      if state.categoryScope = .all then
        Grouped.categoryFaces state ctx (scopedMetas panes state order ctx) category
          (leftKeys panes state order ctx category) (leftOf panes state order ctx category)
      else
        (Grouped.sortedKeys ctx (leftKeys panes state order ctx category)
          (leftOf panes state order ctx category)).map
          (Grouped.face (scopedMetas panes state order ctx) category
            (leftOf panes state order ctx category)) := by
  cases hscope : state.categoryScope with
  | all =>
    obtain ⟨repos, hrepos⟩ := hshown hscope
    simp only [Opened, hscope] at hopened
    rw [repoRowsOf, hscope]
    simp only [if_true]
    rw [sections_tree hmode hscope, find?_section hrepos (fun c =>
      if state.isExpanded (categoryId c) then belowCategory panes state order ctx c else []),
      Option.getD_some, if_pos hopened]
    exact (grouped panes state order ctx category).faces_merge
  | current =>
    simp only [Opened, hscope] at hopened
    rw [repoRowsOf, hscope]
    simp only [hopened, if_true]
    have hgroups : (fleetGroups panes state order ctx).toList.map Prod.snd =
        (leftKeys panes state order ctx category).map (leftOf panes state order ctx category) := by
      rw [fleetGroups_current hscope hopened, leftEntries, List.map_map]
      rfl
    have hrows : projectedRows panes state order ctx =
        triageZoneRows (triagePanes panes state order ctx) state ctx.now ++
          (orderRepoGroups ((leftKeys panes state order ctx category).map
            (leftOf panes state order ctx category)) ctx.categoryState).flatMap
            (repoGroupRows state ctx 0 (scopedMetas panes state order ctx)) := by
      rw [projectedRows_fleet (by simp [hmode]), fleetRows, hmode]
      simp only [hscope, if_true]
      rw [repoRowsFromKeyedMap, hgroups]
    rw [if_neg (by simp), ← (grouped panes state order ctx category).faces_ordered, hrows]
    exact (faces_append _ _).trans (congrArg (· ++ _) triage_heads)

theorem faces_repoRowsOf (hmode : state.presentationMode = .tree) (hopened : Opened state category)
    {key : RepoKey} (hkey : key ∈ leftKeys panes state order ctx category) :
    (repoRowsOf state (projectedRows panes state order ctx) category).map (·.face) =
      if state.categoryScope = .all then
        Grouped.categoryFaces state ctx (scopedMetas panes state order ctx) category
          (leftKeys panes state order ctx category) (leftOf panes state order ctx category)
      else
        (Grouped.sortedKeys ctx (leftKeys panes state order ctx category)
          (leftOf panes state order ctx category)).map
          (Grouped.face (scopedMetas panes state order ctx) category
            (leftOf panes state order ctx category)) :=
  faces_of_entry hmode hopened fun _ => entry_of_left hkey

/-- Rows of repositories come from categories that are shown. -/
theorem shown_of_mem (hmode : state.presentationMode = .tree) {row : SidebarRow}
    (hrow : row ∈ repoRowsOf state (projectedRows panes state order ctx) category) :
    Opened state category ∧ (state.categoryScope = .all → ∃ repos,
      (category, repos) ∈ orderedCategories state ctx (fleetGroups panes state order ctx)) := by
  unfold repoRowsOf at hrow
  cases hscope : state.categoryScope with
  | current =>
    rw [hscope] at hrow
    simp only at hrow
    split_ifs at hrow with hcurrent
    · simp [Opened, hscope, hcurrent]
    · exact absurd hrow List.not_mem_nil
  | all =>
    rw [hscope] at hrow
    simp only at hrow
    cases hfind : (sections isCategory (projectedRows panes state order ctx)).find? fun s =>
        s.1.id = categoryId category with
    | none =>
      rw [hfind] at hrow
      exact absurd hrow List.not_mem_nil
    | some found =>
      rw [hfind] at hrow
      have hid : found.1.id = categoryId category := by simpa using List.find?_some hfind
      have hmem := List.mem_of_find?_eq_some hfind
      rw [sections_tree hmode hscope] at hmem
      obtain ⟨⟨name, repos⟩, hentry, rfl⟩ := List.mem_map.mp hmem
      obtain rfl : name = category := categoryId_injective hid
      refine ⟨?_, fun _ => ⟨repos, hentry⟩⟩
      by_cases hexpanded : state.isExpanded (categoryId name) = true
      · simpa only [Opened, hscope] using hexpanded
      · simp only [if_neg hexpanded] at hrow
        exact absurd hrow List.not_mem_nil

end Sections

end VdeTmux.Sidebar
