import VdeTmux.Sidebar.RepositorySections

/-!
# The attention counts of a category

Whether the repository rows of a category add up to the attention count of its row. A repository row
looks its count up under the display name, and what it falls back to is what is left.
-/

open Foundation Foundation.Outline VdeTmux.Pane VdeTmux.Category
namespace VdeTmux.Sidebar

section Agreement
variable [Sha256] (panes : List PanePresentation) (state : SidebarState)
  (order : SidebarPreferences) (ctx : RowBuildContext)

def attentionOf (repo : String × RepoKey) : ℕ :=
  (repoScope panes state order ctx repo).countP AgentPane.matchesAttentionFilter

/-- What the row of a repository counts: the panes of the repository that has its display name as
key, or else those that it has left. -/
def rowAttention (category : String) (key : RepoKey) : ℕ :=
  (((leftOf panes state order ctx category key).head?.map fun first =>
    if repoScope panes state order ctx (category, first.repo) = [] then
      (leftOf panes state order ctx category key).countP AgentPane.matchesAttentionFilter
    else attentionOf panes state order ctx (category, first.repo))).getD 0

def AttentionKept : Prop :=
  state.categoryScope = .all → ∀ category, state.isExpanded (categoryId category) = true →
    ((leftKeys panes state order ctx category).map fun key =>
      attentionOf panes state order ctx (category, key)).sum =
    ((leftKeys panes state order ctx category).map
      (rowAttention panes state order ctx category)).sum

variable {panes state order ctx}

theorem scopedMetas_get (repo : String × RepoKey) :
    (scopedMetas panes state order ctx)[repo]? =
      (nonempty (repoScope panes state order ctx repo)).map fun panes =>
        groupMeta (orderAgentPanes panes order) := by
  rw [scopedMetas, Std.ExtTreeMap.getElem?_map, scopedGroups_get, Option.map_map]
  rfl

omit [Sha256] in
theorem groupMeta_attention (panes : List AgentPane) (order : SidebarPreferences) :
    (groupMeta (orderAgentPanes panes order)).attentionCount =
      some (panes.countP AgentPane.matchesAttentionFilter) :=
  congrArg some ((orderAgentPanes_perm panes order).countP_eq _)

theorem groupAttention_eq {category : String} {key : RepoKey}
    (hkey : key ∈ leftKeys panes state order ctx category) :
    groupAttention (scopedMetas panes state order ctx) (leftOf panes state order ctx category key) =
      rowAttention panes state order ctx category key := by
  obtain ⟨first, hfirst, hcategory, -⟩ := (grouped panes state order ctx category).head hkey
  rw [groupAttention, rowAttention, hfirst, Option.map_some, Option.map_some, Option.getD_some,
    Option.getD_some, hcategory, scopedMetas_get]
  unfold nonempty
  split_ifs with hnil
  · rfl
  · exact congrArg (·.getD 0) (groupMeta_attention _ order)

theorem remaining_subset {repo : String × RepoKey} {pane : AgentPane}
    (h : pane ∈ remaining panes state order ctx repo) : pane ∈ repoScope panes state order ctx repo :=
  (orderAgentPanes_perm _ order).mem_iff.mp (List.mem_filter.mp (List.mem_filter.mp h).1).1

theorem keys_perm {category : String} {repos : RepoGroups}
    (h : (category, repos) ∈ orderedCategories state ctx (fleetGroups panes state order ctx)) :
    repos.keys.Perm (leftKeys panes state order ctx category) := by
  have hkeys : repos.keys.Nodup := by
    rw [← Std.ExtTreeMap.map_fst_toList_eq_keys]
    exact Maps.nodup_keys repos
  refine (List.perm_ext_iff_of_nodup hkeys (grouped panes state order ctx category).nodup).mpr ?_
  intro key
  have hget : repos[key]? = nonempty (leftOf panes state order ctx category key) := by
    have hnested := shownCategories_nests state ctx (fleetGroups panes state order ctx) category key
    rw [lookupGroup, mem_orderedCategories.mp h, fleetGroups_get] at hnested
    exact hnested
  rw [mem_leftKeys, Std.ExtTreeMap.mem_keys, Maps.mem_iff_exists, hget]
  constructor
  · rintro ⟨group, hgroup⟩
    obtain ⟨rfl, hne⟩ := nonempty_eq_some.mp hgroup
    exact hne
  · exact fun hne => ⟨_, nonempty_eq_some.mpr ⟨rfl, hne⟩⟩

theorem meta_of_left {category : String} {key : RepoKey}
    (hkey : key ∈ leftKeys panes state order ctx category) :
    ((scopedMetas panes state order ctx)[(category, key)]?.bind (·.attentionCount)) =
      some (attentionOf panes state order ctx (category, key)) := by
  obtain ⟨pane, -, hpane⟩ := exists_head (mem_leftKeys.mp hkey)
  have hscope : repoScope panes state order ctx (category, key) ≠ [] :=
    List.ne_nil_of_mem (remaining_subset hpane)
  rw [scopedMetas_get, nonempty_eq_some.mpr ⟨rfl, hscope⟩]
  exact groupMeta_attention _ order

theorem categoryRow_attention {category : String} {repos : RepoGroups}
    (h : (category, repos) ∈ orderedCategories state ctx (fleetGroups panes state order ctx)) :
    (categoryRow state ctx (scopedMetas panes state order ctx) category repos).attention =
      ((leftKeys panes state order ctx category).map fun key =>
        attentionOf panes state order ctx (category, key)).sum := by
  have hsum := ((keys_perm h).filterMap fun repo => (scopedMetas panes state order ctx)[(category,
    repo)]?.bind (·.attentionCount)).sum_eq
  have hmap : ((leftKeys panes state order ctx category).filterMap fun repo =>
      (scopedMetas panes state order ctx)[(category, repo)]?.bind (·.attentionCount)) =
      (leftKeys panes state order ctx category).map fun key =>
        attentionOf panes state order ctx (category, key) := by
    rw [← List.filterMap_eq_map]
    exact List.filterMap_congr fun key hkey => meta_of_left hkey
  rw [hmap] at hsum
  exact hsum

theorem below_attention (category : String) :
    ((repoHeads (belowCategory panes state order ctx category)).map (·.attention)).sum =
      ((leftKeys panes state order ctx category).map
        (rowAttention panes state order ctx category)).sum := by
  have hsum : ((faces (belowCategory panes state order ctx category)).map (·.2.1)).sum = _ :=
    (grouped panes state order ctx category).attention_merge
  rw [faces, List.map_map] at hsum
  refine hsum.trans (congrArg List.sum (List.map_congr_left fun key hkey => ?_))
  exact groupAttention_eq hkey

theorem sections_current (hmode : state.presentationMode = .tree)
    (hscope : state.categoryScope = .current) :
    sections isCategory (projectedRows panes state order ctx) = [] := by
  refine sections_eq_nil fun row hrow => ?_
  rw [projectedRows_fleet (by simp [hmode]), fleetRows, hmode] at hrow
  simp only [hscope, if_true] at hrow
  rcases List.mem_append.mp hrow with hrow | hrow
  · exact triage_kind row hrow
  · obtain ⟨group, -, hrow⟩ := List.mem_flatMap.mp hrow
    exact not_isCategory (repoGroupRows_kind row hrow)

theorem attention_iff (hmode : state.presentationMode = .tree) :
    (∀ s ∈ sections isCategory (projectedRows panes state order ctx),
      s.1.expanded = true → s.1.attention = ((repoHeads s.2).map (·.attention)).sum) ↔
      AttentionKept panes state order ctx := by
  cases hscope : state.categoryScope with
  | current =>
    rw [sections_current hmode hscope]
    refine iff_of_true (fun s hs => absurd hs List.not_mem_nil) fun hall => ?_
    cases hscope.symm.trans hall
  | all =>
    rw [sections_tree hmode hscope]
    constructor
    · intro h _ category hexpanded
      cases hkeys : leftKeys panes state order ctx category with
      | nil => rfl
      | cons key keys =>
        have hkey : key ∈ leftKeys panes state order ctx category := by
          rw [hkeys]
          exact List.mem_cons_self
        obtain ⟨repos, hrepos⟩ := entry_of_left hkey
        have hsection := h _ (List.mem_map_of_mem hrepos) hexpanded
        simp only [if_pos hexpanded] at hsection
        rw [categoryRow_attention hrepos, below_attention, hkeys] at hsection
        exact hsection
    · intro h s hs hexpanded
      obtain ⟨⟨category, repos⟩, hrepos, rfl⟩ := List.mem_map.mp hs
      have hopen : state.isExpanded (categoryId category) = true := hexpanded
      simp only [if_pos hopen]
      rw [categoryRow_attention hrepos, below_attention]
      exact h hscope category hopen

section Names
variable {category : String}

/-- Whether a display name is the key of a repository in scope in the category. -/
def NameIsKey (panes : List PanePresentation) (state : SidebarState) (order : SidebarPreferences)
    (ctx : RowBuildContext) : Prop :=
  ∃ category key first, (leftOf panes state order ctx category key).head? = some first ∧
    repoScope panes state order ctx (category, first.repo) ≠ []

/-- No repository with panes below the triage zone has others that need attention and are in the
zone or hidden. -/
def AttentionLeft (panes : List PanePresentation) (state : SidebarState)
    (order : SidebarPreferences) (ctx : RowBuildContext) : Prop :=
  state.categoryScope = .all → ∀ category, state.isExpanded (categoryId category) = true →
    ∀ key ∈ leftKeys panes state order ctx category,
      ∀ pane ∈ repoScope panes state order ctx (category, key), pane.matchesAttentionFilter = true →
        inTriage ctx pane = false ∧ pane.matchesFilter state.filter = true

/-- The key by which the row of a repository looks up the counts of another one. -/
def nameKey (panes : List PanePresentation) (state : SidebarState) (order : SidebarPreferences)
    (ctx : RowBuildContext) (category : String) (key : RepoKey) : Option RepoKey :=
  ((leftOf panes state order ctx category key).head?.map (·.repo)).filter fun name =>
    repoScope panes state order ctx (category, name) ≠ []

/-- The panes of a repository that need attention and are in the triage zone or hidden. -/
def attentionAway (panes : List PanePresentation) (state : SidebarState) (order : SidebarPreferences)
    (ctx : RowBuildContext) (repo : String × RepoKey) : ℕ :=
  (repoScope panes state order ctx repo).countP fun pane => pane.matchesAttentionFilter &&
    !(!inTriage ctx pane && pane.matchesFilter state.filter)

/-- What is in the triage zone or hidden of repositories whose display name is no key, and what the
others have, are together what the repositories have that they are named like. -/
def AttentionBalanced (panes : List PanePresentation) (state : SidebarState)
    (order : SidebarPreferences) (ctx : RowBuildContext) : Prop :=
  state.categoryScope = .all → ∀ category, state.isExpanded (categoryId category) = true →
    let keys := leftKeys panes state order ctx category
    let name := nameKey panes state order ctx category
    ((keys.filter fun key => (name key).isSome).map fun key =>
        attentionOf panes state order ctx (category, key)).sum +
      ((keys.filter fun key => (name key).isNone).map fun key =>
        attentionAway panes state order ctx (category, key)).sum =
    ((keys.filterMap name).map fun key => attentionOf panes state order ctx (category, key)).sum

omit [Sha256] in
theorem sum_map_named {α β : Type} {f r a : α → ℕ} {name : α → Option β} {g : β → ℕ}
    {l : List α} (hsome : ∀ x ∈ l, ∀ y, name x = some y → r x = g y)
    (hnone : ∀ x ∈ l, name x = none → f x = r x + a x) :
    (l.map f).sum + ((l.filterMap name).map g).sum = (l.map r).sum +
      (((l.filter fun x => (name x).isSome).map f).sum +
        ((l.filter fun x => (name x).isNone).map a).sum) := by
  induction l with
  | nil => rfl
  | cons x l ih =>
    have hl := ih (fun x hx => hsome x (List.mem_cons_of_mem _ hx))
      fun x hx => hnone x (List.mem_cons_of_mem _ hx)
    cases hx : name x with
    | none =>
      have hf := hnone x List.mem_cons_self hx
      simp only [List.map_cons, List.sum_cons, List.filterMap_cons, List.filter_cons, hx,
        Option.isSome_none, Option.isNone_none, if_true, Bool.false_eq_true, if_false]
      omega
    | some y =>
      have hg := hsome x List.mem_cons_self y hx
      simp only [List.map_cons, List.sum_cons, List.filterMap_cons, List.filter_cons, hx,
        Option.isSome_some, Option.isNone_some, if_true, Bool.false_eq_true, if_false]
      omega

theorem attentionOf_split (key : RepoKey) :
    attentionOf panes state order ctx (category, key) =
      (leftOf panes state order ctx category key).countP AgentPane.matchesAttentionFilter +
        attentionAway panes state order ctx (category, key) := by
  have hperm := orderAgentPanes_perm (repoScope panes state order ctx (category, key)) order
  rw [attentionOf, attentionAway, leftOf, remaining, List.filter_filter, ← hperm.countP_eq,
    ← hperm.countP_eq, List.countP_eq_countP_filter_add _ _ fun pane =>
      pane.matchesFilter state.filter && !inTriage ctx pane]
  congr 1
  rw [List.countP_filter]
  refine List.countP_congr fun pane _ => ?_
  rw [Bool.and_comm (!inTriage ctx pane)]

/-- The counts add up exactly when those balance that are not counted and those that are counted
for another repository. -/
theorem attentionKept_balanced :
    AttentionKept panes state order ctx ↔ AttentionBalanced panes state order ctx := by
  refine imp_congr_right fun _ => forall_congr' fun category => imp_congr_right fun _ => ?_
  have hsum : ((leftKeys panes state order ctx category).map fun key =>
      attentionOf panes state order ctx (category, key)).sum +
      (((leftKeys panes state order ctx category).filterMap
        (nameKey panes state order ctx category)).map fun key =>
          attentionOf panes state order ctx (category, key)).sum = _ :=
    sum_map_named (r := rowAttention panes state order ctx category)
      (a := fun key => attentionAway panes state order ctx (category, key))
      (fun key hkey name hname => ?_) fun key hkey hname => ?_
  · simp only
    omega
  · obtain ⟨hrepo, hscope⟩ := Option.filter_eq_some_iff.mp hname
    obtain ⟨first, hfirst, rfl⟩ := Option.map_eq_some_iff.mp hrepo
    rw [rowAttention, hfirst, Option.map_some, Option.getD_some, if_neg (by simpa using hscope)]
  · obtain ⟨first, hfirst, -⟩ := exists_head (mem_leftKeys.mp hkey)
    have hscope : repoScope panes state order ctx (category, first.repo) = [] := by
      rw [nameKey, hfirst] at hname
      simpa using hname
    rw [attentionOf_split, rowAttention, hfirst, Option.map_some, Option.getD_some, if_pos hscope]

/-- Unless a display name is a key, the counts add up exactly when all the panes that need attention
are left. -/
theorem attentionKept_iff (hname : ¬NameIsKey panes state order ctx) :
    AttentionKept panes state order ctx ↔ AttentionLeft panes state order ctx := by
  rw [attentionKept_balanced]
  refine imp_congr_right fun _ => forall_congr' fun category => imp_congr_right fun _ => ?_
  have hnone (key : RepoKey) : nameKey panes state order ctx category key = none := by
    rw [nameKey, Option.filter_eq_none_iff]
    intro name hrepo hscope
    obtain ⟨first, hfirst, rfl⟩ := Option.map_eq_some_iff.mp hrepo
    exact hname ⟨category, key, first, hfirst, by simpa using hscope⟩
  have haway (key : RepoKey) : attentionAway panes state order ctx (category, key) = 0 ↔
      ∀ pane ∈ repoScope panes state order ctx (category, key),
        pane.matchesAttentionFilter = true →
          inTriage ctx pane = false ∧ pane.matchesFilter state.filter = true := by
    rw [attentionAway, List.countP_eq_zero]
    refine forall₂_congr fun pane _ => ?_
    simp [imp_iff_not_or]
  simp only [hnone, Option.isSome_none, Option.isNone_none, List.filter_false, List.filter_true,
    List.filterMap_none, List.map_nil, List.sum_nil, Nat.zero_add, List.sum_eq_zero_iff,
    List.forall_mem_map, haway]

end Names

end Agreement

end VdeTmux.Sidebar
