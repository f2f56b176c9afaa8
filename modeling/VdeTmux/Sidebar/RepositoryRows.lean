import VdeTmux.Sidebar.EveryPane

/-!
# The rows of the repositories of a category

What a repository has left below the triage zone, and the repository rows of a category in their
order, whatever is expanded below the category.
-/

open Foundation Foundation.Outline VdeTmux.Pane VdeTmux.Category
namespace VdeTmux.Sidebar

def nonempty (panes : List AgentPane) : Option (List AgentPane) :=
  if panes = [] then none else some panes

theorem nonempty_getD (panes : List AgentPane) : (nonempty panes).getD [] = panes := by
  unfold nonempty
  split_ifs with h
  · exact h.symm
  · rfl

theorem nonempty_eq_some {panes group : List AgentPane} :
    nonempty panes = some group ↔ panes = group ∧ group ≠ [] := by
  unfold nonempty
  split_ifs with h
  · simp [h]
  · rw [Option.some_inj]
    exact ⟨fun heq => ⟨heq, heq ▸ h⟩, fun heq => heq.1⟩

theorem groupPanes_get (panes : List AgentPane) (key : String × RepoKey) :
    (groupPanes panes)[key]? =
      nonempty (panes.filter fun pane => (pane.category, pane.repoKey) = key) := by
  have hfold (more : List AgentPane) (groups : Groups) (panes : List AgentPane)
      (h : groups[key]? =
        nonempty (panes.filter fun pane => (pane.category, pane.repoKey) = key)) :
      (more.foldl (fun groups pane => groups.insert (pane.category, pane.repoKey)
        (groups[(pane.category, pane.repoKey)]?.getD [] ++ [pane])) groups)[key]? =
      nonempty ((panes ++ more).filter fun pane => (pane.category, pane.repoKey) = key) := by
    induction more generalizing groups panes with
    | nil => rwa [List.append_nil]
    | cons pane more ih =>
      have happend : panes ++ pane :: more = (panes ++ [pane]) ++ more := List.append_cons ..
      rw [List.foldl_cons, happend]
      refine ih _ (panes ++ [pane]) ?_
      rw [Maps.getElem?_insert, List.filter_append]
      by_cases hkey : (pane.category, pane.repoKey) = key
      · rw [if_pos hkey.symm, hkey, h, nonempty_getD]
        simp [nonempty, hkey]
      · rw [if_neg (Ne.symm hkey), h]
        simp [hkey]
  exact hfold panes ∅ [] (by simp [nonempty])

theorem dropEmpty_get {groups : Groups} {key : String × RepoKey} :
    (dropEmpty groups)[key]? = groups[key]?.bind nonempty := by
  refine Option.ext fun group => ?_
  rw [dropEmpty, Maps.getElem?_filter_eq_some, Option.bind_eq_some_iff]
  constructor
  · rintro ⟨hget, hne⟩
    exact ⟨group, hget, nonempty_eq_some.mpr ⟨rfl, by simpa using hne⟩⟩
  · rintro ⟨old, hget, hold⟩
    obtain ⟨rfl, hne⟩ := nonempty_eq_some.mp hold
    exact ⟨hget, by simpa using hne⟩

section Remaining
variable [Sha256] (panes : List PanePresentation) (state : SidebarState)
  (order : SidebarPreferences) (ctx : RowBuildContext)

def repoScope (repo : String × RepoKey) : List AgentPane :=
  (scopedPanes panes state order ctx).filter fun pane => (pane.category, pane.repoKey) = repo

def remaining (repo : String × RepoKey) : List AgentPane :=
  ((orderAgentPanes (repoScope panes state order ctx repo) order).filter (!inTriage ctx ·)).filter
    (·.matchesFilter state.filter)

variable {panes state order ctx}

theorem repoScope_eq (repo : String × RepoKey) : repoScope panes state order ctx repo =
    if state.categoryScope = .current ∧ state.currentCategory ≠ some repo.1 then []
    else (agentPanes panes order ctx).filter fun pane => (pane.category, pane.repoKey) = repo := by
  rw [repoScope, scopedPanes, List.filter_filter]
  split_ifs with hout
  · refine List.filter_eq_nil_iff.mpr fun pane _ h => ?_
    obtain ⟨hkey, hin⟩ := Bool.and_eq_true_iff.mp h
    obtain rfl := of_decide_eq_true hkey
    simp [inScope, hout.1, hout.2] at hin
  · refine List.filter_congr fun pane _ => ?_
    by_cases hkey : (pane.category, pane.repoKey) = repo
    · have hin : inScope state pane = true := by
        rw [inScope, Bool.or_eq_true, decide_eq_true_eq, decide_eq_true_eq]
        subst hkey
        cases hscope : state.categoryScope with
        | all => exact Or.inl rfl
        | current => exact Or.inr (not_not.mp fun hne => hout ⟨hscope, hne⟩)
      simp [hkey, hin]
    · simp [hkey]

theorem scopedGroups_get (repo : String × RepoKey) :
    (scopedGroups (groupPanes (agentPanes panes order ctx)) state order)[repo]? =
      (nonempty (repoScope panes state order ctx repo)).map (orderAgentPanes · order) := by
  rw [scopedGroups, Std.ExtTreeMap.getElem?_map, repoScope_eq]
  congr 1
  by_cases hscope : state.categoryScope = .current
  · rw [if_pos hscope]
    by_cases hcurrent : state.currentCategory = some repo.1
    · rw [if_neg fun h => h.2 hcurrent, ← groupPanes_get]
      refine Option.ext fun group => ?_
      rw [Maps.getElem?_filter_eq_some]
      exact ⟨fun h => h.1, fun h => ⟨h, decide_eq_true hcurrent⟩⟩
    · rw [if_pos ⟨hscope, hcurrent⟩]
      refine Option.eq_none_iff_forall_ne_some.mpr fun group h => ?_
      exact hcurrent (of_decide_eq_true (Maps.getElem?_filter_eq_some.mp h).2)
  · rw [if_neg hscope, if_neg fun h => hscope h.1, groupPanes_get]

variable (panes state order ctx) in
theorem fleetGroups_get (repo : String × RepoKey) :
    (fleetGroups panes state order ctx)[repo]? = nonempty (remaining panes state order ctx repo) := by
  rw [fleetGroups, dropEmpty_get, keepPanes, keepPanes, Std.ExtTreeMap.getElem?_map,
    Std.ExtTreeMap.getElem?_map, scopedGroups_get, remaining]
  by_cases hnil : repoScope panes state order ctx repo = []
  · have hempty : orderAgentPanes [] order = [] :=
      (orderAgentPanes_perm [] order).eq_nil
    simp [nonempty, hnil, hempty]
  · simp [nonempty, hnil]

end Remaining

def SidebarRow.attention (row : SidebarRow) : ℕ := (row.rowMeta.bind (·.attentionCount)).getD 0

def SidebarRow.isPinned (row : SidebarRow) : Bool := row.rowMeta.any (·.pinned)

abbrev Face := String × ℕ × Bool

def SidebarRow.face (row : SidebarRow) : Face := (row.id, row.attention, row.isPinned)

def faces (rows : List SidebarRow) : List Face := (repoHeads rows).map (·.face)

theorem faces_append (a b : List SidebarRow) : faces (a ++ b) = faces a ++ faces b := by
  rw [faces, repoHeads, List.filter_append, List.map_append]
  rfl

theorem faces_flatMap {α : Type} (l : List α) (f : α → List SidebarRow) :
    faces (l.flatMap f) = l.flatMap fun x => faces (f x) := by
  rw [faces, repoHeads_flatMap, List.map_flatMap]
  rfl

/-- The attention count that a group shows, the one under its display name if there is one. -/
def groupAttention (metas : GroupMetas) (panes : List AgentPane) : ℕ :=
  (panes.head?.map fun first =>
    ((metas[(first.category, first.repo)]?.getD (groupMeta panes)).attentionCount).getD 0).getD 0

theorem repoGroupRows_kind {state : SidebarState} {ctx : RowBuildContext} {depth : ℕ}
    {metas : GroupMetas} {panes : List AgentPane} :
    ∀ row ∈ repoGroupRows state ctx depth metas panes, row.kind ≠ .category := by
  intro row hrow
  unfold repoGroupRows at hrow
  cases hfirst : panes.head? with
  | none =>
    rw [hfirst] at hrow
    exact absurd hrow List.not_mem_nil
  | some first =>
    rw [hfirst] at hrow
    rcases List.mem_cons.mp hrow with rfl | hrow
    · exact SidebarRowKind.noConfusion
    · split_ifs at hrow
      · obtain ⟨pane, -, hpane⟩ := List.mem_flatMap.mp hrow
        rcases (chatRows_isBlock state ctx.now false false).kind hpane with h | h <;> simp [h]
      · exact absurd hrow List.not_mem_nil

structure Grouped (category : String) (keys : List RepoKey) (group : RepoKey → List AgentPane) :
    Prop where
  sorted : keys.Pairwise fun a b => compare a b = .lt
  ne_nil : ∀ key ∈ keys, group key ≠ []
  keyed : ∀ key ∈ keys, ∀ pane ∈ group key, pane.category = category ∧ pane.repoKey = key

namespace Grouped
variable {category : String} {keys : List RepoKey} {group : RepoKey → List AgentPane}
  {state : SidebarState} {ctx : RowBuildContext} {metas : GroupMetas} {depth : ℕ}

theorem head (h : Grouped category keys group) {key : RepoKey} (hkey : key ∈ keys) :
    ∃ first, (group key).head? = some first ∧ first.category = category ∧ first.repoKey = key := by
  obtain ⟨first, hfirst, hmem⟩ := exists_head (h.ne_nil key hkey)
  exact ⟨first, hfirst, h.keyed key hkey first hmem⟩

theorem nodup (h : Grouped category keys group) : keys.Nodup := h.sorted.imp fun {a b} hlt => by
  rintro rfl
  cases hlt.symm.trans Std.ReflCmp.compare_self

def face (metas : GroupMetas) (category : String) (group : RepoKey → List AgentPane)
    (key : RepoKey) : Face :=
  (repoId category key, groupAttention metas (group key), hasPin (group key))

theorem rows (h : Grouped category keys group) {key : RepoKey} (hkey : key ∈ keys) :
    ∃ row rest, repoGroupRows state ctx depth metas (group key) = row :: rest ∧
      row.kind = .repo ∧ row.face = face metas category group key ∧
      ∀ r ∈ rest, r.kind = .chat ∨ r.kind = .detail := by
  obtain ⟨first, hfirst, hcategory, hrepo⟩ := h.head hkey
  refine ⟨_, _, by rw [repoGroupRows, hfirst], rfl, ?_, ?_⟩
  · rw [SidebarRow.face, face, groupAttention, hfirst, ← hcategory, ← hrepo]
    rfl
  · intro r hr
    split_ifs at hr
    · obtain ⟨pane, -, hpane⟩ := List.mem_flatMap.mp hr
      exact (chatRows_isBlock state ctx.now false false).kind hpane
    · exact absurd hr List.not_mem_nil

theorem heads (h : Grouped category keys group) {key : RepoKey} (hkey : key ∈ keys) :
    ∃ row, repoHeads (repoGroupRows state ctx depth metas (group key)) = [row] ∧
      (repoGroupRows state ctx depth metas (group key)).head? = some row ∧
      row.face = face metas category group key := by
  obtain ⟨row, rest, hrows, hkind, hface, hrest⟩ := h.rows hkey
  refine ⟨row, ?_, by rw [hrows]; rfl, hface⟩
  rw [hrows, repoHeads, List.filter_cons_of_pos (by simp [hkind]), List.cons_inj_right,
    List.filter_eq_nil_iff]
  intro r hr
  rcases hrest r hr with hr | hr <;> simp [hr]

theorem faces_rows (h : Grouped category keys group) {key : RepoKey} (hkey : key ∈ keys) :
    faces (repoGroupRows state ctx depth metas (group key)) = [face metas category group key] := by
  obtain ⟨row, hheads, -, hface⟩ := h.heads hkey
  rw [faces, hheads, List.map_singleton, hface]

end Grouped

theorem compareLast_eq : compareLast = compareLex (compareOn Option.isNone) (compareOn id) := by
  funext left right
  cases left <;> cases right <;> rfl

instance : Std.TransCmp compareLast := by
  rw [compareLast_eq]
  infer_instance

theorem compareFirst_eq : compareFirst = compareLex (compareOn (Option.map AgentPane.category))
    (compareOn (Option.map AgentPane.repo)) := by
  funext left right
  cases left <;> cases right <;> rfl

instance : Std.TransCmp compareFirst := by
  rw [compareFirst_eq]
  infer_instance

theorem transCmp_on {α β : Type} (cmp : β → β → Ordering) [Std.TransCmp cmp] (f : α → β) :
    Std.TransCmp fun a b => cmp (f a) (f b) where
  eq_swap := Std.OrientedCmp.eq_swap
  isLE_trans := Std.TransCmp.isLE_trans

instance (categoryState : CategoryState) : Std.TransCmp (compareRepoGroups categoryState) := by
  have hpin : Std.TransCmp fun left right => compare (hasPin right) (hasPin left) :=
    transCmp_on (fun a b => compare b a) hasPin
  have hposition := transCmp_on compareLast (repoPosition categoryState)
  have hfirst := transCmp_on compareFirst fun panes : List AgentPane => panes.head?
  exact inferInstanceAs (Std.TransCmp (compareLex _ (compareLex _ _)))

namespace Grouped
variable {category : String} {keys : List RepoKey} {group : RepoKey → List AgentPane}
  {state : SidebarState} {ctx : RowBuildContext} {metas : GroupMetas} {depth : ℕ}

def ordering (ctx : RowBuildContext) (group : RepoKey → List AgentPane) :
    RepoKey → RepoKey → Ordering :=
  compareLex (fun a b => compareRepoGroups ctx.categoryState (group a) (group b)) compare

instance : Std.TransCmp (ordering ctx group) := by
  have hgroup := transCmp_on (compareRepoGroups ctx.categoryState) group
  exact inferInstanceAs (Std.TransCmp (compareLex _ _))

instance : Std.LawfulEqCmp (ordering ctx group) := by
  have hgroup := transCmp_on (compareRepoGroups ctx.categoryState) group
  exact inferInstanceAs (Std.LawfulEqCmp (compareLex _ _))

theorem ordered (h : Grouped category keys group) :
    orderRepoGroups (keys.map group) ctx.categoryState =
      (sortBy (ordering ctx group) keys).map group := by
  have hgroup := transCmp_on (compareRepoGroups ctx.categoryState) group
  have hstable : sortBy (fun a b => compareRepoGroups ctx.categoryState (group a) (group b)) keys =
      sortBy (ordering ctx group) keys := sortBy_stable h.sorted
  have hmap : (sortBy (fun a b => compareRepoGroups ctx.categoryState (group a) (group b)) keys).map
      group = sortBy (compareRepoGroups ctx.categoryState) (keys.map group) :=
    map_sortBy (by intro a b; rfl) keys
  rw [← hstable, hmap]
  rfl

def sortedKeys (ctx : RowBuildContext) (keys : List RepoKey) (group : RepoKey → List AgentPane) :
    List RepoKey := sortBy (ordering ctx group) keys

theorem mem_sortedKeys {key : RepoKey} : key ∈ sortedKeys ctx keys group ↔ key ∈ keys := mem_sortBy

theorem faces_ordered (h : Grouped category keys group) :
    faces ((orderRepoGroups (keys.map group) ctx.categoryState).flatMap
      (repoGroupRows state ctx depth metas)) =
      (sortedKeys ctx keys group).map (face metas category group) := by
  rw [h.ordered, faces_flatMap, List.flatMap_map, List.map_eq_flatMap]
  exact List.flatMap_congr fun key hkey => h.faces_rows (mem_sortedKeys.mp hkey)

section Merge
variable {repos : List RepoKey} {chunks : List Chunk}

theorem mergeChunks_eq (hrepos : repos.Nodup) (hids : (chunks.map Prod.fst).Nodup) :
    mergeChunks state ctx category repos chunks =
      (repos.flatMap fun repo => (chunks.find? fun chunk => chunk.1 = repoId category repo).elim
        (emptyChunks state ctx category [repo]) fun chunk => [chunk]) ++
      chunks.filter fun chunk => !repos.any fun repo => chunk.1 = repoId category repo := by
  induction repos generalizing chunks with
  | nil => simp [mergeChunks]
  | cons repo repos ih =>
    obtain ⟨hrepo, hrepos⟩ := List.nodup_cons.mp hrepos
    rw [mergeChunks, List.flatMap_cons]
    cases hfind : chunks.find? fun chunk => chunk.1 = repoId category repo with
    | none =>
      have hnone := List.find?_eq_none.mp hfind
      simp only [Option.elim_none]
      rw [ih hrepos hids, List.append_assoc]
      refine congrArg₂ (· ++ ·) (List.append_nil _).symm ?_
      refine congrArg₂ (· ++ ·) rfl (List.filter_congr fun chunk hchunk => ?_)
      have hne : chunk.1 ≠ repoId category repo := by simpa using hnone chunk hchunk
      simp [hne]
    | some chunk =>
      obtain ⟨hid, front, back, rfl, hfront⟩ := List.find?_eq_some_iff_append.mp hfind
      have hid : chunk.1 = repoId category repo := by simpa using hid
      have herase : (front ++ chunk :: back).eraseP (fun chunk => chunk.1 = repoId category repo) =
          front ++ back := by
        rw [List.eraseP_append_right _ (by simpa using hfront),
          List.eraseP_cons_of_pos (by simpa using hid)]
      have hperm : (front ++ chunk :: back).Perm (chunk :: (front ++ back)) := List.perm_middle
      obtain ⟨hchunk, hrest⟩ := List.nodup_cons.mp ((hperm.map Prod.fst).nodup_iff.mp hids)
      simp only [Option.elim_some]
      rw [herase, ih hrepos hrest, List.singleton_append, List.cons_append]
      refine congrArg (chunk :: ·) (congrArg₂ (· ++ ·) ?_ ?_)
      · refine List.flatMap_congr fun other hother => ?_
        have hne : chunk.1 ≠ repoId category other := fun heq =>
          hrepo (repoId_inj (hid.symm.trans heq) ▸ hother)
        rw [List.find?_append, List.find?_append, List.find?_cons_of_neg (by simpa using hne)]
      · rw [List.filter_append, List.filter_append,
          List.filter_cons_of_neg (by simp [hid]), ← List.filter_append, ← List.filter_append]
        refine List.filter_congr fun other hother => ?_
        have hne : other.1 ≠ repoId category repo := fun heq =>
          hchunk (hid ▸ heq ▸ List.mem_map_of_mem hother)
        simp [hne]

end Merge

def chunk (state : SidebarState) (ctx : RowBuildContext) (metas : GroupMetas) (category : String)
    (group : RepoKey → List AgentPane) (key : RepoKey) : Chunk :=
  (repoId category key, repoGroupRows state ctx 1 metas (group key))

theorem find?_chunk {l : List RepoKey} {repo : RepoKey} :
    ((l.map (chunk state ctx metas category group)).find? fun chunk =>
      chunk.1 = repoId category repo) =
      if repo ∈ l then some (chunk state ctx metas category group repo) else none := by
  induction l with
  | nil => rfl
  | cons key l ih =>
    rw [List.map_cons]
    by_cases hkey : key = repo
    · subst hkey
      rw [List.find?_cons_of_pos (by simp [chunk]), if_pos List.mem_cons_self]
    · have hne : repoId category key ≠ repoId category repo := fun h => hkey (repoId_inj h)
      rw [List.find?_cons_of_neg (by simp [chunk, hne]), ih]
      simp [Ne.symm hkey]

theorem chunksOf_ordered (h : Grouped category keys group) :
    chunksOf ((orderRepoGroups (keys.map group) ctx.categoryState).flatMap
      (repoGroupRows state ctx 1 metas)) =
      (sortedKeys ctx keys group).map (chunk state ctx metas category group) := by
  rw [h.ordered, List.flatMap_map]
  refine chunksOf_flatMap fun key hkey => ?_
  obtain ⟨row, hheads, hhead, hface⟩ := h.heads (mem_sortedKeys.mp hkey)
  exact ⟨row, hheads, hhead, congrArg Prod.fst hface⟩

theorem chunkPinned_eq (h : Grouped category keys group) {key : RepoKey} (hkey : key ∈ keys) :
    chunkPinned (chunk state ctx metas category group key) = hasPin (group key) := by
  obtain ⟨row, -, hhead, hface⟩ := h.heads hkey
  rw [chunkPinned, chunk, hhead]
  exact congrArg (·.2.2) hface

theorem faces_chunk (h : Grouped category keys group) {key : RepoKey} (hkey : key ∈ keys) :
    faces (chunk state ctx metas category group key).2 = [face metas category group key] :=
  h.faces_rows hkey

theorem faces_emptyChunks {repo : RepoKey} {placement : EffectiveRepoPlacement}
    (hplacement : ctx.categories.placements[repo]? = some placement) :
    (emptyChunks state ctx category [repo]).flatMap (fun chunk => faces chunk.2) =
      [(repoId category repo, 0, false)] := by
  simp only [emptyChunks, List.flatMap_singleton, hplacement, Option.toList_some, List.map_singleton]
  rfl

def placedFace (metas : GroupMetas) (category : String) (keys : List RepoKey)
    (group : RepoKey → List AgentPane) (key : RepoKey) : Face :=
  if key ∈ keys ∧ hasPin (group key) = false then face metas category group key
  else (repoId category key, 0, false)

def unpinnedKeys (ctx : RowBuildContext) (keys : List RepoKey) (group : RepoKey → List AgentPane) :
    List RepoKey := (sortedKeys ctx keys group).filter fun key => !hasPin (group key)

theorem mem_unpinnedKeys {key : RepoKey} :
    key ∈ unpinnedKeys ctx keys group ↔ key ∈ keys ∧ hasPin (group key) = false := by
  rw [unpinnedKeys, List.mem_filter, mem_sortedKeys, Bool.not_eq_true']

theorem faces_chunks (h : Grouped category keys group) {l : List RepoKey}
    (hl : ∀ key ∈ l, key ∈ keys) : ((l.map (chunk state ctx metas category group)).flatMap
      fun chunk => faces chunk.2) = l.map (face metas category group) := by
  rw [List.flatMap_map, List.map_eq_flatMap]
  exact List.flatMap_congr fun key hkey => h.faces_chunk (hl key hkey)

theorem faces_placed (h : Grouped category keys group) {repo : RepoKey}
    (hrepo : ∃ placement, ctx.categories.placements[repo]? = some placement) :
    ((((unpinnedKeys ctx keys group).map (chunk state ctx metas category group)).find? fun chunk =>
        chunk.1 = repoId category repo).elim (emptyChunks state ctx category [repo]) fun chunk =>
          [chunk]).flatMap (fun chunk => faces chunk.2) =
      [placedFace metas category keys group repo] := by
  obtain ⟨placement, hplacement⟩ := hrepo
  rw [find?_chunk, placedFace]
  by_cases hmem : repo ∈ keys ∧ hasPin (group repo) = false
  · rw [if_pos (mem_unpinnedKeys.mpr hmem), if_pos hmem, Option.elim_some, List.flatMap_singleton]
    exact h.faces_chunk hmem.1
  · rw [if_neg fun h => hmem (mem_unpinnedKeys.mp h), if_neg hmem]
    exact faces_emptyChunks hplacement

/-- The order of the rows of a category that shows all its repositories: the pinned groups, the
repositories of the model, and the groups that are not of the model. -/
theorem faces_merged (h : Grouped category keys group) {name : CategoryName} :
    faces ((mergedChunks state ctx category name
      ((orderRepoGroups (keys.map group) ctx.categoryState).flatMap
        (repoGroupRows state ctx 1 metas))).flatMap Prod.snd) =
      ((sortedKeys ctx keys group).filter fun key => hasPin (group key)).map
          (face metas category group) ++
        ((ctx.categories.orderedRepos ctx.categoryState name).map
          (placedFace metas category keys group) ++
        ((unpinnedKeys ctx keys group).filter fun key =>
          !(ctx.categories.orderedRepos ctx.categoryState name).contains key).map
          (face metas category group)) := by
  have hpinned : ((sortedKeys ctx keys group).map
      (chunk state ctx metas category group)).filter chunkPinned =
      ((sortedKeys ctx keys group).filter fun key => hasPin (group key)).map
        (chunk state ctx metas category group) := by
    rw [List.filter_map]
    exact congrArg _ (List.filter_congr fun key hkey => h.chunkPinned_eq (mem_sortedKeys.mp hkey))
  have hunpinned : ((sortedKeys ctx keys group).map
      (chunk state ctx metas category group)).filter (!chunkPinned ·) =
      (unpinnedKeys ctx keys group).map (chunk state ctx metas category group) := by
    rw [List.filter_map]
    refine congrArg _ (List.filter_congr fun key hkey => ?_)
    exact congrArg (! ·) (h.chunkPinned_eq (mem_sortedKeys.mp hkey))
  have hids : (((unpinnedKeys ctx keys group).map
      (chunk state ctx metas category group)).map Prod.fst).Nodup := by
    rw [List.map_map]
    exact ((nodup_sortBy.mpr h.nodup).filter _).map fun _ _ => repoId_inj
  have hrest : ((unpinnedKeys ctx keys group).map
      (chunk state ctx metas category group)).filter (fun chunk =>
        !(ctx.categories.orderedRepos ctx.categoryState name).any fun repo =>
          chunk.1 = repoId category repo) =
      ((unpinnedKeys ctx keys group).filter fun key =>
        !(ctx.categories.orderedRepos ctx.categoryState name).contains key).map
        (chunk state ctx metas category group) := by
    rw [List.filter_map]
    refine congrArg _ (List.filter_congr fun key _ => ?_)
    have hany : (ctx.categories.orderedRepos ctx.categoryState name).contains key =
        (ctx.categories.orderedRepos ctx.categoryState name).any fun repo =>
          decide (repoId category key = repoId category repo) := by
      rw [List.contains_eq_any_beq]
      refine List.any_congr rfl fun repo => ?_
      rw [Bool.eq_iff_iff, beq_iff_eq, decide_eq_true_eq]
      exact ⟨congrArg _, repoId_inj⟩
    rw [hany]
    rfl
  simp only [mergedChunks, h.chunksOf_ordered, hpinned, hunpinned]
  rw [faces_flatMap, mergeChunks_eq (EffectiveCategoryModel.nodup_orderedRepos ..) hids, hrest,
    List.flatMap_append, List.flatMap_append, h.faces_chunks, h.faces_chunks]
  · refine congrArg₂ (· ++ ·) rfl (congrArg₂ (· ++ ·) ?_ rfl)
    rw [List.flatMap_assoc]
    refine (List.flatMap_congr fun repo hrepo => h.faces_placed ?_).trans
      (List.map_eq_flatMap ..).symm
    obtain ⟨placement, hplacement, -⟩ := EffectiveCategoryModel.mem_members.mp
      (EffectiveCategoryModel.mem_orderedRepos.mp hrepo)
    exact ⟨placement, hplacement⟩
  · exact fun key hkey => (mem_unpinnedKeys.mp (List.mem_filter.mp hkey).1).1
  · exact fun key hkey => mem_sortedKeys.mp (List.mem_filter.mp hkey).1

def rowsOf (state : SidebarState) (ctx : RowBuildContext) (metas : GroupMetas)
    (keys : List RepoKey) (group : RepoKey → List AgentPane) : List SidebarRow :=
  (orderRepoGroups (keys.map group) ctx.categoryState).flatMap (repoGroupRows state ctx 1 metas)

theorem chunks_mem (h : Grouped category keys group) {name : CategoryName} {c : Chunk}
    (hc : c ∈ mergedChunks state ctx category name (rowsOf state ctx metas keys group)) :
    (∃ key ∈ keys, c = chunk state ctx metas category group key) ∨
      ∃ repo placement, c = (repoId category repo, [emptyRepoRow state category repo placement]) := by
  have hmem := (mergedChunks_perm state ctx category (rowsOf state ctx metas keys group)
    (EffectiveCategoryModel.nodup_orderedRepos ..)).mem_iff.mp hc
  rcases List.mem_append.mp hmem with hmem | hmem
  · rw [rowsOf, h.chunksOf_ordered] at hmem
    obtain ⟨key, hkey, rfl⟩ := List.mem_map.mp hmem
    exact Or.inl ⟨key, mem_sortedKeys.mp hkey, rfl⟩
  · obtain ⟨repo, -, hrepo⟩ := List.mem_flatMap.mp hmem
    obtain ⟨placement, -, rfl⟩ := List.mem_map.mp hrepo
    exact Or.inr ⟨repo, placement, rfl⟩

theorem rowsOf_kind (h : Grouped category keys group) :
    ∀ row ∈ rowsOf state ctx metas keys group, row.kind ≠ .category := by
  intro row hrow
  rw [rowsOf, h.ordered, List.flatMap_map] at hrow
  obtain ⟨key, hkey, hrow⟩ := List.mem_flatMap.mp hrow
  exact repoGroupRows_kind row hrow

theorem merge_kind (h : Grouped category keys group) :
    ∀ row ∈ mergeCategoryRepositoryRows state ctx category (rowsOf state ctx metas keys group),
      row.kind ≠ .category := by
  intro row hrow
  unfold mergeCategoryRepositoryRows at hrow
  split_ifs at hrow with hfilter
  · exact h.rowsOf_kind row hrow
  · cases hfound : ctx.categories.category category with
    | none =>
      rw [hfound] at hrow
      exact h.rowsOf_kind row hrow
    | some found =>
      rw [hfound] at hrow
      obtain ⟨c, hc, hrow⟩ := List.mem_flatMap.mp hrow
      rcases h.chunks_mem hc with ⟨key, hkey, rfl⟩ | ⟨repo, placement, rfl⟩
      · exact repoGroupRows_kind row hrow
      · obtain rfl := List.mem_singleton.mp hrow
        exact SidebarRowKind.noConfusion

def Lists (state : SidebarState) (ctx : RowBuildContext) (category : String) : Prop :=
  state.filter = .all ∧ category ∈ categoryNames ctx

instance : Decidable (Lists state ctx category) := inferInstanceAs (Decidable (_ ∧ _))

theorem merge_of_lists (h : Lists state ctx category) (rows : List SidebarRow) :
    mergeCategoryRepositoryRows state ctx category rows =
      (mergedChunks state ctx category category rows).flatMap Prod.snd := by
  obtain ⟨found, hfound, hname⟩ := category_of_mem h.2
  rw [mergeCategoryRepositoryRows, if_neg (not_not.mpr h.1), hfound]
  simp only [hname]

theorem merge_of_not_lists (h : ¬Lists state ctx category) (rows : List SidebarRow) :
    mergeCategoryRepositoryRows state ctx category rows = rows := by
  unfold mergeCategoryRepositoryRows
  by_cases hfilter : state.filter = .all
  · rw [if_neg (not_not.mpr hfilter), category_of_not_mem fun hmem => h ⟨hfilter, hmem⟩]
  · rw [if_pos hfilter]

def categoryFaces (state : SidebarState) (ctx : RowBuildContext) (metas : GroupMetas)
    (category : String) (keys : List RepoKey) (group : RepoKey → List AgentPane) : List Face :=
  if Lists state ctx category then
    ((sortedKeys ctx keys group).filter fun key => hasPin (group key)).map
        (face metas category group) ++
      ((ctx.categories.orderedRepos ctx.categoryState category).map
        (placedFace metas category keys group) ++
      ((unpinnedKeys ctx keys group).filter fun key =>
        !(ctx.categories.orderedRepos ctx.categoryState category).contains key).map
        (face metas category group))
  else (sortedKeys ctx keys group).map (face metas category group)

theorem faces_merge (h : Grouped category keys group) :
    faces (mergeCategoryRepositoryRows state ctx category (rowsOf state ctx metas keys group)) =
      categoryFaces state ctx metas category keys group := by
  unfold categoryFaces
  split_ifs with hlists
  · rw [merge_of_lists hlists, rowsOf, h.faces_merged]
  · rw [merge_of_not_lists hlists, rowsOf, h.faces_ordered]

theorem pinned_face {key : RepoKey} {l : List Face}
    (h : l = categoryFaces state ctx metas category keys group ∨
      l = (sortedKeys ctx keys group).map (face metas category group)) (hkey : key ∈ keys) :
    (∃ shown ∈ l, shown.1 = repoId category key ∧ shown.2.2 = true) ↔
      hasPin (group key) = true := by
  have hface (other : RepoKey) (hid : (face metas category group other).1 = repoId category key)
      (hpin : (face metas category group other).2.2 = true) : hasPin (group key) = true := by
    obtain rfl := repoId_inj hid
    exact hpin
  have hsorted : (∃ shown ∈ (sortedKeys ctx keys group).map (face metas category group),
      shown.1 = repoId category key ∧ shown.2.2 = true) ↔ hasPin (group key) = true := by
    constructor
    · rintro ⟨shown, hshown, hid, hpin⟩
      obtain ⟨other, -, rfl⟩ := List.mem_map.mp hshown
      exact hface other hid hpin
    · exact fun hpin => ⟨_, List.mem_map_of_mem (mem_sortedKeys.mpr hkey), rfl, hpin⟩
  rcases h with rfl | rfl
  · unfold categoryFaces
    split_ifs
    · constructor
      · rintro ⟨shown, hshown, hid, hpin⟩
        simp only [List.mem_append, List.mem_map] at hshown
        rcases hshown with ⟨other, -, rfl⟩ | ⟨other, -, rfl⟩ | ⟨other, -, rfl⟩
        · exact hface other hid hpin
        · unfold placedFace at hid hpin
          split_ifs at hid hpin
          · exact hface other hid hpin
        · exact hface other hid hpin
      · intro hpin
        refine ⟨_, List.mem_append_left _ (List.mem_map_of_mem ?_), rfl, hpin⟩
        exact List.mem_filter.mpr ⟨mem_sortedKeys.mpr hkey, hpin⟩
    · exact hsorted
  · exact hsorted

/-- The rows of a category show the attention of its groups, in whatever order. -/
theorem attention_merge (h : Grouped category keys group) :
    ((faces (mergeCategoryRepositoryRows state ctx category
      (rowsOf state ctx metas keys group))).map (·.2.1)).sum =
      (keys.map fun key => groupAttention metas (group key)).sum := by
  have hsorted : ((sortedKeys ctx keys group).map fun key =>
      groupAttention metas (group key)).sum =
      (keys.map fun key => groupAttention metas (group key)).sum :=
    ((sortBy_perm keys).map _).sum_eq
  by_cases hlists : Lists state ctx category
  · rw [merge_of_lists hlists, faces_flatMap]
    have hperm := mergedChunks_perm state ctx category (rowsOf state ctx metas keys group)
      (EffectiveCategoryModel.nodup_orderedRepos ctx.categories ctx.categoryState category)
    rw [((hperm.flatMap_right fun chunk => faces chunk.2).map _).sum_eq, rowsOf,
      h.chunksOf_ordered, List.flatMap_append, h.faces_chunks fun key => mem_sortedKeys.mp,
      List.map_append, List.sum_append, List.map_map]
    have hzero : (((emptyChunks state ctx category (missing category
        (ctx.categories.orderedRepos ctx.categoryState category)
        (((sortedKeys ctx keys group).map (chunk state ctx metas category group)).filter
          (!chunkPinned ·)))).flatMap fun chunk => faces chunk.2).map (·.2.1)).sum = 0 := by
      refine List.sum_eq_zero_iff.mpr fun n hn => ?_
      obtain ⟨face, hface, rfl⟩ := List.mem_map.mp hn
      obtain ⟨c, hc, hface⟩ := List.mem_flatMap.mp hface
      obtain ⟨repo, -, hrepo⟩ := List.mem_flatMap.mp hc
      obtain ⟨placement, -, rfl⟩ := List.mem_map.mp hrepo
      obtain rfl := List.mem_singleton.mp hface
      rfl
    rw [hzero, Nat.add_zero]
    exact hsorted
  · rw [merge_of_not_lists hlists, rowsOf, h.faces_ordered, List.map_map]
    exact hsorted

end Grouped

end VdeTmux.Sidebar
