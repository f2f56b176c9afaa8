import VdeTmux.Sidebar.TreeOutline

/-!
# Repositories and categories in the tree

The rows of the repositories of a category, also after they are merged with the repositories that
have no panes, and the rows of all categories.
-/

open Foundation Foundation.Outline VdeTmux.Pane VdeTmux.Category
namespace VdeTmux.Sidebar

def repoHeads (rows : List SidebarRow) : List SidebarRow := rows.filter (·.kind = .repo)

structure Stretch (depth : ℕ) (panes : List AgentPane) (rows : List SidebarRow) : Prop where
  outlined : Outlined depth (repoHeads rows) panes rows
  sum : ((repoHeads rows).map (·.chatCount)).sum = panes.length

namespace Stretch
variable {depth : ℕ} {panes panes' : List AgentPane} {rows rows' : List SidebarRow}

theorem nil : Stretch depth [] [] := ⟨Outlined.nil, rfl⟩

theorem append (h : Stretch depth panes rows) (h' : Stretch depth panes' rows') :
    Stretch depth (panes ++ panes') (rows ++ rows') where
  outlined := by
    rw [repoHeads, List.filter_append]
    exact h.outlined.append h'.outlined
  sum := by
    rw [repoHeads, List.filter_append, List.map_append, List.sum_append, List.length_append]
    exact congrArg₂ (· + ·) h.sum h'.sum

theorem perm (h : Stretch depth panes rows) (hpanes : panes.Perm panes') :
    Stretch depth panes' rows :=
  ⟨h.outlined.perm (List.Perm.refl _) hpanes, h.sum.trans hpanes.length_eq⟩

theorem forall₂ {α : Type} {l : List α} {w : List (List AgentPane)} {f : α → List SidebarRow}
    (h : List.Forall₂ (fun x panes => Stretch depth panes (f x)) l w) :
    Stretch depth w.flatten (l.flatMap f) := by
  induction h with
  | nil => exact nil
  | cons hx _ ih => exact hx.append ih

theorem repo {head : SidebarRow} {body : List SidebarRow} (hkind : head.kind = .repo)
    (hmark : idMark head.id = ['r', 'e']) (hdepth : head.depth = depth)
    (hcount : head.chatCount = panes.length) (hbody : Outlined (depth + 1) [] panes body) :
    Stretch depth panes (head :: body) ∧ repoHeads (head :: body) = [head] := by
  have hnone : body.filter (·.kind = .repo) = [] := List.Perm.eq_nil hbody.repos_perm
  have hheads : repoHeads (head :: body) = [head] := by
    rw [repoHeads, List.filter_cons_of_pos (by simp [hkind]), hnone]
  have hcounted : Counted head body := by
    rw [Counted, hkind, hbody.countP_chats]
    exact hcount
  refine ⟨⟨?_, ?_⟩, hheads⟩
  · rw [hheads]
    exact hbody.under hdepth (Nat.lt_succ_self depth) (isHead_of_repo hkind hmark) hcounted
  · rw [hheads, List.map_singleton, List.sum_singleton, hcount]

end Stretch

theorem repoHeads_flatMap {α : Type} (l : List α) (f : α → List SidebarRow) :
    repoHeads (l.flatMap f) = l.flatMap fun x => repoHeads (f x) := by
  induction l with
  | nil => rfl
  | cons x l ih =>
    rw [List.flatMap_cons, List.flatMap_cons, ← ih, repoHeads, List.filter_append]
    rfl

/-- The groups of a category: none is empty, and its panes are of the category and the key. -/
def KeyedIn (category : String) (repos : RepoGroups) : Prop :=
  ∀ (key : RepoKey) (panes : List AgentPane), repos[key]? = some panes → panes ≠ [] ∧
    ∀ pane ∈ panes, pane.category = category ∧ pane.repoKey = key

def Keyed (groups : Groups) : Prop :=
  ∀ (category : String) (key : RepoKey) (panes : List AgentPane),
    groups[(category, key)]? = some panes → panes ≠ [] ∧
    ∀ pane ∈ panes, pane.category = category ∧ pane.repoKey = key

def Expanded (state : SidebarState) : Prop :=
  ∀ category, categoryId category ∉ state.collapsed ∧ ∀ repo, repoId category repo ∉ state.collapsed

theorem isExpanded_of_not_mem {state : SidebarState} {id : String} (h : id ∉ state.collapsed) :
    state.isExpanded id = true := by
  rw [SidebarState.isExpanded, SidebarState.isExpandedWithDefault]
  have hnot : state.collapsed.contains id = false := by
    rw [← Bool.not_eq_true, Std.ExtTreeSet.contains_iff_mem]
    exact h
  rw [hnot]
  rfl

section Groups
variable {state : SidebarState} {ctx : RowBuildContext} {depth : ℕ} {metas : GroupMetas}
  {panes : List AgentPane} {first : AgentPane}

theorem repoGroupRows_of_head (hfirst : panes.head? = some first) (hexpanded : Expanded state) :
    repoGroupRows state ctx depth metas panes = repoRow state ctx depth metas first panes ::
      panes.flatMap fun pane => pane.chatRows state (depth + 1) ctx.now false false := by
  have hopen := isExpanded_of_not_mem ((hexpanded first.category).2 first.repoKey)
  rw [repoGroupRows, hfirst]
  simp only [hopen, if_true]

variable (ctx depth metas) in
theorem repoGroup_stretch (hfirst : panes.head? = some first) (hexpanded : Expanded state) :
    Stretch depth panes (repoGroupRows state ctx depth metas panes) ∧
      repoHeads (repoGroupRows state ctx depth metas panes) =
        [repoRow state ctx depth metas first panes] := by
  rw [repoGroupRows_of_head hfirst hexpanded]
  exact Stretch.repo rfl (idMark_repo _ _) rfl rfl
    (Outlined.ofBlocks fun _ _ => chatRows_isBlock state ctx.now false false)

theorem exists_head (h : panes ≠ []) : ∃ first, panes.head? = some first ∧ first ∈ panes := by
  cases panes with
  | nil => exact absurd rfl h
  | cons first rest => exact ⟨first, rfl, List.mem_cons_self⟩

end Groups

section Chunks
variable {rest : List SidebarRow} {row : SidebarRow}

theorem foldl_pushChunk_rest (chunks : List Chunk) (id : String) (front : List SidebarRow)
    (h : ∀ r ∈ rest, r.kind ≠ .repo) :
    rest.foldl pushChunk (chunks ++ [(id, front)]) = chunks ++ [(id, front ++ rest)] := by
  induction rest generalizing front with
  | nil => simp
  | cons r rest ih =>
    obtain ⟨hr, hrest⟩ := List.forall_mem_cons.mp h
    have hpush : pushChunk (chunks ++ [(id, front)]) r = chunks ++ [(id, front ++ [r])] := by
      simp [pushChunk, hr]
    rw [List.foldl_cons, hpush, ih _ hrest, List.append_assoc, List.singleton_append]

theorem foldl_pushChunk_repo (chunks : List Chunk) (hrow : row.kind = .repo)
    (h : ∀ r ∈ rest, r.kind ≠ .repo) :
    (row :: rest).foldl pushChunk chunks = chunks ++ [(row.id, row :: rest)] := by
  have hpush : pushChunk chunks row = chunks ++ [(row.id, [row])] := if_pos hrow
  rw [List.foldl_cons, hpush, foldl_pushChunk_rest chunks row.id [row] h, List.singleton_append]

theorem chunksOf_flatMap {α : Type} {l : List α} {id : α → String} {f : α → List SidebarRow}
    (h : ∀ x ∈ l, ∃ row, repoHeads (f x) = [row] ∧ (f x).head? = some row ∧ row.id = id x) :
    chunksOf (l.flatMap f) = l.map fun x => (id x, f x) := by
  have hfold (chunks : List Chunk) :
      (l.flatMap f).foldl pushChunk chunks = chunks ++ l.map fun x => (id x, f x) := by
    induction l generalizing chunks with
    | nil => simp
    | cons x l ih =>
      obtain ⟨⟨row, hheads, hhead, hid⟩, hl⟩ := List.forall_mem_cons.mp h
      obtain ⟨rest, hfx⟩ : ∃ rest, f x = row :: rest := by
        cases hfx : f x with
        | nil =>
          rw [hfx] at hhead
          cases hhead
        | cons r rest =>
          rw [hfx] at hhead
          exact ⟨rest, congrArg (· :: rest) (Option.some_inj.mp hhead)⟩
      have hrow : row.kind = .repo := by
        have hmem : row ∈ repoHeads (f x) := hheads ▸ List.mem_singleton_self row
        simpa using (List.mem_filter.mp hmem).2
      have hrest : ∀ r ∈ rest, r.kind ≠ .repo := by
        rw [hfx, repoHeads, List.filter_cons_of_pos (by simp [hrow])] at hheads
        have hnil : rest.filter (·.kind = .repo) = [] := (List.cons.inj hheads).2
        intro r hr
        simpa using List.filter_eq_nil_iff.mp hnil r hr
      rw [List.flatMap_cons, List.foldl_append, hfx, foldl_pushChunk_repo chunks hrow hrest,
        ih hl, List.map_cons, hfx, ← hid, List.append_assoc, List.singleton_append]
  exact hfold []

end Chunks

section Merge
variable {state : SidebarState} {ctx : RowBuildContext} {category : String}
  {repos : List RepoKey} {chunks : List Chunk}

def missing (category : String) (repos : List RepoKey) (chunks : List Chunk) : List RepoKey :=
  repos.filter fun repo => !chunks.any fun chunk => chunk.1 = repoId category repo

def emptyChunks (state : SidebarState) (ctx : RowBuildContext) (category : String)
    (repos : List RepoKey) : List Chunk :=
  repos.flatMap fun repo => (ctx.categories.placements[repo]?).toList.map fun placement =>
    (repoId category repo, [emptyRepoRow state category repo placement])

theorem missing_cons_some {repo : RepoKey} {chunk : Chunk} (hrepo : repo ∉ repos)
    {front back : List Chunk} (hid : chunk.1 = repoId category repo) :
    missing category (repo :: repos) (front ++ chunk :: back) =
      missing category repos (front ++ back) := by
  rw [missing, List.filter_cons_of_neg (by simp [hid])]
  refine List.filter_congr fun other hother => ?_
  have hne : chunk.1 ≠ repoId category other := fun heq =>
    hrepo (repoId_inj (hid.symm.trans heq) ▸ hother)
  simp [hne]

theorem mergeChunks_perm (hrepos : repos.Nodup) :
    (mergeChunks state ctx category repos chunks).Perm
      (chunks ++ emptyChunks state ctx category (missing category repos chunks)) := by
  induction repos generalizing chunks with
  | nil => simp [mergeChunks, missing, emptyChunks]
  | cons repo repos ih =>
    obtain ⟨hrepo, hrepos⟩ := List.nodup_cons.mp hrepos
    rw [mergeChunks]
    cases hfind : chunks.find? fun chunk => chunk.1 = repoId category repo with
    | some chunk =>
      obtain ⟨hid, front, back, rfl, hfront⟩ := List.find?_eq_some_iff_append.mp hfind
      have hid : chunk.1 = repoId category repo := by simpa using hid
      have herase : (front ++ chunk :: back).eraseP (fun chunk => chunk.1 = repoId category repo) =
          front ++ back := by
        rw [List.eraseP_append_right _ (by simpa using hfront),
          List.eraseP_cons_of_pos (by simpa using hid)]
      simp only
      rw [herase, missing_cons_some hrepo hid]
      refine ((ih hrepos).cons chunk).trans ?_
      rw [← List.cons_append]
      exact List.perm_middle.symm.append_right _
    | none =>
      have hmissing : missing category (repo :: repos) chunks =
          repo :: missing category repos chunks := by
        refine List.filter_cons_of_pos ?_
        simpa using hfind
      simp only
      rw [hmissing, emptyChunks, List.flatMap_cons]
      refine ((ih hrepos).append_left _).trans ?_
      rw [← List.append_assoc, ← List.append_assoc]
      exact List.perm_append_comm.append_right _

variable (state ctx category) in
theorem mergedChunks_perm {name : CategoryName} (rows : List SidebarRow)
    (hrepos : (ctx.categories.orderedRepos ctx.categoryState name).Nodup) :
    (mergedChunks state ctx category name rows).Perm (chunksOf rows ++
      emptyChunks state ctx category (missing category
        (ctx.categories.orderedRepos ctx.categoryState name)
        ((chunksOf rows).filter (!chunkPinned ·)))) := by
  refine ((mergeChunks_perm hrepos).append_left _).trans ?_
  rw [← List.append_assoc]
  exact (List.filter_append_perm chunkPinned _).append_right _

end Merge

end VdeTmux.Sidebar
