import VdeTmux.Sidebar.RepositorySections

/-!
# The order of repository rows

How the rows of a category stand: as their groups compare, or as the model orders its repositories.
The two read the stored order in different ways.
-/

open Foundation Foundation.Outline VdeTmux.Pane VdeTmux.Category
namespace VdeTmux.Sidebar

section Agreement
variable [Sha256] {panes : List PanePresentation} {state : SidebarState}
  {order : SidebarPreferences} {ctx : RowBuildContext}

def Merges (state : SidebarState) (ctx : RowBuildContext) (category : String) : Prop :=
  state.categoryScope = .all ∧ Grouped.Lists state ctx category

instance (category : String) : Decidable (Merges state ctx category) :=
  inferInstanceAs (Decidable (_ ∧ _))

variable (panes state order ctx) in
def rowOrder (category : String) : List RepoKey :=
  let sorted := Grouped.sortedKeys ctx (leftKeys panes state order ctx category)
    (leftOf panes state order ctx category)
  let ordered := ctx.categories.orderedRepos ctx.categoryState category
  if Merges state ctx category then
    sorted.filter (fun key => hasPin (leftOf panes state order ctx category key)) ++
      (ordered ++ (sorted.filter fun key => !hasPin (leftOf panes state order ctx category key)).filter
        fun key => !ordered.contains key)
  else sorted

def pinnedIn (rows : List SidebarRow) (id : String) : Bool :=
  rows.any fun row => row.id = id && row.isPinned

def Before (rows : List SidebarRow) (left right : String) : Prop :=
  (rows.map (·.id)).idxOf left < (rows.map (·.id)).idxOf right

section Shown
variable {category : String} {key left right : RepoKey}

theorem ids_of_entry (hmode : state.presentationMode = .tree) (hopened : Opened state category)
    (hshown : state.categoryScope = .all → ∃ repos,
      (category, repos) ∈ orderedCategories state ctx (fleetGroups panes state order ctx)) :
    (repoRowsOf state (projectedRows panes state order ctx) category).map (·.id) =
      (rowOrder panes state order ctx category).map (repoId category) := by
  have hfaces := congrArg (List.map Prod.fst) (faces_of_entry hmode hopened hshown)
  rw [List.map_map] at hfaces
  have hplaced : Prod.fst ∘ Grouped.placedFace (scopedMetas panes state order ctx) category
      (leftKeys panes state order ctx category) (leftOf panes state order ctx category) =
      repoId category := by
    funext key
    simp only [Function.comp_apply, Grouped.placedFace]
    split_ifs <;> rfl
  refine hfaces.trans ?_
  rw [rowOrder]
  by_cases hscope : state.categoryScope = .all
  · rw [if_pos hscope, Grouped.categoryFaces]
    by_cases hlists : Grouped.Lists state ctx category
    · rw [if_pos hlists]
      simp only [if_pos (show Merges state ctx category from ⟨hscope, hlists⟩), List.map_append,
        List.map_map, hplaced]
      rfl
    · have hnot : ¬Merges state ctx category := fun h => hlists h.2
      simp only [if_neg hlists, if_neg hnot, List.map_map]
      rfl
  · have hnot : ¬Merges state ctx category := fun h => hscope h.1
    simp only [if_neg hscope, if_neg hnot, List.map_map]
    rfl

theorem ids_rowOrder (hmode : state.presentationMode = .tree) (hopened : Opened state category)
    (hkey : key ∈ leftKeys panes state order ctx category) :
    (repoRowsOf state (projectedRows panes state order ctx) category).map (·.id) =
      (rowOrder panes state order ctx category).map (repoId category) :=
  ids_of_entry hmode hopened fun _ => entry_of_left hkey

theorem pinnedIn_eq (hmode : state.presentationMode = .tree) (hopened : Opened state category)
    (hkey : key ∈ leftKeys panes state order ctx category) :
    pinnedIn (repoRowsOf state (projectedRows panes state order ctx) category)
      (repoId category key) = hasPin (leftOf panes state order ctx category key) := by
  have hfaces : _ ∨ _ := ite_eq_or_eq .. |>.imp (faces_repoRowsOf hmode hopened hkey).trans
    (faces_repoRowsOf hmode hopened hkey).trans
  rw [Bool.eq_iff_iff, pinnedIn, List.any_eq_true, ← Grouped.pinned_face hfaces hkey]
  simp only [List.mem_map, Bool.and_eq_true, decide_eq_true_eq, exists_exists_and_eq_and]
  rfl

variable (panes state order ctx) in
def firstName (category : String) (key : RepoKey) : String :=
  ((leftOf panes state order ctx category key).head?.map (·.repo)).getD ""

def storedPosition (ctx : RowBuildContext) (category : String) (key : RepoKey) : Option ℕ :=
  (storedCategory category).bind fun name =>
    ctx.categoryState.repoOrder[name]?.bind (List.idxOf? key)

variable (panes state order ctx) in
/-- How rows compare that are not merged: by the stored position, those without one last, and by the
display name. -/
def grouping (category : String) : RepoKey → RepoKey → Ordering :=
  compareLex (fun left right => compareLast (storedPosition ctx category left)
    (storedPosition ctx category right))
    (compareLex (compareOn (firstName panes state order ctx category)) compare)

theorem position_of_left (hkey : key ∈ leftKeys panes state order ctx category) :
    repoPosition ctx.categoryState (leftOf panes state order ctx category key) =
      storedPosition ctx category key := by
  obtain ⟨first, hfirst, hcategory, hrepo⟩ := (grouped panes state order ctx category).head hkey
  rw [repoPosition, hfirst, Option.bind_some, hcategory, hrepo]
  rfl

theorem compareFirst_of_left (hleft : left ∈ leftKeys panes state order ctx category)
    (hright : right ∈ leftKeys panes state order ctx category) :
    compareFirst (leftOf panes state order ctx category left).head?
        (leftOf panes state order ctx category right).head? =
      compare (firstName panes state order ctx category left)
        (firstName panes state order ctx category right) := by
  obtain ⟨first, hfirst, hcategory, -⟩ := (grouped panes state order ctx category).head hleft
  obtain ⟨first', hfirst', hcategory', -⟩ := (grouped panes state order ctx category).head hright
  have hsame : compare category category = .eq := Std.ReflCmp.compare_self
  rw [firstName, firstName, hfirst, hfirst', compareFirst, hcategory, hcategory', hsame]
  rfl

theorem ordering_of_pins (hleft : left ∈ leftKeys panes state order ctx category)
    (hright : right ∈ leftKeys panes state order ctx category)
    (hpins : hasPin (leftOf panes state order ctx category left) =
      hasPin (leftOf panes state order ctx category right)) :
    Grouped.ordering ctx (leftOf panes state order ctx category) left right =
      grouping panes state order ctx category left right := by
  have hpin : compare (hasPin (leftOf panes state order ctx category right))
      (hasPin (leftOf panes state order ctx category left)) = .eq := by
    rw [hpins]
    exact Std.ReflCmp.compare_self
  have hgroups : compareRepoGroups ctx.categoryState (leftOf panes state order ctx category left)
      (leftOf panes state order ctx category right) =
      (compareLast (storedPosition ctx category left) (storedPosition ctx category right)).then
        (compare (firstName panes state order ctx category left)
          (firstName panes state order ctx category right)) := by
    rw [compareRepoGroups, hpin, position_of_left hleft, position_of_left hright,
      compareFirst_of_left hleft hright]
    rfl
  rw [Grouped.ordering, compareLex, hgroups, Ordering.then_assoc]
  rfl

theorem before_iff (hmode : state.presentationMode = .tree) (hopened : Opened state category)
    (hleft : left ∈ leftKeys panes state order ctx category) :
    Before (repoRowsOf state (projectedRows panes state order ctx) category)
        (repoId category left) (repoId category right) ↔
      (rowOrder panes state order ctx category).idxOf left <
        (rowOrder panes state order ctx category).idxOf right := by
  have hinj : Function.Injective (repoId category) := fun _ _ => repoId_inj
  rw [Before, ids_rowOrder hmode hopened hleft, idxOf_map_of_injective hinj,
    idxOf_map_of_injective hinj]

theorem sorted_lt (hleft : left ∈ leftKeys panes state order ctx category)
    (hright : right ∈ leftKeys panes state order ctx category)
    {p : RepoKey → Bool} (hpl : p left = true) (hpr : p right = true) :
    ((Grouped.sortedKeys ctx (leftKeys panes state order ctx category)
      (leftOf panes state order ctx category)).filter p).idxOf left <
    ((Grouped.sortedKeys ctx (leftKeys panes state order ctx category)
      (leftOf panes state order ctx category)).filter p).idxOf right ↔
      Grouped.ordering ctx (leftOf panes state order ctx category) left right = .lt :=
  idxOf_lt_iff ((sortBy_pairwise _).filter p)
    (List.mem_filter.mpr ⟨Grouped.mem_sortedKeys.mpr hleft, hpl⟩)
    (List.mem_filter.mpr ⟨Grouped.mem_sortedKeys.mpr hright, hpr⟩)

theorem rowOrder_of_groups (hleft : left ∈ leftKeys panes state order ctx category)
    (hright : right ∈ leftKeys panes state order ctx category)
    (h : ¬Merges state ctx category ∨
      hasPin (leftOf panes state order ctx category left) = true ∧
        hasPin (leftOf panes state order ctx category right) = true) :
    (rowOrder panes state order ctx category).idxOf left <
        (rowOrder panes state order ctx category).idxOf right ↔
      Grouped.ordering ctx (leftOf panes state order ctx category) left right = .lt := by
  unfold rowOrder
  by_cases hmerges : Merges state ctx category
  · obtain ⟨hpl, hpr⟩ := h.resolve_left (not_not.mpr hmerges)
    simp only [if_pos hmerges]
    rw [idxOf_append_lt_of_mem (List.mem_filter.mpr ⟨Grouped.mem_sortedKeys.mpr hleft, hpl⟩)
      (List.mem_filter.mpr ⟨Grouped.mem_sortedKeys.mpr hright, hpr⟩)]
    exact sorted_lt hleft hright hpl hpr
  · simp only [if_neg hmerges]
    exact idxOf_lt_iff (sortBy_pairwise _) (Grouped.mem_sortedKeys.mpr hleft)
      (Grouped.mem_sortedKeys.mpr hright)

omit [Sha256] in
theorem mem_ordered : key ∈ ctx.categories.orderedRepos ctx.categoryState category ↔
    key ∈ ctx.categories.members category := EffectiveCategoryModel.mem_orderedRepos

/-- Rows that are merged and not pinned stand as the model orders them, those that are not of the
model behind the others. -/
theorem rowOrder_of_model (hleft : left ∈ leftKeys panes state order ctx category)
    (hright : right ∈ leftKeys panes state order ctx category) (hmerges : Merges state ctx category)
    (hpl : hasPin (leftOf panes state order ctx category left) = false)
    (hpr : hasPin (leftOf panes state order ctx category right) = false) :
    (rowOrder panes state order ctx category).idxOf left <
        (rowOrder panes state order ctx category).idxOf right ↔
      if left ∈ ctx.categories.members category then
        right ∈ ctx.categories.members category →
          ctx.categories.repoOrdering ctx.categoryState.repoOrder[category]? left right = .lt
      else right ∉ ctx.categories.members category ∧
        grouping panes state order ctx category left right = .lt := by
  have hout {key : RepoKey} (hpin : hasPin (leftOf panes state order ctx category key) = false) :
      key ∉ (Grouped.sortedKeys ctx (leftKeys panes state order ctx category)
        (leftOf panes state order ctx category)).filter fun key =>
          hasPin (leftOf panes state order ctx category key) := by
    intro hmem
    exact absurd ((List.mem_filter.mp hmem).2.symm.trans hpin) (by decide)
  unfold rowOrder
  simp only [if_pos hmerges]
  rw [idxOf_append_lt_of_not_mem (hout hpl) (hout hpr)]
  by_cases hl : left ∈ ctx.categories.members category
  · rw [if_pos hl]
    by_cases hr : right ∈ ctx.categories.members category
    · rw [idxOf_append_lt_of_mem (mem_ordered.mpr hl) (mem_ordered.mpr hr)]
      have hsorted : _ ↔ ctx.categories.repoOrdering ctx.categoryState.repoOrder[category]?
          left right = .lt :=
        idxOf_lt_iff (sortBy_pairwise _) (mem_ordered.mpr hl) (mem_ordered.mpr hr)
      exact hsorted.trans ⟨fun h _ => h, fun h => h hr⟩
    · exact iff_of_true (idxOf_append_lt (mem_ordered.mpr hl) fun h => hr (mem_ordered.mp h))
        fun h => absurd h hr
  · rw [if_neg hl]
    by_cases hr : right ∈ ctx.categories.members category
    · refine iff_of_false (fun h => ?_) fun h => h.1 hr
      exact Nat.lt_asymm h (idxOf_append_lt (mem_ordered.mpr hr) fun h => hl (mem_ordered.mp h))
    · rw [idxOf_append_lt_of_not_mem (fun h => hl (mem_ordered.mp h)) fun h => hr (mem_ordered.mp h),
        List.filter_filter, sorted_lt hleft hright (by simp [hpl, mem_ordered, hl])
          (by simp [hpr, mem_ordered, hr]), ordering_of_pins hleft hright (hpl.trans hpr.symm)]
      exact ⟨fun h => ⟨hr, h⟩, fun h => h.2⟩

theorem mem_of_shown (hmode : state.presentationMode = .tree)
    (hid : repoId category key ∈
      (repoRowsOf state (projectedRows panes state order ctx) category).map (·.id)) :
    Opened state category ∧ (¬Merges state ctx category →
      key ∈ leftKeys panes state order ctx category) := by
  obtain ⟨row, hrow, -⟩ := List.mem_map.mp hid
  obtain ⟨hopened, hshown⟩ := shown_of_mem hmode hrow
  refine ⟨hopened, fun hmerges => ?_⟩
  rw [ids_of_entry hmode hopened hshown] at hid
  obtain ⟨other, hother, heq⟩ := List.mem_map.mp hid
  obtain rfl := repoId_inj heq
  unfold rowOrder at hother
  simp only [if_neg hmerges] at hother
  exact Grouped.mem_sortedKeys.mp hother

theorem shown_of_left (hmode : state.presentationMode = .tree) (hopened : Opened state category)
    (hkey : key ∈ leftKeys panes state order ctx category) : repoId category key ∈
      (repoRowsOf state (projectedRows panes state order ctx) category).map (·.id) := by
  rw [ids_rowOrder hmode hopened hkey]
  refine List.mem_map_of_mem ?_
  have hsorted : key ∈ Grouped.sortedKeys ctx (leftKeys panes state order ctx category)
      (leftOf panes state order ctx category) := Grouped.mem_sortedKeys.mpr hkey
  unfold rowOrder
  simp only
  split_ifs
  · by_cases hpin : hasPin (leftOf panes state order ctx category key) = true
    · exact List.mem_append_left _ (List.mem_filter.mpr ⟨hsorted, hpin⟩)
    · refine List.mem_append_right _ ?_
      by_cases hmember : key ∈ ctx.categories.orderedRepos ctx.categoryState category
      · exact List.mem_append_left _ hmember
      · refine List.mem_append_right _ (List.mem_filter.mpr ⟨?_, by simpa using hmember⟩)
        exact List.mem_filter.mpr ⟨hsorted, by simpa using hpin⟩
  · exact hsorted

theorem rowOrder_of_pin (hleft : left ∈ leftKeys panes state order ctx category)
    (hright : right ∈ leftKeys panes state order ctx category)
    (hpl : hasPin (leftOf panes state order ctx category left) = true)
    (hpr : hasPin (leftOf panes state order ctx category right) = false) :
    (rowOrder panes state order ctx category).idxOf left <
      (rowOrder panes state order ctx category).idxOf right := by
  by_cases hmerges : Merges state ctx category
  · unfold rowOrder
    simp only [if_pos hmerges]
    refine idxOf_append_lt (List.mem_filter.mpr ⟨Grouped.mem_sortedKeys.mpr hleft, hpl⟩) ?_
    exact fun hmem => absurd ((List.mem_filter.mp hmem).2.symm.trans hpr) (by decide)
  · refine (rowOrder_of_groups hleft hright (Or.inl hmerges)).mpr ?_
    have hlt : compare (hasPin (leftOf panes state order ctx category right))
        (hasPin (leftOf panes state order ctx category left)) = .lt := by
      rw [hpl, hpr]
      rfl
    rw [Grouped.ordering, compareLex, compareRepoGroups, hlt]
    rfl

variable (panes state order ctx) in
/-- The name by which a filter sorts a repository: that of the model if its row is merged. -/
def sortName (category : String) (key : RepoKey) : String :=
  if Merges state ctx category ∧ hasPin (leftOf panes state order ctx category key) = false ∧
      key ∈ ctx.categories.members category then ctx.categories.displayName key
  else firstName panes state order ctx category key

variable (panes state order ctx) in
def nameOrder (category : String) : RepoKey → RepoKey → Ordering :=
  compareLex (compareOn (sortName panes state order ctx category)) compare

omit [Sha256] in
theorem storedPosition_inj {i : ℕ} (hleft : storedPosition ctx category left = some i)
    (hright : storedPosition ctx category right = some i) : left = right := by
  obtain ⟨name, hname, hbind⟩ := Option.bind_eq_some_iff.mp hleft
  obtain ⟨stored, hstored, hl⟩ := Option.bind_eq_some_iff.mp hbind
  rw [storedPosition, hname, Option.bind_some, hstored, Option.bind_some] at hright
  obtain ⟨hlt, hget, -⟩ := List.idxOf?_eq_some_iff.mp hl
  obtain ⟨_, hget', -⟩ := List.idxOf?_eq_some_iff.mp hright
  exact hget.symm.trans hget'

omit [Sha256] in
theorem compareLast_then {names names' : Ordering} (hrefl : left = right → names = names')
    (h : storedPosition ctx category left = none → storedPosition ctx category right = none →
      (names = .lt ↔ names' = .lt)) :
    ((compareLast (storedPosition ctx category left) (storedPosition ctx category right)).then
        names = .lt ↔
      (compareLast (storedPosition ctx category left) (storedPosition ctx category right)).then
        names' = .lt) := by
  cases hl : storedPosition ctx category left with
  | none =>
    cases hr : storedPosition ctx category right with
    | none => exact h hl hr
    | some j => exact iff_of_false (fun h => by cases h) fun h => by cases h
  | some i =>
    cases hr : storedPosition ctx category right with
    | none => exact iff_of_true rfl rfl
    | some j =>
      by_cases hij : i = j
      · subst hij
        rw [hrefl (storedPosition_inj hl hr)]
      · have hne : compareLast (some i) (some j) ≠ .eq := fun heq =>
          hij (Std.LawfulEqOrd.eq_of_compare heq)
        rw [Ordering.then_eq_lt, Ordering.then_eq_lt]
        exact or_congr_right (iff_of_false (fun h => hne h.1) fun h => hne h.1)

omit [Sha256] in
theorem repoOrdering_eq (hcategory : storedCategory category = some category) :
    ctx.categories.repoOrdering ctx.categoryState.repoOrder[category]? left right =
      (compare (storedPosition ctx category left) (storedPosition ctx category right)).then
        (compareLex (compareOn ctx.categories.displayName) compare left right) := by
  rw [storedPosition, storedPosition, hcategory]
  rfl

omit [Sha256] in
/-- The order of the model is the one by the stored position when both repositories have one, or
neither has. -/
theorem repoOrdering_iff {names : Ordering} (hcategory : storedCategory category = some category)
    (hrefl : left = right → names = .eq)
    (hstored : (storedPosition ctx category left).isSome = (storedPosition ctx category right).isSome)
    (h : storedPosition ctx category left = none → storedPosition ctx category right = none →
      (compareLex (compareOn ctx.categories.displayName) compare left right = .lt ↔
        names = .lt)) :
    ctx.categories.repoOrdering ctx.categoryState.repoOrder[category]? left right = .lt ↔
      (compareLast (storedPosition ctx category left) (storedPosition ctx category right)).then
        names = .lt := by
  have hsame : compare (storedPosition ctx category left) (storedPosition ctx category right) =
      compareLast (storedPosition ctx category left) (storedPosition ctx category right) := by
    cases hl : storedPosition ctx category left <;> cases hr : storedPosition ctx category right
    · rfl
    · simp [hl, hr] at hstored
    · simp [hl, hr] at hstored
    · rfl
  rw [repoOrdering_eq hcategory, hsame]
  refine compareLast_then (fun heq => ?_) h
  rw [hrefl heq, heq]
  exact Std.ReflCmp.compare_self

omit [Sha256] in
theorem repoOrdering_stored (hcategory : storedCategory category = some category)
    {names : Ordering}
    (h : ctx.categories.repoOrdering ctx.categoryState.repoOrder[category]? left right = .lt ↔
      (compareLast (storedPosition ctx category left) (storedPosition ctx category right)).then
        names = .lt) :
    (storedPosition ctx category left).isSome = (storedPosition ctx category right).isSome := by
  rw [repoOrdering_eq hcategory] at h
  cases hl : storedPosition ctx category left <;> cases hr : storedPosition ctx category right
  · rfl
  · rw [hl, hr] at h
    cases h.mp rfl
  · rw [hl, hr] at h
    cases h.mpr rfl
  · rfl

end Shown

end Agreement

end VdeTmux.Sidebar
