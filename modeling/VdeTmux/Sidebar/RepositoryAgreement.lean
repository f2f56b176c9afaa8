import VdeTmux.Sidebar.RepositoryCounts
import VdeTmux.Sidebar.RepositoryOrder

/-!
# Repository rows agree

Repository rows agree with the row of their category, and two status filters show them in the same
order, exactly when the counts that they look up add up and the two ways to read the stored order put
them alike.
-/

open Foundation Foundation.Outline VdeTmux.Pane VdeTmux.Category
namespace VdeTmux.Sidebar

section Agreement
variable [Sha256] (panes : List PanePresentation) (state : SidebarState)
  (order : SidebarPreferences) (ctx : RowBuildContext)

def atFilter (state : SidebarState) (filter : StatusFilter) : SidebarState :=
  { state with filter := filter }

/-- Two repositories that both lists show, and of which the pins do not decide differently. -/
structure Comparable (rows rows' : List SidebarRow) (left right : String) : Prop where
  left_mem : left ∈ rows.map (·.id) ∧ left ∈ rows'.map (·.id)
  right_mem : right ∈ rows.map (·.id) ∧ right ∈ rows'.map (·.id)
  pins : pinnedIn rows left = pinnedIn rows right ∧ pinnedIn rows' left = pinnedIn rows' right ∨
    pinnedIn rows left = pinnedIn rows' left ∧ pinnedIn rows right = pinnedIn rows' right

/-- The repository rows add up to the row of their category, and stand in one order. -/
structure RowsAgree : Prop where
  attention : ∀ s ∈ sections isCategory (projectedRows panes state order ctx),
    s.1.expanded = true → s.1.attention = ((repoHeads s.2).map (·.attention)).sum
  order : ∀ f g : StatusFilter, f ≠ g → ∀ (category : String) (left right : RepoKey),
    Comparable
      (repoRowsOf state (projectedRows panes (atFilter state f) order ctx) category)
      (repoRowsOf state (projectedRows panes (atFilter state g) order ctx) category)
      (repoId category left) (repoId category right) →
    (Before (repoRowsOf state (projectedRows panes (atFilter state f) order ctx) category)
      (repoId category left) (repoId category right) ↔
    Before (repoRowsOf state (projectedRows panes (atFilter state g) order ctx) category)
      (repoId category left) (repoId category right))

variable {panes state order ctx}

/-- Two repositories of a category that have panes left under two filters, with pins that do not
decide between them. -/
structure Together (panes : List PanePresentation) (state : SidebarState)
    (order : SidebarPreferences) (ctx : RowBuildContext) (f g : StatusFilter) (category : String)
    (left right : RepoKey) : Prop where
  opened : Opened state category
  left_mem : left ∈ leftKeys panes (atFilter state f) order ctx category ∧
    left ∈ leftKeys panes (atFilter state g) order ctx category
  right_mem : right ∈ leftKeys panes (atFilter state f) order ctx category ∧
    right ∈ leftKeys panes (atFilter state g) order ctx category
  pin : hasPin (leftOf panes (atFilter state f) order ctx category left) =
    hasPin (leftOf panes (atFilter state f) order ctx category right)
  pin' : hasPin (leftOf panes (atFilter state g) order ctx category left) =
    hasPin (leftOf panes (atFilter state g) order ctx category right)

def ByModel (panes : List PanePresentation) (state : SidebarState) (order : SidebarPreferences)
    (ctx : RowBuildContext) (f : StatusFilter) (category : String) (key : RepoKey) : Prop :=
  Merges (atFilter state f) ctx category ∧
    hasPin (leftOf panes (atFilter state f) order ctx category key) = false

/-- When two filters order repositories alike: without stored positions the names by which they sort
are in one order; where the model orders, either both repositories or none have a stored position,
and one that is not of the model comes behind one that is under the other filter as well. Where the
name of the category is not as it is parsed, only the model finds the stored positions. -/
structure OrderKept (panes : List PanePresentation) (state : SidebarState)
    (order : SidebarPreferences) (ctx : RowBuildContext) : Prop where
  names : ∀ f g category left right, g ≠ .all → Together panes state order ctx f g category left right →
    storedPosition ctx category left = none → storedPosition ctx category right = none →
    (ByModel panes state order ctx f category left →
      (left ∈ ctx.categories.members category ↔ right ∈ ctx.categories.members category) ∧
      (left ∈ ctx.categories.members category → storedCategory category = some category)) →
    (nameOrder panes (atFilter state f) order ctx category left right = .lt ↔
      nameOrder panes (atFilter state g) order ctx category left right = .lt)
  stored : ∀ f g category left right, g ≠ .all →
    Together panes state order ctx f g category left right →
    ByModel panes state order ctx f category left → left ∈ ctx.categories.members category →
    right ∈ ctx.categories.members category → storedCategory category = some category →
    (storedPosition ctx category left).isSome = (storedPosition ctx category right).isSome
  renamed : ∀ f g category left right, g ≠ .all →
    Together panes state order ctx f g category left right →
    ByModel panes state order ctx f category left → left ∈ ctx.categories.members category →
    right ∈ ctx.categories.members category → storedCategory category ≠ some category →
    (ctx.categories.repoOrdering ctx.categoryState.repoOrder[category]? left right = .lt ↔
      grouping panes (atFilter state g) order ctx category left right = .lt)
  unplaced : ∀ f g category left right, g ≠ .all →
    Together panes state order ctx f g category left right →
    ByModel panes state order ctx f category left → left ∈ ctx.categories.members category →
    right ∉ ctx.categories.members category →
    grouping panes (atFilter state g) order ctx category left right = .lt

section Filters
variable {f g : StatusFilter} {category : String} {left right : RepoKey}

theorem Together.symm (h : Together panes state order ctx f g category left right) :
    Together panes state order ctx f g category right left :=
  ⟨h.opened, h.right_mem, h.left_mem, h.pin.symm, h.pin'.symm⟩

omit [Sha256] in
theorem not_merges (hg : g ≠ .all) : ¬Merges (atFilter state g) ctx category := fun h => hg h.2.1

theorem grouping_asymm (h : grouping panes state order ctx category left right = .lt) :
    grouping panes state order ctx category right left ≠ .lt := by
  have hposition := transCmp_on compareLast (storedPosition ctx category)
  have htrans : Std.TransCmp (grouping panes state order ctx category) :=
    inferInstanceAs (Std.TransCmp (compareLex _ (compareLex _ _)))
  exact Std.OrientedCmp.not_lt_of_lt h

variable (panes state order ctx category) in
def leftNames (left right : RepoKey) : Ordering :=
  compareLex (compareOn (firstName panes state order ctx category)) compare left right

theorem leftNames_self : leftNames panes state order ctx category left left = .eq :=
  compareLex_eq_eq.mpr ⟨Std.ReflCmp.compare_self, Std.ReflCmp.compare_self⟩

theorem grouping_eq : grouping panes state order ctx category left right =
    (compareLast (storedPosition ctx category left) (storedPosition ctx category right)).then
      (leftNames panes state order ctx category left right) := rfl

theorem rowOrder_second (hg : g ≠ .all) (h : Together panes state order ctx f g category left right) :
    (rowOrder panes (atFilter state g) order ctx category).idxOf left <
        (rowOrder panes (atFilter state g) order ctx category).idxOf right ↔
      grouping panes (atFilter state g) order ctx category left right = .lt := by
  rw [rowOrder_of_groups h.left_mem.2 h.right_mem.2 (Or.inl (not_merges hg)),
    ordering_of_pins h.left_mem.2 h.right_mem.2 h.pin']

theorem rowOrder_first (h : Together panes state order ctx f g category left right)
    (hmodel : ¬ByModel panes state order ctx f category left) :
    (rowOrder panes (atFilter state f) order ctx category).idxOf left <
        (rowOrder panes (atFilter state f) order ctx category).idxOf right ↔
      grouping panes (atFilter state f) order ctx category left right = .lt := by
  rw [rowOrder_of_groups h.left_mem.1 h.right_mem.1,
    ordering_of_pins h.left_mem.1 h.right_mem.1 h.pin]
  by_cases hmerges : Merges (atFilter state f) ctx category
  · have hpin : hasPin (leftOf panes (atFilter state f) order ctx category left) = true := by
      rw [← Bool.not_eq_false]
      exact fun hfalse => hmodel ⟨hmerges, hfalse⟩
    exact Or.inr ⟨hpin, h.pin ▸ hpin⟩
  · exact Or.inl hmerges

theorem nameOrder_of_left
    (hleft : ¬(ByModel panes state order ctx f category left ∧
      left ∈ ctx.categories.members category))
    (hright : ¬(ByModel panes state order ctx f category right ∧
      right ∈ ctx.categories.members category)) :
    nameOrder panes (atFilter state f) order ctx category left right =
      leftNames panes (atFilter state f) order ctx category left right := by
  have hname {key : RepoKey} (hkey : ¬(ByModel panes state order ctx f category key ∧
      key ∈ ctx.categories.members category)) :
      sortName panes (atFilter state f) order ctx category key =
        firstName panes (atFilter state f) order ctx category key :=
    if_neg fun h => hkey ⟨⟨h.1, h.2.1⟩, h.2.2⟩
  rw [nameOrder, leftNames, compareLex, compareLex, compareOn, compareOn, hname hleft, hname hright]

theorem nameOrder_of_model (hleft : ByModel panes state order ctx f category left ∧
      left ∈ ctx.categories.members category)
    (hright : ByModel panes state order ctx f category right ∧
      right ∈ ctx.categories.members category) :
    nameOrder panes (atFilter state f) order ctx category left right =
      compareLex (compareOn ctx.categories.displayName) compare left right := by
  have hname {key : RepoKey} (hkey : ByModel panes state order ctx f category key ∧
      key ∈ ctx.categories.members category) :
      sortName panes (atFilter state f) order ctx category key = ctx.categories.displayName key :=
    if_pos ⟨hkey.1.1, hkey.1.2, hkey.2⟩
  rw [nameOrder, compareLex, compareLex, compareOn, compareOn, hname hleft, hname hright]

theorem not_byModel (hg : g ≠ .all) : ¬(ByModel panes state order ctx g category left ∧
    left ∈ ctx.categories.members category) := fun h => not_merges hg h.1.1

theorem Together.byModel (h : Together panes state order ctx f g category left right)
    (hmodel : ByModel panes state order ctx f category left) :
    ByModel panes state order ctx f category right := ⟨hmodel.1, h.pin ▸ hmodel.2⟩

theorem rowOrder_byModel (h : Together panes state order ctx f g category left right)
    (hmodel : ByModel panes state order ctx f category left) :
    (rowOrder panes (atFilter state f) order ctx category).idxOf left <
        (rowOrder panes (atFilter state f) order ctx category).idxOf right ↔
      if left ∈ ctx.categories.members category then
        right ∈ ctx.categories.members category →
          ctx.categories.repoOrdering ctx.categoryState.repoOrder[category]? left right = .lt
      else right ∉ ctx.categories.members category ∧
        grouping panes (atFilter state f) order ctx category left right = .lt :=
  rowOrder_of_model h.left_mem.1 h.right_mem.1 hmodel.1 hmodel.2 (h.byModel hmodel).2

theorem grouping_iff (hg : g ≠ .all)
    (hleft : ¬(ByModel panes state order ctx f category left ∧
      left ∈ ctx.categories.members category))
    (hright : ¬(ByModel panes state order ctx f category right ∧
      right ∈ ctx.categories.members category)) :
    (grouping panes (atFilter state f) order ctx category left right = .lt ↔
      grouping panes (atFilter state g) order ctx category left right = .lt) ↔
    (storedPosition ctx category left = none → storedPosition ctx category right = none →
      (nameOrder panes (atFilter state f) order ctx category left right = .lt ↔
        nameOrder panes (atFilter state g) order ctx category left right = .lt)) := by
  rw [nameOrder_of_left hleft hright, nameOrder_of_left (not_byModel hg) (not_byModel hg),
    grouping_eq, grouping_eq]
  constructor
  · intro h hl hr
    rw [hl, hr] at h
    exact h
  · intro h
    refine compareLast_then (fun heq => ?_) h
    subst heq
    rw [leftNames_self, leftNames_self]

theorem model_iff (hg : g ≠ .all) (hcategory : storedCategory category = some category)
    (hleft : ByModel panes state order ctx f category left ∧
      left ∈ ctx.categories.members category)
    (hright : ByModel panes state order ctx f category right ∧
      right ∈ ctx.categories.members category) :
    (ctx.categories.repoOrdering ctx.categoryState.repoOrder[category]? left right = .lt ↔
      grouping panes (atFilter state g) order ctx category left right = .lt) ↔
    (storedPosition ctx category left).isSome = (storedPosition ctx category right).isSome ∧
      (storedPosition ctx category left = none → storedPosition ctx category right = none →
        (nameOrder panes (atFilter state f) order ctx category left right = .lt ↔
          nameOrder panes (atFilter state g) order ctx category left right = .lt)) := by
  rw [nameOrder_of_model hleft hright, nameOrder_of_left (not_byModel hg) (not_byModel hg),
    grouping_eq]
  constructor
  · intro h
    refine ⟨repoOrdering_stored hcategory h, fun hl hr => ?_⟩
    rw [repoOrdering_eq hcategory, hl, hr] at h
    exact h
  · rintro ⟨hstored, hnames⟩
    refine repoOrdering_iff hcategory (fun heq => ?_) hstored hnames
    subst heq
    exact leftNames_self

theorem orderKept_iff :
    (∀ f g category left right, g ≠ .all → Together panes state order ctx f g category left right →
      ((rowOrder panes (atFilter state f) order ctx category).idxOf left <
          (rowOrder panes (atFilter state f) order ctx category).idxOf right ↔
        grouping panes (atFilter state g) order ctx category left right = .lt)) ↔
      OrderKept panes state order ctx := by
  constructor
  · intro h
    refine ⟨fun f g category left right hg htogether hl hr halike => ?_,
      fun f g category left right hg htogether hmodel hml hmr hcategory => ?_,
      fun f g category left right hg htogether hmodel hml hmr _ => ?_,
      fun f g category left right hg htogether hmodel hml hmr => ?_⟩
    · have hsame := h f g category left right hg htogether
      by_cases hmodel : ByModel panes state order ctx f category left
      · rw [rowOrder_byModel htogether hmodel] at hsame
        by_cases hml : left ∈ ctx.categories.members category
        · have hmr := (halike hmodel).1.mp hml
          rw [if_pos hml] at hsame
          have hordering := Iff.trans ⟨fun h _ => h, fun h => h hmr⟩ hsame
          exact ((model_iff hg ((halike hmodel).2 hml) ⟨hmodel, hml⟩
            ⟨htogether.byModel hmodel, hmr⟩).mp hordering).2 hl hr
        · have hmr : right ∉ ctx.categories.members category :=
            fun hmr => hml ((halike hmodel).1.mpr hmr)
          rw [if_neg hml] at hsame
          have hgrouping := Iff.trans ⟨fun h => ⟨hmr, h⟩, fun h => h.2⟩ hsame
          exact (grouping_iff hg (fun h => hml h.2) fun h => hmr h.2).mp hgrouping hl hr
      · rw [rowOrder_first htogether hmodel] at hsame
        exact (grouping_iff hg (fun h => hmodel h.1)
          fun h => hmodel (htogether.symm.byModel h.1)).mp hsame hl hr
    · have hsame := h f g category left right hg htogether
      rw [rowOrder_byModel htogether hmodel, if_pos hml] at hsame
      have hordering := Iff.trans ⟨fun h _ => h, fun h => h hmr⟩ hsame
      exact ((model_iff hg hcategory ⟨hmodel, hml⟩
        ⟨htogether.byModel hmodel, hmr⟩).mp hordering).1
    · have hsame := h f g category left right hg htogether
      rw [rowOrder_byModel htogether hmodel, if_pos hml] at hsame
      exact Iff.trans ⟨fun h _ => h, fun h => h hmr⟩ hsame
    · have hsame := h f g category left right hg htogether
      rw [rowOrder_byModel htogether hmodel, if_pos hml] at hsame
      exact hsame.mp fun hmem => absurd hmem hmr
  · intro h f g category left right hg htogether
    by_cases hmodel : ByModel panes state order ctx f category left
    · rw [rowOrder_byModel htogether hmodel]
      by_cases hml : left ∈ ctx.categories.members category
      · rw [if_pos hml]
        by_cases hmr : right ∈ ctx.categories.members category
        · refine Iff.trans ⟨fun h => h hmr, fun h _ => h⟩ ?_
          by_cases hcategory : storedCategory category = some category
          · refine (model_iff hg hcategory ⟨hmodel, hml⟩
              ⟨htogether.byModel hmodel, hmr⟩).mpr ⟨?_, fun hl hr => ?_⟩
            · exact h.stored f g category left right hg htogether hmodel hml hmr hcategory
            · exact h.names f g category left right hg htogether hl hr fun _ =>
                ⟨iff_of_true hml hmr, fun _ => hcategory⟩
          · exact h.renamed f g category left right hg htogether hmodel hml hmr hcategory
        · exact iff_of_true (fun hmem => absurd hmem hmr)
            (h.unplaced f g category left right hg htogether hmodel hml hmr)
      · rw [if_neg hml]
        by_cases hmr : right ∈ ctx.categories.members category
        · have hafter := h.unplaced f g category right left hg htogether.symm
            (htogether.byModel hmodel) hmr hml
          refine iff_of_false (fun hand => hand.1 hmr) fun hlt => ?_
          exact (grouping_asymm hafter) hlt
        · refine Iff.trans ⟨fun h => h.2, fun h => ⟨hmr, h⟩⟩
            ((grouping_iff hg (fun h => hml h.2) fun h => hmr h.2).mpr fun hl hr => ?_)
          exact h.names f g category left right hg htogether hl hr fun _ =>
            ⟨iff_of_false hml hmr, fun h => absurd h hml⟩
    · rw [rowOrder_first htogether hmodel]
      refine (grouping_iff hg (fun h => hmodel h.1)
        fun h => hmodel (htogether.symm.byModel h.1)).mpr fun hl hr => ?_
      exact h.names f g category left right hg htogether hl hr fun hm => absurd hm hmodel

theorem leftKeys_all {key : RepoKey}
    (h : key ∈ leftKeys panes (atFilter state g) order ctx category) :
    key ∈ leftKeys panes (atFilter state .all) order ctx category := by
  rw [mem_leftKeys] at h ⊢
  obtain ⟨pane, -, hpane⟩ := exists_head h
  have hkept := (List.mem_filter.mp hpane).1
  have hall : pane ∈ leftOf panes (atFilter state .all) order ctx category key :=
    List.mem_filter.mpr ⟨hkept, rfl⟩
  exact List.ne_nil_of_mem hall

theorem left_of_shown (hmode : state.presentationMode = .tree) (hg : g ≠ .all) {key : RepoKey}
    (hf : repoId category key ∈
      (repoRowsOf state (projectedRows panes (atFilter state f) order ctx) category).map (·.id))
    (hg' : repoId category key ∈
      (repoRowsOf state (projectedRows panes (atFilter state g) order ctx) category).map (·.id)) :
    Opened state category ∧ key ∈ leftKeys panes (atFilter state f) order ctx category ∧
      key ∈ leftKeys panes (atFilter state g) order ctx category := by
  have hmode' (filter : StatusFilter) : (atFilter state filter).presentationMode = .tree := hmode
  obtain ⟨hopened, hleft⟩ := mem_of_shown (hmode' g) hg'
  have hkey := hleft (not_merges hg)
  refine ⟨hopened, ?_, hkey⟩
  by_cases hmerges : Merges (atFilter state f) ctx category
  · have hall : f = .all := hmerges.2.1
    rw [hall]
    exact leftKeys_all hkey
  · exact (mem_of_shown (hmode' f) hf).2 hmerges

variable (panes state order ctx) in
def rowsAt (f : StatusFilter) (category : String) : List SidebarRow :=
  repoRowsOf (atFilter state f) (projectedRows panes (atFilter state f) order ctx) category

theorem before_of_comparable (hmode : state.presentationMode = .tree) (hg : g ≠ .all)
    (h : ∀ left right, Together panes state order ctx f g category left right →
      ((rowOrder panes (atFilter state f) order ctx category).idxOf left <
          (rowOrder panes (atFilter state f) order ctx category).idxOf right ↔
        grouping panes (atFilter state g) order ctx category left right = .lt))
    (hcomparable : Comparable (rowsAt panes state order ctx f category)
      (rowsAt panes state order ctx g category) (repoId category left) (repoId category right)) :
    Before (rowsAt panes state order ctx f category) (repoId category left)
        (repoId category right) ↔
      Before (rowsAt panes state order ctx g category) (repoId category left)
        (repoId category right) := by
  obtain ⟨hopened, hlf, hlg⟩ := left_of_shown hmode hg hcomparable.left_mem.1 hcomparable.left_mem.2
  obtain ⟨-, hrf, hrg⟩ := left_of_shown hmode hg hcomparable.right_mem.1 hcomparable.right_mem.2
  have hmode' (filter : StatusFilter) : (atFilter state filter).presentationMode = .tree := hmode
  have hopened' (filter : StatusFilter) : Opened (atFilter state filter) category := hopened
  have hpins := hcomparable.pins
  rw [rowsAt, rowsAt, pinnedIn_eq (hmode' f) (hopened' f) hlf, pinnedIn_eq (hmode' f) (hopened' f) hrf,
    pinnedIn_eq (hmode' g) (hopened' g) hlg, pinnedIn_eq (hmode' g) (hopened' g) hrg] at hpins
  rw [rowsAt, rowsAt, before_iff (hmode' f) (hopened' f) hlf, before_iff (hmode' g) (hopened' g) hlg]
  have htogether (hpin : hasPin (leftOf panes (atFilter state f) order ctx category left) =
      hasPin (leftOf panes (atFilter state f) order ctx category right))
      (hpin' : hasPin (leftOf panes (atFilter state g) order ctx category left) =
        hasPin (leftOf panes (atFilter state g) order ctx category right)) :
      (rowOrder panes (atFilter state f) order ctx category).idxOf left <
          (rowOrder panes (atFilter state f) order ctx category).idxOf right ↔
        (rowOrder panes (atFilter state g) order ctx category).idxOf left <
          (rowOrder panes (atFilter state g) order ctx category).idxOf right := by
    have hpair : Together panes state order ctx f g category left right :=
      ⟨hopened, ⟨hlf, hlg⟩, ⟨hrf, hrg⟩, hpin, hpin'⟩
    rw [rowOrder_second hg hpair]
    exact h left right hpair
  rcases hpins with ⟨hpin, hpin'⟩ | ⟨hpin, hpin'⟩
  · exact htogether hpin hpin'
  · cases hl : hasPin (leftOf panes (atFilter state f) order ctx category left) <;>
      cases hr : hasPin (leftOf panes (atFilter state f) order ctx category right)
    · exact htogether (hl.trans hr.symm) (by rw [← hpin, ← hpin', hl, hr])
    · exact iff_of_false (Nat.lt_asymm (rowOrder_of_pin hrf hlf hr hl))
        (Nat.lt_asymm (rowOrder_of_pin hrg hlg (hpin' ▸ hr) (hpin ▸ hl)))
    · exact iff_of_true (rowOrder_of_pin hlf hrf hl hr)
        (rowOrder_of_pin hlg hrg (hpin ▸ hl) (hpin' ▸ hr))
    · exact htogether (hl.trans hr.symm) (by rw [← hpin, ← hpin', hl, hr])

omit [Sha256] in
theorem Comparable.symm {rows rows' : List SidebarRow} {left right : String}
    (h : Comparable rows rows' left right) : Comparable rows' rows left right :=
  ⟨h.left_mem.symm, h.right_mem.symm, h.pins.imp And.symm fun h => ⟨h.1.symm, h.2.symm⟩⟩

theorem order_iff (hmode : state.presentationMode = .tree) :
    (∀ f g : StatusFilter, f ≠ g → ∀ (category : String) (left right : RepoKey),
      Comparable (rowsAt panes state order ctx f category) (rowsAt panes state order ctx g category)
        (repoId category left) (repoId category right) →
      (Before (rowsAt panes state order ctx f category) (repoId category left)
          (repoId category right) ↔
        Before (rowsAt panes state order ctx g category) (repoId category left)
          (repoId category right))) ↔ OrderKept panes state order ctx := by
  have hmode' (filter : StatusFilter) : (atFilter state filter).presentationMode = .tree := hmode
  rw [← orderKept_iff]
  constructor
  · intro h f g category left right hg htogether
    rw [← rowOrder_second hg htogether]
    by_cases hfg : f = g
    · rw [hfg]
    · have hopened' (filter : StatusFilter) : Opened (atFilter state filter) category :=
        htogether.opened
      have hshown (filter : StatusFilter) (key : RepoKey)
          (hkey : key ∈ leftKeys panes (atFilter state filter) order ctx category) :=
        shown_of_left (hmode' filter) (hopened' filter) hkey
      have hbefore := h f g hfg category left right
        ⟨⟨hshown f left htogether.left_mem.1, hshown g left htogether.left_mem.2⟩,
          ⟨hshown f right htogether.right_mem.1, hshown g right htogether.right_mem.2⟩, Or.inl ⟨?_, ?_⟩⟩
      · rwa [rowsAt, rowsAt, before_iff (hmode' f) (hopened' f) htogether.left_mem.1,
          before_iff (hmode' g) (hopened' g) htogether.left_mem.2] at hbefore
      · rw [rowsAt, pinnedIn_eq (hmode' f) (hopened' f) htogether.left_mem.1,
          pinnedIn_eq (hmode' f) (hopened' f) htogether.right_mem.1]
        exact htogether.pin
      · rw [rowsAt, pinnedIn_eq (hmode' g) (hopened' g) htogether.left_mem.2,
          pinnedIn_eq (hmode' g) (hopened' g) htogether.right_mem.2]
        exact htogether.pin'
  · intro h f g hfg category left right hcomparable
    by_cases hg : g = .all
    · have hf : f ≠ .all := fun hf => hfg (hf.trans hg.symm)
      exact (before_of_comparable hmode hf (fun l r => h g f category l r hf) hcomparable.symm).symm
    · exact before_of_comparable hmode hg (fun l r => h f g category l r hg) hcomparable

end Filters

/-- The repository rows agree with their category and with each other exactly when the counts that
they look up add up and the two ways to read the stored order put them alike. -/
theorem repository_rows_agree (hmode : state.presentationMode = .tree) :
    (RowsAgree panes state order ctx ↔
      AttentionKept panes state order ctx ∧ OrderKept panes state order ctx) ∧
    (AttentionKept panes state order ctx ↔ AttentionBalanced panes state order ctx) ∧
    (¬NameIsKey panes state order ctx →
      (AttentionKept panes state order ctx ↔ AttentionLeft panes state order ctx)) := by
  refine ⟨?_, attentionKept_balanced, attentionKept_iff⟩
  rw [← attention_iff hmode, ← order_iff hmode]
  exact ⟨fun h => ⟨h.attention, h.order⟩, fun h => ⟨h.1, h.2⟩⟩

end Agreement

def askingPane : PanePresentation :=
  { samplePane with
    paneInstance := ⟨"%2", 8⟩
    resolved := some { sampleResolved with badge := .blocked } }

def idleTree : SidebarState := { wholeTree with filter := .idleOnly }

def askingAgent : AgentPane :=
  @AgentPane.of .constant {} sampleContext askingPane { sampleResolved with badge := .blocked }

theorem repoKey_sample : sampleContext.repoKey "/repo" = "path:/repo" := by
  have hnone : sampleContext.repoIdentities["/repo"]? = none := Std.ExtTreeMap.getElem?_empty
  rw [RowBuildContext.repoKey, hnone]
  decide

theorem category_sample : sampleContext.category "path:/repo" = "work" := by
  have hkey : sampleContext.categories.placements["path:/repo"]? = some samplePlacement :=
    Std.ExtTreeMap.getElem?_insert_self
  rw [RowBuildContext.category, hkey]
  rfl

theorem sample_agents {panes : List PanePresentation} (h : ∀ pane ∈ panes, pane = samplePane ∨
    pane = askingPane) {pane : AgentPane}
    (hpane : pane ∈ @agentPanes .constant panes {} sampleContext) :
    pane = sampleAgent {} ∨ pane = askingAgent := by
  let _ : Sha256 := .constant
  obtain ⟨presentation, hmem, hpane⟩ := List.mem_filterMap.mp hpane
  rcases h presentation hmem with rfl | rfl
  · exact Or.inl (Option.some_inj.mp hpane).symm
  · exact Or.inr (Option.some_inj.mp hpane).symm

theorem sample_fields {pane : AgentPane} (h : pane = sampleAgent {} ∨ pane = askingAgent) :
    pane.category = "work" ∧ pane.repoKey = "path:/repo" ∧ pane.repo = "repo" := by
  have hnone : sampleContext.repoIdentities["/repo"]? = none := Std.ExtTreeMap.getElem?_empty
  have hlabel : repoLabelFromValues "/repo" "repo" = "repo" := by decide
  have hcategory : sampleContext.category (sampleContext.repoKey "/repo") = "work" := by
    rw [repoKey_sample, category_sample]
  have hrepo : (sampleContext.repoIdentities["/repo"]?.map (·.displayName)).getD
      (repoLabelFromValues "/repo" "repo") = "repo" := by
    rw [hnone, hlabel]
    rfl
  rcases h with rfl | rfl
  · exact ⟨hcategory, repoKey_sample, hrepo⟩
  · exact ⟨hcategory, repoKey_sample, hrepo⟩

section Samples
variable {panes : List PanePresentation} {state : SidebarState}

theorem sample_scope (h : ∀ pane ∈ panes, pane = samplePane ∨ pane = askingPane)
    {repo : String × RepoKey} {pane : AgentPane}
    (hpane : pane ∈ @repoScope .constant panes state {} sampleContext repo) :
    (pane = sampleAgent {} ∨ pane = askingAgent) ∧ repo = ("work", "path:/repo") := by
  let _ : Sha256 := .constant
  obtain ⟨hscoped, hkey⟩ := List.mem_filter.mp hpane
  have hagent := sample_agents h (List.mem_filter.mp hscoped).1
  obtain ⟨hcategory, hrepo, -⟩ := sample_fields hagent
  refine ⟨hagent, ?_⟩
  rw [← of_decide_eq_true hkey, hcategory, hrepo]

theorem sample_name (h : ∀ pane ∈ panes, pane = samplePane ∨ pane = askingPane) :
    ¬@NameIsKey .constant panes state {} sampleContext := by
  let _ : Sha256 := .constant
  rintro ⟨category, key, first, hfirst, hne⟩
  have hleft := remaining_subset (List.mem_of_head? hfirst)
  obtain ⟨-, -, hname⟩ := sample_fields (sample_scope h hleft).1
  obtain ⟨pane, -, hpane⟩ := exists_head hne
  have hrepo : first.repo = "path:/repo" := congrArg Prod.snd (sample_scope h hpane).2
  rw [hname] at hrepo
  exact absurd hrepo (by decide)

theorem sample_triage (pane : AgentPane) : inTriage sampleContext pane = false := by
  have hempty : sampleContext.triage.contains pane.paneInstance = false :=
    Std.ExtTreeSet.contains_empty
  rw [inTriage, hempty]
  rfl

end Samples

/-- The row of the repository counts the pane that is left, that of the category both. -/
theorem hidden_attention_lost :
    ¬@RowsAgree .constant [samplePane, askingPane] idleTree {} sampleContext := by
  let _ : Sha256 := .constant
  intro h
  have hsamples : ∀ pane ∈ [samplePane, askingPane], pane = samplePane ∨ pane = askingPane := by
    simp
  have hkept := (attentionKept_iff (sample_name hsamples)).mp ((attention_iff rfl).mp h.attention)
  have hagents : agentPanes [samplePane, askingPane] {} sampleContext =
      [sampleAgent {}, askingAgent] := rfl
  have hmem (pane : AgentPane) (hpane : pane = sampleAgent {} ∨ pane = askingAgent) :
      pane ∈ repoScope [samplePane, askingPane] idleTree {} sampleContext ("work", "path:/repo") := by
    obtain ⟨hcategory, hkey, -⟩ := sample_fields hpane
    refine List.mem_filter.mpr ⟨List.mem_filter.mpr ⟨?_, rfl⟩, ?_⟩
    · rw [hagents]
      simpa using hpane
    · rw [hcategory, hkey]
      rfl
  have hleft : sampleAgent {} ∈
      leftOf [samplePane, askingPane] idleTree {} sampleContext "work" "path:/repo" := by
    refine List.mem_filter.mpr ⟨List.mem_filter.mpr ⟨?_, ?_⟩, rfl⟩
    · exact (orderAgentPanes_perm _ _).mem_iff.mpr (hmem _ (Or.inl rfl))
    · rw [sample_triage]
      rfl
  have hexpanded : idleTree.isExpanded (categoryId "work") = true :=
    isExpanded_of_not_mem (expanded_wholeTree "work").1
  have hasking := hkept rfl "work" hexpanded "path:/repo"
    (mem_leftKeys.mpr (List.ne_nil_of_mem hleft)) askingAgent (hmem _ (Or.inr rfl)) rfl
  cases hasking.2

section Several
variable {f : StatusFilter} {category : String} {key : RepoKey}

def severalNames : List (RepoKey × String) :=
  [("path:/tmp", "tmp"), ("path:/repo", "repo"), ("path:/lib", "lib")]

theorem several_name {pane : AgentPane}
    (h : pane ∈ @agentPanes .constant severalPanes pinnedOrder severalContext) :
    (pane.repoKey, pane.repo) ∈ severalNames := by
  have hplace (paneId path : String) (badge : BadgeState) :
      ((pathAgent pinnedOrder paneId path badge).repoKey,
        (pathAgent pinnedOrder paneId path badge).repo) =
        (s!"path:{path}", repoLabelFromValues path "repo") := by
    have hnone : severalContext.repoIdentities[path]? = none := Std.ExtTreeMap.getElem?_empty
    rw [(pathAgent_place pinnedOrder paneId path badge).1]
    unfold pathAgent AgentPane.of pathPane
    simp only [hnone, List.head?_nil, Option.map_none, Option.getD_none]
  rw [several_agents] at h
  simp only [List.mem_cons, List.not_mem_nil, or_false] at h
  rcases h with rfl | rfl | rfl | rfl <;> rw [hplace] <;> decide

theorem several_scope {state : SidebarState} {repo : String × RepoKey} {pane : AgentPane}
    (h : pane ∈ @repoScope .constant severalPanes state pinnedOrder severalContext repo) :
    repo ∈ severalPlaces ∧ (repo.2, pane.repo) ∈ severalNames := by
  obtain ⟨hscoped, hrepo⟩ := List.mem_filter.mp h
  obtain rfl := of_decide_eq_true hrepo
  have hagent := (List.mem_filter.mp hscoped).1
  exact ⟨several_places hagent, several_name hagent⟩

theorem several_left
    (h : key ∈ @leftKeys .constant severalPanes (atFilter wholeTree f) pinnedOrder severalContext
      category) : (category, key) ∈ severalPlaces ∧
      (key, @firstName .constant severalPanes (atFilter wholeTree f) pinnedOrder severalContext
        category key) ∈ severalNames := by
  let _ : Sha256 := .constant
  obtain ⟨pane, hfirst, hpane⟩ := exists_head (mem_leftKeys.mp h)
  rw [firstName, hfirst]
  exact several_scope (remaining_subset hpane)

theorem several_members (h : key ∈ severalContext.categories.members category) :
    category = "work" := by
  obtain ⟨placement, hget, rfl⟩ := EffectiveCategoryModel.mem_members.mp h
  have hplacement : severalContext.categories.placements[key]? = _ := severalPlacements_get key
  rw [hplacement] at hget
  split_ifs at hget <;> obtain rfl := Option.some_inj.mp hget <;> rfl

theorem several_placed (hkey : ("work", key) ∈ severalPlaces) :
    key ∈ severalContext.categories.members "work" ∧
      (key, severalContext.categories.displayName key) ∈ severalNames := by
  have hget : severalContext.categories.placements[key]? = _ := severalPlacements_get key
  have hcases : key = "path:/repo" ∨ key = "path:/lib" := by
    simpa [severalPlaces, show "work" ≠ uncategorized by decide] using hkey
  rw [EffectiveCategoryModel.mem_members, EffectiveCategoryModel.displayName, hget]
  rcases hcases with rfl | rfl
  · exact ⟨⟨samplePlacement, rfl, rfl⟩, by decide⟩
  · exact ⟨⟨libPlacement, rfl, rfl⟩, by decide⟩

theorem several_sortName
    (h : key ∈ @leftKeys .constant severalPanes (atFilter wholeTree f) pinnedOrder severalContext
      category) :
    (key, @sortName .constant severalPanes (atFilter wholeTree f) pinnedOrder severalContext
      category key) ∈ severalNames := by
  let _ : Sha256 := .constant
  obtain ⟨hplace, hname⟩ := several_left h
  rw [sortName]
  split_ifs with hmodel
  · obtain rfl := several_members hmodel.2.2
    exact (several_placed hplace).2
  · exact hname

end Several

/-- Three repositories, two of them with a pane that needs attention, agree with their categories
and stand alike under every filter. -/
theorem several_repositories_agree :
    @RowsAgree .constant severalPanes wholeTree pinnedOrder severalContext := by
  let _ : Sha256 := .constant
  have hname : ¬NameIsKey severalPanes wholeTree pinnedOrder severalContext := by
    rintro ⟨category, key, first, hfirst, hne⟩
    obtain ⟨pane, -, hpane⟩ := exists_head hne
    have hdisjoint : ∀ place ∈ severalPlaces, ∀ entry ∈ severalNames, place.2 ≠ entry.2 := by decide
    exact hdisjoint _ (several_scope hpane).1 _
      (several_scope (remaining_subset (List.mem_of_head? hfirst))).2 rfl
  refine (repository_rows_agree rfl).1.mpr
    ⟨((repository_rows_agree rfl).2.2 hname).mpr ?_, ?_⟩
  · intro _ category _ key _ pane _ _
    have hempty : severalContext.triage.contains pane.paneInstance = false :=
      Std.ExtTreeSet.contains_empty
    refine ⟨?_, rfl⟩
    rw [inTriage, hempty]
    rfl
  · have hparsed : storedCategory "work" = some "work" := by decide
    have hposition (category : String) (key : RepoKey) :
        storedPosition severalContext category key = none := by
      rw [storedPosition]
      cases storedCategory category with
      | none => rfl
      | some name =>
        have hnone : severalContext.categoryState.repoOrder[name]? = none :=
          Std.ExtTreeMap.getElem?_empty
        rw [Option.bind_some, hnone]
        rfl
    have hinj : ∀ entry ∈ severalNames, ∀ entry' ∈ severalNames, entry.1 = entry'.1 →
        entry.2 = entry'.2 := by decide
    constructor
    · intro f g category left right _ h _ _ _
      have hsame {key : RepoKey}
          (hf : key ∈ leftKeys severalPanes (atFilter wholeTree f) pinnedOrder severalContext category)
          (hg : key ∈ leftKeys severalPanes (atFilter wholeTree g) pinnedOrder severalContext category) :
          sortName severalPanes (atFilter wholeTree f) pinnedOrder severalContext category key =
            sortName severalPanes (atFilter wholeTree g) pinnedOrder severalContext category key :=
        hinj _ (several_sortName hf) _ (several_sortName hg) rfl
      rw [nameOrder, nameOrder, compareLex, compareLex, compareOn, compareOn,
        hsame h.left_mem.1 h.left_mem.2, hsame h.right_mem.1 h.right_mem.2]
    · intro f g category left right _ _ _ _ _ _
      rw [hposition, hposition]
    · intro f g category left right _ _ _ hleft _ hrenamed
      obtain rfl := several_members hleft
      exact absurd hparsed hrenamed
    · intro f g category left right _ h _ hleft hright
      obtain rfl := several_members hleft
      exact absurd (several_placed (several_left h.right_mem.1).1).1 hright

end VdeTmux.Sidebar
