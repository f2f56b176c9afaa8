import VdeTmux.Category.Edits

/-!
# Moves of categories and repositories

A move exchanges two neighbours of a stored list. For categories that list starts with the
visible order, so a move agrees with what is shown, except for stored names that are not. For
repositories the unstored ones come last in it, by key, while they are shown first, by display
name.
-/

open Foundation
namespace VdeTmux.Category

open EffectiveCategoryModel

variable {config : CategoriesConfig} {state next : CategoryState}
  {repos : List RepoIdentity} {configured : List CategoryName}
  {model model' : EffectiveCategoryModel} {direction : MoveDirection}

def Neighbours {α : Type} (direction : MoveDirection) (l : List α) (value neighbor : α) : Prop :=
  match direction with
  | .up => [neighbor, value] <:+: l
  | .down => [value, neighbor] <:+: l

theorem Neighbours.mem {α : Type} {l : List α} {value neighbor : α}
    (h : Neighbours direction l value neighbor) : value ∈ l ∧ neighbor ∈ l := by
  cases direction with
  | up =>
    have h : [neighbor, value] <:+: l := h
    exact ⟨h.subset (by simp), h.subset (by simp)⟩
  | down =>
    have h : [value, neighbor] <:+: l := h
    exact ⟨h.subset (by simp), h.subset (by simp)⟩

theorem Neighbours.ne {α : Type} {l : List α} {value neighbor : α} (hl : l.Nodup)
    (h : Neighbours direction l value neighbor) : value ≠ neighbor := by
  cases direction with
  | up => exact (ne_of_infix_pair hl h).symm
  | down => exact ne_of_infix_pair hl h

section MoveRelative
variable {α : Type} [DecidableEq α] {values order : List α} {value neighbor : α}

theorem neighbours_iff_idxOf (hvalues : values.Nodup) (hvalue : value ∈ values)
    (hneighbor : neighbor ∈ values) : Neighbours direction values value neighbor ↔
      match direction with
      | .up => values.idxOf value = values.idxOf neighbor + 1
      | .down => values.idxOf neighbor = values.idxOf value + 1 := by
  cases direction with
  | up => exact infix_pair_iff_idxOf hvalues hneighbor hvalue
  | down => exact infix_pair_iff_idxOf hvalues hvalue hneighbor

theorem moveRelative_eq_ok (hvalues : values.Nodup) :
    moveRelative values value neighbor direction = .ok order ↔
      Neighbours direction values value neighbor ∧ order = exchange value neighbor values := by
  by_cases hmem : value ∈ values ∧ neighbor ∈ values
  · obtain ⟨hvalue, hneighbor⟩ := hmem
    have hlt := List.idxOf_lt_length_iff.mpr hneighbor
    have hexpected : (match direction with
        | .up => if values.idxOf value = 0 then none else some (values.idxOf value - 1)
        | .down => if values.idxOf value + 1 < values.length then some (values.idxOf value + 1)
          else none) = some (values.idxOf neighbor) ↔
        Neighbours direction values value neighbor := by
      rw [neighbours_iff_idxOf hvalues hvalue hneighbor]
      cases direction with
      | up =>
        dsimp only
        split_ifs with h
        · simp [h]
        · rw [Option.some.injEq]
          omega
      | down =>
        dsimp only
        split_ifs with h
        · rw [Option.some.injEq, eq_comm]
        · refine iff_of_false nofun ?_
          omega
    unfold moveRelative
    simp only [idxOf?_eq_ite, hvalue, hneighbor, if_true, Option.elim_some]
    constructor
    · intro h
      obtain ⟨-, h⟩ := seq_eq_ok.mp h
      obtain ⟨_, hindex, h⟩ := bind_eq_ok.mp h
      cases hindex
      obtain ⟨_, hindex, h⟩ := bind_eq_ok.mp h
      cases hindex
      obtain ⟨hadjacent, h⟩ := seq_eq_ok.mp h
      cases h
      exact ⟨hexpected.mp (not_not.mp (refuse_eq_ok.mp hadjacent)),
        swapAt_eq_exchange hvalues hvalue hneighbor⟩
    · rintro ⟨hneighbours, rfl⟩
      refine seq_eq_ok.mpr ⟨refuse_eq_ok.mpr (hneighbours.ne hvalues), ?_⟩
      refine seq_eq_ok.mpr ⟨refuse_eq_ok.mpr (not_not.mpr (hexpected.mpr hneighbours)), ?_⟩
      rw [swapAt_eq_exchange hvalues hvalue hneighbor]
      rfl
  · refine iff_of_false (fun h => hmem ?_) fun h => hmem h.1.mem
    unfold moveRelative at h
    obtain ⟨-, h⟩ := seq_eq_ok.mp h
    obtain ⟨index, hindex, h⟩ := bind_eq_ok.mp h
    obtain ⟨neighborIndex, hneighbor, -⟩ := bind_eq_ok.mp h
    rw [elim_error_eq_ok, idxOf?_eq_ite] at hindex hneighbor
    exact ⟨(Option.ite_none_right_eq_some.mp hindex).1,
      (Option.ite_none_right_eq_some.mp hneighbor).1⟩

end MoveRelative

section MoveCategory
variable {name neighbor : CategoryName}

def hiddenNames (model : EffectiveCategoryModel) (state : CategoryState) : List CategoryName :=
  state.categoryOrder.filter (· ∉ model.names)

def movedCategories (model : EffectiveCategoryModel) (state : CategoryState)
    (name neighbor : CategoryName) : CategoryState :=
  { state with
    categoryOrder := exchange name neighbor (model.names ++ hiddenNames model state) }

/-- The move exchanges the visible neighbours, or it is refused. -/
structure MoveCategoryShown (config : CategoriesConfig) (repos : List RepoIdentity)
    (model : EffectiveCategoryModel) (state : CategoryState) (name neighbor : CategoryName)
    (direction : MoveDirection) : Prop where
  swapped : Neighbours direction model.names name neighbor → ∃ next model',
    state.applyIntent config model (.moveCategory name neighbor direction) = .ok (true, next) ∧
      build config next repos = .ok model' ∧
      model'.names = exchange name neighbor model.names ∧
      ∀ other, model'.orderedRepos next other = model.orderedRepos state other
  refused : ¬Neighbours direction model.names name neighbor →
    (∃ error, state.applyIntent config model (.moveCategory name neighbor direction) =
      .error error) ∧
      state.commit (state.applyIntent config model (.moveCategory name neighbor direction)) = state

/-- The revision has room, and no hidden name stands next to the other one. -/
structure MoveCategoryKeeps (model : EffectiveCategoryModel) (state : CategoryState)
    (name neighbor : CategoryName) (direction : MoveDirection) : Prop where
  room : Neighbours direction model.names name neighbor → state.revision < maxRevision
  hidden : state.revision < maxRevision →
    name ∈ hiddenNames model state ∨ neighbor ∈ hiddenNames model state →
    ¬Neighbours direction (model.names ++ hiddenNames model state) name neighbor

theorem materializeCategoryOrder_eq (hstate : state.Valid) :
    materializeCategoryOrder state model = model.names ++ hiddenNames model state :=
  appendMissing_eq hstate.order _

theorem nodup_listed (hstate : state.Valid) (hbuilt : Built config configured state repos model) :
    (model.names ++ hiddenNames model state).Nodup := by
  rw [← materializeCategoryOrder_eq hstate]
  exact nodup_appendMissing hbuilt.nodup_names hstate.order

theorem neighbours_listed_iff (hstate : state.Valid)
    (hbuilt : Built config configured state repos model) (hname : name ∈ model.names)
    (hneighbor : neighbor ∈ model.names) :
    Neighbours direction (model.names ++ hiddenNames model state) name neighbor ↔
      Neighbours direction model.names name neighbor := by
  cases direction with
  | up => exact infix_pair_append_left (nodup_listed hstate hbuilt) hneighbor hname
  | down => exact infix_pair_append_left (nodup_listed hstate hbuilt) hname hneighbor

theorem moveCategory_eq_ok (hstate : state.Valid)
    (hbuilt : Built config configured state repos model) {changed : Bool} :
    state.applyIntent config model (.moveCategory name neighbor direction) = .ok (changed, next) ↔
      Neighbours direction (model.names ++ hiddenNames model state) name neighbor ∧
        state.revision < maxRevision ∧ changed = true ∧
        next = (movedCategories model state name neighbor).after true := by
  have hlisted := nodup_listed hstate hbuilt
  have hedit : ∀ order, moveRelative (materializeCategoryOrder state model) name neighbor direction =
      .ok order ↔ Neighbours direction (model.names ++ hiddenNames model state) name neighbor ∧
        order = exchange name neighbor (model.names ++ hiddenNames model state) := by
    intro order
    rw [materializeCategoryOrder_eq hstate]
    exact moveRelative_eq_ok hlisted
  constructor
  · intro happly
    obtain ⟨-, edited, hrun, hroom, -, rfl⟩ := applyIntent_eq_ok.mp happly
    obtain ⟨order, hmove, hrun⟩ := bind_eq_ok.mp hrun
    cases hrun
    obtain ⟨hneighbours, rfl⟩ := (hedit order).mp hmove
    exact ⟨hneighbours, hroom rfl, rfl, rfl⟩
  · rintro ⟨hneighbours, hroom, rfl, rfl⟩
    refine applyIntent_eq_ok.mpr ⟨⟨_, hbuilt.configured_eq⟩, _, bind_eq_ok.mpr
      ⟨_, (hedit _).mpr ⟨hneighbours, rfl⟩, rfl⟩, fun _ => hroom, ?_, rfl⟩
    exact ⟨hstate.schema, hlisted.map (Equiv.swap name neighbor).injective, hstate.repoOrder,
      hstate.dynamic, hstate.overrides⟩

theorem names_moved (hstate : state.Valid) (hbuilt : Built config configured state repos model)
    (hbuilt' : Built config configured ((movedCategories model state name neighbor).after true)
      repos model') (hname : name ∈ model.names) (hneighbor : neighbor ∈ model.names) :
    model'.names = exchange name neighbor model.names := by
  have hlisted := nodup_listed hstate hbuilt
  have horder : (exchange name neighbor (model.names ++ hiddenNames model state)).Nodup :=
    hlisted.map (Equiv.swap name neighbor).injective
  have hcontains : ∀ other : CategoryName,
      (effectiveNames configured state).contains other = decide (other ∈ model.names) := by
    intro other
    rw [Bool.eq_iff_iff, decide_eq_true_iff, hbuilt.mem_names]
    exact Std.ExtTreeSet.contains_iff_mem
  have hstored : (exchange name neighbor (model.names ++ hiddenNames model state)).filter
      (fun other => (effectiveNames configured state).contains other) =
      exchange name neighbor model.names := by
    rw [exchange_filter (by simp [hcontains, hname, hneighbor])]
    congr 1
    simp [hcontains, hiddenNames]
  have hrest : (sortBy (baseOrder config) (effectiveNames configured state).toList).filter
      (· ∉ exchange name neighbor (model.names ++ hiddenNames model state)) = [] := by
    refine List.filter_eq_nil_iff.mpr fun other hother => ?_
    have hshown := hbuilt.mem_names.mpr (Std.ExtTreeSet.mem_toList.mp (mem_sortBy.mp hother))
    have hmem := (exchange_perm hlisted (List.mem_append_left _ hname)
      (List.mem_append_left _ hneighbor)).mem_iff.mpr (List.mem_append_left _ hshown)
    rw [decide_eq_true_iff]
    exact not_not.mpr hmem
  have hnames := hbuilt'.names_eq_append horder
  exact hnames.trans ((congrArg₂ (· ++ ·) hstored hrest).trans (List.append_nil _))

theorem moveCategoryShown_iff (hstate : state.Valid)
    (hbuilt : Built config configured state repos model) :
    MoveCategoryShown config repos model state name neighbor direction ↔
      MoveCategoryKeeps model state name neighbor direction := by
  have hlisted := nodup_listed hstate hbuilt
  have happend : Neighbours direction model.names name neighbor →
      Neighbours direction (model.names ++ hiddenNames model state) name neighbor := fun h =>
    (neighbours_listed_iff hstate hbuilt h.mem.1 h.mem.2).mpr h
  constructor
  · intro hshown
    refine ⟨fun hneighbours => ?_, fun hroom hhidden hneighbours => ?_⟩
    · obtain ⟨next, -, happly, -⟩ := hshown.swapped hneighbours
      exact ((moveCategory_eq_ok hstate hbuilt).mp happly).2.1
    · have hnot : ¬Neighbours direction model.names name neighbor := by
        intro h
        rcases hhidden with hmem | hmem
        · simpa [h.mem.1] using (List.mem_filter.mp hmem).2
        · simpa [h.mem.2] using (List.mem_filter.mp hmem).2
      obtain ⟨⟨error, herror⟩, -⟩ := hshown.refused hnot
      have happly := (moveCategory_eq_ok hstate hbuilt).mpr ⟨hneighbours, hroom, rfl, rfl⟩
      cases herror.symm.trans happly
  · intro hkeeps
    refine ⟨fun hneighbours => ?_, fun hnot => ?_⟩
    · have happly := (moveCategory_eq_ok hstate hbuilt).mpr
        ⟨happend hneighbours, hkeeps.room hneighbours, rfl, rfl⟩
      have hnext := valid_of_applyIntent happly
      obtain ⟨model', hmodel'⟩ := build_total hnext ⟨_, hbuilt.configured_eq⟩ repos
      obtain ⟨-, configured', hbuilt'⟩ := build_ok hmodel'
      cases hbuilt'.configured_eq.symm.trans hbuilt.configured_eq
      refine ⟨_, model', happly, hmodel', ?_, fun other => ?_⟩
      · exact names_moved hstate hbuilt hbuilt' hneighbours.mem.1 hneighbours.mem.2
      · refine orderedRepos_congr (Std.ExtTreeMap.ext_getElem? fun {key} => ?_) rfl
        exact placements_of_overrides hbuilt hbuilt' rfl
    · have hfails : ∀ result, state.applyIntent config model
          (.moveCategory name neighbor direction) ≠ .ok result := by
        rintro ⟨changed, next⟩ happly
        obtain ⟨hneighbours, hroom, -, -⟩ := (moveCategory_eq_ok hstate hbuilt).mp happly
        by_cases hhidden : name ∈ hiddenNames model state ∨ neighbor ∈ hiddenNames model state
        · exact hkeeps.hidden hroom hhidden hneighbours
        · have hboth : name ∈ model.names ∧ neighbor ∈ model.names := by
            obtain ⟨hname, hneighbor⟩ := hneighbours.mem
            rw [List.mem_append] at hname hneighbor
            exact ⟨hname.resolve_right fun h => hhidden (Or.inl h),
              hneighbor.resolve_right fun h => hhidden (Or.inr h)⟩
          exact hnot ((neighbours_listed_iff hstate hbuilt hboth.1 hboth.2).mp hneighbours)
      rcases ok_or_error (state.applyIntent config model
        (.moveCategory name neighbor direction)) with ⟨result, hok⟩ | ⟨error, herror⟩
      · exact absurd hok (hfails result)
      · exact ⟨⟨error, herror⟩, by rw [herror]; rfl⟩

end MoveCategory

section MoveRepo
variable {name : CategoryName} {repo neighbor : RepoKey}

def storedRepos (state : CategoryState) (name : CategoryName) : List RepoKey :=
  state.repoOrder[name]?.getD []

def completedRepos (model : EffectiveCategoryModel) (state : CategoryState)
    (name : CategoryName) : List RepoKey :=
  storedRepos state name ++ (model.members name).filter (· ∉ storedRepos state name)

theorem nodup_storedRepos (hstate : state.Valid) (name : CategoryName) :
    (storedRepos state name).Nodup := by
  unfold storedRepos
  cases h : state.repoOrder[name]? with
  | none => exact List.nodup_nil
  | some order => exact (hstate.repoOrder name order h).2

theorem materializeRepoOrder_eq (name : CategoryName) :
    materializeRepoOrder (state.repoOrder[name]?.getD []) model name =
      completedRepos model state name :=
  appendMissing_eq (nodup_members model name) _

theorem nodup_completedRepos (hstate : state.Valid) (name : CategoryName) :
    (completedRepos model state name).Nodup := by
  rw [← materializeRepoOrder_eq]
  exact nodup_appendMissing (nodup_storedRepos hstate name) (nodup_members model name)

theorem mem_completedRepos {key : RepoKey} (h : key ∈ model.members name) :
    key ∈ completedRepos model state name := by
  rw [← materializeRepoOrder_eq]
  exact (mem_appendMissing (nodup_members model name)).mpr (Or.inr h)

theorem orderedRepos_eq (name : CategoryName) : model.orderedRepos state name =
    sortBy (model.repoOrdering (some (storedRepos state name))) (model.members name) := by
  unfold orderedRepos storedRepos
  cases state.repoOrder[name]? with
  | none => rfl
  | some order => rfl

theorem repoOrdering_of_not_mem {stored : List RepoKey} {a b : RepoKey} (ha : a ∉ stored)
    (hb : b ∉ stored) : model.repoOrdering (some stored) a b = model.repoOrdering none a b := by
  simp [repoOrdering, compareLex, compareOn, idxOf?_eq_ite, ha, hb]

theorem repoOrdering_stored_lt {stored : List RepoKey} {a b : RepoKey} (hb : b ∈ stored)
    (h : a ∈ stored → stored.idxOf a < stored.idxOf b) :
    model.repoOrdering (some stored) a b = .lt := by
  have hlt : compare (stored.idxOf? a) (stored.idxOf? b) = .lt := by
    rw [idxOf?_eq_ite, idxOf?_eq_ite, if_pos hb]
    by_cases ha : a ∈ stored
    · rw [if_pos ha]
      exact Nat.compare_eq_lt.mpr (h ha)
    · rw [if_neg ha]
      rfl
  exact compareLex_eq_lt.mpr (Or.inl hlt)

theorem sortBy_stored {stored members : List RepoKey} (hstored : stored.Nodup)
    (hmembers : members.Nodup) :
    sortBy (model.repoOrdering (some stored)) members =
      sortBy (model.repoOrdering none) (members.filter (· ∉ stored)) ++
        stored.filter (· ∈ members) := by
  have hunstored : ∀ {key}, key ∈ sortBy (model.repoOrdering none) (members.filter (· ∉ stored)) ↔
      key ∈ members ∧ key ∉ stored := by
    intro key
    simp
  refine (eq_sortBy ?_ ?_).symm
  · refine (List.perm_ext_iff_of_nodup ?_ hmembers).mpr fun key => ?_
    · refine List.nodup_append.mpr ⟨nodup_sortBy.mpr (hmembers.filter _), hstored.filter _, ?_⟩
      rintro a ha b hb rfl
      exact (hunstored.mp ha).2 (List.mem_filter.mp hb).1
    · rw [List.mem_append, hunstored, List.mem_filter, decide_eq_true_iff]
      tauto
  · refine List.pairwise_append.mpr ⟨?_, ?_, ?_⟩
    · have hsorted : (sortBy (model.repoOrdering none) (members.filter (· ∉ stored))).Pairwise
          fun a b => (model.repoOrdering none a b).isLE := sortBy_pairwise _
      refine hsorted.imp_of_mem fun {a b} ha hb hab => ?_
      rw [repoOrdering_of_not_mem (hunstored.mp ha).2 (hunstored.mp hb).2]
      exact hab
    · refine List.Pairwise.filter _ (List.pairwise_iff_getElem.mpr fun i j hi hj hij => ?_)
      refine Ordering.isLE_of_eq_lt (repoOrdering_stored_lt (List.getElem_mem hj) fun _ => ?_)
      rwa [hstored.idxOf_getElem, hstored.idxOf_getElem]
    · intro a ha b hb
      exact Ordering.isLE_of_eq_lt (repoOrdering_stored_lt (List.mem_filter.mp hb).1
        fun h => absurd h (hunstored.mp ha).2)

/-- What is shown and what a move works on have the same order: all repositories of the category
are stored, or none is and their keys are in the order of their display names. -/
def InStep (model : EffectiveCategoryModel) (state : CategoryState) (name : CategoryName) : Prop :=
  (∀ key ∈ model.members name, key ∈ storedRepos state name) ∨
    (∀ key ∈ model.members name, key ∉ storedRepos state name) ∧
      (model.members name).Pairwise fun a b =>
        (compare (model.displayName a) (model.displayName b)).isLE

theorem members_sorted (model : EffectiveCategoryModel) (name : CategoryName) :
    (model.members name).Pairwise fun a b => (compare a b).isLE := by
  refine List.pairwise_map.mpr ((Std.ExtTreeMap.ordered_keys_toList.filter _).imp ?_)
  exact fun h => Ordering.isLE_of_eq_lt h

theorem sortBy_none_eq_self_iff {members : List RepoKey}
    (hmembers : members.Pairwise fun a b => (compare a b).isLE) :
    sortBy (model.repoOrdering none) members = members ↔ members.Pairwise fun a b =>
      (compare (model.displayName a) (model.displayName b)).isLE := by
  constructor
  · intro h
    rw [← h]
    have hsorted : (sortBy (model.repoOrdering none) members).Pairwise
        fun a b => (model.repoOrdering none a b).isLE := sortBy_pairwise _
    refine hsorted.imp fun {a b} hab => ?_
    have hrest : (compareLex (compareOn model.displayName) compare a b).isLE := hab
    exact Ordering.isLE_left_of_isLE_then hrest
  · intro h
    refine sortBy_eq_self ((h.and hmembers).imp ?_)
    rintro a b ⟨hdisplay, hkey⟩
    have hrest : (compareLex (compareOn model.displayName) compare a b).isLE :=
      Ordering.isLE_then_iff_and.mpr ⟨hdisplay, Or.inr hkey⟩
    exact hrest

theorem completed_inStep_iff (hstate : state.Valid) (name : CategoryName) :
    (completedRepos model state name).filter (· ∈ model.members name) =
      model.orderedRepos state name ↔ InStep model state name := by
  have hmembers := nodup_members model name
  have hcompleted : (completedRepos model state name).filter (· ∈ model.members name) =
      (storedRepos state name).filter (· ∈ model.members name) ++
        (model.members name).filter (· ∉ storedRepos state name) := by
    rw [completedRepos, List.filter_append]
    congr 1
    rw [List.filter_filter]
    exact List.filter_congr fun key hkey => by simp [hkey]
  rw [hcompleted, orderedRepos_eq, sortBy_stored (nodup_storedRepos hstate name) hmembers]
  unfold InStep
  by_cases hall : ∀ key ∈ model.members name, key ∈ storedRepos state name
  · have hnone : (model.members name).filter (· ∉ storedRepos state name) = [] :=
      List.filter_eq_nil_iff.mpr fun key hkey => by simpa using hall key hkey
    rw [hnone]
    exact iff_of_true (by simp [sortBy]) (Or.inl hall)
  · by_cases hno : ∀ key ∈ model.members name, key ∉ storedRepos state name
    · have hfilter : (model.members name).filter (· ∉ storedRepos state name) =
          model.members name := List.filter_eq_self.mpr fun key hkey => by simpa using hno key hkey
      have hnone : (storedRepos state name).filter (· ∈ model.members name) = [] :=
        List.filter_eq_nil_iff.mpr fun key hkey => by simpa using fun h => hno key h hkey
      rw [hfilter, hnone, List.nil_append, List.append_nil, eq_comm,
        sortBy_none_eq_self_iff (members_sorted model name)]
      exact ⟨fun h => Or.inr ⟨hno, h⟩, fun h => (h.resolve_left hall).2⟩
    · -- an unstored repository is shown first, a stored one moved first
      refine iff_of_false (fun heq => ?_) fun h => h.elim hall fun h => hno h.1
      obtain ⟨unstored, hunstored, hnot⟩ : ∃ key ∈ model.members name,
        key ∉ storedRepos state name := by simpa using hall
      obtain ⟨stored, hstored, hmem⟩ : ∃ key ∈ model.members name,
        key ∈ storedRepos state name := by simpa using hno
      have hfirst : stored ∈ (storedRepos state name).filter (· ∈ model.members name) :=
        List.mem_filter.mpr ⟨hmem, by simpa using hstored⟩
      have hsecond : unstored ∈ sortBy (model.repoOrdering none)
          ((model.members name).filter (· ∉ storedRepos state name)) :=
        mem_sortBy.mpr (List.mem_filter.mpr ⟨hunstored, by simpa using hnot⟩)
      obtain ⟨a, front, hfront⟩ := List.exists_cons_of_ne_nil (List.ne_nil_of_mem hfirst)
      obtain ⟨b, back, hback⟩ := List.exists_cons_of_ne_nil (List.ne_nil_of_mem hsecond)
      rw [hfront, hback, List.cons_append, List.cons_append] at heq
      have ha : a ∈ (storedRepos state name).filter (· ∈ model.members name) := by
        rw [hfront]
        exact List.mem_cons_self
      have hb : b ∈ sortBy (model.repoOrdering none)
          ((model.members name).filter (· ∉ storedRepos state name)) := by
        rw [hback]
        exact List.mem_cons_self
      have hb' := (List.mem_filter.mp (mem_sortBy.mp hb)).2
      rw [← (List.cons.inj heq).1] at hb'
      exact absurd (List.mem_filter.mp ha).1 (by simpa using hb')

def movedRepos (model : EffectiveCategoryModel) (state : CategoryState) (name : CategoryName)
    (repo neighbor : RepoKey) : CategoryState :=
  { state with
    repoOrder :=
      state.repoOrder.insert name (exchange repo neighbor (completedRepos model state name)) }

/-- The move exchanges the visible neighbours of the category, or it is refused. -/
structure MoveRepoShown (config : CategoriesConfig) (repos : List RepoIdentity)
    (model : EffectiveCategoryModel) (state : CategoryState) (repo neighbor : RepoKey)
    (name : CategoryName) (direction : MoveDirection) : Prop where
  swapped : Neighbours direction (model.orderedRepos state name) repo neighbor → ∃ next model',
    state.applyIntent config model (.moveRepo repo neighbor name direction) = .ok (true, next) ∧
      build config next repos = .ok model' ∧ model'.names = model.names ∧
      model'.orderedRepos next name = exchange repo neighbor (model.orderedRepos state name) ∧
      ∀ other ≠ name, model'.orderedRepos next other = model.orderedRepos state other
  refused : ¬Neighbours direction (model.orderedRepos state name) repo neighbor →
    (∃ error, state.applyIntent config model (.moveRepo repo neighbor name direction) =
      .error error) ∧
      state.commit (state.applyIntent config model (.moveRepo repo neighbor name direction)) = state

/-- The revision has room, and what is shown agrees with the list the move works on. -/
structure MoveRepoKeeps (model : EffectiveCategoryModel) (state : CategoryState)
    (repo neighbor : RepoKey) (name : CategoryName) (direction : MoveDirection) : Prop where
  room : Neighbours direction (model.orderedRepos state name) repo neighbor →
    state.revision < maxRevision
  inStep : Neighbours direction (model.orderedRepos state name) repo neighbor →
    InStep model state name
  beside : Neighbours direction (model.orderedRepos state name) repo neighbor →
    Neighbours direction (completedRepos model state name) repo neighbor
  apart : ¬Neighbours direction (model.orderedRepos state name) repo neighbor →
    state.revision < maxRevision → repo ∈ model.members name → neighbor ∈ model.members name →
    ¬Neighbours direction (completedRepos model state name) repo neighbor

theorem moveRepo_eq_ok (hstate : state.Valid) (hbuilt : Built config configured state repos model)
    {changed : Bool} :
    state.applyIntent config model (.moveRepo repo neighbor name direction) = .ok (changed, next) ↔
      repo ∈ model.members name ∧ neighbor ∈ model.members name ∧
        Neighbours direction (completedRepos model state name) repo neighbor ∧
        state.revision < maxRevision ∧ changed = true ∧
        next = (movedRepos model state name repo neighbor).after true := by
  have hmove : ∀ order, moveRelative (materializeRepoOrder (state.repoOrder[name]?.getD []) model
      name) repo neighbor direction = .ok order ↔
      Neighbours direction (completedRepos model state name) repo neighbor ∧
        order = exchange repo neighbor (completedRepos model state name) := by
    intro order
    rw [materializeRepoOrder_eq]
    exact moveRelative_eq_ok (nodup_completedRepos hstate name)
  constructor
  · intro happly
    obtain ⟨-, edited, hrun, hroom, -, rfl⟩ := applyIntent_eq_ok.mp happly
    obtain ⟨effective, heffective, hrun⟩ := bind_eq_ok.mp hrun
    obtain ⟨neighborEffective, hneighbor, hrun⟩ := bind_eq_ok.mp hrun
    obtain ⟨hcategory, hrun⟩ := seq_eq_ok.mp hrun
    obtain ⟨order, horder, hrun⟩ := bind_eq_ok.mp hrun
    cases hrun
    obtain ⟨hneighbours, rfl⟩ := (hmove order).mp horder
    have hsame := not_or.mp (refuse_eq_ok.mp hcategory)
    exact ⟨mem_members.mpr ⟨_, elim_error_eq_ok.mp heffective, not_not.mp hsame.1⟩,
      mem_members.mpr ⟨_, elim_error_eq_ok.mp hneighbor, not_not.mp hsame.2⟩,
      hneighbours, hroom rfl, rfl, rfl⟩
  · rintro ⟨hrepo, hneighbor, hneighbours, hroom, rfl, rfl⟩
    obtain ⟨effective, heffective, hname⟩ := mem_members.mp hrepo
    obtain ⟨neighborEffective, hneighborEffective, hname'⟩ := mem_members.mp hneighbor
    have hshown : name ∈ model.names := hname ▸ hbuilt.placement_shown heffective
    refine applyIntent_eq_ok.mpr ⟨⟨_, hbuilt.configured_eq⟩,
      movedRepos model state name repo neighbor, ?_, fun _ => hroom, ?_, rfl⟩
    · refine bind_eq_ok.mpr ⟨effective, elim_error_eq_ok.mpr heffective, ?_⟩
      refine bind_eq_ok.mpr ⟨neighborEffective, elim_error_eq_ok.mpr hneighborEffective, ?_⟩
      refine seq_eq_ok.mpr ⟨refuse_eq_ok.mpr (by simp [hname, hname']), ?_⟩
      exact bind_eq_ok.mpr ⟨_, (hmove _).mpr ⟨hneighbours, rfl⟩, rfl⟩
    · refine ⟨hstate.schema, hstate.order, fun other order horder => ?_, hstate.dynamic,
        hstate.overrides⟩
      rw [movedRepos, Maps.getElem?_insert] at horder
      split_ifs at horder with hother
      · cases horder
        exact ⟨hother ▸ hbuilt.storedName hstate hshown,
          (nodup_completedRepos hstate name).map (Equiv.swap repo neighbor).injective⟩
      · exact hstate.repoOrder other order horder

theorem orderedRepos_moved (hstate : state.Valid)
    (hplacements : model'.placements = model.placements) (hrepo : repo ∈ model.members name)
    (hneighbor : neighbor ∈ model.members name) :
    model'.orderedRepos ((movedRepos model state name repo neighbor).after true) name =
      exchange repo neighbor
        ((completedRepos model state name).filter (· ∈ model.members name)) := by
  have hcompleted : (completedRepos model state name).Nodup := nodup_completedRepos hstate name
  have hperm := exchange_perm hcompleted (mem_completedRepos hrepo) (mem_completedRepos hneighbor)
  have hmembers : model'.members name = model.members name := by
    rw [members, members, hplacements]
  have hstored : storedRepos ((movedRepos model state name repo neighbor).after true) name =
      exchange repo neighbor (completedRepos model state name) := by
    have hget := Maps.getElem?_insert state.repoOrder name name
      (exchange repo neighbor (completedRepos model state name))
    rw [if_pos rfl] at hget
    exact congrArg (Option.getD · []) hget
  have hnone : (model.members name).filter
      (· ∉ exchange repo neighbor (completedRepos model state name)) = [] := by
    refine List.filter_eq_nil_iff.mpr fun key hkey => ?_
    rw [decide_eq_true_iff, not_not]
    exact hperm.mem_iff.mpr (mem_completedRepos hkey)
  rw [orderedRepos_eq, hstored, hmembers, sortBy_stored (hperm.nodup_iff.mpr hcompleted)
    (nodup_members model name), hnone, exchange_filter (by simp [hrepo, hneighbor])]
  simp [sortBy]

theorem moveRepoShown_iff (hstate : state.Valid)
    (hbuilt : Built config configured state repos model) :
    MoveRepoShown config repos model state repo neighbor name direction ↔
      MoveRepoKeeps model state repo neighbor name direction := by
  have hmember : ∀ {key}, key ∈ model.orderedRepos state name ↔ key ∈ model.members name :=
    mem_orderedRepos
  have hplacements : ∀ {model'}, build config
      ((movedRepos model state name repo neighbor).after true) repos = .ok model' →
      model'.placements = model.placements ∧ model'.names = model.names := by
    intro model' hmodel'
    obtain ⟨-, configured', hbuilt'⟩ := build_ok hmodel'
    cases hbuilt'.configured_eq.symm.trans hbuilt.configured_eq
    refine ⟨Std.ExtTreeMap.ext_getElem? fun {key} =>
      placements_of_overrides hbuilt hbuilt' rfl, ?_⟩
    rw [hbuilt'.names_eq, hbuilt.names_eq]
    rfl
  constructor
  · intro hshown
    refine ⟨fun h => ?_, fun h => ?_, fun h => ?_, fun hnot hroom hrepo hneighbor h => ?_⟩
    · obtain ⟨next, -, happly, -⟩ := hshown.swapped h
      exact ((moveRepo_eq_ok hstate hbuilt).mp happly).2.2.2.1
    · obtain ⟨next, model', happly, hmodel', -, hordered, -⟩ := hshown.swapped h
      obtain ⟨hrepo, hneighbor, -, -, -, rfl⟩ := (moveRepo_eq_ok hstate hbuilt).mp happly
      rw [orderedRepos_moved hstate (hplacements hmodel').1 hrepo hneighbor] at hordered
      exact (completed_inStep_iff hstate name).mp (exchange_injective repo neighbor hordered)
    · obtain ⟨next, -, happly, -⟩ := hshown.swapped h
      exact ((moveRepo_eq_ok hstate hbuilt).mp happly).2.2.1
    · obtain ⟨⟨error, herror⟩, -⟩ := hshown.refused hnot
      have happly := (moveRepo_eq_ok hstate hbuilt).mpr ⟨hrepo, hneighbor, h, hroom, rfl, rfl⟩
      cases herror.symm.trans happly
  · intro hkeeps
    refine ⟨fun h => ?_, fun hnot => ?_⟩
    · have hrepo := hmember.mp h.mem.1
      have hneighbor := hmember.mp h.mem.2
      have happly := (moveRepo_eq_ok hstate hbuilt).mpr
        ⟨hrepo, hneighbor, hkeeps.beside h, hkeeps.room h, rfl, rfl⟩
      obtain ⟨model', hmodel'⟩ := build_total (valid_of_applyIntent happly)
        ⟨_, hbuilt.configured_eq⟩ repos
      obtain ⟨hsame, hnames⟩ := hplacements hmodel'
      refine ⟨_, model', happly, hmodel', hnames, ?_, fun other hother => ?_⟩
      · rw [orderedRepos_moved hstate hsame hrepo hneighbor,
          (completed_inStep_iff hstate name).mpr (hkeeps.inStep h)]
      · refine orderedRepos_congr hsame ?_
        exact (Maps.getElem?_insert _ _ _ _).trans (if_neg hother)
    · have hfails : ∀ result, state.applyIntent config model
          (.moveRepo repo neighbor name direction) ≠ .ok result := by
        rintro ⟨changed, next⟩ happly
        obtain ⟨hrepo, hneighbor, h, hroom, -, -⟩ := (moveRepo_eq_ok hstate hbuilt).mp happly
        exact hkeeps.apart hnot hroom hrepo hneighbor h
      rcases ok_or_error (state.applyIntent config model
        (.moveRepo repo neighbor name direction)) with ⟨result, hok⟩ | ⟨error, herror⟩
      · exact absurd hok (hfails result)
      · exact ⟨⟨error, herror⟩, by rw [herror]; rfl⟩

end MoveRepo

theorem moves_swap {past : List (CategoryState × Edit)} (hrun : Trace Edit.Step {} past state)
    (hconfig : config.Valid) (repos : List RepoIdentity) :
    ∃ model, build config state repos = .ok model ∧
      (∀ name neighbor direction,
        MoveCategoryShown config repos model state name neighbor direction ↔
          MoveCategoryKeeps model state name neighbor direction) ∧
      ∀ repo neighbor name direction,
        MoveRepoShown config repos model state repo neighbor name direction ↔
          MoveRepoKeeps model state repo neighbor name direction := by
  have hstate := reachable_valid hrun
  obtain ⟨model, hmodel⟩ := build_total hstate hconfig repos
  obtain ⟨-, configured, hbuilt⟩ := build_ok hmodel
  exact ⟨model, hmodel, fun _ _ _ => moveCategoryShown_iff hstate hbuilt,
    fun _ _ _ _ => moveRepoShown_iff hstate hbuilt⟩

namespace Assigned

def shownRepos : List RepoIdentity := [⟨"path:a", "/a", "a"⟩, ⟨"path:b", "/b", "b"⟩]

def assigned : CategoryState where
  revision := 1
  repoOverrides := (∅ : Std.ExtTreeMap RepoKey CategoryName).insert "path:a" uncategorized
  repoOrder := (∅ : Std.ExtTreeMap CategoryName (List RepoKey)).insert uncategorized ["path:a"]

theorem valid_empty : ({} : CategoriesConfig).Valid := ⟨_, Forgotten.configured_empty⟩

theorem assigned_step : Edit.Step {} ⟨{}, shownRepos, .assignRepo "path:a" uncategorized⟩ assigned := by
  obtain ⟨model, hmodel⟩ := build_total valid_default valid_empty shownRepos
  obtain ⟨-, configured, hbuilt⟩ := build_ok hmodel
  have hshown : uncategorized ∈ model.names :=
    hbuilt.mem_names.mpr (mem_effectiveNames.mpr (Or.inr (Or.inr (Or.inr rfl))))
  have hsome : model.category uncategorized ≠ none := fun h => category_eq_none_iff.mp h hshown
  have hedit : (CategoryIntent.assignRepo "path:a" uncategorized).edit {} model {} =
      .ok (true, { assigned with revision := 0 }) := by
    refine seq_eq_ok.mpr ⟨refuse_eq_ok.mpr hsome, ?_⟩
    have hprune : ∀ f : CategoryName → List RepoKey → List RepoKey,
        (∅ : Std.ExtTreeMap CategoryName (List RepoKey)).map f = ∅ := Maps.map_empty
    simp only [moveRepoToCategoryEnd, hprune]
    rfl
  refine ⟨model, true, hmodel, applyIntent_eq_ok.mpr
    ⟨valid_empty, _, hedit, fun _ => by decide, ?_, rfl⟩⟩
  have hstored : StoredName uncategorized := if_pos rfl
  refine ⟨rfl, List.nodup_nil, ?_, valid_default.dynamic, ?_⟩
  · intro category order horder
    simp only [assigned, Maps.getElem?_insert] at horder
    split_ifs at horder with h
    · cases horder
      exact ⟨h ▸ hstored, List.nodup_singleton _⟩
    · simp at horder
  · intro key category hkey
    simp only [assigned, Maps.getElem?_insert] at hkey
    split_ifs at hkey
    · cases hkey
      exact hstored
    · simp at hkey

theorem moves_swap_assigned : ∃ model, build {} assigned shownRepos = .ok model ∧
    (∀ name neighbor direction,
      MoveCategoryShown {} shownRepos model assigned name neighbor direction ↔
        MoveCategoryKeeps model assigned name neighbor direction) ∧
    ∀ repo neighbor name direction,
      MoveRepoShown {} shownRepos model assigned repo neighbor name direction ↔
        MoveRepoKeeps model assigned repo neighbor name direction :=
  moves_swap (Trace.nil.snoc assigned_step) valid_empty shownRepos

/-- The second repository is shown first, and cannot be moved down. -/
theorem move_refused : ∃ past model, Trace Edit.Step {} past assigned ∧
    build {} assigned shownRepos = .ok model ∧
    model.orderedRepos assigned uncategorized = ["path:b", "path:a"] ∧
    ¬MoveRepoShown {} shownRepos model assigned "path:b" "path:a" uncategorized .down := by
  have hrun := Trace.nil.snoc assigned_step
  have hstate := reachable_valid hrun
  obtain ⟨model, hmodel⟩ := build_total hstate valid_empty shownRepos
  obtain ⟨-, configured, hbuilt⟩ := build_ok hmodel
  have hfirst : model.placements["path:a"]? = some ⟨⟨"path:a", "/a", "a"⟩, uncategorized, true⟩ :=
    (hbuilt.placements _).trans (placementOf_override rfl (by decide +kernel))
  have hsecond : model.placements["path:b"]? = some ⟨⟨"path:b", "/b", "b"⟩, uncategorized, false⟩ :=
    (hbuilt.placements _).trans (placementOf_automatic rfl (by decide +kernel) rfl)
  have hmembers : ∀ key : RepoKey, key ∈ model.members uncategorized ↔
      key = "path:a" ∨ key = "path:b" := by
    intro key
    rw [mem_members]
    constructor
    · rintro ⟨placement, hplaced, -⟩
      rw [hbuilt.placements, placementOf, Option.bind_eq_some_iff] at hplaced
      obtain ⟨repo, hlatest, -⟩ := hplaced
      have hmem := List.mem_reverse.mp (List.mem_of_find?_eq_some hlatest)
      rw [← key_of_latest hlatest]
      rcases List.mem_cons.mp hmem with rfl | hmem
      · exact Or.inl rfl
      · obtain rfl := List.mem_singleton.mp hmem
        exact Or.inr rfl
    · rintro (rfl | rfl)
      · exact ⟨_, hfirst, rfl⟩
      · exact ⟨_, hsecond, rfl⟩
  have hstored : storedRepos assigned uncategorized = ["path:a"] := by decide +kernel
  have hunstored : ((model.members uncategorized).filter (· ∉ ["path:a"])).Perm ["path:b"] := by
    refine (List.perm_ext_iff_of_nodup ((nodup_members _ _).filter _)
      (List.nodup_singleton _)).mpr fun key => ?_
    rw [List.mem_filter, hmembers, decide_eq_true_iff, List.mem_singleton, List.mem_singleton]
    constructor
    · exact fun h => h.1.resolve_left h.2
    · rintro rfl
      exact ⟨Or.inr rfl, by decide⟩
  have hordered : model.orderedRepos assigned uncategorized = ["path:b", "path:a"] := by
    rw [orderedRepos_eq, hstored, sortBy_stored (List.nodup_singleton _) (nodup_members _ _),
      sortBy_congr hunstored]
    simp [sortBy, hmembers]
  refine ⟨_, model, hrun, hmodel, hordered, ?_⟩
  rw [moveRepoShown_iff hstate hbuilt]
  intro hkeeps
  have hneighbours : Neighbours .down (model.orderedRepos assigned uncategorized)
      "path:b" "path:a" := by
    rw [hordered]
    exact List.infix_rfl
  rcases hkeeps.inStep hneighbours with hall | ⟨hnone, -⟩
  · have hmem := hall "path:b" ((hmembers _).mpr (Or.inr rfl))
    simp [hstored] at hmem
  · have hnot := hnone "path:a" ((hmembers _).mpr (Or.inl rfl))
    simp [hstored] at hnot

end Assigned

end VdeTmux.Category
