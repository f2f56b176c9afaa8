import VdeTmux.Category.Effective
import VdeTmux.Foundation.Trace

/-!
# Edits of the categories

What each intent does to the stored state and to the model rebuilt from it, over every history of
edits under changing configurations and repositories. A stored order may still hold a name that
no model shows; creating that name again, or renaming a stored category to it, is then refused.
-/

open Foundation
namespace VdeTmux.Category

open EffectiveCategoryModel

variable {config : CategoriesConfig} {state edited next : CategoryState}
  {repos : List RepoIdentity} {configured : List CategoryName}
  {model model' : EffectiveCategoryModel} {intent : CategoryIntent} {changed : Bool}

/-! What a successful intent leaves. -/

def CategoryState.after (edited : CategoryState) (changed : Bool) : CategoryState :=
  { edited with revision := edited.revision + changed.toNat }

theorem bump_eq_ok : edited.bump changed = .ok next ↔
    (changed = true → edited.revision < maxRevision) ∧ next = edited.after changed := by
  unfold CategoryState.bump
  cases changed with
  | false =>
    constructor
    · intro h
      cases h
      exact ⟨nofun, rfl⟩
    · rintro ⟨-, rfl⟩
      rfl
  | true =>
    by_cases h : edited.revision < maxRevision
    · simp [increment_of_lt h, Except.map, h, eq_comm, CategoryState.after]
    · simp [increment_of_le (Nat.not_lt.mp h), Except.map, h]

theorem valid_after : (edited.after changed).Valid ↔ edited.Valid :=
  ⟨fun h => ⟨h.schema, h.order, h.repoOrder, h.dynamic, h.overrides⟩,
    fun h => ⟨h.schema, h.order, h.repoOrder, h.dynamic, h.overrides⟩⟩

theorem applyIntent_eq_ok :
    state.applyIntent config model intent = .ok (changed, next) ↔
      config.Valid ∧ ∃ edited, intent.edit config model state = .ok (changed, edited) ∧
        (changed = true → edited.revision < maxRevision) ∧ edited.Valid ∧
        next = edited.after changed := by
  constructor
  · intro h
    obtain ⟨configured, hconfigured, h⟩ := bind_eq_ok.mp h
    obtain ⟨⟨changed', edited⟩, hedit, h⟩ := bind_eq_ok.mp h
    obtain ⟨next', hbump, h⟩ := bind_eq_ok.mp h
    obtain ⟨hvalid, h⟩ := seq_eq_ok.mp h
    obtain ⟨-, h⟩ := seq_eq_ok.mp h
    cases h
    obtain ⟨hroom, rfl⟩ := bump_eq_ok.mp hbump
    exact ⟨⟨configured, hconfigured⟩, edited, hedit, hroom,
      valid_after.mp (validate_eq_ok.mp hvalid), rfl⟩
  · rintro ⟨⟨configured, hconfigured⟩, edited, hedit, hroom, hvalid, rfl⟩
    refine bind_eq_ok.mpr ⟨configured, hconfigured, bind_eq_ok.mpr ⟨_, hedit, ?_⟩⟩
    refine bind_eq_ok.mpr ⟨_, bump_eq_ok.mpr ⟨hroom, rfl⟩, ?_⟩
    refine seq_eq_ok.mpr ⟨validate_eq_ok.mpr (valid_after.mpr hvalid), ?_⟩
    refine seq_eq_ok.mpr ⟨forM_eq_ok.mpr fun name hname => ?_, rfl⟩
    exact storedName_of_configured hconfigured hname

theorem getElem?_moveRepoToCategoryEnd (state : CategoryState) (repo : RepoKey)
    (previous : Option CategoryName) (category name : CategoryName) :
    (moveRepoToCategoryEnd state repo previous category).repoOrder[name]? =
      if name = category then
        some (((state.repoOrder[category]?.getD []).filter (· ≠ repo)) ++ [repo])
      else state.repoOrder[name]?.map fun repos =>
        if previous.all (name = ·) then repos.filter (· ≠ repo) else repos := by
  simp only [moveRepoToCategoryEnd, Maps.getElem?_insert, Std.ExtTreeMap.getElem?_map]
  by_cases h : name = category
  · rw [if_pos h, if_pos h]
    cases state.repoOrder[category]? with
    | none => simp
    | some repos => simp
  · rw [if_neg h, if_neg h]
    simp only [h, or_false]

def MembershipTarget.override : MembershipTarget → Option CategoryName
  | .category name => some name
  | .automatic => none

theorem releaseRepo_overrides {target : MembershipTarget} {repo : RepoKey}
    (h : releaseRepo config model target state repo = .ok next) (key : RepoKey) :
    next.repoOverrides[key]? =
      if key = repo then target.override else state.repoOverrides[key]? := by
  unfold releaseRepo at h
  cases target with
  | category name =>
    cases h
    exact Maps.getElem?_insert _ _ _ _
  | automatic =>
    dsimp only at h
    split at h
    · cases h
      exact Maps.getElem?_erase _ _ _
    · obtain ⟨⟨automatic, explicit⟩, -, hmove⟩ := bind_eq_ok.mp h
      cases hmove
      exact Maps.getElem?_erase _ _ _

theorem release_overrides {target : MembershipTarget} {affected : List RepoKey}
    (h : affected.foldlM (releaseRepo config model target) state = .ok next) (key : RepoKey) :
    next.repoOverrides[key]? =
      if key ∈ affected then target.override else state.repoOverrides[key]? := by
  induction affected generalizing state with
  | nil =>
    cases h
    simp
  | cons repo affected ih =>
    rw [List.foldlM_cons] at h
    obtain ⟨middle, hmiddle, h⟩ := bind_eq_ok.mp h
    rw [ih h, releaseRepo_overrides hmiddle]
    by_cases hmem : key ∈ affected
    · simp [hmem]
    · simp [hmem]

theorem release_dynamic {target : MembershipTarget} {affected : List RepoKey}
    (h : affected.foldlM (releaseRepo config model target) state = .ok next) :
    next.dynamicCategories = state.dynamicCategories ∧ next.revision = state.revision := by
  refine foldlM_invariant (fun s => s.dynamicCategories = state.dynamicCategories ∧
    s.revision = state.revision) h ⟨rfl, rfl⟩ ?_
  intro repo _ s s' hs hstep
  unfold releaseRepo at hstep
  cases target with
  | category name =>
    cases hstep
    exact hs
  | automatic =>
    dsimp only at hstep
    split at hstep
    · cases hstep
      exact hs
    · obtain ⟨⟨automatic, explicit⟩, -, hmove⟩ := bind_eq_ok.mp hstep
      cases hmove
      exact hs

theorem edit_revision (h : intent.edit config model state = .ok (changed, edited)) :
    edited.revision = state.revision := by
  cases intent with
  | createCategory name =>
    obtain ⟨-, h⟩ := seq_eq_ok.mp h
    obtain ⟨-, h⟩ := seq_eq_ok.mp h
    cases h
    rfl
  | renameCategory current replacement =>
    obtain ⟨-, h⟩ := seq_eq_ok.mp h
    obtain ⟨-, h⟩ := seq_eq_ok.mp h
    split_ifs at h
    · cases h
      rfl
    · obtain ⟨-, h⟩ := seq_eq_ok.mp h
      cases h
      rfl
  | deleteCategory category replacement =>
    obtain ⟨-, h⟩ := seq_eq_ok.mp h
    obtain ⟨-, h⟩ := seq_eq_ok.mp h
    obtain ⟨deleted, hdeleted, h⟩ := bind_eq_ok.mp h
    cases h
    exact (release_dynamic hdeleted).2
  | assignRepo repo category =>
    obtain ⟨-, h⟩ := seq_eq_ok.mp h
    cases h
    rfl
  | setRepoAutomatic repo =>
    simp only [CategoryIntent.edit] at h
    split at h
    · cases h
      rfl
    · cases h
      rfl
  | moveCategory category neighbor direction =>
    obtain ⟨order, -, h⟩ := bind_eq_ok.mp h
    cases h
    rfl
  | moveRepo repo neighbor category direction =>
    obtain ⟨effective, -, h⟩ := bind_eq_ok.mp h
    obtain ⟨neighborEffective, -, h⟩ := bind_eq_ok.mp h
    obtain ⟨-, h⟩ := seq_eq_ok.mp h
    obtain ⟨order, -, h⟩ := bind_eq_ok.mp h
    cases h
    rfl

/-! Creation. -/

/-- The category is created, and shown afterwards. -/
def CreateShown (config : CategoriesConfig) (repos : List RepoIdentity)
    (model : EffectiveCategoryModel) (state : CategoryState) (name : CategoryName) : Prop :=
  ∃ next model', state.applyIntent config model (.createCategory name) = .ok (true, next) ∧
    build config next repos = .ok model' ∧ name ∈ model'.names

theorem created_valid_iff {name : CategoryName} (hstate : state.Valid) (hname : StoredName name) :
    ({ state with
      dynamicCategories := state.dynamicCategories.insert name
      categoryOrder := state.categoryOrder ++ [name] } : CategoryState).Valid ↔
      name ∉ state.categoryOrder := by
  constructor
  · intro h hmem
    have hnodup : (state.categoryOrder ++ [name]).Nodup := h.order
    exact (List.nodup_append.mp hnodup).2.2 name hmem name List.mem_cons_self rfl
  · intro h
    refine ⟨hstate.schema, ?_, hstate.repoOrder, ?_, hstate.overrides⟩
    · refine List.nodup_append.mpr ⟨hstate.order, List.nodup_singleton name, ?_⟩
      rintro a ha b hb rfl
      exact h (List.mem_singleton.mp hb ▸ ha)
    · intro category hcategory
      rcases Std.ExtTreeSet.mem_insert.mp hcategory with heq | hmem
      · rw [← Std.LawfulEqCmp.compare_eq_iff_eq.mp heq]
        exact hname
      · exact hstate.dynamic category hmem

theorem createShown_iff (hstate : state.Valid) (hconfig : config.Valid) {name : CategoryName}
    (hname : ∃ parsed, CategoryName.parse name = .ok parsed) (hnew : name ∉ model.names) :
    CreateShown config repos model state name ↔
      name ∉ state.categoryOrder ∧ state.revision < maxRevision := by
  have hmutable := validateMutableName_eq_ok.mpr hname
  have hstored := storedName_of_mutable hmutable
  constructor
  · rintro ⟨next, -, happly, -⟩
    obtain ⟨-, edited, hedit, hroom, hvalid, -⟩ := applyIntent_eq_ok.mp happly
    rw [edit_revision hedit] at hroom
    obtain ⟨-, hedit⟩ := seq_eq_ok.mp hedit
    obtain ⟨-, hedit⟩ := seq_eq_ok.mp hedit
    cases hedit
    exact ⟨(created_valid_iff hstate hstored).mp hvalid, hroom rfl⟩
  · rintro ⟨horder, hroom⟩
    have hvalid := (created_valid_iff hstate hstored).mpr horder
    have hedit : (CategoryIntent.createCategory name).edit config model state = .ok (true, _) :=
      seq_eq_ok.mpr ⟨hmutable, seq_eq_ok.mpr
        ⟨refuse_eq_ok.mpr (not_not.mpr (category_eq_none_iff.mpr hnew)), rfl⟩⟩
    have happly := applyIntent_eq_ok.mpr ⟨hconfig, _, hedit, fun _ => hroom, hvalid, rfl⟩
    obtain ⟨model', hmodel'⟩ := build_total (valid_after.mpr hvalid) hconfig repos
    obtain ⟨-, configured, hbuilt⟩ := build_ok hmodel'
    refine ⟨_, model', happly, hmodel', hbuilt.mem_names.mpr (mem_effectiveNames.mpr ?_)⟩
    exact Or.inr (Or.inl Std.ExtTreeSet.mem_insert_self)

/-! Renaming. -/

section Rename
variable {current replacement : CategoryName}

theorem replaceName_of_ne {name : CategoryName} (h : name ≠ current) :
    replaceName current replacement name = name := if_neg h

@[simp] theorem replaceName_self : replaceName current replacement current = replacement :=
  if_pos rfl

theorem replaceName_eq_iff {name other : CategoryName} (hname : name ≠ replacement)
    (hother : other ≠ replacement) :
    replaceName current replacement name = replaceName current replacement other ↔
      name = other := by
  unfold replaceName
  split_ifs with h h' h'
  · simp [h, h']
  · simp [h, Ne.symm h', Ne.symm hother]
  · simp [h, h', hname]
  · rfl

theorem nodup_replace_iff {order : List CategoryName} (horder : order.Nodup)
    (hne : current ≠ replacement) :
    (order.map (replaceName current replacement)).Nodup ↔
      (current ∈ order → replacement ∉ order) := by
  rw [List.nodup_map_iff_inj_on horder]
  constructor
  · intro h hcurrent hreplacement
    refine hne (h current hcurrent replacement hreplacement ?_)
    rw [replaceName_self, replaceName_of_ne hne.symm]
  · intro h a ha b hb heq
    by_cases hcurrent : current ∈ order
    · have hnot := h hcurrent
      have hna : a ≠ replacement := fun h => hnot (h ▸ ha)
      have hnb : b ≠ replacement := fun h => hnot (h ▸ hb)
      exact (replaceName_eq_iff hna hnb).mp heq
    · have hna : a ≠ current := fun h => hcurrent (h ▸ ha)
      have hnb : b ≠ current := fun h => hcurrent (h ▸ hb)
      rwa [replaceName_of_ne hna, replaceName_of_ne hnb] at heq

theorem getElem?_replaced_overrides (key : RepoKey) :
    (replaceCategoryName state current replacement).repoOverrides[key]? =
      state.repoOverrides[key]?.map (replaceName current replacement) := by
  simp [replaceCategoryName, Std.ExtTreeMap.getElem?_map]

theorem getElem?_replaced_repoOrder (name : CategoryName) :
    (replaceCategoryName state current replacement).repoOrder[name]? =
      match state.repoOrder[current]? with
      | some order =>
        if name = replacement then some order
        else if name = current then none
        else state.repoOrder[name]?
      | none => state.repoOrder[name]? := by
  unfold replaceCategoryName
  cases state.repoOrder[current]? with
  | none => rfl
  | some order =>
    dsimp only
    rw [Maps.getElem?_insert, Maps.getElem?_erase]

theorem mem_replaced_dynamic {name : CategoryName} :
    name ∈ (replaceCategoryName state current replacement).dynamicCategories ↔
      name = replacement ∨ name ≠ current ∧ name ∈ state.dynamicCategories := by
  simp only [replaceCategoryName, Std.ExtTreeSet.mem_insert, Std.ExtTreeSet.mem_erase,
    Std.LawfulEqCmp.compare_eq_iff_eq, ne_eq, @eq_comm _ name]

theorem replaced_valid_iff (hstate : state.Valid) (hne : current ≠ replacement)
    (hstored : StoredName replacement) :
    (replaceCategoryName state current replacement).Valid ↔
      (current ∈ state.categoryOrder → replacement ∉ state.categoryOrder) := by
  rw [← nodup_replace_iff hstate.order hne]
  refine ⟨fun h => h.order, fun h => ⟨hstate.schema, h, ?_, ?_, ?_⟩⟩
  · intro name repos hrepos
    rw [getElem?_replaced_repoOrder] at hrepos
    cases hcurrent : state.repoOrder[current]? with
    | none =>
      rw [hcurrent] at hrepos
      exact hstate.repoOrder name repos hrepos
    | some order =>
      rw [hcurrent] at hrepos
      dsimp only at hrepos
      split_ifs at hrepos with hreplacement
      · cases hrepos
        exact ⟨hreplacement ▸ hstored, (hstate.repoOrder _ _ hcurrent).2⟩
      · exact hstate.repoOrder name repos hrepos
  · intro name hname
    rcases mem_replaced_dynamic.mp hname with rfl | ⟨-, hname⟩
    · exact hstored
    · exact hstate.dynamic name hname
  · intro key name hname
    rw [getElem?_replaced_overrides] at hname
    obtain ⟨old, hold, rfl⟩ := Option.map_eq_some_iff.mp hname
    unfold replaceName
    split_ifs
    · exact hstored
    · exact hstate.overrides key old hold

theorem mem_renamed_names (hbuilt : Built config configured state repos model)
    (hbuilt' : Built config configured next repos model')
    (hdynamic : next.dynamicCategories =
      (replaceCategoryName state current replacement).dynamicCategories)
    (hoverrides : next.repoOverrides =
      (replaceCategoryName state current replacement).repoOverrides)
    (hcurrent : current ∉ configured) (hsystem : current ≠ uncategorized)
    (hshown : current ∈ model.names) (hnew : replacement ∉ model.names) {name : CategoryName} :
    name ∈ model'.names ↔ name ∈ model.names.map (replaceName current replacement) := by
  have hold : name ∈ model.names.map (replaceName current replacement) ↔
      name = replacement ∨ name ≠ current ∧ name ∈ model.names := by
    rw [List.mem_map]
    constructor
    · rintro ⟨old, hmem, rfl⟩
      by_cases h : old = current
      · exact Or.inl (by rw [h, replaceName_self])
      · rw [replaceName_of_ne h]
        exact Or.inr ⟨h, hmem⟩
    · rintro (rfl | ⟨hne, hmem⟩)
      · exact ⟨current, hshown, replaceName_self⟩
      · exact ⟨name, hmem, replaceName_of_ne hne⟩
  have hoverride : (∃ key : RepoKey, next.repoOverrides[key]? = some name) ↔
      ∃ key : RepoKey, ∃ old, state.repoOverrides[key]? = some old ∧
        replaceName current replacement old = name := by
    simp only [hoverrides, getElem?_replaced_overrides, Option.map_eq_some_iff]
  rw [hold, hbuilt'.mem_names, hbuilt.mem_names, mem_effectiveNames, mem_effectiveNames,
    hdynamic, mem_replaced_dynamic, hoverride]
  constructor
  · rintro (h | (h | ⟨hne, h⟩) | ⟨key, old, hkey, rfl⟩ | rfl)
    · exact Or.inr ⟨fun heq => hcurrent (heq ▸ h), Or.inl h⟩
    · exact Or.inl h
    · exact Or.inr ⟨hne, Or.inr (Or.inl h)⟩
    · by_cases h : old = current
      · exact Or.inl (by rw [h, replaceName_self])
      · rw [replaceName_of_ne h]
        exact Or.inr ⟨h, Or.inr (Or.inr (Or.inl ⟨key, hkey⟩))⟩
    · exact Or.inr ⟨hsystem.symm, Or.inr (Or.inr (Or.inr rfl))⟩
  · rintro (h | ⟨hne, h | h | ⟨key, hkey⟩ | rfl⟩)
    · exact Or.inr (Or.inl (Or.inl h))
    · exact Or.inl h
    · exact Or.inr (Or.inl (Or.inr ⟨hne, h⟩))
    · exact Or.inr (Or.inr (Or.inl ⟨key, name, hkey, replaceName_of_ne hne⟩))
    · exact Or.inr (Or.inr (Or.inr rfl))

theorem idxOf_map_replaceName {order : List CategoryName} {name : CategoryName}
    (horder : replacement ∉ order) (hname : name ≠ replacement) :
    (order.map (replaceName current replacement)).idxOf (replaceName current replacement name) =
      order.idxOf name := by
  induction order with
  | nil => rfl
  | cons first order ih =>
    obtain ⟨hfirst, horder⟩ := not_or.mp (mt List.mem_cons.mpr horder)
    have heq := @replaceName_eq_iff current _ _ _ (Ne.symm hfirst) hname
    rw [List.map_cons, List.idxOf_cons, List.idxOf_cons, ih horder]
    simp only [beq_iff_eq, cond_eq_ite, heq]

theorem shownBefore_replaced (horder : next.categoryOrder =
      state.categoryOrder.map (replaceName current replacement))
    (hcurrent : current ∈ state.categoryOrder) (hreplacement : replacement ∉ state.categoryOrder)
    {a b : CategoryName} (ha : a ≠ replacement) (hb : b ≠ replacement)
    (hlt : shownBefore config state a b = .lt) :
    shownBefore config next (replaceName current replacement a)
      (replaceName current replacement b) = .lt := by
  unfold shownBefore at hlt ⊢
  rw [compareLex_eq_lt] at hlt ⊢
  simp only [compareOn, horder, idxOf_map_replaceName hreplacement ha,
    idxOf_map_replaceName hreplacement hb] at hlt ⊢
  refine hlt.imp_right fun ⟨heq, hbase⟩ => ⟨heq, ?_⟩
  have hidx : state.categoryOrder.idxOf a = state.categoryOrder.idxOf b :=
    Std.LawfulEqCmp.eq_of_compare heq
  -- equal positions of different names: neither is stored
  have hstored : a ∉ state.categoryOrder ∧ b ∉ state.categoryOrder := by
    by_cases hmem : a ∈ state.categoryOrder
    · obtain rfl := (List.idxOf_inj hmem).mp hidx
      cases hbase.symm.trans (Std.ReflCmp.compare_self : baseOrder config a a = .eq)
    · refine ⟨hmem, fun hmem' => hmem ?_⟩
      exact (List.idxOf_inj hmem').mp hidx.symm ▸ hmem'
  have hna : a ≠ current := fun h => hstored.1 (h ▸ hcurrent)
  have hnb : b ≠ current := fun h => hstored.2 (h ▸ hcurrent)
  rwa [replaceName_of_ne hna, replaceName_of_ne hnb]

/-- An unstored category keeps its place under its new name when no other shown one lies between
the two. -/
def SamePlace (config : CategoriesConfig) (state : CategoryState)
    (model : EffectiveCategoryModel) (current replacement : CategoryName) : Prop :=
  ∀ name ∈ model.names, name ≠ current →
    (shownBefore config state name current = .lt ↔ shownBefore config state name replacement = .lt)

theorem renamed_names_iff (hbuilt : Built config configured state repos model)
    (hbuilt' : Built config configured next repos model')
    (horder : next.categoryOrder = state.categoryOrder.map (replaceName current replacement))
    (hmem : ∀ name, name ∈ model'.names ↔
      name ∈ model.names.map (replaceName current replacement))
    (hnew : replacement ∉ model.names) (hshown : current ∈ model.names)
    (hvalid : current ∈ state.categoryOrder → replacement ∉ state.categoryOrder) :
    model'.names = model.names.map (replaceName current replacement) ↔
      (current ∉ state.categoryOrder → SamePlace config state model current replacement) := by
  have hne : ∀ {name}, name ∈ model.names → name ≠ replacement := fun h heq => hnew (heq ▸ h)
  have hinj : (model.names.map (replaceName current replacement)).Nodup :=
    (List.nodup_map_iff_inj_on hbuilt.nodup_names).mpr fun a ha b hb =>
      (replaceName_eq_iff (hne ha) (hne hb)).mp
  have hsorted : model'.names = model.names.map (replaceName current replacement) ↔
      ∀ a ∈ model.names, ∀ b ∈ model.names, shownBefore config state a b = .lt →
        (shownBefore config next (replaceName current replacement a)
          (replaceName current replacement b)).isLE := by
    have hpairs := @pairwise_sortBy_iff _ (shownBefore config state) _ _ _
      (Maps.nodup_toList_set (effectiveNames configured state)) fun a b =>
        (shownBefore config next (replaceName current replacement a)
          (replaceName current replacement b)).isLE
    simp only [← hbuilt.names_eq, Std.ExtTreeSet.mem_toList, ← hbuilt.mem_names] at hpairs
    rw [← hpairs, ← List.pairwise_map (f := replaceName current replacement)
      (R := fun a b => (shownBefore config next a b).isLE = true)]
    constructor
    · intro heq
      rw [← heq, hbuilt'.names_eq]
      exact sortBy_pairwise _
    · intro hpairwise
      rw [hbuilt'.names_eq]
      refine (eq_sortBy ?_ hpairwise).symm
      refine (List.perm_ext_iff_of_nodup hinj (Maps.nodup_toList_set _)).mpr fun name => ?_
      rw [← hmem, hbuilt'.mem_names, Std.ExtTreeSet.mem_toList]
  rw [hsorted]
  by_cases hcurrent : current ∈ state.categoryOrder
  · refine iff_of_true (fun a ha b hb hlt => ?_) fun h => absurd hcurrent h
    have hlt' : shownBefore config next (replaceName current replacement a)
        (replaceName current replacement b) = .lt :=
      shownBefore_replaced horder hcurrent (hvalid hcurrent) (hne ha) (hne hb) hlt
    simp [hlt']
  · -- without the name in it, the stored order is unchanged
    have hsame : shownBefore config next = shownBefore config state := by
      have hmap : state.categoryOrder.map (replaceName current replacement) =
          state.categoryOrder :=
        (List.map_congr_left fun name hname =>
          replaceName_of_ne (ne_of_mem_of_not_mem hname hcurrent)).trans (List.map_id _)
      unfold shownBefore
      rw [horder, hmap]
    rw [hsame]
    simp only [hcurrent, not_false_eq_true, forall_const]
    constructor
    · intro h name hname hother
      have hname' : replaceName current replacement name = name := replaceName_of_ne hother
      constructor
      · intro hlt
        have hle := h name hname current hshown hlt
        rw [hname', replaceName_self] at hle
        exact (Ordering.isLE_iff_eq_lt_or_eq_eq.mp hle).resolve_right fun heq =>
          hne hname (Std.LawfulEqCmp.eq_of_compare heq)
      · intro hlt
        by_contra hnot
        have hgt : shownBefore config state current name = .lt := by
          refine Std.OrientedCmp.lt_of_not_isLE fun hle => ?_
          rcases Ordering.isLE_iff_eq_lt_or_eq_eq.mp hle with h | h
          · exact hnot h
          · exact hother (Std.LawfulEqCmp.eq_of_compare h)
        have hle := h current hshown name hname hgt
        rw [hname', replaceName_self] at hle
        exact Std.OrientedCmp.not_isLE_of_lt hlt hle
    · intro hplace a ha b hb hlt
      by_cases hac : a = current
      · subst hac
        have hba : b ≠ a := by
          rintro rfl
          cases hlt.symm.trans (Std.ReflCmp.compare_self : shownBefore config state b b = .eq)
        rw [replaceName_self, replaceName_of_ne hba]
        by_contra hnot
        have hlt' := (hplace b hb hba).mpr (Std.OrientedCmp.lt_of_not_isLE hnot)
        exact Std.OrientedCmp.not_isLE_of_lt hlt (by simp [hlt'])
      · rw [replaceName_of_ne hac]
        by_cases hbc : b = current
        · subst hbc
          rw [replaceName_self, (hplace a ha hac).mp hlt]
          rfl
        · rw [replaceName_of_ne hbc, hlt]
          rfl

theorem placements_replaced (hbuilt : Built config configured state repos model)
    (hbuilt' : Built config configured next repos model')
    (hoverrides : next.repoOverrides =
      (replaceCategoryName state current replacement).repoOverrides)
    (hcurrent : current ∉ configured) (hsystem : current ≠ uncategorized) :
    model'.placements = model.placements.map fun _ placement =>
      { placement with category := replaceName current replacement placement.category } := by
  refine Std.ExtTreeMap.ext_getElem? fun {key} => ?_
  rw [Std.ExtTreeMap.getElem?_map, hbuilt.placements, hbuilt'.placements, placementOf, placementOf]
  cases hlatest : latest repos key with
  | none => rfl
  | some repo =>
    simp only [Option.bind_some, resolveMembership, hoverrides, getElem?_replaced_overrides]
    cases state.repoOverrides[repo.key]? with
    | some name => rfl
    | none =>
      obtain ⟨name, hname, hor⟩ := automaticCategory_ok hbuilt.configured_eq repo
      have hne : name ≠ current := by
        rintro rfl
        exact hor.elim hsystem hcurrent
      simp [hname, Except.map, Except.toOption, replaceName_of_ne hne]

def EffectiveCategoryModel.renamed (config : CategoriesConfig)
    (current replacement : CategoryName) (model : EffectiveCategoryModel) :
    EffectiveCategoryModel where
  revision := model.revision + 1
  categories := model.categories.map fun entry =>
    if entry.name = current then
      ⟨replacement, entry.source, config.displayNames[replacement]?.getD replacement⟩
    else entry
  placements := model.placements.map fun _ placement =>
    { placement with category := replaceName current replacement placement.category }

theorem categories_renamed_iff (hbuilt : Built config configured state repos model)
    (hbuilt' : Built config configured next repos model')
    (hdynamic : current ∉ configured ∧ current ≠ uncategorized)
    (hdynamic' : replacement ∉ configured ∧ replacement ≠ uncategorized) :
    model'.categories = (model.renamed config current replacement).categories ↔
      model'.names = model.names.map (replaceName current replacement) := by
  have hrenamed : (model.renamed config current replacement).categories =
      (model.names.map (replaceName current replacement)).map
        (EffectiveCategory.of config configured) := by
    rw [renamed, hbuilt.names_eq, hbuilt.categories, List.map_map, List.map_map]
    refine List.map_congr_left fun name _ => ?_
    by_cases h : name = current
    · subst h
      simp [EffectiveCategory.of, hdynamic, hdynamic']
    · simp [EffectiveCategory.of, h, replaceName_of_ne h]
  have hcategories : model'.categories = model'.names.map (EffectiveCategory.of config configured) := by
    rw [hbuilt'.names_eq, hbuilt'.categories]
  rw [hrenamed, hcategories]
  constructor
  · intro h
    have hnames := congrArg (List.map EffectiveCategory.name) h
    simpa [List.map_map, Function.comp_def, EffectiveCategory.of] using hnames
  · exact fun h => congrArg _ h

theorem repoOrdering_congr (h : model'.displayName = model.displayName)
    (stored : Option (List RepoKey)) : model'.repoOrdering stored = model.repoOrdering stored := by
  unfold repoOrdering
  rw [h]

/-- A list that takes over the order of a category shows it unchanged when the old order already
follows it. -/
theorem sortBy_stale_iff {members stale : List RepoKey} :
    sortBy (model.repoOrdering (some stale)) members = sortBy (model.repoOrdering none) members ↔
      (sortBy (model.repoOrdering none) members).Pairwise fun a b =>
        (compare (stale.idxOf? a) (stale.idxOf? b)).isLE := by
  have hsorted : ∀ stored, (sortBy (model.repoOrdering stored) members).Pairwise fun a b =>
      (model.repoOrdering stored a b).isLE := fun stored => sortBy_pairwise members
  constructor
  · intro h
    rw [← h]
    exact (hsorted (some stale)).imp fun hab => Ordering.isLE_left_of_isLE_then hab
  · intro h
    refine (eq_sortBy (sortBy_perm members) ?_).symm
    refine ((hsorted none).and h).imp ?_
    rintro a b ⟨hnone, hstale⟩
    exact Ordering.isLE_then_iff_and.mpr ⟨hstale, Or.inr hnone⟩

/-- The category has the new name everywhere, with the repositories it had, in their order. -/
def RenameShown (config : CategoriesConfig) (repos : List RepoIdentity)
    (model : EffectiveCategoryModel) (state : CategoryState)
    (current replacement : CategoryName) : Prop :=
  ∃ next model', state.applyIntent config model (.renameCategory current replacement) =
      .ok (true, next) ∧
    build config next repos = .ok model' ∧ model' = model.renamed config current replacement ∧
    model'.orderedRepos next replacement = model.orderedRepos state current

/-- When nothing that is still stored under the new name gets in the way. -/
structure RenameKeeps (config : CategoriesConfig) (model : EffectiveCategoryModel)
    (state : CategoryState) (current replacement : CategoryName) : Prop where
  room : state.revision < maxRevision
  stored : current ∈ state.categoryOrder → replacement ∉ state.categoryOrder
  unstored : current ∉ state.categoryOrder → SamePlace config state model current replacement
  repos : state.repoOrder[current]? = none → ∀ stale, state.repoOrder[replacement]? = some stale →
    (model.orderedRepos state current).Pairwise fun a b =>
      (compare (stale.idxOf? a) (stale.idxOf? b)).isLE

theorem orderedRepos_replaced_iff (hbuilt : Built config configured state repos model)
    (hplacements : model'.placements = model.placements.map fun _ placement =>
      { placement with category := replaceName current replacement placement.category })
    (horder : next.repoOrder = (replaceCategoryName state current replacement).repoOrder)
    (hnew : replacement ∉ model.names) :
    model'.orderedRepos next replacement = model.orderedRepos state current ↔
      (state.repoOrder[current]? = none → ∀ stale, state.repoOrder[replacement]? = some stale →
        (model.orderedRepos state current).Pairwise fun a b =>
          (compare (stale.idxOf? a) (stale.idxOf? b)).isLE) := by
  have hlookup : ∀ key : RepoKey, model'.placements[key]? = model.placements[key]?.map
      fun placement => { placement with
        category := replaceName current replacement placement.category } := by
    intro key
    rw [hplacements, Std.ExtTreeMap.getElem?_map]
  have hmembers : (model'.members replacement).Perm (model.members current) := by
    refine (List.perm_ext_iff_of_nodup (nodup_members _ _) (nodup_members _ _)).mpr fun key => ?_
    rw [mem_members, mem_members]
    constructor
    · rintro ⟨placement', hplaced', hname⟩
      rw [hlookup] at hplaced'
      obtain ⟨placement, hplaced, rfl⟩ := Option.map_eq_some_iff.mp hplaced'
      refine ⟨placement, hplaced, ?_⟩
      by_contra hother
      rw [replaceName_of_ne hother] at hname
      exact hnew (hname ▸ hbuilt.placement_shown hplaced)
    · rintro ⟨placement, hplaced, rfl⟩
      exact ⟨_, by rw [hlookup, hplaced]; rfl, replaceName_self⟩
  have hdisplay : model'.displayName = model.displayName := by
    funext key
    simp only [displayName, hlookup, Option.map_map, Function.comp_def]
  have horderings := repoOrdering_congr hdisplay
  unfold orderedRepos
  rw [horder, getElem?_replaced_repoOrder, horderings, sortBy_congr hmembers]
  cases hcurrent : state.repoOrder[current]? with
  | some order => simp
  | none =>
    cases hreplacement : state.repoOrder[replacement]? with
    | none => simp
    | some stale => simpa using sortBy_stale_iff

theorem renameShown_iff (hstate : state.Valid) (hbuilt : Built config configured state repos model)
    (hdynamic : validateMutableCategory model current = .ok ())
    (hname : ∃ parsed, CategoryName.parse replacement = .ok parsed)
    (hnew : replacement ∉ model.names) :
    RenameShown config repos model state current replacement ↔
      RenameKeeps config model state current replacement := by
  obtain ⟨hshown, hcurrent, hsystem⟩ := hbuilt.dynamic_iff.mp hdynamic
  have hne : current ≠ replacement := fun h => hnew (h ▸ hshown)
  have hmutable := validateMutableName_eq_ok.mpr hname
  have hreplacement : replacement ∉ configured ∧ replacement ≠ uncategorized := by
    refine ⟨fun h => hnew (hbuilt.configured_shown h), ?_⟩
    rintro rfl
    exact hname.elim parse_uncategorized
  have hedit : (CategoryIntent.renameCategory current replacement).edit config model state =
      .ok (true, replaceCategoryName state current replacement) := by
    refine seq_eq_ok.mpr ⟨hdynamic, seq_eq_ok.mpr ⟨hmutable, ?_⟩⟩
    rw [if_neg hne]
    exact seq_eq_ok.mpr ⟨refuse_eq_ok.mpr (not_not.mpr (category_eq_none_iff.mpr hnew)), rfl⟩
  have hvalid_iff := replaced_valid_iff hstate hne (storedName_of_mutable hmutable)
  let next := (replaceCategoryName state current replacement).after true
  -- what is known of the rebuilt model, whether or not it looks right
  have hrebuilt : ∀ {model'}, (current ∈ state.categoryOrder → replacement ∉ state.categoryOrder) →
      build config next repos = .ok model' →
      (model' = model.renamed config current replacement ∧
        model'.orderedRepos next replacement = model.orderedRepos state current ↔
      (current ∉ state.categoryOrder → SamePlace config state model current replacement) ∧
        (state.repoOrder[current]? = none → ∀ stale, state.repoOrder[replacement]? = some stale →
          (model.orderedRepos state current).Pairwise fun a b =>
            (compare (stale.idxOf? a) (stale.idxOf? b)).isLE)) := by
    intro model' hstored hmodel'
    obtain ⟨-, configured', hbuilt'⟩ := build_ok hmodel'
    cases hbuilt'.configured_eq.symm.trans hbuilt.configured_eq
    have hplacements := placements_replaced hbuilt hbuilt' rfl hcurrent hsystem
    have hrepoOrder : next.repoOrder = (replaceCategoryName state current replacement).repoOrder := rfl
    rw [orderedRepos_replaced_iff hbuilt hplacements hrepoOrder hnew]
    refine and_congr_left' ?_
    have hnames := renamed_names_iff hbuilt hbuilt' rfl (fun name =>
      mem_renamed_names hbuilt hbuilt' rfl rfl hcurrent hsystem hshown hnew) hnew hshown hstored
    rw [← hnames, ← categories_renamed_iff hbuilt hbuilt' ⟨hcurrent, hsystem⟩ hreplacement]
    refine ⟨fun h => congrArg _ h, fun h => ?_⟩
    have hrevision : model'.revision = model.revision + 1 := by
      rw [hbuilt'.revision, hbuilt.revision]
      rfl
    cases model'
    cases hrevision
    cases h
    cases hplacements
    rfl
  constructor
  · rintro ⟨next', model', happly, hmodel', hrenamed, hordered⟩
    obtain ⟨-, edited, hedited, hroom, hvalid, rfl⟩ := applyIntent_eq_ok.mp happly
    cases hedited.symm.trans hedit
    have hstored := hvalid_iff.mp hvalid
    obtain ⟨hunstored, hrepos⟩ := (hrebuilt hstored hmodel').mp ⟨hrenamed, hordered⟩
    exact ⟨hroom rfl, hstored, hunstored, hrepos⟩
  · rintro ⟨hroom, hstored, hunstored, hrepos⟩
    have hvalid := hvalid_iff.mpr hstored
    obtain ⟨model', hmodel'⟩ := build_total (valid_after.mpr hvalid) ⟨_, hbuilt.configured_eq⟩ repos
    have happly := applyIntent_eq_ok.mpr
      ⟨⟨_, hbuilt.configured_eq⟩, _, hedit, fun _ => hroom, hvalid, rfl⟩
    obtain ⟨hrenamed, hordered⟩ := (hrebuilt hstored hmodel').mpr ⟨hunstored, hrepos⟩
    exact ⟨next, model', happly, hmodel', hrenamed, hordered⟩

end Rename

/-! Moving repositories between categories. -/

section Membership
variable {repo : RepoKey} {name : CategoryName}

theorem placements_of_overrides (hbuilt : Built config configured state repos model)
    (hbuilt' : Built config configured next repos model') {key : RepoKey}
    (h : next.repoOverrides[key]? = state.repoOverrides[key]?) :
    model'.placements[key]? = model.placements[key]? := by
  rw [hbuilt.placements, hbuilt'.placements, placementOf_congr h]

/-- Only the assigned repository moves; it is explicit, and last in its category. -/
structure AssignShown (model model' : EffectiveCategoryModel) (next : CategoryState)
    (repo : RepoKey) (name : CategoryName) : Prop where
  others : ∀ key ≠ repo, model'.placements[key]? = model.placements[key]?
  placed : ∀ placement, model.placements[repo]? = some placement →
    model'.placements[repo]? = some { placement with category := name, explicit := true }
  last : repo ∈ model.placements → (model'.orderedRepos next name).getLast? = some repo

theorem repoOrdering_last {front : List RepoKey} {key : RepoKey} (hrepo : repo ∉ front)
    (hkey : key ≠ repo) : (model.repoOrdering (some (front ++ [repo])) key repo).isLE := by
  have hlast : (front ++ [repo]).idxOf? repo = some front.length := by
    rw [List.idxOf?_eq_some_iff]
    refine ⟨by simp, by simp, fun j hj => ?_⟩
    have hne : front.get ⟨j, hj⟩ ≠ repo := fun h => hrepo (h ▸ List.get_mem front ⟨j, hj⟩)
    simpa [List.getElem_append_left hj] using hne
  have hlt : compare ((front ++ [repo]).idxOf? key) ((front ++ [repo]).idxOf? repo) = .lt := by
    rw [hlast]
    cases hidx : (front ++ [repo]).idxOf? key with
    | none => rfl
    | some i =>
      obtain ⟨hi, hget, -⟩ := List.idxOf?_eq_some_iff.mp hidx
      have hne : i ≠ front.length := by
        rintro rfl
        exact hkey (by simpa using hget.symm)
      have hlen : i < front.length := by
        rw [List.length_append, List.length_singleton] at hi
        omega
      exact Nat.compare_eq_lt.mpr hlen
  exact Ordering.isLE_of_eq_lt (compareLex_eq_lt.mpr (Or.inl hlt))

theorem assign_shown (happly : state.applyIntent config model (.assignRepo repo name) =
      .ok (changed, next)) (hbuilt : Built config configured state repos model)
    (hbuilt' : Built config configured next repos model') :
    AssignShown model model' next repo name := by
  obtain ⟨-, edited, hedit, -, -, rfl⟩ := applyIntent_eq_ok.mp happly
  obtain ⟨-, hedit⟩ := seq_eq_ok.mp hedit
  cases hedit
  have hoverride : ∀ key : RepoKey, (state.repoOverrides.insert repo name)[key]? =
      if key = repo then some name else state.repoOverrides[key]? :=
    fun key => Maps.getElem?_insert _ _ _ _
  have hplaced : ∀ placement, model.placements[repo]? = some placement →
      model'.placements[repo]? = some { placement with category := name, explicit := true } := by
    intro placement hplacement
    obtain ⟨hlatest, -⟩ := hbuilt.placement_cases hplacement
    rw [hbuilt'.placements]
    exact placementOf_override hlatest ((hoverride repo).trans (if_pos rfl))
  refine ⟨fun key hkey => ?_, hplaced, fun hmem => ?_⟩
  · exact placements_of_overrides hbuilt hbuilt' ((hoverride key).trans (if_neg hkey))
  · obtain ⟨placement, hplacement⟩ := Maps.mem_iff_exists.mp hmem
    have hmember : repo ∈ model'.members name := mem_members.mpr ⟨_, hplaced placement hplacement, rfl⟩
    have hstored := getElem?_moveRepoToCategoryEnd
      { state with repoOverrides := state.repoOverrides.insert repo name } repo
      state.repoOverrides[repo]? name name
    rw [if_pos rfl] at hstored
    have hordered : model'.orderedRepos _ name = sortBy (model'.repoOrdering
        (some (((state.repoOrder[name]?.getD []).filter (· ≠ repo)) ++ [repo])))
        (model'.members name) := congrArg
      (fun stored => sortBy (model'.repoOrdering stored) (model'.members name)) hstored
    refine (congrArg List.getLast? hordered).trans ?_
    exact getLast?_sortBy (nodup_members _ _) hmember fun key _ hkey =>
      repoOrdering_last (by simp) hkey

/-- Only the repositories of the deleted category move, to where the deletion sends them. -/
structure DeleteShown (config : CategoriesConfig) (state : CategoryState)
    (model model' : EffectiveCategoryModel) (name : CategoryName) (target : MembershipTarget) :
    Prop where
  gone : name ∉ model'.names
  others : ∀ key : RepoKey, state.repoOverrides[key]? ≠ some name →
    model'.placements[key]? = model.placements[key]?
  released : ∀ (key : RepoKey) placement, state.repoOverrides[key]? = some name →
    model.placements[key]? = some placement →
    match target with
    | .category other => model'.placements[key]? = some ⟨placement.repo, other, true⟩
    | .automatic => ∃ other, automaticCategory config placement.repo = .ok other ∧
      model'.placements[key]? = some ⟨placement.repo, other, false⟩

theorem delete_shown {target : MembershipTarget}
    (happly : state.applyIntent config model (.deleteCategory name target) = .ok (changed, next))
    (hbuilt : Built config configured state repos model)
    (hbuilt' : Built config configured next repos model') :
    DeleteShown config state model model' name target := by
  obtain ⟨-, edited, hedit, -, -, rfl⟩ := applyIntent_eq_ok.mp happly
  obtain ⟨hdynamic, hedit⟩ := seq_eq_ok.mp hedit
  obtain ⟨htarget, hedit⟩ := seq_eq_ok.mp hedit
  obtain ⟨_, hdelete, hedit⟩ := bind_eq_ok.mp hedit
  cases hedit
  obtain ⟨-, hconfigured, hsystem⟩ := hbuilt.dynamic_iff.mp hdynamic
  have haffected : ∀ key : RepoKey, key ∈ (state.repoOverrides.toList.filter fun entry =>
      entry.2 = name).map Prod.fst ↔ state.repoOverrides[key]? = some name := by
    intro key
    simp [Std.ExtTreeMap.mem_toList_iff_getElem?_eq_some]
  have hoverride : ∀ key : RepoKey, edited.repoOverrides[key]? =
      if state.repoOverrides[key]? = some name then target.override
      else state.repoOverrides[key]? := by
    intro key
    rw [release_overrides hdelete]
    simp only [haffected]
  have htarget_ne : target.override ≠ some name := by
    cases target with
    | automatic => exact nofun
    | category other =>
      rintro heq
      cases heq
      exact refuse_eq_ok.mp (seq_eq_ok.mp htarget).1 rfl
  refine ⟨fun hshown => ?_, fun key hkey => ?_, fun key placement hkey hplacement => ?_⟩
  · rcases mem_effectiveNames.mp (hbuilt'.mem_names.mp hshown) with h | h | ⟨key, h⟩ | h
    · exact hconfigured h
    · have hmem : name ∈ edited.dynamicCategories := h
      rw [(release_dynamic hdelete).1] at hmem
      simp at hmem
    · have h : edited.repoOverrides[key]? = some name := h
      rw [hoverride] at h
      split_ifs at h with hold
      · exact htarget_ne h
      · exact hold h
    · exact hsystem h
  · exact placements_of_overrides hbuilt hbuilt' ((hoverride key).trans (if_neg hkey))
  · obtain ⟨hlatest, -⟩ := hbuilt.placement_cases hplacement
    have hnext := (hoverride key).trans (if_pos hkey)
    cases target with
    | category other =>
      dsimp only
      rw [hbuilt'.placements]
      exact placementOf_override hlatest hnext
    | automatic =>
      obtain ⟨other, hother, -⟩ := automaticCategory_ok hbuilt.configured_eq placement.repo
      refine ⟨other, hother, ?_⟩
      rw [hbuilt'.placements]
      exact placementOf_automatic hlatest hnext hother

structure AutomaticShown (config : CategoriesConfig) (model model' : EffectiveCategoryModel)
    (repo : RepoKey) : Prop where
  others : ∀ key ≠ repo, model'.placements[key]? = model.placements[key]?
  placed : ∀ placement, model.placements[repo]? = some placement →
    ∃ other, automaticCategory config placement.repo = .ok other ∧
      model'.placements[repo]? = some ⟨placement.repo, other, false⟩

theorem automatic_overrides (hedit : (CategoryIntent.setRepoAutomatic repo).edit config model state =
    .ok (changed, edited)) (key : RepoKey) : edited.repoOverrides[key]? =
      if key = repo then none else state.repoOverrides[key]? := by
  simp only [CategoryIntent.edit] at hedit
  split at hedit
  · rename_i hnone
    cases hedit
    split_ifs with h
    · rw [h, hnone]
    · rfl
  · cases hedit
    exact Maps.getElem?_erase _ _ _

theorem automatic_shown
    (happly : state.applyIntent config model (.setRepoAutomatic repo) = .ok (changed, next))
    (hbuilt : Built config configured state repos model)
    (hbuilt' : Built config configured next repos model') :
    AutomaticShown config model model' repo := by
  obtain ⟨-, edited, hedit, -, -, rfl⟩ := applyIntent_eq_ok.mp happly
  have hoverride := automatic_overrides hedit
  refine ⟨fun key hkey => ?_, fun placement hplacement => ?_⟩
  · exact placements_of_overrides hbuilt hbuilt' ((hoverride key).trans (if_neg hkey))
  · obtain ⟨hlatest, -⟩ := hbuilt.placement_cases hplacement
    obtain ⟨other, hother, -⟩ := automaticCategory_ok hbuilt.configured_eq placement.repo
    refine ⟨other, hother, ?_⟩
    rw [hbuilt'.placements]
    exact placementOf_automatic hlatest ((hoverride repo).trans (if_pos rfl)) hother

end Membership

/-! Histories of edits. -/

structure Edit where
  config : CategoriesConfig
  repos : List RepoIdentity
  intent : CategoryIntent

/-- A successful edit, under the model that is shown at the time. -/
def Edit.Step (state : CategoryState) (edit : Edit) (next : CategoryState) : Prop :=
  ∃ model changed, build edit.config state edit.repos = .ok model ∧
    state.applyIntent edit.config model edit.intent = .ok (changed, next)

theorem valid_of_applyIntent
    (h : state.applyIntent config model intent = .ok (changed, next)) : next.Valid := by
  obtain ⟨-, edited, -, -, hvalid, rfl⟩ := applyIntent_eq_ok.mp h
  exact valid_after.mpr hvalid

theorem reachable_valid {past : List (CategoryState × Edit)}
    (h : Trace Edit.Step {} past state) : state.Valid := by
  refine h.invariant valid_default ?_
  rintro s edit s' - ⟨model, changed, -, happly⟩
  exact valid_of_applyIntent happly

def EditShown (config : CategoriesConfig) (model model' : EffectiveCategoryModel)
    (state next : CategoryState) : CategoryIntent → Prop
  | .assignRepo repo name => AssignShown model model' next repo name
  | .deleteCategory name target => DeleteShown config state model model' name target
  | .setRepoAutomatic repo => AutomaticShown config model model' repo
  | _ => True

structure EditsShown (config : CategoriesConfig) (repos : List RepoIdentity)
    (model : EffectiveCategoryModel) (state : CategoryState) : Prop where
  create : ∀ name, (∃ parsed, CategoryName.parse name = .ok parsed) →
    model.category name = none →
    (CreateShown config repos model state name ↔
      name ∉ state.categoryOrder ∧ state.revision < maxRevision)
  rename : ∀ current replacement, validateMutableCategory model current = .ok () →
    (∃ parsed, CategoryName.parse replacement = .ok parsed) → model.category replacement = none →
    (RenameShown config repos model state current replacement ↔
      RenameKeeps config model state current replacement)
  edits : ∀ intent changed next,
    state.applyIntent config model intent = .ok (changed, next) →
    next.validate = .ok () ∧ next.revision = state.revision + changed.toNat ∧
      ∃ model', build config next repos = .ok model' ∧
        EditShown config model model' state next intent

theorem edits_shown {past : List (CategoryState × Edit)} (hrun : Trace Edit.Step {} past state)
    (hconfig : config.Valid) (repos : List RepoIdentity) :
    state.validate = .ok () ∧ ∃ model, build config state repos = .ok model ∧
      EditsShown config repos model state := by
  have hstate := reachable_valid hrun
  obtain ⟨model, hmodel⟩ := build_total hstate hconfig repos
  obtain ⟨-, configured, hbuilt⟩ := build_ok hmodel
  refine ⟨validate_eq_ok.mpr hstate, model, hmodel, ?_, ?_, ?_⟩
  · intro name hname hnew
    exact createShown_iff hstate hconfig hname (category_eq_none_iff.mp hnew)
  · intro current replacement hdynamic hname hnew
    exact renameShown_iff hstate hbuilt hdynamic hname (category_eq_none_iff.mp hnew)
  · intro intent changed next happly
    have hnext := valid_of_applyIntent happly
    obtain ⟨model', hmodel'⟩ := build_total hnext hconfig repos
    obtain ⟨-, configured', hbuilt'⟩ := build_ok hmodel'
    cases hbuilt'.configured_eq.symm.trans hbuilt.configured_eq
    refine ⟨validate_eq_ok.mpr hnext, ?_, model', hmodel', ?_⟩
    · obtain ⟨-, edited, hedit, -, -, rfl⟩ := applyIntent_eq_ok.mp happly
      exact congrArg (· + changed.toNat) (edit_revision hedit)
    · cases intent with
      | assignRepo repo name => exact assign_shown happly hbuilt hbuilt'
      | deleteCategory name target => exact delete_shown happly hbuilt hbuilt'
      | setRepoAutomatic repo => exact automatic_shown happly hbuilt hbuilt'
      | createCategory name => trivial
      | renameCategory current replacement => trivial
      | moveCategory name neighbor direction => trivial
      | moveRepo repo neighbor name direction => trivial

/-! A configured category is moved, which stores its name; then its rule goes. -/

namespace Forgotten

def working : CategoriesConfig := { rules := [⟨"work", []⟩] }

def moved : CategoryState := { revision := 1, categoryOrder := ["work", uncategorized] }

theorem configured_working : configuredCategoryNames working = .ok ["work"] := by
  decide +kernel

theorem configured_empty : configuredCategoryNames {} = .ok [] := by
  decide +kernel

theorem moved_step : Edit.Step {} ⟨working, [], .moveCategory "work" uncategorized .up⟩ moved := by
  obtain ⟨model, hmodel⟩ := build_total valid_default ⟨_, configured_working⟩ []
  obtain ⟨-, configured, hbuilt⟩ := build_ok hmodel
  cases hbuilt.configured_eq.symm.trans configured_working
  have hnames : model.names = [uncategorized, "work"] := by
    rw [hbuilt.names_eq]
    exact (eq_sortBy (by decide +kernel) (by decide +kernel)).symm
  have hedit : (CategoryIntent.moveCategory "work" uncategorized .up).edit working model {} =
      .ok (true, { moved with revision := 0 }) := by
    simp only [CategoryIntent.edit, materializeCategoryOrder]
    rw [show model.categories.map EffectiveCategory.name = _ from hnames]
    rfl
  have hvalid : ({ moved with revision := 0 } : CategoryState).Valid :=
    ⟨rfl, by decide +kernel, valid_default.repoOrder, valid_default.dynamic,
      valid_default.overrides⟩
  exact ⟨model, true, hmodel, applyIntent_eq_ok.mpr
    ⟨⟨_, configured_working⟩, _, hedit, fun _ => by decide, hvalid, rfl⟩⟩

theorem edits_shown_moved : moved.validate = .ok () ∧
    ∃ model, build working moved [] = .ok model ∧ EditsShown working [] model moved :=
  edits_shown (Trace.nil.snoc moved_step) ⟨_, configured_working⟩ []

/-- The name is valid and not shown, and still it cannot be created. -/
theorem create_refused : ∃ past model, Trace Edit.Step {} past moved ∧
    build {} moved [] = .ok model ∧ CategoryName.parse "work" = .ok "work" ∧
    model.category "work" = none ∧ ¬CreateShown {} [] model moved "work" := by
  have hrun := Trace.nil.snoc moved_step
  have hstate := reachable_valid hrun
  have hparse : CategoryName.parse "work" = .ok "work" := by decide +kernel
  obtain ⟨model, hmodel⟩ := build_total hstate ⟨_, configured_empty⟩ []
  obtain ⟨-, configured, hbuilt⟩ := build_ok hmodel
  cases hbuilt.configured_eq.symm.trans configured_empty
  have hnew : "work" ∉ model.names := by
    rw [hbuilt.mem_names]
    decide +kernel
  refine ⟨_, model, hrun, hmodel, hparse, category_eq_none_iff.mpr hnew, ?_⟩
  rw [createShown_iff hstate ⟨_, configured_empty⟩ ⟨_, hparse⟩ hnew]
  rintro ⟨hnot, -⟩
  exact hnot List.mem_cons_self

end Forgotten

end VdeTmux.Category
