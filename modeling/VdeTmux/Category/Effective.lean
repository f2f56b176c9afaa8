import VdeTmux.Category.Model

/-!
# The effective model

What `build` makes of a valid state: the names it shows and their order, where each repository is
placed, and the order of the repositories of a category. The shown order is one sort by stored
position, configured position and name.
-/

open Foundation
namespace VdeTmux.Category

theorem CategoryName.parse_eq_ok {value : String} {name : CategoryName}
    (h : CategoryName.parse value = .ok name) : name = Text.trim value ∧ name ≠ uncategorized ∧
      CategoryName.parse name = .ok name := by
  simp only [CategoryName.parse] at h
  obtain ⟨hempty, h⟩ := seq_eq_ok.mp h
  obtain ⟨hlen, h⟩ := seq_eq_ok.mp h
  obtain ⟨hcontrol, h⟩ := seq_eq_ok.mp h
  obtain ⟨hreserved, h⟩ := seq_eq_ok.mp h
  obtain rfl := pure_eq_ok.mp h
  refine ⟨rfl, fun heq => (refuse_eq_ok.mp hreserved) (Or.inl heq), ?_⟩
  simp only [CategoryName.parse, Text.trim_trim]
  rw [hempty, hlen, hcontrol, hreserved]
  rfl

theorem parse_uncategorized (name : CategoryName) : CategoryName.parse uncategorized ≠ .ok name := by
  intro h
  obtain ⟨hname, hne, -⟩ := CategoryName.parse_eq_ok h
  exact hne (hname.trans (by decide +kernel))

def StoredName (name : CategoryName) : Prop := validateStoredCategoryName name = .ok ()

theorem storedName_of_parse {value : String} {name : CategoryName}
    (h : CategoryName.parse value = .ok name) : StoredName name := by
  obtain ⟨-, hne, hparse⟩ := CategoryName.parse_eq_ok h
  rw [StoredName, validateStoredCategoryName, if_neg hne, hparse]
  rfl

theorem validateMutableName_eq_ok {name : CategoryName} :
    validateMutableName name = .ok () ↔ ∃ parsed, CategoryName.parse name = .ok parsed := by
  unfold validateMutableName
  cases CategoryName.parse name with
  | error e => simp [Except.map]
  | ok parsed => simp [Except.map]

theorem storedName_of_mutable {name : CategoryName} (h : validateMutableName name = .ok ()) :
    StoredName name := by
  unfold StoredName validateStoredCategoryName
  split_ifs
  · rfl
  · exact h

structure CategoryState.Valid (state : CategoryState) : Prop where
  schema : state.schemaVersion = categoryStateSchemaVersion
  order : state.categoryOrder.Nodup
  repoOrder : ∀ category repos, state.repoOrder[category]? = some repos →
    StoredName category ∧ repos.Nodup
  dynamic : ∀ category ∈ state.dynamicCategories, StoredName category
  overrides : ∀ (repo : RepoKey) (category : CategoryName),
    state.repoOverrides[repo]? = some category → StoredName category

theorem validateUnique_eq_ok {α : Type} [DecidableEq α] {values : List α} {label : String} :
    validateUnique values label = .ok () ↔ values.Nodup := by
  rw [validateUnique, refuse_eq_ok, not_not]

theorem validate_eq_ok {state : CategoryState} : state.validate = .ok () ↔ state.Valid := by
  have hrepos : (state.repoOrder.toList.forM (fun entry : CategoryName × List RepoKey => do
      validateStoredCategoryName entry.1
      validateUnique entry.2 s!"repository order for {entry.1}") = .ok ()) ↔
      ∀ category repos, state.repoOrder[category]? = some repos →
        StoredName category ∧ repos.Nodup := by
    simp only [forM_eq_ok, Prod.forall, Std.ExtTreeMap.mem_toList_iff_getElem?_eq_some,
      seq_eq_ok, validateUnique_eq_ok]
    rfl
  have hdynamic : state.dynamicCategories.toList.forM validateStoredCategoryName = .ok () ↔
      ∀ category ∈ state.dynamicCategories, StoredName category := by
    simp only [forM_eq_ok, Std.ExtTreeSet.mem_toList]
    rfl
  have hoverrides : (Maps.values state.repoOverrides).forM validateStoredCategoryName = .ok () ↔
      ∀ (repo : RepoKey) (category : CategoryName),
      state.repoOverrides[repo]? = some category → StoredName category := by
    simp only [forM_eq_ok, Maps.mem_values]
    exact ⟨fun h repo category hc => h category ⟨repo, hc⟩,
      fun h category ⟨repo, hc⟩ => h repo category hc⟩
  constructor
  · intro h
    obtain ⟨hschema, h⟩ := seq_eq_ok.mp h
    obtain ⟨horder, h⟩ := seq_eq_ok.mp h
    obtain ⟨hr, h⟩ := seq_eq_ok.mp h
    obtain ⟨hd, ho⟩ := seq_eq_ok.mp h
    exact ⟨not_not.mp (refuse_eq_ok.mp hschema), validateUnique_eq_ok.mp horder,
      hrepos.mp hr, hdynamic.mp hd, hoverrides.mp ho⟩
  · rintro ⟨hschema, horder, hr, hd, ho⟩
    refine seq_eq_ok.mpr ⟨refuse_eq_ok.mpr (not_not.mpr hschema), ?_⟩
    refine seq_eq_ok.mpr ⟨validateUnique_eq_ok.mpr horder, ?_⟩
    exact seq_eq_ok.mpr ⟨hrepos.mpr hr, seq_eq_ok.mpr ⟨hdynamic.mpr hd, hoverrides.mpr ho⟩⟩

theorem valid_default : ({} : CategoryState).Valid where
  schema := rfl
  order := List.nodup_nil
  repoOrder _ _ h := by simp at h
  dynamic _ h := absurd h Std.ExtTreeSet.not_mem_empty
  overrides _ _ h := by simp at h

/-- Every name of the configuration is a category name. -/
def CategoriesConfig.Valid (config : CategoriesConfig) : Prop :=
  ∃ configured, configuredCategoryNames config = .ok configured

section Configured
variable {config : CategoriesConfig} {configured : List CategoryName}

theorem mem_configured (h : configuredCategoryNames config = .ok configured) (name : CategoryName) :
    name ∈ configured ↔ ∃ value ∈ config.names, CategoryName.parse value = .ok name := by
  obtain ⟨names, hnames, rfl⟩ := bind_pure_eq_ok.mp h
  rw [Std.ExtTreeSet.mem_toList, Std.ExtTreeSet.mem_ofList, List.contains_iff_mem,
    mem_of_mapM_eq_ok hnames]

theorem storedName_of_configured (h : configuredCategoryNames config = .ok configured)
    {name : CategoryName} (hname : name ∈ configured) : StoredName name := by
  obtain ⟨value, -, hvalue⟩ := (mem_configured h name).mp hname
  exact storedName_of_parse hvalue

theorem parse_of_mem_names (h : configuredCategoryNames config = .ok configured) {value : String}
    (hvalue : value ∈ config.names) :
    ∃ name ∈ configured, CategoryName.parse value = .ok name := by
  obtain ⟨names, hnames, -⟩ := bind_pure_eq_ok.mp h
  obtain ⟨name, hname⟩ := ok_of_mapM_eq_ok hnames value hvalue
  exact ⟨name, (mem_configured h name).mpr ⟨value, hvalue, hname⟩, hname⟩

theorem automaticCategory_ok (h : configuredCategoryNames config = .ok configured)
    (repo : RepoIdentity) : ∃ name, automaticCategory config repo = .ok name ∧
      (name = uncategorized ∨ name ∈ configured) := by
  unfold automaticCategory
  split
  · rename_i rule hrule
    have hmem : rule.category ∈ config.names := by
      have hr := List.mem_of_find?_eq_some hrule
      simp only [CategoriesConfig.names, List.mem_append, List.mem_map]
      exact Or.inl (Or.inl (Or.inl ⟨rule, hr, rfl⟩))
    obtain ⟨name, hname, hparse⟩ := parse_of_mem_names h hmem
    exact ⟨name, hparse, Or.inr hname⟩
  · split
    · rename_i value hvalue
      have hmem : value ∈ config.names := by
        have hdefault := (Option.filter_eq_some_iff.mp hvalue).1
        simp only [CategoriesConfig.names, List.mem_append]
        exact Or.inl (Or.inl (Or.inr (by simp [hdefault])))
      obtain ⟨name, hname, hparse⟩ := parse_of_mem_names h hmem
      exact ⟨name, hparse, Or.inr hname⟩
    · exact ⟨uncategorized, rfl, Or.inl rfl⟩

theorem resolveMembership_ok (h : configuredCategoryNames config = .ok configured)
    (state : CategoryState) (repo : RepoIdentity) :
    ∃ membership, resolveMembership config state repo = .ok membership := by
  unfold resolveMembership
  split
  · exact ⟨_, rfl⟩
  · obtain ⟨name, hname, -⟩ := automaticCategory_ok h repo
    rw [hname]
    exact ⟨_, rfl⟩

theorem mem_effectiveNames {state : CategoryState} {name : CategoryName} :
    name ∈ effectiveNames configured state ↔ name ∈ configured ∨
      name ∈ state.dynamicCategories ∨ (∃ repo : RepoKey, state.repoOverrides[repo]? = some name) ∨
      name = uncategorized := by
  simp only [effectiveNames, Std.ExtTreeSet.mem_insert, Std.ExtTreeSet.mem_insertMany_list,
    Std.ExtTreeSet.mem_ofList, List.contains_iff_mem, Std.ExtTreeSet.mem_toList, Maps.mem_values,
    Std.LawfulEqCmp.compare_eq_iff_eq]
  tauto

end Configured

section Order
variable (config : CategoriesConfig) (state : CategoryState)

def shownBefore : CategoryName → CategoryName → Ordering :=
  compareLex (compareOn fun name => state.categoryOrder.idxOf name) (baseOrder config)

instance : Std.TransCmp (baseOrder config) := by unfold baseOrder; infer_instance
instance : Std.LawfulEqCmp (baseOrder config) := by unfold baseOrder; infer_instance
instance : Std.TransCmp (shownBefore config state) := by unfold shownBefore; infer_instance
instance : Std.LawfulEqCmp (shownBefore config state) := by unfold shownBefore; infer_instance

theorem effectiveCategoryOrder_eq_append (horder : state.categoryOrder.Nodup)
    (names : Std.ExtTreeSet CategoryName) :
    effectiveCategoryOrder config state names =
      .ok (state.categoryOrder.filter (fun name => names.contains name) ++
        (sortBy (baseOrder config) names.toList).filter (· ∉ state.categoryOrder)) := by
  have hbase : (sortBy (baseOrder config) names.toList).Nodup :=
    nodup_sortBy.mpr (Maps.nodup_toList_set names)
  unfold effectiveCategoryOrder
  split_ifs with hempty
  · simp [hempty, pure, Except.pure]
  · have happend := appendMissing_eq hbase
      (state.categoryOrder.filter fun name => names.contains name)
    have hrest : (sortBy (baseOrder config) names.toList).filter
        (· ∉ state.categoryOrder.filter fun name => names.contains name) =
        (sortBy (baseOrder config) names.toList).filter (· ∉ state.categoryOrder) := by
      refine List.filter_congr fun name hname => ?_
      have hmem := Std.ExtTreeSet.mem_toList.mp (mem_sortBy.mp hname)
      simp [Std.ExtTreeSet.contains_iff_mem, hmem]
    refine seq_eq_ok.mpr ⟨validateUnique_eq_ok.mpr ?_, ?_⟩
    · exact nodup_appendMissing (horder.filter _) hbase
    · rw [happend, hrest]
      rfl

theorem baseOrder_of_shownBefore {a b : CategoryName} (ha : a ∉ state.categoryOrder)
    (hb : b ∉ state.categoryOrder) : shownBefore config state a b = baseOrder config a b := by
  simp [shownBefore, compareLex, compareOn, List.idxOf_of_notMem ha, List.idxOf_of_notMem hb]

theorem effectiveCategoryOrder_eq (horder : state.categoryOrder.Nodup)
    (names : Std.ExtTreeSet CategoryName) :
    effectiveCategoryOrder config state names =
      .ok (sortBy (shownBefore config state) names.toList) := by
  rw [effectiveCategoryOrder_eq_append config state horder]
  congr 1
  have hbase : (sortBy (baseOrder config) names.toList).Nodup :=
    nodup_sortBy.mpr (Maps.nodup_toList_set names)
  apply eq_sortBy
  · refine (List.perm_ext_iff_of_nodup ?_ (Maps.nodup_toList_set names)).mpr fun name => ?_
    · refine List.nodup_append.mpr ⟨horder.filter _, hbase.filter _, ?_⟩
      rintro a ha b hb rfl
      simpa [(List.mem_filter.mp ha).1] using (List.mem_filter.mp hb).2
    · by_cases hstored : name ∈ state.categoryOrder
      · simp [hstored, Std.ExtTreeSet.contains_iff_mem]
      · simp [hstored]
  · refine List.pairwise_append.mpr ⟨?_, ?_, ?_⟩
    · -- stored names stand at increasing positions
      refine List.Pairwise.filter _ (List.pairwise_iff_getElem.mpr fun i j hi hj hij => ?_)
      have hlt : compare (state.categoryOrder.idxOf state.categoryOrder[i])
          (state.categoryOrder.idxOf state.categoryOrder[j]) = .lt := by
        rw [horder.idxOf_getElem, horder.idxOf_getElem]
        exact Nat.compare_eq_lt.mpr hij
      simp [shownBefore, compareLex, compareOn, hlt]
    · have hsorted : (sortBy (baseOrder config) names.toList).Pairwise
          fun a b => (baseOrder config a b).isLE := sortBy_pairwise names.toList
      refine (hsorted.filter _).imp_of_mem ?_
      intro a b ha hb hab
      rw [baseOrder_of_shownBefore config state (by simpa using (List.mem_filter.mp ha).2)
        (by simpa using (List.mem_filter.mp hb).2)]
      exact hab
    · intro a ha b hb
      have hstored : a ∈ state.categoryOrder := (List.mem_filter.mp ha).1
      have hunstored : b ∉ state.categoryOrder := by simpa using (List.mem_filter.mp hb).2
      have hlt : compare (state.categoryOrder.idxOf a) (state.categoryOrder.idxOf b) = .lt := by
        rw [List.idxOf_of_notMem hunstored]
        exact Nat.compare_eq_lt.mpr (List.idxOf_lt_length_iff.mpr hstored)
      simp [shownBefore, compareLex, compareOn, hlt]

end Order

/-- The identity that a key stands for: of several, the last one. -/
def latest (repos : List RepoIdentity) (key : RepoKey) : Option RepoIdentity :=
  repos.reverse.find? fun repo => repo.key = key

theorem latest_concat (repos : List RepoIdentity) (repo : RepoIdentity) (key : RepoKey) :
    latest (repos ++ [repo]) key = if repo.key = key then some repo else latest repos key := by
  by_cases h : repo.key = key
  · simp [latest, h]
  · simp [latest, h]

theorem key_of_latest {repos : List RepoIdentity} {key : RepoKey} {repo : RepoIdentity}
    (h : latest repos key = some repo) : repo.key = key := by
  simpa using List.find?_some h

def placementOf (config : CategoriesConfig) (state : CategoryState) (repos : List RepoIdentity)
    (key : RepoKey) : Option EffectiveRepoPlacement :=
  (latest repos key).bind fun repo =>
    (resolveMembership config state repo).toOption.map fun membership =>
      ⟨repo, membership.1, membership.2⟩

section Built
variable {config : CategoriesConfig} {state : CategoryState} {repos : List RepoIdentity}
  {configured : List CategoryName} {model : EffectiveCategoryModel}

theorem placements_eq {placements : Std.ExtTreeMap RepoKey EffectiveRepoPlacement}
    (h : repos.foldlM (placeRepo config state) ∅ = .ok placements) (key : RepoKey) :
    placements[key]? = placementOf config state repos key := by
  induction repos using List.reverseRecOn generalizing placements with
  | nil =>
    cases h
    simp [placementOf, latest]
  | append_singleton repos repo ih =>
    rw [List.foldlM_append] at h
    obtain ⟨before, hbefore, h⟩ := bind_eq_ok.mp h
    obtain ⟨after, hafter, h⟩ := bind_eq_ok.mp h
    cases h
    obtain ⟨membership, hmembership, hinsert⟩ := bind_eq_ok.mp hafter
    cases hinsert
    rw [Maps.getElem?_insert, placementOf, latest_concat, ih hbefore]
    by_cases hkey : repo.key = key
    · simp [hkey, hmembership, Except.toOption]
    · simp [hkey, Ne.symm hkey, placementOf]

theorem placementOf_override {key : RepoKey} {repo : RepoIdentity} {category : CategoryName}
    (hlatest : latest repos key = some repo) (h : state.repoOverrides[key]? = some category) :
    placementOf config state repos key = some ⟨repo, category, true⟩ := by
  rw [← key_of_latest hlatest] at h
  simp only [placementOf, hlatest, Option.bind_some, resolveMembership, h]
  rfl

theorem placementOf_automatic {key : RepoKey} {repo : RepoIdentity} {category : CategoryName}
    (hlatest : latest repos key = some repo) (h : state.repoOverrides[key]? = none)
    (hcategory : automaticCategory config repo = .ok category) :
    placementOf config state repos key = some ⟨repo, category, false⟩ := by
  rw [← key_of_latest hlatest] at h
  simp only [placementOf, hlatest, Option.bind_some, resolveMembership, h, hcategory]
  rfl

theorem placementOf_congr {state' : CategoryState} {key : RepoKey}
    (h : state'.repoOverrides[key]? = state.repoOverrides[key]?) :
    placementOf config state' repos key = placementOf config state repos key := by
  unfold placementOf
  cases hlatest : latest repos key with
  | none => rfl
  | some repo =>
    rw [← key_of_latest hlatest] at h
    simp only [Option.bind_some, resolveMembership, h]

namespace EffectiveCategoryModel

def names (model : EffectiveCategoryModel) : List CategoryName :=
  model.categories.map EffectiveCategory.name

theorem category_eq_none_iff {name : CategoryName} :
    model.category name = none ↔ name ∉ model.names := by
  simp [category, names]

structure Built (config : CategoriesConfig) (configured : List CategoryName)
    (state : CategoryState) (repos : List RepoIdentity) (model : EffectiveCategoryModel) :
    Prop where
  configured_eq : configuredCategoryNames config = .ok configured
  revision : model.revision = state.revision
  categories : model.categories =
    (sortBy (shownBefore config state) (effectiveNames configured state).toList).map
      (EffectiveCategory.of config configured)
  placements : ∀ key : RepoKey, model.placements[key]? = placementOf config state repos key

theorem build_ok (h : build config state repos = .ok model) :
    state.Valid ∧ ∃ configured, Built config configured state repos model := by
  obtain ⟨hvalid, h⟩ := seq_eq_ok.mp h
  have hstate := validate_eq_ok.mp hvalid
  obtain ⟨configured, hconfigured, h⟩ := bind_eq_ok.mp h
  obtain ⟨ordered, hordered, h⟩ := bind_eq_ok.mp h
  rw [effectiveCategoryOrder_eq config state hstate.order] at hordered
  obtain ⟨placements, hplacements, h⟩ := bind_eq_ok.mp h
  cases hordered
  cases h
  exact ⟨hstate, configured, hconfigured, rfl, rfl, placements_eq hplacements⟩

theorem build_total (hstate : state.Valid) (hconfig : config.Valid) (repos : List RepoIdentity) :
    ∃ model, build config state repos = .ok model := by
  obtain ⟨configured, hconfigured⟩ := hconfig
  have hplace : ∀ repo ∈ repos, ∀ placements, ∃ placements',
      placeRepo config state placements repo = .ok placements' := by
    intro repo _ placements
    obtain ⟨membership, hmembership⟩ := resolveMembership_ok hconfigured state repo
    exact ⟨_, by rw [placeRepo, hmembership]; rfl⟩
  obtain ⟨placements, hplacements⟩ := foldlM_total hplace ∅
  have horder := effectiveCategoryOrder_eq config state hstate.order
    (effectiveNames configured state)
  generalize sortBy _ _ = ordered at horder
  refine ⟨⟨state.revision, ordered.map (EffectiveCategory.of config configured), placements⟩, ?_⟩
  refine seq_eq_ok.mpr ⟨validate_eq_ok.mpr hstate, ?_⟩
  refine bind_eq_ok.mpr ⟨configured, hconfigured, bind_eq_ok.mpr ⟨ordered, horder, ?_⟩⟩
  exact bind_eq_ok.mpr ⟨placements, hplacements, rfl⟩

namespace Built

theorem names_eq (h : Built config configured state repos model) :
    model.names = sortBy (shownBefore config state) (effectiveNames configured state).toList := by
  rw [names, h.categories, List.map_map]
  exact List.map_id _

theorem names_eq_append (h : Built config configured state repos model)
    (horder : state.categoryOrder.Nodup) : model.names =
      state.categoryOrder.filter (fun name => (effectiveNames configured state).contains name) ++
        (sortBy (baseOrder config) (effectiveNames configured state).toList).filter
          (· ∉ state.categoryOrder) := by
  have happend := effectiveCategoryOrder_eq_append config state horder
    (effectiveNames configured state)
  rw [effectiveCategoryOrder_eq config state horder] at happend
  exact h.names_eq.trans (Except.ok.inj happend)

theorem mem_names (h : Built config configured state repos model) {name : CategoryName} :
    name ∈ model.names ↔ name ∈ effectiveNames configured state := by
  rw [h.names_eq, mem_sortBy, Std.ExtTreeSet.mem_toList]

theorem nodup_names (h : Built config configured state repos model) : model.names.Nodup := by
  rw [h.names_eq, nodup_sortBy]
  exact Maps.nodup_toList_set _

theorem configured_shown (h : Built config configured state repos model) {name : CategoryName}
    (hname : name ∈ configured) : name ∈ model.names :=
  h.mem_names.mpr (mem_effectiveNames.mpr (Or.inl hname))

theorem placement_cases (h : Built config configured state repos model) {key : RepoKey}
    {placement : EffectiveRepoPlacement} (hplaced : model.placements[key]? = some placement) :
    latest repos key = some placement.repo ∧
      (state.repoOverrides[key]? = some placement.category ∧ placement.explicit = true ∨
        state.repoOverrides[key]? = none ∧ placement.explicit = false ∧
          automaticCategory config placement.repo = .ok placement.category) := by
  rw [h.placements, placementOf, Option.bind_eq_some_iff] at hplaced
  obtain ⟨repo, hrepo, hplaced⟩ := hplaced
  obtain ⟨membership, hmembership, rfl⟩ := Option.map_eq_some_iff.mp hplaced
  refine ⟨hrepo, ?_⟩
  rw [← key_of_latest hrepo]
  unfold resolveMembership at hmembership
  cases hoverride : state.repoOverrides[repo.key]? with
  | some category =>
    rw [hoverride] at hmembership
    cases hmembership
    exact Or.inl ⟨rfl, rfl⟩
  | none =>
    rw [hoverride] at hmembership
    obtain ⟨name, hname, -⟩ := automaticCategory_ok h.configured_eq repo
    rw [hname] at hmembership
    cases hmembership
    exact Or.inr ⟨rfl, rfl, hname⟩

theorem placement_shown (h : Built config configured state repos model) {key : RepoKey}
    {placement : EffectiveRepoPlacement} (hplaced : model.placements[key]? = some placement) :
    placement.category ∈ model.names := by
  rw [h.mem_names, mem_effectiveNames]
  obtain ⟨-, ⟨hoverride, -⟩ | ⟨-, -, hautomatic⟩⟩ := h.placement_cases hplaced
  · exact Or.inr (Or.inr (Or.inl ⟨key, hoverride⟩))
  · obtain ⟨name, hname, hor⟩ := automaticCategory_ok h.configured_eq placement.repo
    cases hautomatic.symm.trans hname
    rcases hor with heq | hmem
    · exact Or.inr (Or.inr (Or.inr heq))
    · exact Or.inl hmem

theorem storedName (h : Built config configured state repos model) (hstate : state.Valid)
    {name : CategoryName} (hname : name ∈ model.names) : StoredName name := by
  rcases mem_effectiveNames.mp (h.mem_names.mp hname) with hmem | hmem | ⟨key, hkey⟩ | rfl
  · exact storedName_of_configured h.configured_eq hmem
  · exact hstate.dynamic name hmem
  · exact hstate.overrides key name hkey
  · exact if_pos rfl

theorem category_eq_of (h : Built config configured state repos model) {entry : EffectiveCategory}
    (hentry : entry ∈ model.categories) :
    entry = EffectiveCategory.of config configured entry.name := by
  rw [h.categories] at hentry
  obtain ⟨name, -, rfl⟩ := List.mem_map.mp hentry
  rfl

theorem dynamic_iff (h : Built config configured state repos model) {name : CategoryName} :
    validateMutableCategory model name = .ok () ↔
      name ∈ model.names ∧ name ∉ configured ∧ name ≠ uncategorized := by
  unfold validateMutableCategory
  cases hfind : model.category name with
  | none => simp [category_eq_none_iff.mp hfind]
  | some entry =>
    have hmem := List.mem_of_find?_eq_some hfind
    have hname : entry.name = name := by simpa using List.find?_some hfind
    have hshown : name ∈ model.names := List.mem_map.mpr ⟨entry, hmem, hname⟩
    have hsource := congrArg EffectiveCategory.source (h.category_eq_of hmem)
    simp only [EffectiveCategory.of, hname] at hsource
    dsimp only
    rw [hsource]
    split_ifs with hsystem hconf
    · simp [hsystem]
    · simp [hconf]
    · simp [hshown, hsystem, hconf]

end Built

theorem mem_members {name : CategoryName} {key : RepoKey} : key ∈ model.members name ↔
    ∃ placement, model.placements[key]? = some placement ∧ placement.category = name := by
  simp only [members, List.mem_map, List.mem_filter, Prod.exists, decide_eq_true_eq,
    Std.ExtTreeMap.mem_toList_iff_getElem?_eq_some]
  constructor
  · rintro ⟨k, placement, ⟨hk, hname⟩, rfl⟩
    exact ⟨placement, hk, hname⟩
  · rintro ⟨placement, hk, hname⟩
    exact ⟨key, placement, ⟨hk, hname⟩, rfl⟩

theorem nodup_members (model : EffectiveCategoryModel) (name : CategoryName) :
    (model.members name).Nodup := by
  rw [members, List.nodup_map_iff_inj_on ((Maps.nodup_toList _).filter _)]
  rintro ⟨k, placement⟩ h ⟨k', placement'⟩ h' rfl
  have hk := Std.ExtTreeMap.mem_toList_iff_getElem?_eq_some.mp (List.mem_filter.mp h).1
  have hk' := Std.ExtTreeMap.mem_toList_iff_getElem?_eq_some.mp (List.mem_filter.mp h').1
  cases hk.symm.trans hk'
  rfl

section Repos
variable (stored : Option (List RepoKey))

instance : Std.TransCmp (model.repoOrdering stored) := by unfold repoOrdering; infer_instance
instance : Std.LawfulEqCmp (model.repoOrdering stored) := by unfold repoOrdering; infer_instance

end Repos

theorem mem_orderedRepos {name : CategoryName} {key : RepoKey} :
    key ∈ model.orderedRepos state name ↔ key ∈ model.members name := mem_sortBy

theorem orderedRepos_congr {state' : CategoryState} {model' : EffectiveCategoryModel}
    {name : CategoryName} (hplacements : model'.placements = model.placements)
    (horder : state'.repoOrder[name]? = state.repoOrder[name]?) :
    model'.orderedRepos state' name = model.orderedRepos state name := by
  have hdisplay : model'.displayName = model.displayName := by
    funext key
    rw [displayName, displayName, hplacements]
  rw [orderedRepos, orderedRepos, repoOrdering, repoOrdering, members, members, horder, hplacements,
    hdisplay]

theorem nodup_orderedRepos (model : EffectiveCategoryModel) (state : CategoryState)
    (name : CategoryName) : (model.orderedRepos state name).Nodup :=
  nodup_sortBy.mpr (nodup_members model name)

end EffectiveCategoryModel

end Built

end VdeTmux.Category
