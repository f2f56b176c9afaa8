import VdeTmux.Foundation.Digest
import VdeTmux.Foundation.Maps
import VdeTmux.Foundation.Outcome
import VdeTmux.Foundation.Sorting
import VdeTmux.Foundation.Text

/-!
# Categories of repositories

The stored category state, the configuration it is shown under, the effective model built from
both, and the intents that edit the state. An intent works on a copy: when it fails the copy is
dropped.
-/

open Foundation
namespace VdeTmux.Category

def categoryStateSchemaVersion : ℕ := 1
def uncategorized : String := "Uncategorized"
def automaticLabel : String := "Automatic (config)"
def categoryNameMaxBytes : ℕ := 256

def maxRevision : ℕ := 2 ^ 64 - 1

abbrev CategoryName := String
abbrev RepoKey := String

def CategoryName.parse (value : String) : Except String CategoryName := do
  let trimmed := Text.trim value
  refuse (trimmed = "") "category name is empty"
  refuse (categoryNameMaxBytes < Text.byteLen trimmed)
    s!"category name exceeds {categoryNameMaxBytes} UTF-8 bytes"
  refuse (Text.hasControl trimmed) "category name contains a control character"
  refuse (trimmed = uncategorized ∨ trimmed = automaticLabel)
    s!"category name is reserved: {trimmed}"
  return trimmed

inductive CategorySource
  | configured
  | dynamic
  | system
deriving DecidableEq

inductive MembershipTarget
  | category (name : CategoryName)
  | automatic
deriving DecidableEq

inductive MoveDirection
  | up
  | down
deriving DecidableEq

structure RepoIdentity where
  key : RepoKey
  rulePath : String
  displayName : String
deriving DecidableEq

structure CategoryRule where
  category : String
  pathPatterns : List String

structure CategoriesConfig where
  displayNames : Std.ExtTreeMap String String := ∅
  order : Std.ExtTreeMap String ℤ := ∅
  defaultCategory : Option String := none
  rules : List CategoryRule := []

structure CategoryState where
  schemaVersion : ℕ := categoryStateSchemaVersion
  revision : ℕ := 0
  dynamicCategories : Std.ExtTreeSet CategoryName := ∅
  categoryOrder : List CategoryName := []
  repoOverrides : Std.ExtTreeMap RepoKey CategoryName := ∅
  repoOrder : Std.ExtTreeMap CategoryName (List RepoKey) := ∅

inductive CategoryIntent
  | createCategory (name : CategoryName)
  | renameCategory (current replacement : CategoryName)
  | deleteCategory (category : CategoryName) (replacement : MembershipTarget)
  | assignRepo (repo : RepoKey) (category : CategoryName)
  | setRepoAutomatic (repo : RepoKey)
  | moveCategory (category neighbor : CategoryName) (direction : MoveDirection)
  | moveRepo (repo neighbor : RepoKey) (category : CategoryName) (direction : MoveDirection)
deriving DecidableEq

structure EffectiveCategory where
  name : CategoryName
  source : CategorySource
  displayName : String
deriving DecidableEq

structure EffectiveRepoPlacement where
  repo : RepoIdentity
  category : CategoryName
  explicit : Bool
deriving DecidableEq

structure EffectiveCategoryModel where
  revision : ℕ := 0
  categories : List EffectiveCategory := []
  placements : Std.ExtTreeMap RepoKey EffectiveRepoPlacement := ∅

def validateUnique {α : Type} [DecidableEq α] (values : List α) (label : String) :
    Except String Unit :=
  refuse (¬values.Nodup) s!"{label} contains duplicate entries"

def validateStoredCategoryName (name : CategoryName) : Except String Unit :=
  if name = uncategorized then .ok () else (CategoryName.parse name).map fun _ => ()

def validateMutableName (name : CategoryName) : Except String Unit :=
  (CategoryName.parse name).map fun _ => ()

def CategoryState.validate (state : CategoryState) : Except String Unit := do
  refuse (state.schemaVersion ≠ categoryStateSchemaVersion)
    s!"unsupported category state schema version: {state.schemaVersion}"
  validateUnique state.categoryOrder "category order"
  state.repoOrder.toList.forM fun (category, repos) => do
    validateStoredCategoryName category
    validateUnique repos s!"repository order for {category}"
  state.dynamicCategories.toList.forM validateStoredCategoryName
  (Maps.values state.repoOverrides).forM validateStoredCategoryName

def CategoriesConfig.names (config : CategoriesConfig) : List String :=
  config.rules.map CategoryRule.category ++ config.defaultCategory.toList ++
    config.displayNames.keys ++ config.order.keys

def configuredCategoryNames (config : CategoriesConfig) : Except String (List CategoryName) := do
  let names ← config.names.mapM CategoryName.parse
  return (Std.ExtTreeSet.ofList names).toList

def questionMark : UInt8 := 63
def star : UInt8 := 42

/-- The loop of `wildcard_match`: a mismatch after a star lets the star take one more byte. -/
def wildcardLoop (pattern text : List UInt8) (patternIndex textIndex : ℕ)
    (starIndex : Option ℕ) (matchIndex : ℕ) (h : matchIndex ≤ textIndex) : Bool :=
  if ht : textIndex < text.length then
    if hp : patternIndex < pattern.length ∧ (pattern[patternIndex]? = text[textIndex]? ∨
        pattern[patternIndex]? = some questionMark) then
      wildcardLoop pattern text (patternIndex + 1) (textIndex + 1) starIndex matchIndex (by omega)
    else if hs : patternIndex < pattern.length ∧ pattern[patternIndex]? = some star then
      wildcardLoop pattern text (patternIndex + 1) textIndex (some patternIndex) textIndex le_rfl
    else match starIndex with
      | some found =>
        wildcardLoop pattern text (found + 1) (matchIndex + 1) (some found) (matchIndex + 1) le_rfl
      | none => false
  else ((pattern.drop patternIndex).dropWhile (· = star)).isEmpty
termination_by (text.length - matchIndex,
  (text.length - textIndex) + (pattern.length - patternIndex))
decreasing_by
  all_goals
    rw [Prod.lex_def]
    omega

def wildcardMatch (pattern text : String) : Bool :=
  wildcardLoop (utf8 pattern) (utf8 text) 0 0 none 0 le_rfl

def afterSlashes : List Char → List (List Char)
  | [] => []
  | c :: rest => if c = '/' then rest :: afterSlashes rest else afterSlashes rest

def matchesPathPattern (pattern path : String) : Bool :=
  wildcardMatch pattern path ||
    (afterSlashes path.toList).any fun rest => wildcardMatch pattern (String.ofList rest)

def automaticCategory (config : CategoriesConfig) (repo : RepoIdentity) :
    Except String CategoryName :=
  match config.rules.find? fun rule =>
      rule.pathPatterns.any fun pattern => matchesPathPattern pattern repo.rulePath with
  | some rule => CategoryName.parse rule.category
  | none =>
    match config.defaultCategory.filter fun value => !Text.isBlank value with
    | some default => CategoryName.parse default
    | none => .ok uncategorized

def resolveMembership (config : CategoriesConfig) (state : CategoryState) (repo : RepoIdentity) :
    Except String (CategoryName × Bool) :=
  match state.repoOverrides[repo.key]? with
  | some category => .ok (category, true)
  | none => (automaticCategory config repo).map fun category => (category, false)

def configuredPosition (config : CategoriesConfig) (name : CategoryName) : ℤ :=
  config.order[name]?.getD (2 ^ 63 - 1)

def baseOrder (config : CategoriesConfig) : CategoryName → CategoryName → Ordering :=
  compareLex (compareOn (configuredPosition config)) compare

def effectiveCategoryOrder (config : CategoriesConfig) (state : CategoryState)
    (names : Std.ExtTreeSet CategoryName) : Except String (List CategoryName) := do
  let base := sortBy (baseOrder config) names.toList
  if state.categoryOrder = [] then return base
  let stored := state.categoryOrder.filter fun name => names.contains name
  let ordered := appendMissing stored base
  validateUnique ordered "effective category order"
  return ordered

def EffectiveCategory.of (config : CategoriesConfig) (configured : List CategoryName)
    (name : CategoryName) : EffectiveCategory where
  name := name
  source :=
    if name = uncategorized then .system
    else if name ∈ configured then .configured
    else .dynamic
  displayName := config.displayNames[name]?.getD name

def effectiveNames (configured : List CategoryName) (state : CategoryState) :
    Std.ExtTreeSet CategoryName :=
  (((Std.ExtTreeSet.ofList configured).insertMany state.dynamicCategories.toList).insertMany
    (Maps.values state.repoOverrides)).insert uncategorized

def placeRepo (config : CategoriesConfig) (state : CategoryState)
    (placements : Std.ExtTreeMap RepoKey EffectiveRepoPlacement) (repo : RepoIdentity) :
    Except String (Std.ExtTreeMap RepoKey EffectiveRepoPlacement) := do
  let (category, explicit) ← resolveMembership config state repo
  return placements.insert repo.key ⟨repo, category, explicit⟩

namespace EffectiveCategoryModel

def build (config : CategoriesConfig) (state : CategoryState) (repos : List RepoIdentity) :
    Except String EffectiveCategoryModel := do
  state.validate
  let configured ← configuredCategoryNames config
  let ordered ← effectiveCategoryOrder config state (effectiveNames configured state)
  let placements ← repos.foldlM (placeRepo config state) ∅
  return ⟨state.revision, ordered.map (EffectiveCategory.of config configured), placements⟩

def category (model : EffectiveCategoryModel) (name : CategoryName) : Option EffectiveCategory :=
  model.categories.find? fun category => category.name = name

def members (model : EffectiveCategoryModel) (category : CategoryName) : List RepoKey :=
  (model.placements.toList.filter fun entry => entry.2.category = category).map Prod.fst

def displayName (model : EffectiveCategoryModel) (repo : RepoKey) : String :=
  (model.placements[repo]?.map fun placement => placement.repo.displayName).getD ""

def repoOrdering (model : EffectiveCategoryModel) (stored : Option (List RepoKey)) :
    RepoKey → RepoKey → Ordering :=
  compareLex (compareOn fun repo => stored.bind (List.idxOf? repo))
    (compareLex (compareOn model.displayName) compare)

def orderedRepos (model : EffectiveCategoryModel) (state : CategoryState)
    (category : CategoryName) : List RepoKey :=
  sortBy (model.repoOrdering state.repoOrder[category]?) (model.members category)

end EffectiveCategoryModel

def validateMutableCategory (model : EffectiveCategoryModel) (category : CategoryName) :
    Except String Unit :=
  match model.category category with
  | none => .error s!"unknown category: {category}"
  | some found =>
    match found.source with
    | .dynamic => .ok ()
    | .configured => .error s!"configured category is read-only: {found.name}"
    | .system => .error s!"system category is read-only: {found.name}"

def validateDeleteReplacement (model : EffectiveCategoryModel) (category : CategoryName) :
    MembershipTarget → Except String Unit
  | .automatic => .ok ()
  | .category replacement => do
    refuse (replacement = category) "category cannot be deleted into itself"
    refuse (model.category replacement = none) s!"unknown replacement category: {replacement}"

def replaceName (current replacement name : CategoryName) : CategoryName :=
  if name = current then replacement else name

def replaceCategoryName (state : CategoryState) (current replacement : CategoryName) :
    CategoryState :=
  { state with
    dynamicCategories := (state.dynamicCategories.erase current).insert replacement
    categoryOrder := state.categoryOrder.map (replaceName current replacement)
    repoOverrides := state.repoOverrides.map fun _ => replaceName current replacement
    repoOrder :=
      match state.repoOrder[current]? with
      | some order => (state.repoOrder.erase current).insert replacement order
      | none => state.repoOrder }

def moveRepoToCategoryEnd (state : CategoryState) (repo : RepoKey)
    (previous : Option CategoryName) (category : CategoryName) : CategoryState :=
  let pruned := state.repoOrder.map fun candidate repos =>
    if previous.all (candidate = ·) ∨ candidate = category then repos.filter (· ≠ repo) else repos
  { state with repoOrder := pruned.insert category (pruned[category]?.getD [] ++ [repo]) }

def releaseRepo (config : CategoriesConfig) (model : EffectiveCategoryModel)
    (replacement : MembershipTarget) (state : CategoryState) (repo : RepoKey) :
    Except String CategoryState :=
  match replacement with
  | .category replacement =>
    .ok (moveRepoToCategoryEnd
      { state with repoOverrides := state.repoOverrides.insert repo replacement }
      repo none replacement)
  | .automatic =>
    let state := { state with repoOverrides := state.repoOverrides.erase repo }
    match model.placements[repo]? with
    | none => .ok state
    | some placement => do
      let (automatic, _) ← resolveMembership config state placement.repo
      return moveRepoToCategoryEnd state repo none automatic

def deleteCategory (config : CategoriesConfig) (model : EffectiveCategoryModel)
    (state : CategoryState) (category : CategoryName) (replacement : MembershipTarget) :
    Except String CategoryState :=
  let affected := (state.repoOverrides.toList.filter fun entry => entry.2 = category).map Prod.fst
  affected.foldlM (releaseRepo config model replacement)
    { state with
      dynamicCategories := state.dynamicCategories.erase category
      categoryOrder := state.categoryOrder.filter (· ≠ category)
      repoOrder := state.repoOrder.erase category }

def materializeCategoryOrder (state : CategoryState) (model : EffectiveCategoryModel) :
    List CategoryName :=
  appendMissing (model.categories.map EffectiveCategory.name) state.categoryOrder

def materializeRepoOrder (order : List RepoKey) (model : EffectiveCategoryModel)
    (category : CategoryName) : List RepoKey :=
  appendMissing order (model.members category)

def moveRelative {α : Type} [DecidableEq α] (values : List α) (value neighbor : α)
    (direction : MoveDirection) : Except String (List α) := do
  refuse (value = neighbor) "value and neighbor must differ"
  let index ← (values.idxOf? value).elim (.error "value is not present in order") .ok
  let neighborIndex ←
    (values.idxOf? neighbor).elim (.error "neighbor is not present in order") .ok
  let expected :=
    match direction with
    | .up => if index = 0 then none else some (index - 1)
    | .down => if index + 1 < values.length then some (index + 1) else none
  refuse (expected ≠ some neighborIndex)
    "value and neighbor are not adjacent in the requested direction"
  return swapAt values index neighborIndex

def CategoryIntent.edit (config : CategoriesConfig) (model : EffectiveCategoryModel)
    (state : CategoryState) : CategoryIntent → Except String (Bool × CategoryState)
  | .createCategory name => do
    validateMutableName name
    refuse (model.category name ≠ none) s!"category already exists: {name}"
    return (true, { state with
      dynamicCategories := state.dynamicCategories.insert name
      categoryOrder := state.categoryOrder ++ [name] })
  | .renameCategory current replacement => do
    validateMutableCategory model current
    validateMutableName replacement
    if current = replacement then
      return (false, state)
    else
      refuse (model.category replacement ≠ none) s!"category already exists: {replacement}"
      return (true, replaceCategoryName state current replacement)
  | .deleteCategory category replacement => do
    validateMutableCategory model category
    validateDeleteReplacement model category replacement
    let deleted ← Category.deleteCategory config model state category replacement
    return (true, deleted)
  | .assignRepo repo category => do
    refuse (model.category category = none) s!"unknown category: {category}"
    let previous := state.repoOverrides[repo]?
    return (previous ≠ some category, moveRepoToCategoryEnd
      { state with repoOverrides := state.repoOverrides.insert repo category }
      repo previous category)
  | .setRepoAutomatic repo =>
    match state.repoOverrides[repo]? with
    | none => .ok (false, state)
    | some previous =>
      .ok (true, { state with
        repoOverrides := state.repoOverrides.erase repo
        repoOrder := state.repoOrder.modify previous fun repos => repos.filter (· ≠ repo) })
  | .moveCategory category neighbor direction => do
    let order ← moveRelative (materializeCategoryOrder state model) category neighbor direction
    return (true, { state with categoryOrder := order })
  | .moveRepo repo neighbor category direction => do
    let effective ←
      model.placements[repo]?.elim (.error s!"unknown repository: {repo}") .ok
    let neighborEffective ←
      model.placements[neighbor]?.elim (.error s!"unknown repository: {neighbor}") .ok
    refuse (effective.category ≠ category ∨ neighborEffective.category ≠ category)
      "repository reorder cannot cross a category boundary"
    let order := materializeRepoOrder (state.repoOrder[category]?.getD []) model category
    let order ← moveRelative order repo neighbor direction
    return (true, { state with repoOrder := state.repoOrder.insert category order })

def CategoryState.bump (state : CategoryState) (changed : Bool) : Except String CategoryState :=
  if changed then
    (increment maxRevision "category state revision overflow" state.revision).map fun revision =>
      { state with revision }
  else .ok state

def CategoryState.applyIntent (config : CategoriesConfig) (model : EffectiveCategoryModel)
    (state : CategoryState) (intent : CategoryIntent) : Except String (Bool × CategoryState) := do
  let configured ← configuredCategoryNames config
  let (changed, edited) ← intent.edit config model state
  let next ← edited.bump changed
  next.validate
  configured.forM validateStoredCategoryName
  return (changed, next)

def CategoryState.commit (state : CategoryState) :
    Except String (Bool × CategoryState) → CategoryState
  | .ok (true, candidate) => candidate
  | _ => state

end VdeTmux.Category
