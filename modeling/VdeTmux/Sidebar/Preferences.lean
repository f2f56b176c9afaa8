import VdeTmux.Foundation.Lines
import VdeTmux.Pane.Runtime

/-!
# The preferences of the sidebar

What the sidebar stores of its manual orders, pins, filters and open rows, and the intents that
change it. An intent tells whether it changed anything.
-/

open Foundation Foundation.Text VdeTmux.Pane
namespace VdeTmux.Sidebar

structure RepoId where
  category : String
  repo : String
deriving DecidableEq

inductive CategoryScope
  | current
  | all
deriving DecidableEq

inductive PresentationMode
  | tree
  | priority
  | flat
deriving DecidableEq

inductive StatusFilter
  | all
  | attentionOnly
  | limitedOnly
  | workingOnly
  | doneOnly
  | idleOnly
deriving DecidableEq

structure SidebarNavigation where
  revision : ℕ := 0
  selection : Option String := none
  scroll : ℕ := 0
  manualScroll : Bool := false
deriving DecidableEq

def sidebarPreferencesSchemaVersion : ℕ := 3

structure SidebarPreferences where
  schemaVersion : ℕ := sidebarPreferencesSchemaVersion
  manualOrder : List RepoId := []
  manualChatOrder : List String := []
  pinnedPanes : Std.ExtTreeSet PaneInstance := ∅
  categoryScope : CategoryScope := .current
  presentationMode : PresentationMode := .tree
  filter : StatusFilter := .all
  expansionOverrides : Std.ExtTreeSet String := ∅
deriving DecidableEq

inductive MoveDirection
  | up
  | down
deriving DecidableEq

inductive SidebarPreferenceIntent
  | moveRepo (repo neighbor : RepoId) (direction : MoveDirection)
  | moveChat (paneId neighborPaneId : String) (direction : MoveDirection)
  | setPanePinned (paneInstance : PaneInstance) (pinned : Bool)
  | setDefaultCategoryScope (categoryScope : CategoryScope)
  | setDefaultPresentationMode (presentationMode : PresentationMode)
  | setDefaultFilter (filter : StatusFilter)
  | setExpanded (rowId : String) (expanded : Bool)
deriving DecidableEq

def chatStart : List Char := "chat::".toList

def chatRowId (pane : PaneInstance) : String := s!"chat::{pane.paneId}::{pane.panePid}"

def repoRowId (repo : RepoId) : String := s!"repo::{repo.category}::{repo.repo}"

def chatRowMatches (rowId paneId : String) : Bool :=
  ((stripStart chatStart rowId.toList).bind (splitOnce "::".toList)).any fun (candidate, _) =>
    candidate = paneId.toList

def placeItem {α : Type} [DecidableEq α] (order : List α) (item neighbor : α) :
    MoveDirection → List α
  | .up =>
    match order.idxOf? neighbor with
    | some index => order.insertIdx index item
    | none => order ++ [item, neighbor]
  | .down =>
    match order.idxOf? neighbor with
    | some index => order.insertIdx (index + 1) item
    | none => order ++ [neighbor, item]

def moveRelative {α : Type} [DecidableEq α] (order : List α) (item neighbor : α)
    (direction : MoveDirection) : Bool × List α :=
  if item = neighbor then (false, order)
  else
    let moved := placeItem (order.filter (· ≠ item)) item neighbor direction
    (moved ≠ order, moved)

namespace SidebarPreferences

def validate (preferences : SidebarPreferences) : Except String Unit := do
  refuse (preferences.schemaVersion ≠ sidebarPreferencesSchemaVersion)
    s!"unsupported sidebar preferences schema version {preferences.schemaVersion}"
  refuse (preferences.expansionOverrides.toList.any isBlank = true)
    "sidebar expansion row ID must not be empty"
  preferences.pinnedPanes.toList.forM fun pane => pane.validate.mapError (·.message)

def applyIntent (preferences : SidebarPreferences) (intent : SidebarPreferenceIntent)
    (knownRows : Std.ExtTreeSet String) : Bool × SidebarPreferences :=
  match intent with
  | .moveRepo repo neighbor direction =>
    if repoRowId repo ∉ knownRows ∨ repoRowId neighbor ∉ knownRows then (false, preferences)
    else
      let (changed, order) := moveRelative preferences.manualOrder repo neighbor direction
      (changed, { preferences with manualOrder := order })
  | .moveChat paneId neighborPaneId direction =>
    if (knownRows.toList.any fun rowId => chatRowMatches rowId paneId) = false ∨
        (knownRows.toList.any fun rowId => chatRowMatches rowId neighborPaneId) = false then
      (false, preferences)
    else
      let (changed, order) :=
        moveRelative preferences.manualChatOrder paneId neighborPaneId direction
      (changed, { preferences with manualChatOrder := order })
  | .setPanePinned paneInstance pinned =>
    if chatRowId paneInstance ∉ knownRows then (false, preferences)
    else if pinned then
      (paneInstance ∉ preferences.pinnedPanes,
        { preferences with pinnedPanes := preferences.pinnedPanes.insert paneInstance })
    else
      (paneInstance ∈ preferences.pinnedPanes,
        { preferences with pinnedPanes := preferences.pinnedPanes.erase paneInstance })
  | .setDefaultCategoryScope categoryScope =>
    if preferences.categoryScope = categoryScope then (false, preferences)
    else (true, { preferences with categoryScope := categoryScope })
  | .setDefaultPresentationMode presentationMode =>
    if preferences.presentationMode = presentationMode then (false, preferences)
    else (true, { preferences with presentationMode := presentationMode })
  | .setDefaultFilter filter =>
    if preferences.filter = filter then (false, preferences)
    else (true, { preferences with filter := filter })
  | .setExpanded rowId expanded =>
    if rowId ∉ knownRows then (false, preferences)
    else
      let defaultOpen := (stripStart chatStart rowId.toList).isNone
      let overridden := defaultOpen != expanded
      if preferences.expansionOverrides.contains rowId = overridden then (false, preferences)
      else
        (true, { preferences with
          expansionOverrides :=
            if overridden then preferences.expansionOverrides.insert rowId
            else preferences.expansionOverrides.erase rowId })

def retainPanes (preferences : SidebarPreferences) (panes : Std.ExtTreeSet PaneInstance) :
    Bool × SidebarPreferences :=
  let pinned := preferences.pinnedPanes.filter fun pane => panes.contains pane
  (pinned.size ≠ preferences.pinnedPanes.size, { preferences with pinnedPanes := pinned })

theorem moveRelative_changed {α : Type} [DecidableEq α] {order moved : List α} {item neighbor : α}
    {direction : MoveDirection} (h : moveRelative order item neighbor direction = (true, moved)) :
    moved ≠ order := by
  unfold moveRelative at h
  by_cases hsame : item = neighbor
  · rw [if_pos hsame] at h
    cases h
  · rw [if_neg hsame] at h
    obtain ⟨hchanged, rfl⟩ := Prod.mk.inj h
    exact of_decide_eq_true hchanged

theorem applyIntent_changed {preferences candidate : SidebarPreferences}
    {intent : SidebarPreferenceIntent} {knownRows : Std.ExtTreeSet String}
    (h : preferences.applyIntent intent knownRows = (true, candidate)) :
    candidate ≠ preferences := by
  intro hsame
  cases intent with
  | moveRepo repo neighbor direction =>
    simp only [applyIntent] at h
    split_ifs at h
    · cases h
    · obtain ⟨hchanged, hcandidate⟩ := Prod.mk.inj h
      have horder := congrArg manualOrder (hcandidate.trans hsame)
      exact moveRelative_changed (Prod.ext hchanged rfl) horder
  | moveChat paneId neighborPaneId direction =>
    simp only [applyIntent] at h
    split_ifs at h
    · cases h
    · obtain ⟨hchanged, hcandidate⟩ := Prod.mk.inj h
      have horder := congrArg manualChatOrder (hcandidate.trans hsame)
      exact moveRelative_changed (Prod.ext hchanged rfl) horder
  | setPanePinned paneInstance pinned =>
    simp only [applyIntent] at h
    by_cases hknown : chatRowId paneInstance ∉ knownRows
    · rw [if_pos hknown] at h
      cases h
    rw [if_neg hknown] at h
    cases pinned with
    | true =>
      obtain ⟨hchanged, hcandidate⟩ := Prod.mk.inj h
      have hpanes := congrArg pinnedPanes (hcandidate.trans hsame)
      apply of_decide_eq_true hchanged
      rw [← hpanes]
      exact Std.ExtTreeSet.mem_insert_self
    | false =>
      obtain ⟨hchanged, hcandidate⟩ := Prod.mk.inj h
      have hpanes := congrArg pinnedPanes (hcandidate.trans hsame)
      have hin := of_decide_eq_true hchanged
      rw [← hpanes] at hin
      simp at hin
  | setDefaultCategoryScope categoryScope =>
    simp only [applyIntent] at h
    split_ifs at h with hscope
    · cases h
    · obtain ⟨-, hcandidate⟩ := Prod.mk.inj h
      exact hscope (congrArg SidebarPreferences.categoryScope (hcandidate.trans hsame)).symm
  | setDefaultPresentationMode presentationMode =>
    simp only [applyIntent] at h
    split_ifs at h with hmode
    · cases h
    · obtain ⟨-, hcandidate⟩ := Prod.mk.inj h
      exact hmode (congrArg SidebarPreferences.presentationMode (hcandidate.trans hsame)).symm
  | setDefaultFilter filter =>
    simp only [applyIntent] at h
    split_ifs at h with hfilter
    · cases h
    · obtain ⟨-, hcandidate⟩ := Prod.mk.inj h
      exact hfilter (congrArg SidebarPreferences.filter (hcandidate.trans hsame)).symm
  | setExpanded rowId expanded =>
    simp only [applyIntent] at h
    by_cases hknown : rowId ∉ knownRows
    · rw [if_pos hknown] at h
      cases h
    rw [if_neg hknown] at h
    generalize ((stripStart chatStart rowId.toList).isNone != expanded) = overridden at h
    by_cases hsettled : preferences.expansionOverrides.contains rowId = overridden
    · rw [if_pos hsettled] at h
      cases h
    rw [if_neg hsettled] at h
    obtain ⟨-, hcandidate⟩ := Prod.mk.inj h
    have hrows := congrArg expansionOverrides (hcandidate.trans hsame)
    apply hsettled
    rw [← hrows]
    cases overridden with
    | true => exact Std.ExtTreeSet.contains_iff_mem.mpr Std.ExtTreeSet.mem_insert_self
    | false => simp

end SidebarPreferences

end VdeTmux.Sidebar
