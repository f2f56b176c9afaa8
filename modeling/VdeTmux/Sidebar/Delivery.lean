import VdeTmux.Category.Edits
import VdeTmux.Sidebar.Preferences

/-!
# Delivering intents

How the coordinator takes a preference, category or navigation intent: the filter of recent event
ids, the change to a copy, the save and the replacement in memory. What the projection shows, how
far a save gets and what the check of the projected snapshot answers is given from outside.
-/

open Foundation VdeTmux.Pane VdeTmux.Category
namespace VdeTmux.Sidebar

deriving instance DecidableEq for CategoryState

instance : Ord EventId := ⟨compareOn (·.value)⟩

instance : Std.TransOrd EventId := inferInstanceAs (Std.TransCmp (compareOn _))

instance : Std.LawfulEqOrd EventId where
  eq_of_compare {a b} h := by
    rcases a with ⟨a⟩
    rcases b with ⟨b⟩
    obtain rfl : a = b := Std.LawfulEqOrd.eq_of_compare h
    rfl

structure SidebarIntentDedupe where
  order : List EventId := []
  seen : Std.ExtTreeSet EventId := ∅

namespace SidebarIntentDedupe

def capacity : ℕ := 256

def accept (dedupe : SidebarIntentDedupe) (eventId : EventId) : Bool × SidebarIntentDedupe :=
  if eventId ∈ dedupe.seen then (false, dedupe)
  else
    let seen := dedupe.seen.insert eventId
    let order := dedupe.order ++ [eventId]
    match order with
    | expired :: rest =>
      if capacity < order.length then (true, ⟨rest, seen.erase expired⟩) else (true, ⟨order, seen⟩)
    | [] => (true, ⟨order, seen⟩)

end SidebarIntentDedupe

inductive ErrorCode
  | invalidRequest
  | invalidPaneInstance
  | staleStateIdentity
  | staleSelection
  | staleAgentEvent
  | invalidProgressOperation
  | stateInvariantViolation
  | stateTooLarge
  | persistFailed
  | internalError
deriving DecidableEq

def storeErrorCode : StoreError → ErrorCode
  | .stateTooLarge => .stateTooLarge
  | .persistFailed _ => .persistFailed
  | .failStop _ | .counterOverflow _ | .random _ => .internalError
  | .reduce (.invalidRequest _) | .reduce .missingStateId => .invalidRequest
  | .reduce .invalidPaneInstance => .invalidPaneInstance
  | .reduce .staleStateIdentity => .staleStateIdentity
  | .reduce .staleSelection => .staleSelection
  | .reduce .staleAgentEvent => .staleAgentEvent
  | .reduce (.invalidProgressOperation _) => .invalidProgressOperation
  | .reduce (.stateInvariantViolation _) => .stateInvariantViolation
  | .reduce (.counterOverflow _) => .internalError

def reduceErrorText : ReduceError → String
  | .invalidRequest message | .invalidProgressOperation message
  | .stateInvariantViolation message => message
  | .invalidPaneInstance => "invalid pane instance"
  | .staleStateIdentity => "stale state identity"
  | .staleSelection => "stale sidebar selection"
  | .staleAgentEvent => "stale agent event"
  | .counterOverflow counter => s!"{counter} counter overflow"
  | .missingStateId => "a preallocated state ID is required"

def storeErrorText : StoreError → String
  | .stateTooLarge => "serialized pane snapshot exceeds 16 MiB"
  | .persistFailed message | .failStop message | .random message => message
  | .counterOverflow counter => s!"{counter} counter overflow"
  | .reduce error => reduceErrorText error

structure CategoryRepoMutationEffect where
  repo : RepoKey
  beforeOverride : Option CategoryName
  afterOverride : Option CategoryName
deriving DecidableEq

inductive ServerMessage
  | snapshotAck (eventId : EventId) (acceptedSeq snapshotRevision : ℕ)
  | categoryMutationResult (eventId : EventId) (acceptedSeq snapshotRevision : ℕ)
      (categoryStateRevision : ℕ) (changed : Bool) (repoEffect : Option CategoryRepoMutationEffect)
  | error (code : ErrorCode) (message : String) (eventId : Option EventId)
deriving DecidableEq

structure DaemonDiagnostic where
  code : ErrorCode
  message : String
deriving DecidableEq

structure Saved where
  preferences : SidebarPreferences := {}
  categories : CategoryState := {}
deriving DecidableEq

structure Coordinator where
  runtime : CanonicalStateRuntime := {}
  projectionConfig : CategoriesConfig := {}
  repoIdentities : Std.ExtTreeMap String RepoIdentity := ∅
  sidebarPreferences : SidebarPreferences := {}
  categoryState : CategoryState := {}
  sidebarNavigation : SidebarNavigation := {}
  sidebarIntentDedupe : SidebarIntentDedupe := {}
  globalDiagnostics : List DaemonDiagnostic := []
  failStopped : Bool := false
  files : Saved := {}

/-- How far a save gets: the directory is synced after the file was replaced. -/
inductive SaveOutcome
  | saved
  | unwritten (error : String)
  | unsynced (error : String)
deriving DecidableEq

/-- What a delivery meets: the rows the projection shows, the save, and the check of the projected
snapshot for the new state and for a diagnostic. -/
structure DeliveryIo where
  knownRows : Std.ExtTreeSet String := ∅
  save : SaveOutcome := .saved
  preflight : Except StoreError Unit := .ok ()
  diagnosticPreflight : Except StoreError Unit := .ok ()

namespace Coordinator

variable [Sha256] [ProjectionFrame]

def addGlobalDiagnostic (c : Coordinator) (code : ErrorCode) (message : String)
    (preflight : Except StoreError Unit) : Except StoreError Coordinator := do
  let diagnostics := keepLast maxDiagnostics (c.globalDiagnostics ++ [⟨code, message⟩])
  let runtime ← c.runtime.publish
  preflight
  return { c with runtime := runtime, globalDiagnostics := diagnostics }

def persistFailure (c : Coordinator) (message : String) (eventId : EventId) (io : DeliveryIo) :
    ServerMessage × Coordinator :=
  (.error .persistFailed message (some eventId),
    match c.addGlobalDiagnostic .persistFailed message io.diagnosticPreflight with
    | .ok noted => noted
    | .error _ => c)

def productionStoreErrorResponse (c : Coordinator) (error : StoreError) (eventId : EventId) :
    ServerMessage × Coordinator :=
  (.error (storeErrorCode error) (storeErrorText error) (some eventId),
    if error.requiresDaemonExit then { c with failStopped := true } else c)

/-- The model of the stored state; building it succeeds for a valid configuration and state. -/
def effectiveCategoryModel (c : Coordinator) : EffectiveCategoryModel :=
  let repos := (Maps.values c.repoIdentities).foldl
    (fun repos repo => repos.insert repo.key repo) (∅ : Std.ExtTreeMap RepoKey RepoIdentity)
  match EffectiveCategoryModel.build c.projectionConfig c.categoryState (Maps.values repos) with
  | .ok model => model
  | .error _ => {}

def replaceCategoryState (c : Coordinator) (categoryState : CategoryState) :
    Except StoreError Coordinator := do
  categoryState.validate.mapError .random
  if c.categoryState = categoryState then return c
  else
    let runtime ← c.runtime.publish
    return { c with runtime := runtime, categoryState := categoryState }

def replaceSidebarPreferences (c : Coordinator) (preferences : SidebarPreferences)
    (preflight : Except StoreError Unit) : Except StoreError Coordinator := do
  preferences.validate.mapError .random
  if c.sidebarPreferences = preferences then return c
  else
    let runtime ← c.runtime.publish
    preflight
    return { c with runtime := runtime, sidebarPreferences := preferences }

def replaceSidebarNavigation (c : Coordinator) (selection : Option String) (scroll : ℕ)
    (manualScroll : Bool) (preflight : Except StoreError Unit) : Except StoreError Coordinator := do
  if c.sidebarNavigation.selection = selection ∧ c.sidebarNavigation.scroll = scroll ∧
      c.sidebarNavigation.manualScroll = manualScroll then
    return c
  else
    let runtime ← c.runtime.publish
    preflight
    return { c with
      runtime := runtime
      sidebarNavigation :=
        ⟨min u64Max (c.sidebarNavigation.revision + 1), selection, scroll, manualScroll⟩ }

end Coordinator

def saveState {α : Type} (file candidate : α) : SaveOutcome → Option String × α
  | .saved => (none, candidate)
  | .unwritten error => (some error, file)
  | .unsynced error => (some error, candidate)

def saveCategoryState (file candidate : CategoryState) (save : SaveOutcome) :
    Option String × CategoryState :=
  match candidate.validate with
  | .error message => (some message, file)
  | .ok () => saveState file candidate save

def categoryRepoMutationEffect (intent : CategoryIntent) (before after : CategoryState) :
    Option CategoryRepoMutationEffect :=
  match intent with
  | .assignRepo repo _ | .setRepoAutomatic repo =>
    some ⟨repo, before.repoOverrides[repo]?, after.repoOverrides[repo]?⟩
  | _ => none

inductive Intent
  | preference (intent : SidebarPreferenceIntent)
  | category (intent : CategoryIntent)
  | navigation (selection : Option String) (scroll : ℕ) (manualScroll : Bool)
deriving DecidableEq

namespace Coordinator

variable [Sha256] [ProjectionFrame]

def snapshotAck (c : Coordinator) (eventId : EventId) (acceptedSeq : ℕ) :
    ServerMessage × Coordinator :=
  (.snapshotAck eventId acceptedSeq c.runtime.snapshotRevision, c)

def categoryMutationResult (c : Coordinator) (eventId : EventId) (acceptedSeq revision : ℕ)
    (changed : Bool) (repoEffect : Option CategoryRepoMutationEffect) :
    ServerMessage × Coordinator :=
  (.categoryMutationResult eventId acceptedSeq c.runtime.snapshotRevision revision changed
    repoEffect, c)

def applySidebarPreferenceIntent (c : Coordinator) (acceptedSeq : ℕ) (eventId : EventId)
    (intent : SidebarPreferenceIntent) (io : DeliveryIo) : ServerMessage × Coordinator :=
  match c.sidebarIntentDedupe.accept eventId with
  | (false, _) => c.snapshotAck eventId acceptedSeq
  | (true, dedupe) =>
    let c := { c with sidebarIntentDedupe := dedupe }
    match c.sidebarPreferences.applyIntent intent io.knownRows with
    | (false, _) => c.snapshotAck eventId acceptedSeq
    | (true, candidate) =>
      match saveState c.files.preferences candidate io.save with
      | (some error, file) =>
        { c with files := { c.files with preferences := file } }.persistFailure
          s!"sidebar preference persistence failed: {error}" eventId io
      | (none, file) =>
        let c := { c with files := { c.files with preferences := file } }
        match c.replaceSidebarPreferences candidate io.preflight with
        | .error error => c.productionStoreErrorResponse error eventId
        | .ok c => c.snapshotAck eventId acceptedSeq

def applyCategoryIntent (c : Coordinator) (acceptedSeq : ℕ) (eventId : EventId)
    (intent : CategoryIntent) (io : DeliveryIo) : ServerMessage × Coordinator :=
  match c.sidebarIntentDedupe.accept eventId with
  | (false, _) =>
    c.categoryMutationResult eventId acceptedSeq c.categoryState.revision false
      (categoryRepoMutationEffect intent c.categoryState c.categoryState)
  | (true, dedupe) =>
    let c := { c with sidebarIntentDedupe := dedupe }
    match c.categoryState.applyIntent c.projectionConfig c.effectiveCategoryModel intent with
    | .error message => (.error .invalidRequest message (some eventId), c)
    | .ok (changed, candidate) =>
      let repoEffect := categoryRepoMutationEffect intent c.categoryState candidate
      if changed = false then
        c.categoryMutationResult eventId acceptedSeq candidate.revision false repoEffect
      else
        match saveCategoryState c.files.categories candidate io.save with
        | (some error, file) =>
          { c with files := { c.files with categories := file } }.persistFailure
            s!"category state persistence failed: {error}" eventId io
        | (none, file) =>
          let c := { c with files := { c.files with categories := file } }
          match c.replaceCategoryState candidate with
          | .error error => c.productionStoreErrorResponse error eventId
          | .ok c =>
            c.categoryMutationResult eventId acceptedSeq candidate.revision true repoEffect

def applySidebarNavigation (c : Coordinator) (acceptedSeq : ℕ) (eventId : EventId)
    (selection : Option String) (scroll : ℕ) (manualScroll : Bool) (io : DeliveryIo) :
    ServerMessage × Coordinator :=
  match c.sidebarIntentDedupe.accept eventId with
  | (false, _) => c.snapshotAck eventId acceptedSeq
  | (true, dedupe) =>
    let c := { c with sidebarIntentDedupe := dedupe }
    match c.replaceSidebarNavigation selection scroll manualScroll io.preflight with
    | .error error => c.productionStoreErrorResponse error eventId
    | .ok c => c.snapshotAck eventId acceptedSeq

def deliver (c : Coordinator) (acceptedSeq : ℕ) (eventId : EventId) (intent : Intent)
    (io : DeliveryIo) : ServerMessage × Coordinator :=
  match intent with
  | .preference intent => c.applySidebarPreferenceIntent acceptedSeq eventId intent io
  | .category intent => c.applyCategoryIntent acceptedSeq eventId intent io
  | .navigation selection scroll manualScroll =>
    c.applySidebarNavigation acceptedSeq eventId selection scroll manualScroll io

end Coordinator

end VdeTmux.Sidebar
