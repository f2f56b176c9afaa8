import VdeTmux.Foundation.Trace
import VdeTmux.Sidebar.Delivery

/-!
# Acknowledged intents

What one delivery can do, and when the acknowledgements of a run of deliveries can be trusted. The
filter takes an id before its intent is checked and saved, so that the delivery after a failed one
is acknowledged without an effect; and a replacement that fails leaves the file ahead of the memory.
-/

open Foundation VdeTmux.Pane VdeTmux.Category
namespace VdeTmux.Sidebar

/-! ## The filter -/

namespace SidebarIntentDedupe
variable {dedupe : SidebarIntentDedupe} {ids : List EventId} {eventId : EventId}

/-- The filter holds the last ids that it accepted, the newest one first in the list. -/
structure Holds (dedupe : SidebarIntentDedupe) (ids : List EventId) : Prop where
  order : dedupe.order.reverse = ids.take capacity
  nodup : dedupe.order.Nodup
  seen : ∀ eventId, eventId ∈ dedupe.seen ↔ eventId ∈ dedupe.order

theorem Holds.empty : Holds {} [] := ⟨rfl, List.nodup_nil, by simp⟩

theorem accept_of_mem (h : eventId ∈ dedupe.seen) : dedupe.accept eventId = (false, dedupe) :=
  if_pos h

theorem accept_of_not_mem (h : eventId ∉ dedupe.seen) : (dedupe.accept eventId).1 = true := by
  unfold accept
  rw [if_neg h]
  dsimp only
  split
  · split_ifs <;> rfl
  · rfl

theorem Holds.mem (h : Holds dedupe ids) : eventId ∈ dedupe.seen ↔ eventId ∈ ids.take capacity := by
  rw [h.seen, ← h.order, List.mem_reverse]

theorem Holds.accept (h : Holds dedupe ids) (hnew : eventId ∉ dedupe.seen) :
    Holds (dedupe.accept eventId).2 (eventId :: ids) := by
  have hfresh : eventId ∉ dedupe.order := fun hin => hnew ((h.seen eventId).mpr hin)
  have hreverse : (dedupe.order ++ [eventId]).reverse = eventId :: ids.take capacity := by
    rw [List.reverse_append, h.order]
    rfl
  have hnodup : (dedupe.order ++ [eventId]).Nodup :=
    List.nodup_append.mpr ⟨h.nodup, List.nodup_singleton _, by
      rintro a ha b hb rfl
      exact hfresh (List.mem_singleton.mp hb ▸ ha)⟩
  have hseen (other : EventId) :
      other ∈ dedupe.seen.insert eventId ↔ other ∈ dedupe.order ++ [eventId] := by
    rw [Std.ExtTreeSet.mem_insert, h.seen, List.mem_append, List.mem_singleton,
      Std.LawfulEqCmp.compare_eq_iff_eq, or_comm, eq_comm]
  have hlength : (dedupe.order ++ [eventId]).length = min capacity ids.length + 1 := by
    have := congrArg List.length hreverse
    simpa [List.length_take] using this
  unfold SidebarIntentDedupe.accept
  rw [if_neg hnew]
  dsimp only
  split
  · rename_i expired rest hcons
    split_ifs with hfull
    · rw [hcons] at hnodup hreverse
      obtain ⟨hexpired, hrest⟩ := List.nodup_cons.mp hnodup
      have hroom : capacity ≤ ids.length := by omega
      refine ⟨?_, hrest, fun other => ?_⟩
      · have hlast := congrArg List.dropLast hreverse
        rw [List.reverse_cons, List.dropLast_concat] at hlast
        rw [hlast, List.dropLast_eq_take, List.length_cons, List.length_take, Nat.min_eq_left hroom]
        exact congrArg (eventId :: ·) (List.take_take ..)
      · rw [Std.ExtTreeSet.mem_erase, hseen, hcons, List.mem_cons, ne_eq,
          Std.LawfulEqCmp.compare_eq_iff_eq]
        constructor
        · rintro ⟨hother, rfl | hin⟩
          · exact absurd rfl hother
          · exact hin
        · intro hin
          refine ⟨?_, Or.inr hin⟩
          rintro rfl
          exact hexpired hin
    · refine ⟨?_, hnodup, hseen⟩
      rw [hreverse, List.take_of_length_le (by omega), List.take_of_length_le]
      rw [List.length_cons]
      omega
  · rename_i hnil
    simp at hnil

end SidebarIntentDedupe

/-! ## One delivery -/

def ServerMessage.Done : ServerMessage → Prop
  | .snapshotAck .. | .categoryMutationResult .. => True
  | .error .. => False

/-- The files after the part of the memory that the intent is about was written. -/
def Intent.write (intent : Intent) (files next : Saved) : Saved :=
  match intent with
  | .preference _ => { files with preferences := next.preferences }
  | .category _ => { files with categories := next.categories }
  | .navigation .. => files

namespace Coordinator

/-- The preferences and the categories in memory. -/
def memory (c : Coordinator) : Saved := ⟨c.sidebarPreferences, c.categoryState⟩

def Accepts (c : Coordinator) (eventId : EventId) : Prop := eventId ∉ c.sidebarIntentDedupe.seen

/-- What an intent would make of the memory: nothing when it is a no-op, an error when it is
refused. -/
def effect (c : Coordinator) (intent : Intent) (io : DeliveryIo) : Except String (Option Saved) :=
  match intent with
  | .preference intent =>
    match c.sidebarPreferences.applyIntent intent io.knownRows with
    | (true, candidate) => .ok (some { c.memory with preferences := candidate })
    | (false, _) => .ok none
  | .category intent =>
    match c.categoryState.applyIntent c.projectionConfig c.effectiveCategoryModel intent with
    | .ok (true, candidate) => .ok (some { c.memory with categories := candidate })
    | .ok (false, _) => .ok none
    | .error message => .error message
  | .navigation .. => .ok none

variable [Sha256] [ProjectionFrame]

/-- Whether the memory can be replaced: the new state is valid, and a new revision passes the
checks of the projection. -/
def Replaces (c : Coordinator) (intent : Intent) (next : Saved) (io : DeliveryIo) : Prop :=
  (∃ runtime, c.runtime.publish = .ok runtime) ∧
    match intent with
    | .preference _ => next.preferences.validate = .ok () ∧ io.preflight = .ok ()
    | _ => True

/-- The intent is refused, or what it changes is not saved or not taken into memory. -/
def Fails (c : Coordinator) (intent : Intent) (io : DeliveryIo) : Prop :=
  (∃ message, c.effect intent io = .error message) ∨ ∃ next, c.effect intent io = .ok (some next) ∧
    (io.save ≠ .saved ∨ ¬c.Replaces intent next io)

def FailsLate (c : Coordinator) (intent : Intent) (io : DeliveryIo) : Prop :=
  ∃ next, c.effect intent io = .ok (some next) ∧
    ((∃ error, io.save = .unsynced error) ∨ io.save = .saved ∧ ¬c.Replaces intent next io)

inductive DeliverStep (c : Coordinator) (eventId : EventId) (intent : Intent) (io : DeliveryIo) :
    ServerMessage × Coordinator → Prop
  | duplicate {message : ServerMessage} (hseen : ¬c.Accepts eventId) (hdone : message.Done) :
      DeliverStep c eventId intent io (message, c)
  | unchanged {message : ServerMessage} {c' : Coordinator} (hnew : c.Accepts eventId)
      (heffect : c.effect intent io = .ok none)
      (hdedupe : c'.sidebarIntentDedupe = (c.sidebarIntentDedupe.accept eventId).2)
      (hmemory : c'.memory = c.memory) (hfiles : c'.files = c.files) :
      DeliverStep c eventId intent io (message, c')
  | failed {message : ServerMessage} {c' : Coordinator} (hnew : c.Accepts eventId)
      (hfails : c.Fails intent io) (hearly : ¬c.FailsLate intent io) (herror : ¬message.Done)
      (hdedupe : c'.sidebarIntentDedupe = (c.sidebarIntentDedupe.accept eventId).2)
      (hmemory : c'.memory = c.memory) (hfiles : c'.files = c.files) :
      DeliverStep c eventId intent io (message, c')
  | torn {message : ServerMessage} {c' : Coordinator} {next : Saved} (hnew : c.Accepts eventId)
      (hlate : c.FailsLate intent io) (heffect : c.effect intent io = .ok (some next))
      (herror : ¬message.Done)
      (hdedupe : c'.sidebarIntentDedupe = (c.sidebarIntentDedupe.accept eventId).2)
      (hmemory : c'.memory = c.memory) (hfiles : c'.files = intent.write c.files next) :
      DeliverStep c eventId intent io (message, c')
  | applied {message : ServerMessage} {c' : Coordinator} {next : Saved} (hnew : c.Accepts eventId)
      (heffect : c.effect intent io = .ok (some next)) (hworks : ¬c.Fails intent io)
      (hdone : message.Done)
      (hdedupe : c'.sidebarIntentDedupe = (c.sidebarIntentDedupe.accept eventId).2)
      (hmemory : c'.memory = next) (hfiles : c'.files = intent.write c.files next) :
      DeliverStep c eventId intent io (message, c')

theorem persistFailure_spec (c : Coordinator) (message : String) (eventId : EventId)
    (io : DeliveryIo) : ∃ c', c.persistFailure message eventId io =
      (.error .persistFailed message (some eventId), c') ∧ c'.memory = c.memory ∧
        c'.files = c.files ∧ c'.sidebarIntentDedupe = c.sidebarIntentDedupe := by
  unfold persistFailure
  refine ⟨_, rfl, ?_⟩
  cases hnoted : c.addGlobalDiagnostic .persistFailed message io.diagnosticPreflight with
  | error error => exact ⟨rfl, rfl, rfl⟩
  | ok noted =>
    obtain ⟨runtime, -, hnoted⟩ := bind_eq_ok.mp hnoted
    obtain ⟨-, hnoted⟩ := seq_eq_ok.mp hnoted
    cases hnoted
    exact ⟨rfl, rfl, rfl⟩

omit [Sha256] [ProjectionFrame] in
theorem productionStoreErrorResponse_spec (c : Coordinator) (error : StoreError)
    (eventId : EventId) : ∃ message c', c.productionStoreErrorResponse error eventId =
      (message, c') ∧ ¬message.Done ∧ c'.memory = c.memory ∧ c'.files = c.files ∧
        c'.sidebarIntentDedupe = c.sidebarIntentDedupe := by
  unfold productionStoreErrorResponse
  refine ⟨_, _, rfl, id, ?_⟩
  split_ifs
  · exact ⟨rfl, rfl, rfl⟩
  · exact ⟨rfl, rfl, rfl⟩

theorem replaceSidebarPreferences_ok {c c' : Coordinator} {preferences : SidebarPreferences}
    {preflight : Except StoreError Unit} (hnew : preferences ≠ c.sidebarPreferences) :
    c.replaceSidebarPreferences preferences preflight = .ok c' ↔
      preferences.validate = .ok () ∧ preflight = .ok () ∧ ∃ runtime,
        c.runtime.publish = .ok runtime ∧
          c' = { c with runtime := runtime, sidebarPreferences := preferences } := by
  unfold replaceSidebarPreferences
  rw [seq_eq_ok, mapError_eq_ok, if_neg (Ne.symm hnew)]
  constructor
  · rintro ⟨hvalid, h⟩
    obtain ⟨runtime, hruntime, h⟩ := bind_eq_ok.mp h
    obtain ⟨hpreflight, h⟩ := seq_eq_ok.mp h
    exact ⟨hvalid, hpreflight, runtime, hruntime, (pure_eq_ok.mp h).symm⟩
  · rintro ⟨hvalid, hpreflight, runtime, hruntime, rfl⟩
    exact ⟨hvalid, bind_eq_ok.mpr ⟨runtime, hruntime, seq_eq_ok.mpr ⟨hpreflight, rfl⟩⟩⟩

theorem replaceCategoryState_ok {c c' : Coordinator} {categories : CategoryState}
    (hnew : categories ≠ c.categoryState) (hvalid : categories.validate = .ok ()) :
    c.replaceCategoryState categories = .ok c' ↔ ∃ runtime, c.runtime.publish = .ok runtime ∧
      c' = { c with runtime := runtime, categoryState := categories } := by
  unfold replaceCategoryState
  rw [seq_eq_ok, mapError_eq_ok, if_neg (Ne.symm hnew)]
  constructor
  · rintro ⟨-, h⟩
    obtain ⟨runtime, hruntime, h⟩ := bind_eq_ok.mp h
    exact ⟨runtime, hruntime, (pure_eq_ok.mp h).symm⟩
  · rintro ⟨runtime, hruntime, rfl⟩
    exact ⟨hvalid, bind_eq_ok.mpr ⟨runtime, hruntime, rfl⟩⟩

theorem replaceSidebarNavigation_ok {c c' : Coordinator} {selection : Option String} {scroll : ℕ}
    {manualScroll : Bool} {preflight : Except StoreError Unit}
    (h : c.replaceSidebarNavigation selection scroll manualScroll preflight = .ok c') :
    c'.memory = c.memory ∧ c'.files = c.files ∧ c'.sidebarIntentDedupe = c.sidebarIntentDedupe := by
  unfold replaceSidebarNavigation at h
  split_ifs at h
  · cases h
    exact ⟨rfl, rfl, rfl⟩
  · obtain ⟨runtime, -, h⟩ := bind_eq_ok.mp h
    obtain ⟨-, h⟩ := seq_eq_ok.mp h
    cases h
    exact ⟨rfl, rfl, rfl⟩

omit [Sha256] [ProjectionFrame] in
theorem applyIntent_next {config : CategoriesConfig} {model : EffectiveCategoryModel}
    {state candidate : CategoryState} {intent : CategoryIntent}
    (h : state.applyIntent config model intent = .ok (true, candidate)) :
    candidate ≠ state ∧ candidate.validate = .ok () := by
  obtain ⟨-, edited, hedit, -, hvalid, rfl⟩ := applyIntent_eq_ok.mp h
  refine ⟨fun hsame => ?_, validate_eq_ok.mpr (valid_after.mpr hvalid)⟩
  have hrevision := congrArg CategoryState.revision hsame
  have hkept := edit_revision hedit
  rw [CategoryState.after] at hrevision
  simp only [Bool.toNat_true] at hrevision
  omega

/-- Where a delivery stands after its id was taken: the memory as before, the files given. -/
structure Taken (c : Coordinator) (eventId : EventId) (files : Saved) (c' : Coordinator) : Prop where
  memory : c'.memory = c.memory
  files : c'.files = files
  dedupe : c'.sidebarIntentDedupe = (c.sidebarIntentDedupe.accept eventId).2

theorem changed_step {c : Coordinator} {eventId : EventId} {intent : Intent} {io : DeliveryIo}
    {next : Saved} {answer : ServerMessage × Coordinator} (hnew : c.Accepts eventId)
    (heffect : c.effect intent io = .ok (some next))
    (hunwritten : ∀ error, io.save = .unwritten error → ∃ c₁ message,
      answer = c₁.persistFailure message eventId io ∧ Taken c eventId c.files c₁)
    (hunsynced : ∀ error, io.save = .unsynced error → ∃ c₁ message,
      answer = c₁.persistFailure message eventId io ∧
        Taken c eventId (intent.write c.files next) c₁)
    (hsaved : io.save = .saved →
      (¬c.Replaces intent next io ∧ ∃ c₁ error,
        answer = c₁.productionStoreErrorResponse error eventId ∧
          Taken c eventId (intent.write c.files next) c₁) ∨
      c.Replaces intent next io ∧ answer.1.Done ∧ answer.2.memory = next ∧
        answer.2.files = intent.write c.files next ∧
        answer.2.sidebarIntentDedupe = (c.sidebarIntentDedupe.accept eventId).2) :
    DeliverStep c eventId intent io answer := by
  have hnext {other : Saved} (h : c.effect intent io = .ok (some other)) : other = next :=
    Option.some.inj (Except.ok.inj (h.symm.trans heffect))
  cases hsave : io.save with
  | unwritten error =>
    obtain ⟨c₁, message, rfl, htaken⟩ := hunwritten error hsave
    obtain ⟨c', hrun, hmemory, hfiles, hdedupe⟩ := persistFailure_spec c₁ message eventId io
    rw [hrun]
    refine .failed hnew (Or.inr ⟨next, heffect, Or.inl ?_⟩) ?_ id (hdedupe.trans htaken.dedupe)
      (hmemory.trans htaken.memory) (hfiles.trans htaken.files)
    · rw [hsave]
      nofun
    · rintro ⟨other, -, ⟨error', hunsynced⟩ | ⟨hsaved, -⟩⟩
      · exact absurd (hsave.symm.trans hunsynced) nofun
      · exact absurd (hsave.symm.trans hsaved) nofun
  | unsynced error =>
    obtain ⟨c₁, message, rfl, htaken⟩ := hunsynced error hsave
    obtain ⟨c', hrun, hmemory, hfiles, hdedupe⟩ := persistFailure_spec c₁ message eventId io
    rw [hrun]
    exact .torn hnew ⟨next, heffect, Or.inl ⟨error, hsave⟩⟩ heffect id
      (hdedupe.trans htaken.dedupe) (hmemory.trans htaken.memory) (hfiles.trans htaken.files)
  | saved =>
    rcases hsaved hsave with ⟨hfails, c₁, error, rfl, htaken⟩ | ⟨hworks, hdone, hmemory, hrest⟩
    · obtain ⟨message, c', hrun, herror, hmemory, hfiles, hdedupe⟩ :=
        productionStoreErrorResponse_spec c₁ error eventId
      rw [hrun]
      exact .torn hnew ⟨next, heffect, Or.inr ⟨hsave, hfails⟩⟩ heffect herror
        (hdedupe.trans htaken.dedupe) (hmemory.trans htaken.memory) (hfiles.trans htaken.files)
    · refine .applied hnew heffect ?_ hdone hrest.2 hmemory hrest.1
      rintro (⟨message, hrefused⟩ | ⟨other, hother, hbad⟩)
      · cases heffect.symm.trans hrefused
      · obtain rfl := hnext hother
        exact hbad.elim (absurd hsave) (absurd hworks)

theorem preference_step {c : Coordinator} {eventId : EventId} (hnew : c.Accepts eventId)
    (acceptedSeq : ℕ) (intent : SidebarPreferenceIntent) (io : DeliveryIo) :
    DeliverStep c eventId (.preference intent) io
      (c.applySidebarPreferenceIntent acceptedSeq eventId intent io) := by
  unfold applySidebarPreferenceIntent
  rw [show c.sidebarIntentDedupe.accept eventId = (true, (c.sidebarIntentDedupe.accept eventId).2)
    from Prod.ext (SidebarIntentDedupe.accept_of_not_mem hnew) rfl]
  dsimp only
  rcases hintent : c.sidebarPreferences.applyIntent intent io.knownRows with ⟨changed, candidate⟩
  cases changed with
  | false =>
    have heffect : c.effect (.preference intent) io = .ok none := by
      rw [effect, hintent]
    exact .unchanged hnew heffect rfl rfl rfl
  | true =>
    have heffect : c.effect (.preference intent) io =
        .ok (some { c.memory with preferences := candidate }) := by
      rw [effect, hintent]
    have hother := SidebarPreferences.applyIntent_changed hintent
    refine changed_step hnew heffect (fun error hsave => ?_) (fun error hsave => ?_) fun hsave => ?_
    · rw [hsave]
      exact ⟨_, _, rfl, rfl, rfl, rfl⟩
    · rw [hsave]
      exact ⟨_, _, rfl, rfl, rfl, rfl⟩
    · rw [hsave]
      simp only [saveState]
      split
      · rename_i error hreplace
        refine Or.inl ⟨?_, _, error, rfl, rfl, rfl, rfl⟩
        rintro ⟨⟨runtime, hruntime⟩, hvalid, hpreflight⟩
        cases hreplace.symm.trans ((replaceSidebarPreferences_ok (by exact hother)).mpr
          ⟨hvalid, hpreflight, runtime, hruntime, rfl⟩)
      · rename_i c' hreplace
        obtain ⟨hvalid, hpreflight, runtime, hruntime, rfl⟩ :=
          (replaceSidebarPreferences_ok (by exact hother)).mp hreplace
        exact Or.inr ⟨⟨⟨runtime, hruntime⟩, hvalid, hpreflight⟩, trivial, rfl, rfl, rfl⟩

theorem category_step {c : Coordinator} {eventId : EventId} (hnew : c.Accepts eventId)
    (acceptedSeq : ℕ) (intent : CategoryIntent) (io : DeliveryIo) :
    DeliverStep c eventId (.category intent) io
      (c.applyCategoryIntent acceptedSeq eventId intent io) := by
  unfold applyCategoryIntent
  rw [show c.sidebarIntentDedupe.accept eventId = (true, (c.sidebarIntentDedupe.accept eventId).2)
    from Prod.ext (SidebarIntentDedupe.accept_of_not_mem hnew) rfl]
  have hmodel : effectiveCategoryModel
      { c with sidebarIntentDedupe := (c.sidebarIntentDedupe.accept eventId).2 } =
        c.effectiveCategoryModel := rfl
  dsimp only
  rw [hmodel]
  rcases hintent : c.categoryState.applyIntent c.projectionConfig c.effectiveCategoryModel intent with
    message | ⟨changed, candidate⟩
  · have heffect : c.effect (.category intent) io = .error message := by
      rw [effect, hintent]
    refine .failed hnew (Or.inl ⟨message, heffect⟩) ?_ id rfl rfl rfl
    rintro ⟨next, hnext, -⟩
    cases heffect.symm.trans hnext
  cases changed with
  | false =>
    have heffect : c.effect (.category intent) io = .ok none := by
      rw [effect, hintent]
    exact .unchanged hnew heffect rfl rfl rfl
  | true =>
    have heffect : c.effect (.category intent) io =
        .ok (some { c.memory with categories := candidate }) := by
      rw [effect, hintent]
    obtain ⟨hother, hvalid⟩ := applyIntent_next hintent
    dsimp only
    rw [if_neg Bool.noConfusion, saveCategoryState, hvalid]
    refine changed_step hnew heffect (fun error hsave => ?_) (fun error hsave => ?_) fun hsave => ?_
    · rw [hsave]
      exact ⟨_, _, rfl, rfl, rfl, rfl⟩
    · rw [hsave]
      exact ⟨_, _, rfl, rfl, rfl, rfl⟩
    · rw [hsave]
      simp only [saveState]
      split
      · rename_i error hreplace
        refine Or.inl ⟨?_, _, error, rfl, rfl, rfl, rfl⟩
        rintro ⟨⟨runtime, hruntime⟩, -⟩
        cases hreplace.symm.trans ((replaceCategoryState_ok (by exact hother) hvalid).mpr
          ⟨runtime, hruntime, rfl⟩)
      · rename_i c' hreplace
        obtain ⟨runtime, hruntime, rfl⟩ :=
          (replaceCategoryState_ok (by exact hother) hvalid).mp hreplace
        exact Or.inr ⟨⟨⟨runtime, hruntime⟩, trivial⟩, trivial, rfl, rfl, rfl⟩

theorem navigation_step {c : Coordinator} {eventId : EventId} (hnew : c.Accepts eventId)
    (acceptedSeq : ℕ) (selection : Option String) (scroll : ℕ) (manualScroll : Bool)
    (io : DeliveryIo) : DeliverStep c eventId (.navigation selection scroll manualScroll) io
      (c.applySidebarNavigation acceptedSeq eventId selection scroll manualScroll io) := by
  unfold applySidebarNavigation
  rw [show c.sidebarIntentDedupe.accept eventId = (true, (c.sidebarIntentDedupe.accept eventId).2)
    from Prod.ext (SidebarIntentDedupe.accept_of_not_mem hnew) rfl]
  dsimp only
  split
  · rename_i error hreplace
    obtain ⟨message, c', hrun, -, hmemory, hfiles, hdedupe⟩ := productionStoreErrorResponse_spec
      { c with sidebarIntentDedupe := (c.sidebarIntentDedupe.accept eventId).2 } error eventId
    rw [hrun]
    exact .unchanged hnew rfl hdedupe hmemory hfiles
  · rename_i c' hreplace
    obtain ⟨hmemory, hfiles, hdedupe⟩ := replaceSidebarNavigation_ok hreplace
    exact .unchanged hnew rfl hdedupe hmemory hfiles

theorem deliver_step (c : Coordinator) (acceptedSeq : ℕ) (eventId : EventId) (intent : Intent)
    (io : DeliveryIo) : DeliverStep c eventId intent io (c.deliver acceptedSeq eventId intent io) := by
  by_cases hnew : c.Accepts eventId
  · cases intent with
    | preference intent => exact preference_step hnew acceptedSeq intent io
    | category intent => exact category_step hnew acceptedSeq intent io
    | navigation selection scroll manualScroll =>
      exact navigation_step hnew acceptedSeq selection scroll manualScroll io
  · have hcall := SidebarIntentDedupe.accept_of_mem (not_not.mp hnew)
    cases intent with
    | preference intent =>
      unfold deliver applySidebarPreferenceIntent
      rw [hcall]
      exact .duplicate hnew trivial
    | category intent =>
      unfold deliver applyCategoryIntent
      rw [hcall]
      exact .duplicate hnew trivial
    | navigation selection scroll manualScroll =>
      unfold deliver applySidebarNavigation
      rw [hcall]
      exact .duplicate hnew trivial

omit [Sha256] [ProjectionFrame] in
theorem effect_ne {c : Coordinator} {intent : Intent} {io : DeliveryIo} {next : Saved}
    (h : c.effect intent io = .ok (some next)) :
    next ≠ c.memory ∧ intent.write c.memory next = next := by
  cases intent with
  | preference intent =>
    rcases hintent : c.sidebarPreferences.applyIntent intent io.knownRows with ⟨changed, candidate⟩
    rw [effect, hintent] at h
    cases changed with
    | false => cases h
    | true =>
      cases h
      refine ⟨fun hsame => ?_, rfl⟩
      exact SidebarPreferences.applyIntent_changed hintent (congrArg Saved.preferences hsame)
  | category intent =>
    rcases hintent : c.categoryState.applyIntent c.projectionConfig c.effectiveCategoryModel intent
      with message | ⟨changed, candidate⟩
    · rw [effect, hintent] at h
      cases h
    rw [effect, hintent] at h
    cases changed with
    | false => cases h
    | true =>
      cases h
      exact ⟨fun hsame => (applyIntent_next hintent).1 (congrArg Saved.categories hsame), rfl⟩
  | navigation => cases h

end Coordinator

/-! ## Runs of deliveries -/

/-- A delivery, or something else that the daemon does in between. -/
inductive Op
  | deliver (acceptedSeq : ℕ) (eventId : EventId) (io : DeliveryIo)
  | elsewhere (runtime : CanonicalStateRuntime) (config : CategoriesConfig)
      (repoIdentities : Std.ExtTreeMap String RepoIdentity) (diagnostics : List DaemonDiagnostic)

def acceptedIds : List (Coordinator × Op) → List EventId
  | [] => []
  | (c, .deliver _ eventId _) :: past =>
    if eventId ∈ c.sidebarIntentDedupe.seen then acceptedIds past else eventId :: acceptedIds past
  | (_, .elsewhere ..) :: past => acceptedIds past

theorem acceptedIds_append (later past : List (Coordinator × Op)) :
    acceptedIds (later ++ past) = acceptedIds later ++ acceptedIds past := by
  induction later with
  | nil => rfl
  | cons e later ih =>
    obtain ⟨c, op⟩ := e
    cases op with
    | deliver acceptedSeq eventId io =>
      simp only [List.cons_append, acceptedIds]
      split_ifs
      · exact ih
      · rw [ih, List.cons_append]
    | elsewhere => exact ih

theorem mem_acceptedIds {past : List (Coordinator × Op)} {eventId : EventId} :
    eventId ∈ acceptedIds past ↔ ∃ later c acceptedSeq io before,
      past = later ++ (c, .deliver acceptedSeq eventId io) :: before ∧ c.Accepts eventId := by
  constructor
  · intro h
    induction past with
    | nil => simp [acceptedIds] at h
    | cons e past ih =>
      obtain ⟨c, op⟩ := e
      have hpast (h : eventId ∈ acceptedIds past) : ∃ later c₀ acceptedSeq io before,
          (c, op) :: past = later ++ (c₀, .deliver acceptedSeq eventId io) :: before ∧
            c₀.Accepts eventId := by
        obtain ⟨later, c₀, acceptedSeq, io, before, rfl, haccepts⟩ := ih h
        exact ⟨(c, op) :: later, c₀, acceptedSeq, io, before, rfl, haccepts⟩
      cases op with
      | elsewhere => exact hpast h
      | deliver acceptedSeq other io =>
        rw [acceptedIds] at h
        split_ifs at h with hseen
        · exact hpast h
        · rcases List.mem_cons.mp h with rfl | h
          · exact ⟨[], c, acceptedSeq, io, past, rfl, hseen⟩
          · exact hpast h
  · rintro ⟨later, c, acceptedSeq, io, before, rfl, haccepts⟩
    rw [acceptedIds_append, acceptedIds, if_neg haccepts]
    simp

theorem acceptedIds_of_mem {past : List (Coordinator × Op)} {c : Coordinator} {eventId : EventId}
    {acceptedSeq : ℕ} {io : DeliveryIo} (h : (c, .deliver acceptedSeq eventId io) ∈ past)
    (haccepts : c.Accepts eventId) : eventId ∈ acceptedIds past := by
  obtain ⟨later, before, rfl⟩ := List.append_of_mem h
  exact mem_acceptedIds.mpr ⟨later, c, acceptedSeq, io, before, rfl, haccepts⟩

theorem taken_unique {past : List (Coordinator × Op)} {c c' : Coordinator} {eventId : EventId}
    {acceptedSeq acceptedSeq' : ℕ} {io io' : DeliveryIo} (hnodup : (acceptedIds past).Nodup)
    (h : (c, .deliver acceptedSeq eventId io) ∈ past) (haccepts : c.Accepts eventId)
    (h' : (c', .deliver acceptedSeq' eventId io') ∈ past) (haccepts' : c'.Accepts eventId) :
    c = c' ∧ acceptedSeq = acceptedSeq' ∧ io = io' := by
  obtain ⟨later, before, rfl⟩ := List.append_of_mem h
  rw [acceptedIds_append, acceptedIds, if_neg haccepts] at hnodup
  obtain ⟨-, hrest, hdisjoint⟩ := List.nodup_append.mp hnodup
  rcases List.mem_append.mp h' with hlater | hcons
  · exact absurd rfl
      (hdisjoint eventId (acceptedIds_of_mem hlater haccepts') eventId List.mem_cons_self)
  · rcases List.mem_cons.mp hcons with heq | hbefore
    · cases heq
      exact ⟨rfl, rfl, rfl⟩
    · exact absurd (acceptedIds_of_mem hbefore haccepts') (List.nodup_cons.mp hrest).1

section
variable [Sha256] [ProjectionFrame] (intentOf : EventId → Intent)

def Coordinator.perform (c : Coordinator) : Op → Coordinator
  | .deliver acceptedSeq eventId io => (c.deliver acceptedSeq eventId (intentOf eventId) io).2
  | .elsewhere runtime config repoIdentities diagnostics =>
    { c with
      runtime := runtime
      projectionConfig := config
      repoIdentities := repoIdentities
      globalDiagnostics := diagnostics }

/-- A daemon that was stopped takes no more deliveries. -/
def Coordinator.Step (c : Coordinator) (op : Op) (c' : Coordinator) : Prop :=
  c.failStopped = false ∧ c.perform intentOf op = c'

/-- The delivery has taken the effect of its intent, which may be none, to memory and disk. -/
def Handled (c : Coordinator) (acceptedSeq : ℕ) (eventId : EventId) (io : DeliveryIo) : Prop :=
  c.Accepts eventId ∧ ∃ effect, c.effect (intentOf eventId) io = .ok effect ∧
    (c.deliver acceptedSeq eventId (intentOf eventId) io).2.memory = effect.getD c.memory ∧
    (c.deliver acceptedSeq eventId (intentOf eventId) io).2.files = effect.getD c.memory

def Untouched (e : Coordinator × Op) : Prop :=
  (e.1.perform intentOf e.2).memory = e.1.memory ∧ (e.1.perform intentOf e.2).files = e.1.files

def Op.delivers (eventId : EventId) : Op → Prop
  | .deliver _ other _ => other = eventId
  | .elsewhere .. => False

/-- Fewer ids than the filter holds were taken since the id of the delivery was taken. -/
def Windowed (past : List (Coordinator × Op)) (_ : Coordinator) : Op → Prop
  | .deliver _ eventId _ => ∀ later c₀ acceptedSeq io before,
    past = later ++ (c₀, .deliver acceptedSeq eventId io) :: before → c₀.Accepts eventId →
      (acceptedIds later).length < SidebarIntentDedupe.capacity
  | .elsewhere .. => True

/-- An acknowledged delivery has had its effect exactly once, by itself or by an earlier delivery
of its id, unless there is nothing to do; after an error memory and disk agree. -/
def Truthful (past : List (Coordinator × Op)) (c : Coordinator) : Op → Prop
  | .deliver acceptedSeq eventId io =>
    let answer := c.deliver acceptedSeq eventId (intentOf eventId) io
    (answer.1.Done → c.effect (intentOf eventId) io = .ok none ∨
      ∃ later c₀ acceptedSeq₀ io₀ before,
        (c, .deliver acceptedSeq eventId io) :: past =
          later ++ (c₀, .deliver acceptedSeq₀ eventId io₀) :: before ∧
        Handled intentOf c₀ acceptedSeq₀ eventId io₀ ∧
        ∀ e ∈ later ++ before, e.2.delivers eventId → Untouched intentOf e) ∧
    (¬answer.1.Done → answer.2.files = answer.2.memory)
  | .elsewhere .. => True

/-- A new delivery does not fail after its file was replaced; one whose id was taken before is a
no-op, or that delivery did not fail. -/
def Clean (past : List (Coordinator × Op)) (c : Coordinator) : Op → Prop
  | .deliver _ eventId io =>
    (c.Accepts eventId → ¬c.FailsLate (intentOf eventId) io) ∧
    (¬c.Accepts eventId → c.effect (intentOf eventId) io = .ok none ∨
      ∀ c₀ acceptedSeq₀ io₀, (c₀, .deliver acceptedSeq₀ eventId io₀) ∈ past →
        c₀.Accepts eventId → ¬c₀.Fails (intentOf eventId) io₀)
  | .elsewhere .. => True

variable {intentOf} {start c c' : Coordinator} {past : List (Coordinator × Op)} {eventId : EventId}

theorem untouched_of_seen {acceptedSeq : ℕ} {io : DeliveryIo} (h : ¬c.Accepts eventId) :
    Untouched intentOf (c, .deliver acceptedSeq eventId io) := by
  have hstep := c.deliver_step acceptedSeq eventId (intentOf eventId) io
  rw [Untouched, Coordinator.perform]
  generalize c.deliver acceptedSeq eventId (intentOf eventId) io = answer at hstep
  cases hstep with
  | duplicate => exact ⟨rfl, rfl⟩
  | unchanged hnew => exact absurd hnew h
  | failed hnew => exact absurd hnew h
  | torn hnew => exact absurd hnew h
  | applied hnew => exact absurd hnew h

theorem handled_iff {acceptedSeq : ℕ} {io : DeliveryIo} (hnew : c.Accepts eventId)
    (hfiles : c.files = c.memory) :
    Handled intentOf c acceptedSeq eventId io ↔ ¬c.Fails (intentOf eventId) io := by
  have hstep := c.deliver_step acceptedSeq eventId (intentOf eventId) io
  unfold Handled
  generalize c.deliver acceptedSeq eventId (intentOf eventId) io = answer at hstep
  cases hstep with
  | duplicate hseen => exact absurd hnew hseen
  | unchanged _ heffect _ hmemory hfiles' =>
    refine iff_of_true ⟨hnew, none, heffect, hmemory, hfiles'.trans hfiles⟩ ?_
    rintro (⟨message, hrefused⟩ | ⟨next, hnext, -⟩)
    · cases heffect.symm.trans hrefused
    · cases heffect.symm.trans hnext
  | failed _ hfails _ _ _ hmemory hfiles' =>
    refine iff_of_false ?_ (not_not.mpr hfails)
    rintro ⟨-, effect, heffect, hmemory', -⟩
    rcases hfails with ⟨message, hrefused⟩ | ⟨next, hnext, -⟩
    · cases heffect.symm.trans hrefused
    · cases heffect.symm.trans hnext
      exact (Coordinator.effect_ne hnext).1 (hmemory'.symm.trans hmemory)
  | torn _ hlate hnext _ _ hmemory =>
    refine iff_of_false ?_ (not_not.mpr ?_)
    · rintro ⟨-, effect, heffect, hmemory', -⟩
      cases heffect.symm.trans hnext
      exact (Coordinator.effect_ne hnext).1 (hmemory'.symm.trans hmemory)
    · obtain ⟨next, hnext, hbad⟩ := hlate
      refine Or.inr ⟨next, hnext, hbad.imp ?_ And.right⟩
      rintro ⟨error, hsave⟩ hsaved
      cases hsave.symm.trans hsaved
  | applied _ heffect hworks _ _ hmemory hfiles' =>
    refine iff_of_true ⟨hnew, _, heffect, hmemory, ?_⟩ hworks
    rw [hfiles', hfiles, (Coordinator.effect_ne heffect).2, Option.getD_some]

theorem run_holds (hrun : Trace (Coordinator.Step intentOf) start past c)
    (hstart : start.sidebarIntentDedupe = {}) :
    c.sidebarIntentDedupe.Holds (acceptedIds past) := by
  induction hrun with
  | nil => exact hstart ▸ SidebarIntentDedupe.Holds.empty
  | @snoc past c c' op before taken ih =>
    obtain ⟨-, rfl⟩ := taken
    cases op with
    | elsewhere => exact ih
    | deliver acceptedSeq eventId io =>
      have hstep := c.deliver_step acceptedSeq eventId (intentOf eventId) io
      rw [Coordinator.perform, acceptedIds]
      generalize c.deliver acceptedSeq eventId (intentOf eventId) io = answer at hstep
      cases hstep with
      | duplicate hseen =>
        rw [if_pos (not_not.mp hseen)]
        exact ih
      | unchanged hnew _ hdedupe =>
        rw [if_neg hnew, hdedupe]
        exact ih.accept hnew
      | failed hnew _ _ _ hdedupe =>
        rw [if_neg hnew, hdedupe]
        exact ih.accept hnew
      | torn hnew _ _ _ hdedupe =>
        rw [if_neg hnew, hdedupe]
        exact ih.accept hnew
      | applied hnew _ _ _ hdedupe =>
        rw [if_neg hnew, hdedupe]
        exact ih.accept hnew

omit [Sha256] [ProjectionFrame] in
theorem not_accepted_before {acceptedSeq : ℕ} {io : DeliveryIo}
    (hholds : c.sidebarIntentDedupe.Holds (acceptedIds past))
    (hwindow : Windowed past c (.deliver acceptedSeq eventId io)) (hnew : c.Accepts eventId) :
    eventId ∉ acceptedIds past := by
  intro hin
  obtain ⟨later, c₀, acceptedSeq₀, io₀, before, rfl, haccepts⟩ := mem_acceptedIds.mp hin
  have hrecent := hwindow later c₀ acceptedSeq₀ io₀ before rfl haccepts
  apply hnew
  rw [hholds.mem, acceptedIds_append, acceptedIds, if_neg haccepts]
  rw [List.take_append, List.mem_append]
  right
  rw [List.mem_take_iff_getElem]
  exact ⟨0, by simp; omega, rfl⟩

theorem run_nodup (hrun : Trace (Coordinator.Step intentOf) start past c)
    (hstart : start.sidebarIntentDedupe = {}) (hwindow : Throughout Windowed past) :
    (acceptedIds past).Nodup := by
  induction hrun with
  | nil => exact List.nodup_nil
  | @snoc past c c' op before taken ih =>
    obtain ⟨hnow, hbefore⟩ := hwindow
    cases op with
    | elsewhere => exact ih hbefore
    | deliver acceptedSeq eventId io =>
      rw [acceptedIds]
      split_ifs with hseen
      · exact ih hbefore
      · exact List.nodup_cons.mpr
          ⟨not_accepted_before (run_holds before hstart) hnow hseen, ih hbefore⟩

theorem others_untouched {later before : List (Coordinator × Op)} {acceptedSeq : ℕ}
    {io : DeliveryIo} (hnodup : (acceptedIds (later ++ (c, .deliver acceptedSeq eventId io) ::
      before)).Nodup) (haccepts : c.Accepts eventId) :
    ∀ e ∈ later ++ before, e.2.delivers eventId → Untouched intentOf e := by
  rintro ⟨c₁, op⟩ hin hdelivers
  cases op with
  | elsewhere => cases hdelivers
  | deliver acceptedSeq₁ other io₁ =>
    obtain rfl : other = eventId := hdelivers
    refine untouched_of_seen fun haccepts₁ => ?_
    rw [acceptedIds_append, acceptedIds, if_neg haccepts] at hnodup
    obtain ⟨-, hrest, hdisjoint⟩ := List.nodup_append.mp hnodup
    rcases List.mem_append.mp hin with hlater | hbefore
    · exact hdisjoint other (acceptedIds_of_mem hlater haccepts₁) other List.mem_cons_self rfl
    · exact (List.nodup_cons.mp hrest).1 (acceptedIds_of_mem hbefore haccepts₁)

theorem Clean.files {op : Op} (h : Clean intentOf past c op) (hfiles : c.files = c.memory) :
    (c.perform intentOf op).files = (c.perform intentOf op).memory := by
  cases op with
  | elsewhere => exact hfiles
  | deliver acceptedSeq eventId io =>
    have hstep := c.deliver_step acceptedSeq eventId (intentOf eventId) io
    rw [Coordinator.perform]
    generalize c.deliver acceptedSeq eventId (intentOf eventId) io = answer at hstep
    cases hstep with
    | duplicate => exact hfiles
    | unchanged _ _ _ hmemory hfiles' => exact hfiles'.trans (hfiles.trans hmemory.symm)
    | failed _ _ _ _ _ hmemory hfiles' => exact hfiles'.trans (hfiles.trans hmemory.symm)
    | torn hnew hlate => exact absurd hlate (h.1 hnew)
    | applied _ heffect _ _ _ hmemory hfiles' =>
      rw [hfiles', hfiles, hmemory, (Coordinator.effect_ne heffect).2]

theorem handled_before {acceptedSeq : ℕ} {io : DeliveryIo} (hseen : ¬c.Accepts eventId)
    (hholds : c.sidebarIntentDedupe.Holds (acceptedIds past)) (hnodup : (acceptedIds past).Nodup)
    (hpast : ∀ e ∈ past, e.1.files = e.1.memory) :
    (∃ later c₀ acceptedSeq₀ io₀ before, (c, .deliver acceptedSeq eventId io) :: past =
        later ++ (c₀, .deliver acceptedSeq₀ eventId io₀) :: before ∧
      Handled intentOf c₀ acceptedSeq₀ eventId io₀ ∧
      ∀ e ∈ later ++ before, e.2.delivers eventId → Untouched intentOf e) ↔
    ∀ c₀ acceptedSeq₀ io₀, (c₀, .deliver acceptedSeq₀ eventId io₀) ∈ past →
      c₀.Accepts eventId → ¬c₀.Fails (intentOf eventId) io₀ := by
  have hall : (acceptedIds ((c, .deliver acceptedSeq eventId io) :: past)).Nodup := by
    rwa [acceptedIds, if_pos (not_not.mp hseen)]
  constructor
  · rintro ⟨later, c₀, acceptedSeq₀, io₀, before, heq, hhandled, -⟩ c₁ acceptedSeq₁ io₁ hin haccepts₁
    have hin₀ : (c₀, .deliver acceptedSeq₀ eventId io₀) ∈
        (c, .deliver acceptedSeq eventId io) :: past :=
      heq ▸ List.mem_append_right _ List.mem_cons_self
    obtain ⟨rfl, rfl, rfl⟩ := taken_unique hall hin₀ hhandled.1
      (List.mem_cons_of_mem _ hin) haccepts₁
    exact (handled_iff haccepts₁ (hpast _ hin)).mp hhandled
  · intro hworks
    have htaken : eventId ∈ acceptedIds past :=
      List.mem_of_mem_take (hholds.mem.mp (not_not.mp hseen))
    obtain ⟨later, c₀, acceptedSeq₀, io₀, before, rfl, haccepts⟩ := mem_acceptedIds.mp htaken
    have hin : (c₀, .deliver acceptedSeq₀ eventId io₀) ∈
        later ++ (c₀, .deliver acceptedSeq₀ eventId io₀) :: before :=
      List.mem_append_right _ List.mem_cons_self
    refine ⟨(c, .deliver acceptedSeq eventId io) :: later, c₀, acceptedSeq₀, io₀, before, rfl,
      (handled_iff haccepts (hpast _ hin)).mpr (hworks _ _ _ hin haccepts), ?_⟩
    exact others_untouched hall haccepts

theorem truthful_iff_clean {op : Op} (hholds : c.sidebarIntentDedupe.Holds (acceptedIds past))
    (hnodup : (acceptedIds past).Nodup) (hwindow : Windowed past c op)
    (hpast : ∀ e ∈ past, e.1.files = e.1.memory) (hfiles : c.files = c.memory) :
    Truthful intentOf past c op ↔ Clean intentOf past c op := by
  cases op with
  | elsewhere => exact Iff.rfl
  | deliver acceptedSeq eventId io =>
    have hstep := c.deliver_step acceptedSeq eventId (intentOf eventId) io
    have hbefore (hseen : ¬c.Accepts eventId) :=
      @handled_before _ _ intentOf c past eventId acceptedSeq io hseen hholds hnodup hpast
    simp only [Truthful, Clean]
    generalize c.deliver acceptedSeq eventId (intentOf eventId) io = answer at hstep
    cases hstep with
    | duplicate hseen hdone =>
      simp only [hdone, hseen, not_true_eq_false, not_false_eq_true, false_implies, true_implies,
        and_true, true_and, hbefore hseen]
    | unchanged hnew heffect _ hmemory hfiles' =>
      refine iff_of_true ⟨fun _ => Or.inl heffect, fun _ => ?_⟩ ⟨fun _ => ?_, absurd hnew⟩
      · exact hfiles'.trans (hfiles.trans hmemory.symm)
      · rintro ⟨next, hnext, -⟩
        cases heffect.symm.trans hnext
    | failed hnew hfails hearly herror _ hmemory hfiles' =>
      refine iff_of_true ⟨fun hdone => absurd hdone herror, fun _ => ?_⟩ ⟨fun _ => hearly, absurd hnew⟩
      exact hfiles'.trans (hfiles.trans hmemory.symm)
    | torn hnew hlate heffect herror _ hmemory hfiles' =>
      refine iff_of_false (fun htruthful => ?_) fun hclean => hclean.1 hnew hlate
      have hsame := htruthful.2 herror
      obtain ⟨hother, hwrite⟩ := Coordinator.effect_ne heffect
      rw [hfiles', hmemory, hfiles, hwrite] at hsame
      exact hother hsame
    | applied hnew heffect hworks hdone _ hmemory hfiles' =>
      refine iff_of_true ⟨fun _ => Or.inr ?_, absurd hdone⟩ ⟨fun _ => ?_, absurd hnew⟩
      · have hall : (acceptedIds ((c, .deliver acceptedSeq eventId io) :: past)).Nodup := by
          rw [acceptedIds, if_neg hnew]
          exact List.nodup_cons.mpr ⟨not_accepted_before hholds hwindow hnew, hnodup⟩
        refine ⟨[], c, acceptedSeq, io, past, rfl, (handled_iff hnew hfiles).mpr hworks, ?_⟩
        rw [← List.nil_append (_ :: past)] at hall
        exact others_untouched hall hnew
      · rintro ⟨next, hnext, hbad⟩
        refine hworks (Or.inr ⟨next, hnext, hbad.imp ?_ And.right⟩)
        rintro ⟨error, hsave⟩ hsaved
        cases hsave.symm.trans hsaved

theorem clean_files (hrun : Trace (Coordinator.Step intentOf) start past c)
    (hfiles : start.files = start.memory) (hclean : Throughout (Clean intentOf) past) :
    c.files = c.memory ∧ ∀ e ∈ past, e.1.files = e.1.memory := by
  induction hrun with
  | nil => exact ⟨hfiles, List.forall_mem_nil _⟩
  | @snoc past c c' op before taken ih =>
    obtain ⟨hnow, hbefore⟩ : Clean intentOf past c op ∧ Throughout (Clean intentOf) past := hclean
    obtain ⟨hlast, hearlier⟩ := ih hbefore
    refine ⟨?_, List.forall_mem_cons.mpr ⟨hlast, hearlier⟩⟩
    rw [← taken.2]
    exact hnow.files hlast

/-- The acknowledgements of a run can be trusted exactly when its deliveries are clean. -/
theorem intents_truthful (hrun : Trace (Coordinator.Step intentOf) start past c)
    (hdedupe : start.sidebarIntentDedupe = {}) (hfiles : start.files = start.memory)
    (hwindow : Throughout Windowed past) :
    Throughout (Truthful intentOf) past ↔ Throughout (Clean intentOf) past := by
  induction hrun with
  | nil => exact Iff.rfl
  | @snoc past c c' op before taken ih =>
    obtain ⟨hnow, hbefore⟩ : Windowed past c op ∧ Throughout Windowed past := hwindow
    have hsame := ih hbefore
    have hstep (hclean : Throughout (Clean intentOf) past) :
        Truthful intentOf past c op ↔ Clean intentOf past c op := by
      obtain ⟨hlast, hearlier⟩ := clean_files before hfiles hclean
      exact truthful_iff_clean (run_holds before hdedupe) (run_nodup before hdedupe hbefore) hnow
        hearlier hlast
    constructor
    · rintro ⟨htruthful, hpast⟩
      have hclean := hsame.mp hpast
      exact ⟨(hstep hclean).mp htruthful, hclean⟩
    · rintro ⟨hclean, hpast⟩
      exact ⟨(hstep hpast).mpr hclean, hsame.mpr hpast⟩

end

namespace Retried

@[reducible] def noFrames : ProjectionFrame := ⟨fun _ _ _ _ => 0⟩

def showDone (_ : EventId) : Intent := .preference (.setDefaultFilter .doneOnly)

def deliver (acceptedSeq : ℕ) (save : SaveOutcome) : Op :=
  .deliver acceptedSeq ⟨"event"⟩ { save := save }

def next (c : Coordinator) (op : Op) : Coordinator :=
  @Coordinator.perform .constant noFrames showDone c op

/-- The coordinator after a delivery that met a full disk. -/
def full : Coordinator := next {} (deliver 1 (.unwritten "No space left on device"))

theorem acceptedIds_length_le (past : List (Coordinator × Op)) :
    (acceptedIds past).length ≤ past.length := by
  induction past with
  | nil => exact le_rfl
  | cons e past ih =>
    obtain ⟨c, op⟩ := e
    cases op with
    | elsewhere => exact ih.trans (Nat.le_succ _)
    | deliver acceptedSeq eventId io =>
      rw [acceptedIds]
      split_ifs
      · exact ih.trans (Nat.le_succ _)
      · exact Nat.succ_le_succ ih

theorem windowed_short {past : List (Coordinator × Op)} (hpast : past.length < 3)
    (c : Coordinator) (op : Op) : Windowed past c op := by
  cases op with
  | elsewhere => trivial
  | deliver acceptedSeq eventId io =>
    intro later c₀ acceptedSeq₀ io₀ before hsplit _
    have hlength := congrArg List.length hsplit
    have hids := acceptedIds_length_le later
    rw [List.length_append, List.length_cons] at hlength
    have hcapacity : 3 ≤ SidebarIntentDedupe.capacity := by decide
    omega

theorem works [Sha256] [ProjectionFrame] {c : Coordinator} {filter : StatusFilter} {next : Saved}
    (heffect : c.effect (.preference (.setDefaultFilter filter)) {} = .ok (some next))
    (hpublish : c.runtime.publish.isOk = true) (hvalid : next.preferences.validate = .ok ()) :
    ¬c.Fails (.preference (.setDefaultFilter filter)) {} := by
  rintro (⟨message, herror⟩ | ⟨other, hother, hsave | hreplaces⟩)
  · cases heffect.symm.trans herror
  · exact hsave rfl
  · cases heffect.symm.trans hother
    cases hrun : c.runtime.publish with
    | error e =>
      rw [hrun] at hpublish
      cases hpublish
    | ok runtime => exact hreplaces ⟨⟨runtime, hrun⟩, hvalid, rfl⟩

def filters (eventId : EventId) : Intent :=
  .preference (.setDefaultFilter (if eventId = ⟨"event"⟩ then .doneOnly else .limitedOnly))

def filtered (c : Coordinator) (op : Op) : Coordinator :=
  @Coordinator.perform .constant noFrames filters c op

def saved : Coordinator := filtered {} (.deliver 1 ⟨"event"⟩ {})

def changed : Coordinator := filtered saved (.deliver 2 ⟨"other"⟩ {})

def retry : Op := .deliver 3 ⟨"event"⟩ {}

def retried : List (Coordinator × Op) :=
  [(changed, retry), (saved, .deliver 2 ⟨"other"⟩ {}), ({}, .deliver 1 ⟨"event"⟩ {})]

theorem retried_run : Trace (@Coordinator.Step .constant noFrames filters) {} retried
    (filtered changed retry) :=
  ((Trace.nil.snoc ⟨rfl, rfl⟩).snoc ⟨by decide +kernel, rfl⟩).snoc ⟨by decide +kernel, rfl⟩

theorem retried_clean : Throughout (@Clean .constant noFrames filters) retried := by
  let : Sha256 := .constant
  let : ProjectionFrame := noFrames
  have hfirst : ¬({} : Coordinator).Fails (filters ⟨"event"⟩) {} :=
    @works _ _ {} .doneOnly { preferences := { filter := .doneOnly } } rfl (by decide +kernel)
      (by decide +kernel)
  have hsecond : ¬saved.Fails (filters ⟨"other"⟩) {} :=
    @works _ _ saved .limitedOnly { preferences := { filter := .limitedOnly } } rfl
      (by decide +kernel) (by decide +kernel)
  have hlate {c : Coordinator} {intent : Intent} (h : ¬c.Fails intent {}) :
      ¬c.FailsLate intent {} := by
    rintro ⟨next, hnext, ⟨error, herror⟩ | ⟨-, hreplaces⟩⟩
    · cases herror
    · exact h (Or.inr ⟨next, hnext, Or.inr hreplaces⟩)
  have hseen : ⟨"event"⟩ ∈ changed.sidebarIntentDedupe.seen := by decide +kernel
  have hnew : ⟨"other"⟩ ∉ saved.sidebarIntentDedupe.seen := by decide +kernel
  refine ⟨⟨fun haccepts => absurd hseen haccepts, fun _ => Or.inr ?_⟩,
    ⟨fun _ => hlate hsecond, fun h => absurd hnew h⟩,
    ⟨fun _ => hlate hfirst, fun h => absurd Std.ExtTreeSet.not_mem_empty h⟩, trivial⟩
  intro c₀ acceptedSeq₀ io₀ hmem _
  rcases List.mem_cons.mp hmem with heq | hmem
  · simp at heq
  · cases List.mem_singleton.mp hmem
    exact hfirst

/-- The second delivery of an id is acknowledged after another id has changed what the first one
did, and changes nothing. -/
theorem intents_truthful_retried :
    (filtered changed retry).memory.preferences.filter = .limitedOnly ∧
      Throughout (@Truthful .constant noFrames filters) retried :=
  ⟨by decide +kernel, (@intents_truthful .constant noFrames filters {} _ _ retried_run rfl rfl
    ⟨windowed_short (by decide) _ _, windowed_short (by decide) _ _,
      windowed_short (by decide) _ _, trivial⟩).mpr retried_clean⟩

/-- The intent was never saved, and its second delivery is acknowledged. -/
theorem retry_acknowledged :
    Trace (@Coordinator.Step .constant noFrames showDone) {}
      [(full, deliver 2 .saved), ({}, deliver 1 (.unwritten "No space left on device"))]
      (next full (deliver 2 .saved)) ∧
    Throughout Windowed
      [(full, deliver 2 .saved), ({}, deliver 1 (.unwritten "No space left on device"))] ∧
    (next full (deliver 2 .saved)).memory = {} ∧ (next full (deliver 2 .saved)).files = {} ∧
    ¬Throughout (@Truthful .constant noFrames showDone)
      [(full, deliver 2 .saved), ({}, deliver 1 (.unwritten "No space left on device"))] := by
  refine ⟨(Trace.nil.snoc ⟨rfl, rfl⟩).snoc ⟨by decide +kernel, rfl⟩,
    ⟨windowed_short (by decide) _ _, windowed_short (by decide) _ _, trivial⟩, by decide +kernel,
    by decide +kernel, ?_⟩
  · rintro ⟨htruthful, -⟩
    have hanswer : (@Coordinator.deliver .constant noFrames full 2 ⟨"event"⟩
        (showDone ⟨"event"⟩) {}).1 = .snapshotAck ⟨"event"⟩ 2 1 := by decide +kernel
    have hdone : (@Coordinator.deliver .constant noFrames full 2 ⟨"event"⟩
        (showDone ⟨"event"⟩) {}).1.Done := hanswer ▸ trivial
    rcases htruthful.1 hdone with hnone | ⟨later, c₀, acceptedSeq₀, io₀, before, hsplit, hhandled, -⟩
    · have hsome : full.effect (showDone ⟨"event"⟩) {} =
          .ok (some { preferences := { filter := .doneOnly } }) := by rfl
      cases hsome.symm.trans hnone
    · rcases later with - | ⟨e, - | ⟨e', later⟩⟩
      · cases hsplit
        exact hhandled.1 (by decide +kernel)
      · cases hsplit
        apply (@handled_iff .constant noFrames showDone {} ⟨"event"⟩ 1 _ hhandled.1 rfl).mp hhandled
        exact Or.inr ⟨{ preferences := { filter := .doneOnly } }, rfl, Or.inl nofun⟩
      · simp at hsplit

end Retried

end VdeTmux.Sidebar
