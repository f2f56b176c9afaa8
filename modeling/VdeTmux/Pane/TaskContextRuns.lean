import VdeTmux.Pane.TaskContext

/-!
# Runs of a task context

What a record keeps of its task context, whatever is observed and however often it is written and
read back. The fields that are written are the public prompts and reference, the summary and the
fingerprint; the private input stays in memory and a restart loses it.
-/

open Foundation Foundation.Text
namespace VdeTmux.Pane

structure StoredTaskContext where
  recentPrompts : List String := []
  referenceResponse : Option String := none
  summary : Option TaskSummaryState := none
  privateContextFingerprint : Option String := none
deriving DecidableEq

def TaskContextState.serialize (context : TaskContextState) : StoredTaskContext where
  recentPrompts := context.recentPrompts
  referenceResponse := context.referenceResponse
  summary := context.summary
  privateContextFingerprint := context.privateContextFingerprint

def StoredTaskContext.deserialize (stored : StoredTaskContext) : TaskContextState where
  recentPrompts := stored.recentPrompts
  referenceResponse := stored.referenceResponse
  summary := stored.summary
  privateContextFingerprint := stored.privateContextFingerprint

/-- The stored texts of prompts and answers. -/
def StoredTaskContext.texts (stored : StoredTaskContext) : List String × Option String :=
  (stored.recentPrompts, stored.referenceResponse)

inductive TaskContextOp
  | observePrompt (prompt : String)
  | observePromptWithReference (prompt : String) (response : Option String)
  | observePrivatePrompt (prompt : String)
  | observePrivatePromptWithReference (prompt : String) (response : Option String)
  | restore
deriving DecidableEq

namespace TaskContextOp

/-- A private observation that is taken in: a blank prompt is passed over by every observation. -/
def observesPrivate : TaskContextOp → Bool
  | observePrivatePrompt prompt => !isBlank prompt
  | observePrivatePromptWithReference prompt _ => !isBlank prompt
  | _ => false

def Clean : TaskContextOp → Prop
  | observePrompt prompt | observePrivatePrompt prompt => hasControl prompt = false
  | observePromptWithReference prompt response
  | observePrivatePromptWithReference prompt response =>
    hasControl prompt = false ∧ ∀ text ∈ response, hasControl text = false
  | restore => True

/-- The same operation on texts that are blank together. -/
inductive SameButTexts : TaskContextOp → TaskContextOp → Prop
  | observePrompt {p q : String} (prompt : isBlank p = isBlank q) :
    SameButTexts (.observePrompt p) (.observePrompt q)
  | observePromptWithReference {p q : String} {r s : Option String}
    (prompt : isBlank p = isBlank q) (response : r.map isBlank = s.map isBlank) :
    SameButTexts (.observePromptWithReference p r) (.observePromptWithReference q s)
  | observePrivatePrompt {p q : String} (prompt : isBlank p = isBlank q) :
    SameButTexts (.observePrivatePrompt p) (.observePrivatePrompt q)
  | observePrivatePromptWithReference {p q : String} {r s : Option String}
    (prompt : isBlank p = isBlank q) (response : r.map isBlank = s.map isBlank) :
    SameButTexts (.observePrivatePromptWithReference p r) (.observePrivatePromptWithReference q s)
  | restore : SameButTexts .restore .restore

end TaskContextOp

namespace TaskContextState
variable [Sha256]

def apply (context : TaskContextState) : TaskContextOp → TaskContextState
  | .observePrompt prompt => context.observePrompt prompt
  | .observePromptWithReference prompt response =>
    context.observePromptWithReference prompt response
  | .observePrivatePrompt prompt => context.observePrivatePrompt prompt
  | .observePrivatePromptWithReference prompt response =>
    context.observePrivatePromptWithReference prompt response
  | .restore => context.serialize.deserialize

def run (context : TaskContextState) (ops : List TaskContextOp) : TaskContextState :=
  ops.foldl apply context

theorem run_append {context : TaskContextState} {ops ops' : List TaskContextOp} :
    context.run (ops ++ ops') = (context.run ops).run ops' :=
  List.foldl_append

theorem run_cons {context : TaskContextState} {op : TaskContextOp} {ops : List TaskContextOp} :
    context.run (op :: ops) = (context.apply op).run ops :=
  List.foldl_cons ..

def isPrivate (context : TaskContextState) : Bool := context.privateContextFingerprint.isSome

/-- Nothing is hidden without its fingerprint, and with a fingerprint nothing is public. -/
structure Guarded (context : TaskContextState) : Prop where
  closed : context.Sealed
  hidden : context.isPrivate = true →
    context.recentPrompts = [] ∧ context.referenceResponse = none

omit [Sha256] in
theorem Guarded.texts {context : TaskContextState} (h : context.Guarded)
    (hprivate : context.isPrivate = true) : context.serialize.texts = ([], none) := by
  obtain ⟨hprompts, hresponse⟩ := h.hidden hprivate
  simp only [serialize, StoredTaskContext.texts, hprompts, hresponse]

theorem guarded_deserialize {stored : StoredTaskContext}
    (h : stored.deserialize.validate = .ok ()) : stored.deserialize.Guarded := by
  refine ⟨?_, ?_⟩
  · intro hinput
    simp [StoredTaskContext.deserialize] at hinput
  · intro hprivate
    obtain ⟨fp, hfp⟩ := Option.isSome_iff_exists.mp hprivate
    have hsound := (validate_eq_ok.mp h).2.2 fp hfp
    exact ⟨hsound.prompts, hsound.response⟩

omit [Sha256] in
theorem openPrivateInput_hidden {context : TaskContextState} (h : context.Guarded) :
    context.openPrivateInput.1.recentPrompts = [] ∧
      context.openPrivateInput.1.referenceResponse = none := by
  cases hinput : context.privateInput with
  | none => simp [openPrivateInput, hinput]
  | some input =>
    have hprivate := h.closed (by simp [hinput])
    simpa [openPrivateInput, hinput] using h.hidden hprivate

omit [Sha256] in
theorem pushPrompt_ne_nil {prompts : List String} {prompt : String}
    (h : isBlank prompt = false) : pushPrompt prompts prompt ≠ [] := by
  have hne : truncate (trim prompt) taskContextPromptMaxBytes ≠ "" := by
    apply truncate_trim_ne_empty
    · simpa [isBlank, String.isEmpty_iff] using h
    · simp [taskContextPromptMaxBytes]
  unfold pushPrompt
  dsimp only
  split_ifs with hempty hlast hfull
  · exact absurd (String.isEmpty_iff.mp hempty) hne
  · intro hnil
    simp [hnil] at hlast
  · intro hnil
    have hlen := congrArg List.length hnil
    simp only [List.length_tail, List.length_append, List.length_singleton, List.length_nil]
      at hlen hfull
    simp only [maxTaskContextPrompts] at hfull
    omega
  · simp

theorem fingerprint_isSome {prompts : List String} {response : Option String}
    (h : prompts ≠ []) : (fingerprint prompts response).isSome = true := by
  simp [fingerprint, h]

theorem observePrivatePrompt_guarded {context : TaskContextState} {prompt : String}
    (h : context.openPrivateInput.1.recentPrompts = [] ∧
      context.openPrivateInput.1.referenceResponse = none) (hblank : isBlank prompt = false) :
    (context.observePrivatePrompt prompt).Guarded ∧
      (context.observePrivatePrompt prompt).isPrivate = true := by
  have hprivate : (context.observePrivatePrompt prompt).isPrivate = true := by
    rw [observePrivatePrompt_eq hblank]
    exact fingerprint_isSome (pushPrompt_ne_nil hblank)
  refine ⟨⟨fun _ => hprivate, fun _ => ?_⟩, hprivate⟩
  rw [observePrivatePrompt_eq hblank]
  exact h

omit [Sha256] in
theorem setPrivateReference_hidden {context : TaskContextState} {response : Option String}
    (h : context.Guarded) :
    (context.setPrivateReference response).openPrivateInput.1.recentPrompts = [] ∧
      (context.setPrivateReference response).openPrivateInput.1.referenceResponse = none := by
  rw [setPrivateReference_open]
  exact openPrivateInput_hidden h

omit [Sha256] in
theorem setPrivateReference_isPrivate {context : TaskContextState} {response : Option String} :
    (context.setPrivateReference response).isPrivate = context.isPrivate := by
  unfold setPrivateReference openPrivateInput isPrivate
  cases context.privateInput with
  | none => dsimp only
  | some input => dsimp only

/-- What one operation keeps: the guard, privacy, and it makes the context private when it takes a
private prompt in. -/
structure Kept (context : TaskContextState) (taken : Bool) (next : TaskContextState) : Prop where
  guarded : next.Guarded
  stays : context.isPrivate = true ∨ taken = true → next.isPrivate = true

omit [Sha256] in
theorem Kept.of_private {context next : TaskContextState} {taken : Bool}
    (h : next.Guarded ∧ next.isPrivate = true) : Kept context taken next :=
  ⟨h.1, fun _ => h.2⟩

omit [Sha256] in
theorem Kept.refl {context : TaskContextState} (h : context.Guarded) :
    Kept context false context := by
  refine ⟨h, ?_⟩
  rintro (hprivate | htaken)
  · exact hprivate
  · cases htaken

theorem kept_observePrivatePrompt {context : TaskContextState} (h : context.Guarded)
    (prompt : String) :
    Kept context (!isBlank prompt) (context.observePrivatePrompt prompt) := by
  cases hblank : isBlank prompt with
  | true =>
    simp only [observePrivatePrompt, hblank, if_true]
    exact .refl h
  | false => exact .of_private (observePrivatePrompt_guarded (openPrivateInput_hidden h) hblank)

theorem kept_observePrivatePromptWithReference {context : TaskContextState}
    (h : context.Guarded) (prompt : String) (response : Option String) :
    Kept context (!isBlank prompt) (context.observePrivatePromptWithReference prompt response) := by
  cases hblank : isBlank prompt with
  | true =>
    simp only [observePrivatePromptWithReference, hblank, if_true]
    exact .refl h
  | false =>
    simp only [observePrivatePromptWithReference, hblank, Bool.false_eq_true, if_false]
    exact .of_private (observePrivatePrompt_guarded (setPrivateReference_hidden h) hblank)

omit [Sha256] in
theorem kept_of_public {context next : TaskContextState} (h : context.Guarded)
    (hpublic : ¬ context.isPrivate = true) (hinput : next.privateInput = context.privateInput)
    (hfp : next.privateContextFingerprint = context.privateContextFingerprint) :
    Kept context false next := by
  have hprivate : next.isPrivate = context.isPrivate := by
    unfold isPrivate
    rw [hfp]
  refine ⟨⟨?_, ?_⟩, ?_⟩
  · intro hsome
    rw [hinput] at hsome
    exact absurd (h.closed hsome) hpublic
  · intro hnext
    rw [hprivate] at hnext
    exact absurd hnext hpublic
  · rintro (hcontext | htaken)
    · exact absurd hcontext hpublic
    · cases htaken

theorem kept_observePrompt {context : TaskContextState} (h : context.Guarded)
    (prompt : String) : Kept context false (context.observePrompt prompt) := by
  unfold observePrompt
  split_ifs with hprivate
  · have hkept := kept_observePrivatePrompt h prompt
    exact ⟨hkept.guarded, fun _ => hkept.stays (.inl hprivate)⟩
  · exact kept_of_public h hprivate (Eq.refl _) (Eq.refl _)

theorem kept_observePromptWithReference {context : TaskContextState} (h : context.Guarded)
    (prompt : String) (response : Option String) :
    Kept context false (context.observePromptWithReference prompt response) := by
  unfold observePromptWithReference
  split_ifs with hblank hprivate
  · exact .refl h
  · have hset : (context.setPrivateReference (referenceText response)).isPrivate = true :=
      setPrivateReference_isPrivate.trans hprivate
    unfold isPrivate at hset
    simp only [observePrompt, hset, if_true]
    exact .of_private (observePrivatePrompt_guarded (setPrivateReference_hidden h)
      (Bool.not_eq_true _ ▸ hblank))
  · unfold observePrompt
    dsimp only
    rw [if_neg hprivate]
    exact kept_of_public h hprivate (Eq.refl _) (Eq.refl _)

omit [Sha256] in
theorem kept_restore {context : TaskContextState} (h : context.Guarded) :
    Kept context false context.serialize.deserialize := by
  refine ⟨⟨?_, h.hidden⟩, ?_⟩
  · intro hinput
    simp [StoredTaskContext.deserialize] at hinput
  · rintro (hprivate | htaken)
    · exact hprivate
    · cases htaken

theorem kept_apply {context : TaskContextState} (h : context.Guarded) (op : TaskContextOp) :
    Kept context op.observesPrivate (context.apply op) := by
  cases op with
  | observePrompt prompt => exact kept_observePrompt h prompt
  | observePromptWithReference prompt response =>
    exact kept_observePromptWithReference h prompt response
  | observePrivatePrompt prompt => exact kept_observePrivatePrompt h prompt
  | observePrivatePromptWithReference prompt response =>
    exact kept_observePrivatePromptWithReference h prompt response
  | restore => exact kept_restore h

theorem run_guarded {context : TaskContextState} (h : context.Guarded)
    (ops : List TaskContextOp) : (context.run ops).Guarded := by
  induction ops generalizing context with
  | nil => exact h
  | cons op ops ih => exact ih (kept_apply h op).guarded

theorem run_isPrivate {context : TaskContextState} (h : context.Guarded)
    (hprivate : context.isPrivate = true) (ops : List TaskContextOp) :
    (context.run ops).isPrivate = true := by
  induction ops generalizing context with
  | nil => exact hprivate
  | cons op ops ih =>
    have hkept := kept_apply h op
    exact ih hkept.guarded (hkept.stays (.inl hprivate))

theorem run_texts_of_isPrivate {context : TaskContextState} (h : context.Guarded)
    (hprivate : context.isPrivate = true) (ops : List TaskContextOp) :
    (context.run ops).serialize.texts = ([], none) :=
  (run_guarded h ops).texts (run_isPrivate h hprivate ops)

theorem restore_validate {context : TaskContextState} (h : context.validate = .ok ()) :
    context.serialize.deserialize.validate = .ok () := by
  obtain ⟨hpublic, hsummary, hprivate⟩ := validate_eq_ok.mp h
  refine validate_eq_ok.mpr ⟨hpublic, hsummary, ?_⟩
  intro fp hfp
  have hsound := hprivate fp hfp
  refine ⟨hsound.shape, hsound.prompts, hsound.response, ?_⟩
  intro input hinput
  simp [StoredTaskContext.deserialize] at hinput

theorem apply_validate {context : TaskContextState} (h : context.validate = .ok ())
    (hguard : context.Guarded) {op : TaskContextOp} (hop : op.Clean) :
    (context.apply op).validate = .ok () := by
  cases op with
  | observePrompt prompt => exact observePrompt_validate h hop
  | observePromptWithReference prompt response =>
    exact observePromptWithReference_validate h hop.1 hop.2
  | observePrivatePrompt prompt => exact observePrivatePrompt_validate h hguard.closed hop
  | observePrivatePromptWithReference prompt response =>
    exact observePrivatePromptWithReference_validate h hguard.closed hop.1 hop.2
  | restore => exact restore_validate h

theorem run_validate {context : TaskContextState} (h : context.validate = .ok ())
    (hguard : context.Guarded) {ops : List TaskContextOp} (hops : ∀ op ∈ ops, op.Clean) :
    (context.run ops).validate = .ok () := by
  induction ops generalizing context with
  | nil => exact h
  | cons op ops ih =>
    have hop := hops op List.mem_cons_self
    apply ih (apply_validate h hguard hop) (kept_apply hguard op).guarded
    intro op' hmem
    exact hops op' (List.mem_cons_of_mem op hmem)

/-- From any stored context that passes its check: histories that agree until the context is
private and then differ in their texts only store the same texts; once a private prompt was taken
in no text is stored; and clean texts keep the context valid. -/
theorem private_prompts_not_stored {stored : StoredTaskContext}
    (h : stored.deserialize.validate = .ok ()) :
    (∀ ops left right, (stored.deserialize.run ops).isPrivate = true →
      List.Forall₂ TaskContextOp.SameButTexts left right →
      (stored.deserialize.run (ops ++ left)).serialize.texts =
        (stored.deserialize.run (ops ++ right)).serialize.texts) ∧
    (∀ before op after, op.observesPrivate = true →
      (stored.deserialize.run (before ++ op :: after)).serialize.texts = ([], none)) ∧
    (∀ ops, (∀ op ∈ ops, op.Clean) → (stored.deserialize.run ops).validate = .ok ()) := by
  have hguard := guarded_deserialize h
  refine ⟨?_, ?_, ?_⟩
  · intro ops left right hprivate _
    have hops := run_guarded hguard ops
    rw [run_append, run_append, run_texts_of_isPrivate hops hprivate,
      run_texts_of_isPrivate hops hprivate]
  · intro before op after hop
    have hkept := kept_apply (run_guarded hguard before) op
    rw [run_append, run_cons]
    exact run_texts_of_isPrivate hkept.guarded (hkept.stays (.inr hop)) after
  · intro ops hops
    exact run_validate h hguard hops

example : letI := Sha256.constant
    (({} : TaskContextState).run [.observePrompt "a", .observePrivatePrompt "b", .restore,
      .observePrompt "c"]).serialize.texts = ([], none) := by
  decide +kernel

end TaskContextState

def storedTask : StoredTaskContext where
  recentPrompts := ["a"]
  referenceResponse := some "r"

theorem private_prompts_not_stored_task :
    letI := Sha256.constant
    (storedTask.deserialize.run
        [.observePrivatePrompt "c", .observePrompt "x", .restore]).serialize.texts =
      (storedTask.deserialize.run
        [.observePrivatePrompt "c", .observePrompt "y", .restore]).serialize.texts ∧
    storedTask.deserialize.serialize.texts = (["a"], some "r") ∧
    (storedTask.deserialize.run
      [.observePrompt "b", .observePrivatePrompt "c", .restore]).serialize.texts = ([], none) ∧
    (storedTask.deserialize.run
      [.observePromptWithReference "b" (some "s"), .observePrivatePrompt "c"]).validate = .ok () := by
  let _ : Sha256 := Sha256.constant
  have hvalid : storedTask.deserialize.validate = .ok () := by decide +kernel
  obtain ⟨hsame, htexts, hrun⟩ := TaskContextState.private_prompts_not_stored hvalid
  refine ⟨?_, rfl, ?_, hrun _ ?_⟩
  · refine hsame [.observePrivatePrompt "c"] [.observePrompt "x", .restore]
      [.observePrompt "y", .restore] (by decide +kernel) (.cons (.observePrompt ?_)
        (.cons .restore .nil))
    decide +kernel
  · exact htexts [.observePrompt "b"] (.observePrivatePrompt "c") [.restore] (by decide +kernel)
  · have hclean : ∀ text ∈ ["b", "s", "c"], hasControl text = false := by decide +kernel
    intro op hop
    simp only [List.mem_cons, List.not_mem_nil, or_false] at hop
    rcases hop with rfl | rfl
    · refine ⟨hclean "b" (by simp), fun text htext => ?_⟩
      obtain rfl := Option.mem_some_iff.mp htext
      exact hclean "s" (by simp)
    · exact hclean "c" (by simp)

end VdeTmux.Pane
