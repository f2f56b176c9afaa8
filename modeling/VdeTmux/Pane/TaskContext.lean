import VdeTmux.Pane.Model

/-!
# Task context

The prompts a task summary is made from. Once a private prompt was seen, the public prompt list
stays empty and only the fingerprint of the private input is kept in the record.
-/

open Foundation Foundation.Text
namespace VdeTmux.Pane

inductive TaskSummaryOutcome
  | generated
  | failed
deriving DecidableEq

structure TaskSummaryState where
  text : Option String
  contextFingerprint : String
  generatedAt : ℤ
  outcome : TaskSummaryOutcome
  failureCode : Option String
deriving DecidableEq

def validFailureCode (code : String) : Bool :=
  !code.isEmpty && byteLen code ≤ identifierMaxBytes &&
    code.toList.all fun c => ('a' ≤ c && c ≤ 'z') || c = '_'

def validFingerprint (fingerprint : String) : Bool :=
  byteLen fingerprint = 64 && fingerprint.toList.all isHexDigit

def TaskSummaryState.validate (summary : TaskSummaryState) : Except ModelError Unit := do
  forSome (fun text => do
    validateRequiredText text "task summary" taskSummaryMaxBytes
    refuse (containsLineBreak text = true) ⟨"task summary must be one line"⟩) summary.text
  refuse (validFingerprint summary.contextFingerprint = false)
    ⟨"task summary context fingerprint is invalid"⟩
  refuse (summary.generatedAt < 0) ⟨"task summary timestamp must be non-negative"⟩
  match summary.outcome with
  | .generated =>
    refuse (summary.failureCode.isSome = true) ⟨"task summary outcome metadata is inconsistent"⟩
  | .failed =>
    refuse (summary.text.isSome = true ∨ summary.failureCode.any validFailureCode = false)
      ⟨"task summary outcome metadata is inconsistent"⟩

structure PrivateTaskContext where
  recentPrompts : List String
  referenceResponse : Option String
deriving DecidableEq

structure TaskContextState where
  recentPrompts : List String := []
  referenceResponse : Option String := none
  summary : Option TaskSummaryState := none
  privateContextFingerprint : Option String := none
  privateInput : Option PrivateTaskContext := none
deriving DecidableEq

@[irreducible] def pushPrompt (prompts : List String) (prompt : String) : List String :=
  let prompt := truncate (trim prompt) taskContextPromptMaxBytes
  if prompt.isEmpty then prompts
  else if prompts.getLast? = some prompt then prompts
  else
    let prompts := prompts ++ [prompt]
    if maxTaskContextPrompts < prompts.length then prompts.tail else prompts

/-- The reference kept with a prompt: trimmed, dropped when blank, cut to the preview limit. -/
def referenceText (response : Option String) : Option String :=
  ((response.map trim).filter fun response => !response.isEmpty).map
    (truncate · responsePreviewMaxBytes)

/-- The bytes that are hashed: each prompt and then the reference, each after its own marker. -/
def fingerprintInput (prompts : List String) (response : Option String) : List UInt8 :=
  prompts.flatMap (fun prompt => utf8 "\x00recent\x00" ++ utf8 prompt) ++
    (response.elim [] fun response => utf8 "\x00reference-response\x00" ++ utf8 response)

namespace TaskContextState
variable [Sha256]

def fingerprint (prompts : List String) (response : Option String) : Option String :=
  if prompts.isEmpty then none else some (sha256Hex (fingerprintInput prompts response))

def openPrivateInput (context : TaskContextState) : TaskContextState × PrivateTaskContext :=
  match context.privateInput with
  | some input => (context, input)
  | none =>
    ({ context with recentPrompts := [], referenceResponse := none },
      ⟨context.recentPrompts, context.referenceResponse⟩)

def observePrivatePrompt (context : TaskContextState) (prompt : String) : TaskContextState :=
  if isBlank prompt then context
  else
    let opened := context.openPrivateInput
    let input := { opened.2 with recentPrompts := pushPrompt opened.2.recentPrompts prompt }
    { opened.1 with
      privateInput := some input
      privateContextFingerprint := fingerprint input.recentPrompts input.referenceResponse }

def observePrompt (context : TaskContextState) (prompt : String) : TaskContextState :=
  if context.privateContextFingerprint.isSome then context.observePrivatePrompt prompt
  else { context with recentPrompts := pushPrompt context.recentPrompts prompt }

def setPrivateReference (context : TaskContextState) (response : Option String) :
    TaskContextState :=
  let opened := context.openPrivateInput
  { opened.1 with privateInput := some { opened.2 with referenceResponse := response } }

def observePromptWithReference (context : TaskContextState) (prompt : String)
    (response : Option String) : TaskContextState :=
  if isBlank prompt then context
  else
    let response := referenceText response
    let context :=
      if context.privateContextFingerprint.isSome then context.setPrivateReference response
      else { context with referenceResponse := response }
    context.observePrompt prompt

def observePrivatePromptWithReference (context : TaskContextState) (prompt : String)
    (response : Option String) : TaskContextState :=
  if isBlank prompt then context
  else (context.setPrivateReference (referenceText response)).observePrivatePrompt prompt

/-- The input of a summary. A fingerprint without its private input cannot be summarised. -/
def summaryInput (context : TaskContextState) : Option TaskContextState :=
  if context.privateContextFingerprint.isSome then
    context.privateInput.map fun input =>
      { context with
        privateInput := none
        recentPrompts := input.recentPrompts
        referenceResponse := input.referenceResponse
        privateContextFingerprint := none }
  else some context

def contextFingerprint (context : TaskContextState) : Option String :=
  context.privateContextFingerprint.or
    (fingerprint context.recentPrompts context.referenceResponse)

def validatePublic (context : TaskContextState) : Except ModelError Unit := do
  refuse (maxTaskContextPrompts < context.recentPrompts.length) ⟨"too many task context prompts"⟩
  context.recentPrompts.forM
    (validateRequiredText · "task context prompt" taskContextPromptMaxBytes)
  forSome (validateRequiredText · "task context reference response" responsePreviewMaxBytes)
    context.referenceResponse
  forSome TaskSummaryState.validate context.summary

/-- The summary input carries no fingerprint of its own, so its check is the public one. -/
def validate (context : TaskContextState) : Except ModelError Unit := do
  forSome (fun fingerprint => do
    refuse (validFingerprint fingerprint = false ∨ context.recentPrompts ≠ [] ∨
        context.referenceResponse.isSome = true) ⟨"invalid private task context"⟩
    forSome (fun input => do
      input.validatePublic
      refuse (input.contextFingerprint ≠ some fingerprint)
        ⟨"private task context fingerprint mismatch"⟩) context.summaryInput)
    context.privateContextFingerprint
  context.validatePublic

end TaskContextState

def ContextText (maxBytes : ℕ) (text : String) : Prop :=
  isBlank text = false ∧ byteLen text ≤ maxBytes ∧ hasControl text = false

structure PublicInput (prompts : List String) (response : Option String) : Prop where
  count : prompts.length ≤ maxTaskContextPrompts
  prompts : ∀ prompt ∈ prompts, ContextText taskContextPromptMaxBytes prompt
  response : ∀ text ∈ response, ContextText responsePreviewMaxBytes text

theorem hasControl_trim {text : String} (h : hasControl text = false) :
    hasControl (trim text) = false := by
  refine hasControl_of_sublist ?_ h
  rw [trim, String.toList_ofList]
  exact trimChars_sublist _

theorem contextText_truncate_trim {text : String} {n : ℕ} (hne : truncate (trim text) n ≠ "")
    (h : hasControl text = false) : ContextText n (truncate (trim text) n) :=
  ⟨isBlank_truncate_trim hne, byteLen_truncate _ _,
    hasControl_of_sublist (truncate_sublist _ _) (hasControl_trim h)⟩

theorem PublicInput.nil : PublicInput [] none :=
  ⟨by simp [maxTaskContextPrompts], by simp, by simp⟩

theorem PublicInput.pushPrompt {prompts : List String} {response : Option String}
    (h : PublicInput prompts response) {prompt : String} (hprompt : hasControl prompt = false) :
    PublicInput (pushPrompt prompts prompt) response := by
  unfold Pane.pushPrompt
  dsimp only
  split_ifs with hempty hlast hfull
  · exact h
  · exact h
  all_goals
    have hall : ∀ text ∈ prompts ++ [truncate (trim prompt) taskContextPromptMaxBytes],
        ContextText taskContextPromptMaxBytes text := by
      intro text htext
      rcases List.mem_append.mp htext with htext | htext
      · exact h.prompts text htext
      · rw [List.mem_singleton.mp htext]
        exact contextText_truncate_trim (by simpa [String.isEmpty_iff] using hempty) hprompt
  · refine ⟨?_, fun text htext => hall text (List.mem_of_mem_tail htext), h.response⟩
    have hcount := h.count
    simp only [List.length_tail, List.length_append, List.length_singleton]
    omega
  · exact ⟨by simpa using hfull, hall, h.response⟩

theorem PublicInput.withReference {prompts : List String} {response response' : Option String}
    (h : PublicInput prompts response)
    (hresponse : ∀ text ∈ response', hasControl text = false) :
    PublicInput prompts (referenceText response') := by
  refine ⟨h.count, h.prompts, ?_⟩
  intro text htext
  simp only [referenceText, Option.mem_def, Option.map_eq_some_iff, Option.filter_eq_some_iff]
    at htext
  obtain ⟨trimmed, ⟨⟨raw, hraw, rfl⟩, hne⟩, rfl⟩ := htext
  refine contextText_truncate_trim (truncate_trim_ne_empty ?_ ?_) (hresponse raw hraw)
  · simpa [String.isEmpty_iff] using hne
  · simp [responsePreviewMaxBytes]

namespace TaskContextState
variable [Sha256]

def Summarised (context : TaskContextState) : Prop :=
  forSome TaskSummaryState.validate context.summary = .ok ()

omit [Sha256] in
theorem validatePublic_eq_ok {context : TaskContextState} {u : Unit} :
    context.validatePublic = .ok u ↔
      PublicInput context.recentPrompts context.referenceResponse ∧ context.Summarised := by
  cases u
  have hresponse : forSome (validateRequiredText · "task context reference response"
      responsePreviewMaxBytes) context.referenceResponse = .ok () ↔
      ∀ text ∈ context.referenceResponse, ContextText responsePreviewMaxBytes text := by
    cases context.referenceResponse <;> simp [validateRequiredText_eq_ok, ContextText]
  simp only [validatePublic, bind_eq_ok, refuse_eq_ok, forM_eq_ok, hresponse,
    validateRequiredText_eq_ok, Summarised, not_lt, exists_and_left, exists_const]
  constructor
  · rintro ⟨hcount, hprompts, hresponse, hsummary⟩
    exact ⟨⟨hcount, hprompts, hresponse⟩, hsummary⟩
  · rintro ⟨⟨hcount, hprompts, hresponse⟩, hsummary⟩
    exact ⟨hcount, hprompts, hresponse, hsummary⟩

/-- The private half of the check: with a fingerprint the public fields are empty, and a private
input that is present has exactly that fingerprint. -/
structure PrivateSound (context : TaskContextState) (fp : String) : Prop where
  shape : validFingerprint fp = true
  prompts : context.recentPrompts = []
  response : context.referenceResponse = none
  input : ∀ input ∈ context.privateInput,
    PublicInput input.recentPrompts input.referenceResponse ∧
      fingerprint input.recentPrompts input.referenceResponse = some fp

theorem validate_eq_ok {context : TaskContextState} {u : Unit} :
    context.validate = .ok u ↔
      PublicInput context.recentPrompts context.referenceResponse ∧ context.Summarised ∧
      ∀ fp ∈ context.privateContextFingerprint, context.PrivateSound fp := by
  rw [validate, bind_eq_ok]
  simp only [validatePublic_eq_ok]
  cases hfp : context.privateContextFingerprint with
  | none => simp
  | some fp =>
    cases hin : context.privateInput with
    | none =>
      simp only [forSome_some, summaryInput, hfp, hin, Option.isSome_some, if_true, bind_eq_ok,
        refuse_eq_ok, Option.map_none, forSome_none, Option.mem_def, Option.some.injEq,
        forall_eq']
      constructor
      · rintro ⟨_, ⟨_, hshape, -⟩, hpublic, hsummary⟩
        simp only [not_or, Bool.not_eq_false, ne_eq, not_not, Option.not_isSome_iff_eq_none]
          at hshape
        exact ⟨hpublic, hsummary, hshape.1, hshape.2.1, hshape.2.2, by simp [hin]⟩
      · rintro ⟨hpublic, hsummary, hsound⟩
        exact ⟨(), ⟨(), by simp [hsound.shape, hsound.prompts, hsound.response], trivial⟩, hpublic,
          hsummary⟩
    | some input =>
      simp only [forSome_some, summaryInput, hfp, hin, Option.isSome_some, if_true, bind_eq_ok,
        refuse_eq_ok, Option.map_some, validatePublic_eq_ok, Option.mem_def, Option.some.injEq,
        forall_eq', contextFingerprint, Option.none_or]
      constructor
      · rintro ⟨_, ⟨_, hshape, _, ⟨hinput, -⟩, hprint⟩, hpublic, hsummary⟩
        simp only [not_or, Bool.not_eq_false, ne_eq, not_not, Option.not_isSome_iff_eq_none]
          at hshape
        have hprint := not_not.mp (refuse_eq_ok.mp hprint)
        exact ⟨hpublic, hsummary, hshape.1, hshape.2.1, hshape.2.2, by
          rintro _ heq
          rw [hin] at heq
          cases heq
          exact ⟨hinput, hprint⟩⟩
      · rintro ⟨hpublic, hsummary, hsound⟩
        obtain ⟨hinput, hprint⟩ := hsound.input input hin
        exact ⟨(), ⟨(), by simp [hsound.shape, hsound.prompts, hsound.response], (),
          ⟨hinput, hsummary⟩, by simp [hprint]⟩, hpublic, hsummary⟩

example : ({ recentPrompts := ["a"] } : TaskContextState).validate = .ok () :=
  validate_eq_ok.mpr ⟨⟨by decide, List.forall_mem_singleton.mpr ⟨by decide, by decide, by decide⟩,
    by simp⟩, rfl, by simp⟩

theorem validate_default : ({} : TaskContextState).validate = .ok () :=
  validate_eq_ok.mpr ⟨.nil, rfl, by simp⟩

/-- A private input is never kept without its fingerprint; the private fields are written in
this module only. -/
def Sealed (context : TaskContextState) : Prop :=
  context.privateInput.isSome = true → context.privateContextFingerprint.isSome = true

theorem openPrivateInput_spec {context : TaskContextState} (h : context.validate = .ok ())
    (hsealed : context.Sealed) :
    (context.openPrivateInput.1.recentPrompts = [] ∧
      context.openPrivateInput.1.referenceResponse = none ∧
      context.openPrivateInput.1.summary = context.summary) ∧
    PublicInput context.openPrivateInput.2.recentPrompts
      context.openPrivateInput.2.referenceResponse := by
  obtain ⟨hpublic, -, hprivate⟩ := validate_eq_ok.mp h
  cases hin : context.privateInput with
  | none => simpa [openPrivateInput, hin] using hpublic
  | some input =>
    obtain ⟨fp, hfp⟩ := Option.isSome_iff_exists.mp (hsealed (by simp [hin]))
    have hsound := hprivate fp hfp
    simpa [openPrivateInput, hin, hsound.prompts, hsound.response] using
      (hsound.input input hin).1

theorem fingerprint_valid {prompts : List String} {response : Option String} {fp : String}
    (h : fingerprint prompts response = some fp) : validFingerprint fp = true := by
  unfold fingerprint at h
  split_ifs at h
  cases h
  simp [validFingerprint, sha256Hex_length, sha256Hex_hex]

/-- A context whose public fields are empty and whose private input carries its own fingerprint
passes the check. -/
theorem validate_of_private {context : TaskContextState} {input : PrivateTaskContext}
    (hprompts : context.recentPrompts = []) (hresponse : context.referenceResponse = none)
    (hsummary : context.Summarised) (hin : context.privateInput = some input)
    (hinput : PublicInput input.recentPrompts input.referenceResponse)
    (hfp : context.privateContextFingerprint =
      fingerprint input.recentPrompts input.referenceResponse) :
    context.validate = .ok () := by
  refine validate_eq_ok.mpr ⟨by rw [hprompts, hresponse]; exact .nil, hsummary, ?_⟩
  intro fp hmem
  have hfp' := hfp.symm.trans hmem
  refine ⟨fingerprint_valid hfp', hprompts, hresponse, ?_⟩
  intro input' hin'
  rw [hin] at hin'
  cases hin'
  exact ⟨hinput, hfp'⟩

theorem observePrivatePrompt_eq {context : TaskContextState} {prompt : String}
    (h : isBlank prompt = false) :
    context.observePrivatePrompt prompt =
      { context.openPrivateInput.1 with
        privateInput := some { context.openPrivateInput.2 with
          recentPrompts := pushPrompt context.openPrivateInput.2.recentPrompts prompt }
        privateContextFingerprint :=
          fingerprint (pushPrompt context.openPrivateInput.2.recentPrompts prompt)
            context.openPrivateInput.2.referenceResponse } := by
  unfold observePrivatePrompt
  rw [h, if_neg Bool.false_ne_true]

omit [Sha256] in
theorem setPrivateReference_open {context : TaskContextState} {response : Option String} :
    (context.setPrivateReference response).openPrivateInput =
      (context.setPrivateReference response,
        { context.openPrivateInput.2 with referenceResponse := response }) := by
  simp only [setPrivateReference, openPrivateInput]

omit [Sha256] in
theorem summarised_of_eq {context context' : TaskContextState}
    (h : context'.summary = context.summary) (hs : context.Summarised) : context'.Summarised := by
  unfold Summarised at hs ⊢
  rw [h]
  exact hs

theorem observePrivatePrompt_validate {context : TaskContextState} {prompt : String}
    (h : context.validate = .ok ()) (hsealed : context.Sealed)
    (hprompt : hasControl prompt = false) :
    (context.observePrivatePrompt prompt).validate = .ok () := by
  cases hblank : isBlank prompt with
  | true => simpa [observePrivatePrompt, hblank] using h
  | false =>
    obtain ⟨⟨hprompts, hresponse, hsummary⟩, hinput⟩ := openPrivateInput_spec h hsealed
    have hpush := hinput.pushPrompt hprompt
    rw [observePrivatePrompt_eq hblank]
    refine validate_of_private hprompts hresponse
      (summarised_of_eq hsummary (validate_eq_ok.mp h).2.1) (Eq.refl (some _)) ?_ (Eq.refl _)
    exact hpush

theorem observePrompt_validate {context : TaskContextState} {prompt : String}
    (h : context.validate = .ok ()) (hprompt : hasControl prompt = false) :
    (context.observePrompt prompt).validate = .ok () := by
  unfold observePrompt
  split_ifs with hfp
  · exact observePrivatePrompt_validate h (fun _ => hfp) hprompt
  · obtain ⟨hpublic, hsummary, -⟩ := validate_eq_ok.mp h
    refine validate_eq_ok.mpr ⟨?_, hsummary, ?_⟩
    · dsimp only
      exact hpublic.pushPrompt hprompt
    intro fp hmem
    exact absurd (Option.isSome_iff_exists.mpr ⟨fp, hmem⟩) hfp

theorem setPrivateReference_observe {context : TaskContextState} {prompt : String}
    {response : Option String} (h : context.validate = .ok ()) (hsealed : context.Sealed)
    (hblank : isBlank prompt = false) (hprompt : hasControl prompt = false)
    (hresponse : ∀ text ∈ response, hasControl text = false) :
    ((context.setPrivateReference (referenceText response)).observePrivatePrompt prompt).validate
      = .ok () := by
  obtain ⟨⟨hprompts, hreference, hsummary⟩, hinput⟩ := openPrivateInput_spec h hsealed
  have hpush := (hinput.withReference hresponse).pushPrompt hprompt
  rw [observePrivatePrompt_eq hblank, setPrivateReference_open]
  refine validate_of_private hprompts hreference
    (summarised_of_eq hsummary (validate_eq_ok.mp h).2.1) (Eq.refl (some _)) ?_ (Eq.refl _)
  exact hpush

theorem observePromptWithReference_validate {context : TaskContextState} {prompt : String}
    {response : Option String} (h : context.validate = .ok ())
    (hprompt : hasControl prompt = false)
    (hresponse : ∀ text ∈ response, hasControl text = false) :
    (context.observePromptWithReference prompt response).validate = .ok () := by
  unfold observePromptWithReference
  split_ifs with hblank hfp
  · exact h
  · have hkeep : (context.setPrivateReference (referenceText response)).privateContextFingerprint
        = context.privateContextFingerprint := by
      unfold setPrivateReference openPrivateInput
      cases context.privateInput <;> rfl
    simp only [observePrompt, hkeep, hfp, if_true]
    exact setPrivateReference_observe h (fun _ => hfp) (by simpa using hblank) hprompt hresponse
  · refine observePrompt_validate ?_ hprompt
    obtain ⟨hpublic, hsummary, -⟩ := validate_eq_ok.mp h
    refine validate_eq_ok.mpr ⟨hpublic.withReference hresponse, hsummary, ?_⟩
    intro fp hmem
    exact absurd (Option.isSome_iff_exists.mpr ⟨fp, hmem⟩) hfp

theorem observePrivatePromptWithReference_validate {context : TaskContextState}
    {prompt : String} {response : Option String} (h : context.validate = .ok ())
    (hsealed : context.Sealed) (hprompt : hasControl prompt = false)
    (hresponse : ∀ text ∈ response, hasControl text = false) :
    (context.observePrivatePromptWithReference prompt response).validate = .ok () := by
  unfold observePrivatePromptWithReference
  split_ifs with hblank
  · exact h
  · exact setPrivateReference_observe h hsealed (by simpa using hblank) hprompt hresponse

theorem summary_validate {context : TaskContextState} {summary : TaskSummaryState}
    (h : context.validate = .ok ()) (hsummary : summary.validate = .ok ()) :
    ({ context with summary := some summary } : TaskContextState).validate = .ok () := by
  obtain ⟨hpublic, -, hprivate⟩ := validate_eq_ok.mp h
  refine validate_eq_ok.mpr ⟨hpublic, hsummary, fun fp hfp => ?_⟩
  have hsound := hprivate fp hfp
  exact ⟨hsound.shape, hsound.prompts, hsound.response, hsound.input⟩

end TaskContextState
end VdeTmux.Pane
