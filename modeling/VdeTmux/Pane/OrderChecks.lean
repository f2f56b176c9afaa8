import VdeTmux.Pane.Operations
import VdeTmux.Pane.Reconcile

/-!
# Checks of the occurrence order

Two errors of the store are about the order of unread occurrences: one for an order that is not
the next one, one for an order that two records share. No other check has their texts, so they are
told apart from every other error by what they say.
-/

open Foundation Foundation.Text
namespace VdeTmux.Pane

/-- The errors about the order of occurrences. -/
def OrderError (e : StoreError) : Prop :=
  e = .persistFailed "unread occurrence order is not globally monotonic" ∨
    e = .persistFailed "duplicate unread occurrence order"

instance (e : StoreError) : Decidable (OrderError e) := inferInstanceAs (Decidable (_ ∨ _))

def ModelError.Plain (e : ModelError) : Prop := ¬OrderError (.persistFailed e.message)

instance (e : ModelError) : Decidable e.Plain := inferInstanceAs (Decidable (¬_))

theorem ModelError.plain_iff {e : ModelError} :
    e.Plain ↔ e.message ≠ "unread occurrence order is not globally monotonic" ∧
      e.message ≠ "duplicate unread occurrence order" := by
  simp [Plain, OrderError]

theorem plain_append {a b : String}
    (hmonotonic : ¬b.toList <:+ "unread occurrence order is not globally monotonic".toList)
    (hduplicate : ¬b.toList <:+ "duplicate unread occurrence order".toList) :
    (⟨a ++ b⟩ : ModelError).Plain := by
  refine ModelError.plain_iff.mpr ⟨?_, ?_⟩
  · intro h
    refine hmonotonic ⟨a.toList, ?_⟩
    rw [← String.toList_append]
    exact congrArg String.toList h
  · intro h
    refine hduplicate ⟨a.toList, ?_⟩
    rw [← String.toList_append]
    exact congrArg String.toList h

theorem validateOptionalText_plain (value field : String) (maxBytes : ℕ) :
    ErrorsIn ModelError.Plain (validateOptionalText value field maxBytes) := by
  refine (errorsIn_refuse fun _ => ?_).bind fun _ _ => errorsIn_refuse fun _ => ?_
  · exact plain_append (b := "-byte limit") (by decide) (by decide)
  · exact plain_append (b := " contains a control character") (by decide) (by decide)

theorem validateRequiredText_plain (value field : String) (maxBytes : ℕ) :
    ErrorsIn ModelError.Plain (validateRequiredText value field maxBytes) := by
  refine (errorsIn_refuse fun _ => ?_).bind fun _ _ => validateOptionalText_plain value field _
  exact plain_append (b := " must not be empty") (by decide) (by decide)

theorem validateRandomId_plain (value name : String) :
    ErrorsIn ModelError.Plain (validateRandomId value name) :=
  errorsIn_refuse fun _ =>
    plain_append (b := " must be exactly 32 lowercase hexadecimal characters") (by decide)
      (by decide)

theorem errorsIn_forSome {ε α : Type} {P : ε → Prop} {f : α → Except ε Unit} {o : Option α}
    (h : ∀ a, ErrorsIn P (f a)) : ErrorsIn P (forSome f o) := by
  cases o with
  | none => exact errorsIn_ok
  | some a => exact h a

theorem errorsIn_forM {ε α : Type} {P : ε → Prop} {f : α → Except ε Unit} {l : List α}
    (h : ∀ a, ErrorsIn P (f a)) : ErrorsIn P (l.forM f) := by
  induction l with
  | nil => exact errorsIn_pure
  | cons a l ih => exact ErrorsIn.bind (f := fun _ => l.forM f) (h a) fun _ _ => ih

theorem refuse_plain {bad : Prop} [Decidable bad] {e : ModelError} (h : e.Plain) :
    ErrorsIn ModelError.Plain (refuse bad e) := errorsIn_refuse fun _ => h

theorem validateBackgroundTasks_plain (runSeq : ℕ) (ids toolIds : List String)
    (tasks : List BackgroundWaitTask) :
    ErrorsIn ModelError.Plain (validateBackgroundTasks runSeq ids toolIds tasks) := by
  induction tasks generalizing ids toolIds with
  | nil => exact errorsIn_ok
  | cons task rest ih => exact (refuse_plain (by decide)).bind fun _ _ => ih _ _

theorem ClaudeBackgroundState.validate_plain (background : ClaudeBackgroundState) (runSeq : ℕ) :
    ErrorsIn ModelError.Plain (background.validate runSeq) := by
  refine (refuse_plain (by decide)).bind fun _ _ => ?_
  refine (validateBackgroundTasks_plain _ _ _ _).bind fun _ _ => ?_
  refine (refuse_plain (by decide)).bind fun _ _ => ?_
  exact refuse_plain (by decide)

theorem CurrentDurableRunProjection.validate_plain (run : CurrentDurableRunProjection) :
    ErrorsIn ModelError.Plain run.validate :=
  (validateRandomId_plain _ _).bind fun _ _ => refuse_plain (by decide)

theorem LifecycleState.validateReason_plain (lifecycle : LifecycleState) :
    ErrorsIn ModelError.Plain lifecycle.validateReason := by
  cases lifecycle with
  | idle => exact errorsIn_ok
  | running => exact errorsIn_ok
  | waiting reason =>
    cases reason with
    | permissionPrompt => exact errorsIn_ok
    | other reason => exact validateRequiredText_plain _ _ _
  | error reason =>
    cases reason with
    | none => exact errorsIn_ok
    | some reason => exact validateOptionalText_plain _ _ _

theorem PromptState.validate_plain (prompt : PromptState) :
    ErrorsIn ModelError.Plain prompt.validate := by
  refine (validateRequiredText_plain _ _ _).bind fun _ _ => ?_
  refine (validateRequiredText_plain _ _ _).bind fun _ _ => ?_
  exact errorsIn_forSome fun _ => refuse_plain (by decide)

theorem ResponseState.validate_plain (response : ResponseState) :
    ErrorsIn ModelError.Plain response.validate := by
  refine (validateRequiredText_plain _ _ _).bind fun _ _ => ?_
  exact (refuse_plain (by decide)).bind fun _ _ => refuse_plain (by decide)

theorem BackgroundProcessState.validate_plain (process : BackgroundProcessState) :
    ErrorsIn ModelError.Plain process.validate := by
  refine (validateRequiredText_plain _ _ _).bind fun _ _ => ?_
  exact (refuse_plain (by decide)).bind fun _ _ => refuse_plain (by decide)

theorem TaskSummaryState.validate_plain (summary : TaskSummaryState) :
    ErrorsIn ModelError.Plain summary.validate := by
  refine (errorsIn_forSome fun _ => ?_).bind fun _ _ => ?_
  · exact (validateRequiredText_plain _ _ _).bind fun _ _ => refuse_plain (by decide)
  refine (refuse_plain (by decide)).bind fun _ _ => ?_
  refine (refuse_plain (by decide)).bind fun _ _ => ?_
  cases summary.outcome with
  | generated => exact refuse_plain (by decide)
  | failed => exact refuse_plain (by decide)

theorem TaskContextState.validatePublic_plain (context : TaskContextState) :
    ErrorsIn ModelError.Plain context.validatePublic := by
  refine (refuse_plain (by decide)).bind fun _ _ => ?_
  refine (errorsIn_forM fun _ => validateRequiredText_plain _ _ _).bind fun _ _ => ?_
  refine (errorsIn_forSome fun _ => validateRequiredText_plain _ _ _).bind fun _ _ => ?_
  exact errorsIn_forSome TaskSummaryState.validate_plain

theorem TaskContextState.validate_plain [Sha256] (context : TaskContextState) :
    ErrorsIn ModelError.Plain context.validate := by
  refine (errorsIn_forSome fun _ => ?_).bind fun _ _ => context.validatePublic_plain
  refine (refuse_plain (by decide)).bind fun _ _ => ?_
  refine errorsIn_forSome fun input => ?_
  exact input.validatePublic_plain.bind fun _ _ => refuse_plain (by decide)

theorem validateTaskItems_plain (seen : List String) (items : List TaskItemState) :
    ErrorsIn ModelError.Plain (validateTaskItems seen items) := by
  induction items generalizing seen with
  | nil => exact errorsIn_ok
  | cons item rest ih =>
    refine (validateRequiredText_plain _ _ _).bind fun _ _ => ?_
    cases item.id with
    | none => exact ih seen
    | some id =>
      refine (validateRequiredText_plain _ _ _).bind fun _ _ => ?_
      exact (refuse_plain (by decide)).bind fun _ _ => ih _

theorem validateTasks_plain (tasks : TaskState) :
    ErrorsIn ModelError.Plain (validateTasks tasks) := by
  refine (refuse_plain (by decide)).bind fun _ _ => ?_
  refine (refuse_plain (by decide)).bind fun _ _ => ?_
  exact (validateTaskItems_plain _ _).bind fun _ _ => refuse_plain (by decide)

theorem validateSubagentList_plain (seen : List String) (subagents : List SubagentState) :
    ErrorsIn ModelError.Plain (validateSubagentList seen subagents) := by
  induction subagents generalizing seen with
  | nil => exact errorsIn_ok
  | cons subagent rest ih =>
    refine (validateRequiredText_plain _ _ _).bind fun _ _ => ?_
    refine (validateRequiredText_plain _ _ _).bind fun _ _ => ?_
    refine (errorsIn_forSome fun _ => validateRequiredText_plain _ _ _).bind fun _ _ => ?_
    exact (refuse_plain (by decide)).bind fun _ _ => ih _

theorem validateSubagents_plain (subagents : List SubagentState) :
    ErrorsIn ModelError.Plain (validateSubagents subagents) :=
  (refuse_plain (by decide)).bind fun _ _ => validateSubagentList_plain _ _

theorem validateWorktreeActivity_plain (activity : WorktreeActivity) :
    ErrorsIn ModelError.Plain (validateWorktreeActivity activity) := by
  refine (validateRequiredText_plain _ _ _).bind fun _ _ => ?_
  exact (validateRequiredText_plain _ _ _).bind fun _ _ => validateRequiredText_plain _ _ _

theorem ProcessObservation.validate_plain (observation : ProcessObservation) :
    ErrorsIn ModelError.Plain observation.validate := by
  refine (refuse_plain (by decide)).bind fun _ _ => ?_
  refine (errorsIn_forSome fun _ => refuse_plain (by decide)).bind fun _ _ => ?_
  exact errorsIn_forSome fun _ => (refuse_plain (by decide)).bind fun _ _ => refuse_plain (by decide)

theorem UnreadState.validate_plain (unread : UnreadState) :
    ErrorsIn ModelError.Plain unread.validate := by
  refine (refuse_plain (by decide)).bind fun _ _ => ?_
  split
  · exact errorsIn_ok
  · exact errorsIn_ite (fun _ => errorsIn_ok) fun _ => errorsIn_error.mpr (by decide)
  · exact errorsIn_error.mpr (by decide)

theorem schemaVersion_plain (version : String) :
    (⟨"unsupported pane state schema version " ++ version⟩ : ModelError).Plain := by
  refine ModelError.plain_iff.mpr ⟨?_, ?_⟩
  all_goals
    intro h
    have htexts := congrArg (fun text => text.toList.take 3) h
    simp at htexts

namespace PaneState
variable [Sha256]

theorem validate_plain (s : PaneState) : ErrorsIn ModelError.Plain s.validate := by
  refine (refuse_plain (schemaVersion_plain _)).bind fun _ _ => ?_
  refine (s.claudeBackground.validate_plain _).bind fun _ _ => ?_
  refine (refuse_plain (by decide)).bind fun _ _ => ?_
  refine (refuse_plain (by decide)).bind fun _ _ => ?_
  refine (errorsIn_forSome fun _ => refuse_plain (by decide)).bind fun _ _ => ?_
  refine (refuse_plain (by decide)).bind fun _ _ => ?_
  refine (refuse_plain (by decide)).bind fun _ _ => ?_
  refine (errorsIn_forSome fun run => ?_).bind fun _ _ => ?_
  · exact run.validate_plain.bind fun _ _ => refuse_plain (by decide)
  -- the rules between counters, lifecycle and agent
  iterate 9 refine (refuse_plain (by decide)).bind fun _ _ => ?_
  -- the parts
  refine s.lifecycle.validateReason_plain.bind fun _ _ => ?_
  refine (errorsIn_forSome PromptState.validate_plain).bind fun _ _ => ?_
  refine (errorsIn_forSome ResponseState.validate_plain).bind fun _ _ => ?_
  refine s.taskContext.validate_plain.bind fun _ _ => ?_
  refine (validateTasks_plain _).bind fun _ _ => ?_
  refine (validateSubagents_plain _).bind fun _ _ => ?_
  refine (errorsIn_forSome validateWorktreeActivity_plain).bind fun _ _ => ?_
  refine (errorsIn_forSome BackgroundProcessState.validate_plain).bind fun _ _ => ?_
  refine (ProcessObservation.validate_plain _).bind fun _ _ => ?_
  exact s.unread.validate_plain

omit [Sha256] in
theorem acceptsProjection_plain (s : PaneState) (p : CurrentDurableRunProjection) :
    ErrorsIn ModelError.Plain (s.acceptsProjection p) := by
  unfold acceptsProjection
  split
  · exact errorsIn_ok
  · split_ifs
    · exact errorsIn_ok
    · exact errorsIn_error.mpr (by decide)
    · exact errorsIn_ok
    · exact errorsIn_ok

omit [Sha256] in
theorem increment_plain {limit n : ℕ} {e : ModelError} (h : e.Plain) :
    ErrorsIn ModelError.Plain (increment limit e n) :=
  errorsIn_ite (fun _ => errorsIn_ok) fun _ => errorsIn_error.mpr h

omit [Sha256] in
theorem occur_plain (unread : UnreadState) (latestUnreadOrder : ℕ) (reason : UnreadReason)
    (occurredAt : ℤ) {sequenceOverflow orderOverflow : ModelError}
    (hsequence : sequenceOverflow.Plain) (horder : orderOverflow.Plain) :
    ErrorsIn ModelError.Plain
      (unread.occur latestUnreadOrder reason occurredAt sequenceOverflow orderOverflow) := by
  refine (increment_plain hsequence).bind fun _ _ => ?_
  exact (increment_plain horder).bind fun _ _ => errorsIn_pure

theorem commit_plain (s q : PaneState) : ErrorsIn ModelError.Plain (s.commit q) := by
  refine errorsIn_ite (fun _ => errorsIn_pure) fun _ => ?_
  refine (increment_plain (by decide)).bind fun _ _ => ?_
  exact (validate_plain _).bind fun _ _ => errorsIn_pure

theorem reconcileCurrentRun_plain (s : PaneState) (p : CurrentDurableRunProjection)
    (executionActive : Bool) (observedAt : ℤ) (latestUnreadOrder : ℕ) :
    ErrorsIn ModelError.Plain
      (s.reconcileCurrentRun p executionActive observedAt latestUnreadOrder) := by
  refine p.validate_plain.bind fun _ _ => ?_
  refine (refuse_plain (by decide)).bind fun _ _ => ?_
  refine (s.acceptsProjection_plain p).bind fun _ _ => ?_
  refine errorsIn_ite (fun _ => errorsIn_pure) fun _ => ?_
  refine errorsIn_ite (fun _ => ?_) fun _ => commit_plain s (s.followed p _ observedAt _)
  refine (occur_plain _ _ _ _ (by decide) (by decide)).bind fun unread _ => ?_
  exact commit_plain s (s.followed p executionActive observedAt unread)

end PaneState

end VdeTmux.Pane
