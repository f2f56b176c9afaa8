import VdeTmux.Foundation.Trace
import VdeTmux.Pane.Monotone

/-!
# Runs of one pane

The record and the tracker of a pane, one event after another. A refused event leaves both as
they are.
-/

open Foundation Foundation.Text
namespace VdeTmux.Pane

/-- An event with what the store hands to the reducer beside the record and the tracker. -/
structure Input where
  envelope : PaneEventEnvelope
  visibility : VisibilitySnapshot := {}
  newStateId : Option StateId := none
  latestUnreadOrder : ℕ := 0
  privateTaskPrompt : Option String := none
deriving DecidableEq

structure Cell where
  record : Option PaneState := none
  tracker : CaptureTrackerSnapshot := {}
deriving DecidableEq

def Input.context (input : Input) (tracker : CaptureTrackerSnapshot) : ReductionContext :=
  ⟨input.visibility, tracker, input.newStateId, input.latestUnreadOrder, input.privateTaskPrompt⟩

def Input.event (input : Input) : PaneEvent := input.envelope.event

def CaptureTrackerSnapshot.after (tracker : CaptureTrackerSnapshot)
    (delta : Option CaptureTrackerDelta) : CaptureTrackerSnapshot :=
  (delta.map (·.next)).getD tracker

namespace Cell
variable [Sha256]

def reduce (cell : Cell) (input : Input) : Except ReduceError Reduction :=
  Pane.reduce cell.record input.envelope (input.context cell.tracker)

def next (cell : Cell) (input : Input) : Cell :=
  match cell.reduce input with
  | .ok r => ⟨r.record, cell.tracker.after r.trackerDelta⟩
  | .error _ => cell

def Step (cell : Cell) (input : Input) (cell' : Cell) : Prop := cell' = cell.next input

def Accepts (cell : Cell) (input : Input) : Prop := (cell.reduce input).isOk = true

instance (cell : Cell) (input : Input) : Decidable (cell.Accepts input) :=
  inferInstanceAs (Decidable (_ = true))

theorem next_refused {cell : Cell} {input : Input} (h : ¬cell.Accepts input) :
    cell.next input = cell := by
  unfold next
  split
  · rename_i r hr
    exact absurd (by rw [Accepts, hr]; rfl) h
  · rfl

/-- The history and the pane after more inputs, oldest input first. -/
def replay (cell : Cell) (past : List (Cell × Input)) :
    List Input → List (Cell × Input) × Cell
  | [] => (past, cell)
  | input :: rest => (cell.next input).replay ((cell, input) :: past) rest

theorem replay_trace {start cell : Cell} {past : List (Cell × Input)} (inputs : List Input)
    (h : Trace Step start past cell) :
    Trace Step start (cell.replay past inputs).1 (cell.replay past inputs).2 := by
  induction inputs generalizing cell past with
  | nil => exact h
  | cons input rest ih => exact ih (h.snoc rfl)

end Cell

variable [Sha256]

omit [Sha256] in
theorem after_trackerDelta {context tracker : CaptureTrackerSnapshot} :
    context.after (trackerDelta tracker (some context)) = tracker := by
  unfold trackerDelta
  split_ifs with h
  · rfl
  · simp only [Option.any_some, decide_eq_true_eq, ne_eq, not_not] at h
    exact h

omit [Sha256] in
theorem trackerDelta_isSome {context tracker : CaptureTrackerSnapshot}
    (h : tracker.generation = context.generation + 1) :
    (trackerDelta tracker (some context)).isSome = true := by
  unfold trackerDelta
  rw [if_pos]
  · rfl
  · simp only [Option.any_some, decide_eq_true_eq]
    rintro rfl
    omega

omit [Sha256] in
theorem Settled.outcome_ne_noop [Sha256] {current : Option PaneState} {event : PaneEvent}
    {context : ReductionContext} {s : PaneState} {tracker : CaptureTrackerSnapshot}
    {previous : Option CaptureTrackerSnapshot} {r : Reduction}
    (h : Settled current event context s tracker previous r)
    (hdelta : (trackerDelta tracker previous).isSome = true) : r.outcome ≠ .noop := by
  cases h with
  | same record result =>
    rw [result]
    simp [hdelta]
  | changed differs revision next valid s' unread result =>
    rw [result]
    simp

theorem Settled.trackerDelta_eq {current : Option PaneState} {event : PaneEvent}
    {context : ReductionContext} {s : PaneState} {tracker : CaptureTrackerSnapshot}
    {previous : Option CaptureTrackerSnapshot} {r : Reduction}
    (h : Settled current event context s tracker previous r) :
    r.trackerDelta = trackerDelta tracker previous := by
  cases h with
  | same record result => rw [result]
  | changed differs revision next valid s' unread result => rw [result]

omit [Sha256] in
theorem Finished.after [Sha256] {s s' : PaneState} {envelope : PaneEventEnvelope}
    {context : ReductionContext} {tracker : CaptureTrackerSnapshot}
    {previous : Option CaptureTrackerSnapshot}
    (h : Finished s envelope context s' tracker previous) :
    context.tracker.after (trackerDelta tracker previous) = tracker := by
  cases h with
  | read throughOrder event record next =>
    rw [next]
    rfl
  | summary expectedStateId expectedAgentEpoch summary event valid record next =>
    rw [next]
    rfl
  | _ => exact after_trackerDelta

/-- A record that one event turned into another: the branch it took, the revision and the unread
transition after it. -/
structure Changed (s : PaneState) (envelope : PaneEventEnvelope) (context : ReductionContext)
    (s₁ : PaneState) (s' : PaneState) : Prop where
  finished : ∃ tracker previous, Finished s envelope context s₁ tracker previous
  differs : s₁ ≠ s
  unread : applyUnreadTransition (some s) envelope.event
    { s₁ with revision := s.revision + 1 } context = .ok s'

theorem reduce_changed {s : PaneState} {envelope : PaneEventEnvelope} {context : ReductionContext}
    {r : Reduction} (h : reduce (some s) envelope context = .ok r) :
    r.record = some s ∨ ∃ s₁ s', r.record = some s' ∧ Changed s envelope context s₁ s' := by
  obtain ⟨-, -, rfl | ⟨-, s₁, tracker, previous, hdispatch, hsettled⟩⟩ := reduce_eq_ok h
  · exact Or.inl rfl
  · cases hsettled with
    | same record result =>
      cases record
      subst result
      exact Or.inl rfl
    | changed differs revision next valid s' unread result =>
      subst result
      obtain ⟨-, rfl⟩ := increment_eq_ok.mp next
      refine Or.inr ⟨s₁, s', rfl, ⟨tracker, previous, dispatch_finished hdispatch⟩, ?_, unread⟩
      exact fun hsame => differs (hsame ▸ rfl)

/-- A pane that has a record keeps one, the same or one that its event led to. -/
theorem Cell.next_some {cell : Cell} (input : Input) {s : PaneState}
    (h : cell.record = some s) :
    (cell.next input).record = some s ∨ ∃ s₁ s', (cell.next input).record = some s' ∧
      Changed s input.envelope (input.context cell.tracker) s₁ s' := by
  cases hreduce : cell.reduce input with
  | error e =>
    refine Or.inl ?_
    simp only [Cell.next, hreduce]
    exact h
  | ok r =>
    have hrecord : (cell.next input).record = r.record := by
      simp only [Cell.next, hreduce]
    rw [hrecord]
    rw [Cell.reduce, h] at hreduce
    exact reduce_changed hreduce

end VdeTmux.Pane
