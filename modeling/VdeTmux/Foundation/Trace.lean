import Mathlib.Tactic.Common

/-!
# Traces

What a system did from a state on, newest step first. Each step is kept with the state it was
taken in, so that a property of a history can look at the states between its steps.
-/

namespace Foundation

variable {σ ι : Type} {step : σ → ι → σ → Prop}

inductive Trace (step : σ → ι → σ → Prop) (start : σ) : List (σ × ι) → σ → Prop
  | nil : Trace step start [] start
  | snoc {past : List (σ × ι)} {s s' : σ} {i : ι} (before : Trace step start past s)
      (taken : step s i s') : Trace step start ((s, i) :: past) s'

namespace Trace
variable {start s s' : σ} {past later : List (σ × ι)}

theorem invariant {I : σ → Prop} (h : Trace step start past s) (hstart : I start)
    (hstep : ∀ s i s', I s → step s i s' → I s') : I s := by
  induction h with
  | nil => exact hstart
  | snoc before taken ih => exact hstep _ _ _ ih taken

theorem invariant_of {I : σ → Prop} (allowed : σ → ι → Prop) (h : Trace step start past s)
    (hstart : I start) (hallowed : ∀ e ∈ past, allowed e.1 e.2)
    (hstep : ∀ s i s', I s → allowed s i → step s i s' → I s') : I s := by
  induction h with
  | nil => exact hstart
  | snoc before taken ih =>
    obtain ⟨hnow, hbefore⟩ := List.forall_mem_cons.mp hallowed
    exact hstep _ _ _ (ih hbefore) hnow taken

theorem append (h : Trace step start past s) (h' : Trace step s later s') :
    Trace step start (later ++ past) s' := by
  induction h' with
  | nil => exact h
  | snoc before taken ih => exact ih.snoc taken

theorem split {i : ι} (h : Trace step start (later ++ (s, i) :: past) s') :
    ∃ s₁, Trace step start past s ∧ step s i s₁ ∧ Trace step s₁ later s' := by
  induction later generalizing s' with
  | nil =>
    cases h with
    | snoc before taken => exact ⟨s', before, taken, .nil⟩
  | cons e later ih =>
    cases h with
    | snoc before taken =>
      obtain ⟨s₁, hpast, htaken, hlater⟩ := ih before
      exact ⟨s₁, hpast, htaken, hlater.snoc taken⟩

theorem reached {e : σ × ι} (h : Trace step start past s) (he : e ∈ past) :
    ∃ earlier, Trace step start earlier e.1 := by
  obtain ⟨later, earlier, rfl⟩ := List.append_of_mem he
  obtain ⟨s₁, hearlier, -⟩ := h.split
  exact ⟨earlier, hearlier⟩

end Trace

/-- The steps of a history, each with the state it led to. -/
def transitions : List (σ × ι) → σ → List (σ × ι × σ)
  | [], _ => []
  | (s, i) :: past, s' => (s, i, s') :: transitions past s

theorem Trace.forall_transitions {start s : σ} {past : List (σ × ι)} (h : Trace step start past s)
    {P : σ → ι → σ → Prop} {Q : σ → ι → Prop} (hiff : ∀ s i s', step s i s' → (P s i s' ↔ Q s i)) :
    (∀ t ∈ transitions past s, P t.1 t.2.1 t.2.2) ↔ ∀ e ∈ past, Q e.1 e.2 := by
  induction h with
  | nil => simp [transitions]
  | snoc before taken ih => simp only [transitions, List.forall_mem_cons, ih, hiff _ _ _ taken]

/-- What holds of every step of a history, given what went before it. -/
def Throughout (P : List (σ × ι) → σ → ι → Prop) : List (σ × ι) → Prop
  | [] => True
  | (s, i) :: past => P past s i ∧ Throughout P past

/-- The history and the state a step function gives for some inputs, oldest input first. -/
def replay (next : σ → ι → σ) (s : σ) (past : List (σ × ι)) : List ι → List (σ × ι) × σ
  | [] => (past, s)
  | i :: rest => replay next (next s i) ((s, i) :: past) rest

theorem replay_trace {next : σ → ι → σ} {start s : σ} {past : List (σ × ι)} (inputs : List ι)
    (h : Trace (fun s i s' => next s i = s') start past s) :
    Trace (fun s i s' => next s i = s') start (replay next s past inputs).1
      (replay next s past inputs).2 := by
  induction inputs generalizing s past with
  | nil => exact h
  | cons i rest ih => exact ih (h.snoc rfl)

end Foundation
