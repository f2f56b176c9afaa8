import Mathlib.Tactic.Common

/-!
# Computations with a state that outlives errors

`EStateM` keeps the state a failed computation reached. A triple says what holds of the state and
the result of both outcomes; there is one rule for each way to compose computations.
-/

namespace Foundation

variable {σ ε α β : Type}

/-- From a state in `pre` the computation returns as `post` says or stops as `fail` says. -/
def Triple (pre : σ → Prop) (m : EStateM ε σ α) (post : α → σ → Prop) (fail : ε → σ → Prop) : Prop :=
  ∀ s, pre s →
    match m s with
    | .ok a s' => post a s'
    | .error e s' => fail e s'

def stopIf (bad : Prop) [Decidable bad] (e : ε) : EStateM ε σ Unit := fun s =>
  if bad then .error e s else .ok () s

/-- Run a computation and hand its error over as a value. -/
def attempt (m : EStateM ε σ α) : EStateM ε σ (Except ε α) := fun s =>
  match m s with
  | .ok a s' => .ok (.ok a) s'
  | .error e s' => .ok (.error e) s'

/-- The state a computation ends in, with a result or an error. -/
def stateAfter (m : EStateM ε σ α) (s : σ) : σ :=
  match m s with
  | .ok _ s' | .error _ s' => s'

def errorAfter (m : EStateM ε σ α) (s : σ) : Option ε :=
  match m s with
  | .ok _ _ => none
  | .error e _ => some e

namespace Triple
variable {pre pre' : σ → Prop} {post post' : α → σ → Prop} {fail fail' : ε → σ → Prop}
variable {m : EStateM ε σ α}

theorem ok (h : Triple pre m post fail) {s s' : σ} {a : α} (hs : pre s) (hrun : m s = .ok a s') :
    post a s' := by
  have hpost := h s hs
  rw [hrun] at hpost
  exact hpost

theorem error (h : Triple pre m post fail) {s s' : σ} {e : ε} (hs : pre s)
    (hrun : m s = .error e s') : fail e s' := by
  have hfail := h s hs
  rw [hrun] at hfail
  exact hfail

theorem mono (h : Triple pre m post fail) (hpre : ∀ s, pre' s → pre s)
    (hpost : ∀ a s, post a s → post' a s) (hfail : ∀ e s, fail e s → fail' e s) :
    Triple pre' m post' fail' := by
  intro s hs
  cases hrun : m s with
  | ok a s' => exact hpost a s' (h.ok (hpre s hs) hrun)
  | error e s' => exact hfail e s' (h.error (hpre s hs) hrun)

theorem weaken (h : Triple pre m post fail) (hpost : ∀ a s, post a s → post' a s) :
    Triple pre m post' fail :=
  h.mono (fun _ hs => hs) hpost fun _ _ hs => hs

theorem strengthen (h : Triple pre m post fail) (hpre : ∀ s, pre' s → pre s) :
    Triple pre' m post fail :=
  h.mono hpre (fun _ _ hs => hs) fun _ _ hs => hs

theorem pure {a : α} (h : ∀ s, pre s → post a s) : Triple pre (pure a : EStateM ε σ α) post fail :=
  h

theorem throw {e : ε} (h : ∀ s, pre s → fail e s) :
    Triple pre (throw e : EStateM ε σ α) post fail :=
  h

theorem bind {f : α → EStateM ε σ β} {mid : α → σ → Prop} {last : β → σ → Prop}
    (hm : Triple pre m mid fail) (hf : ∀ a, Triple (mid a) (f a) last fail) :
    Triple pre (m >>= f) last fail := by
  intro s hs
  have hmid := hm s hs
  simp only [Bind.bind, EStateM.bind]
  cases hrun : m s with
  | ok a s' =>
    rw [hrun] at hmid
    exact hf a s' hmid
  | error e s' =>
    rw [hrun] at hmid
    exact hmid

theorem get_run (rest : σ → EStateM ε σ α) (s : σ) :
    EStateM.bind (MonadState.get : EStateM ε σ σ) rest s = rest s s :=
  rfl

theorem getThen {rest : σ → EStateM ε σ α}
    (h : ∀ s, pre s → Triple (· = s) (rest s) post fail) :
    Triple pre (MonadState.get >>= rest) post fail :=
  fun s hs => h s hs s rfl

theorem setThen {s' : σ} {rest : Unit → EStateM ε σ α}
    (h : Triple (· = s') (rest ()) post fail) : Triple pre (MonadStateOf.set s' >>= rest) post fail :=
  fun _ _ => h s' rfl

theorem modify {f : σ → σ} {post : Unit → σ → Prop} (h : ∀ s, pre s → post () (f s)) :
    Triple pre (modify f : EStateM ε σ Unit) post fail :=
  h

theorem stopIf {bad : Prop} [Decidable bad] {e : ε} (hbad : ∀ s, bad → pre s → fail e s) :
    Triple pre (stopIf bad e : EStateM ε σ Unit) (fun _ s => pre s ∧ ¬bad) fail := by
  intro s hs
  unfold Foundation.stopIf
  by_cases h : bad
  · simpa [h] using hbad s h hs
  · simpa [h] using hs

theorem modifyThen (mid : σ → Prop) {f : σ → σ} {rest : Unit → EStateM ε σ α}
    (h : ∀ s, pre s → mid (f s)) (hrest : Triple mid (rest ()) post fail) :
    Triple pre (MonadStateOf.modifyGet (fun s => ((), f s)) >>= rest) post fail :=
  fun s hs => hrest (f s) (h s hs)

theorem keepIf {bad : Prop} [Decidable bad] {e : ε} (hbad : ∀ s, bad → pre s → fail e s) :
    Triple pre (Foundation.stopIf bad e : EStateM ε σ Unit) (fun _ => pre) fail :=
  (stopIf hbad).weaken fun _ _ hs => hs.1

theorem attempt (h : Triple pre m post fail') :
    Triple pre (attempt m)
      (fun result s =>
        match result with
        | .ok a => post a s
        | .error e => fail' e s) fail := by
  intro s hs
  have hrun := h s hs
  unfold Foundation.attempt
  cases hm : m s with
  | ok a s' =>
    rw [hm] at hrun
    exact hrun
  | error e s' =>
    rw [hm] at hrun
    exact hrun

theorem ite {c : Prop} [Decidable c] {m₁ m₂ : EStateM ε σ α}
    (h₁ : Triple (fun s => pre s ∧ c) m₁ post fail)
    (h₂ : Triple (fun s => pre s ∧ ¬c) m₂ post fail) :
    Triple pre (if c then m₁ else m₂) post fail := by
  intro s hs
  by_cases hc : c
  · rw [if_pos hc]
    exact h₁ s ⟨hs, hc⟩
  · rw [if_neg hc]
    exact h₂ s ⟨hs, hc⟩

end Triple
end Foundation
