import Mathlib.Tactic.Common
import VdeTmux.Foundation.Trace

/-!
# Bounded retries

Something that is tried, waits to be confirmed, goes on, and may fail and be tried again, at most
`limit` times in all. Once it is over it stays so until it is forgotten.
-/

namespace Foundation.Retries

inductive Phase
  | idle
  | waiting (tried : ℕ)
  | sent (tried : ℕ)
  | working (tried : ℕ)
  | finished (tried : ℕ)
deriving DecidableEq

namespace Phase

def tried : Phase → ℕ
  | idle => 0
  | waiting n | sent n | working n | finished n => n

/-- No phase has more tries behind it than the limit, and one that waits has fewer. -/
def Valid (limit : ℕ) : Phase → Prop
  | idle => True
  | waiting n => n < limit
  | sent n | working n | finished n => n ≤ limit

def spent (limit : ℕ) : Phase → ℕ
  | idle => 0
  | waiting n | sent n | working n => n
  | finished _ => limit

theorem Valid.spent_le {limit : ℕ} {p : Phase} (h : p.Valid limit) : p.spent limit ≤ limit := by
  cases p with
  | idle => exact Nat.zero_le limit
  | waiting n => exact Nat.le_of_lt h
  | sent n => exact h
  | working n => exact h
  | finished n => exact Nat.le_refl limit

theorem Valid.tried_le {limit : ℕ} {p : Phase} (h : p.Valid limit) : p.tried ≤ limit := by
  cases p with
  | idle => exact Nat.zero_le limit
  | waiting n => exact Nat.le_of_lt h
  | sent n => exact h
  | working n => exact h
  | finished n => exact h

end Phase

/-- What may happen short of being forgotten, and whether it was a try. -/
inductive Move (limit : ℕ) : Phase → Bool → Phase → Prop
  | stay (p : Phase) : Move limit p false p
  | start : Move limit .idle false (.waiting 0)
  | reject : Move limit .idle false (.finished 0)
  | attempt (n : ℕ) : Move limit (.waiting n) true (.sent (n + 1))
  | refuse {n m : ℕ} (h : m ≤ n + 1) : Move limit (.waiting n) true (.finished m)
  | confirm (n : ℕ) : Move limit (.sent n) false (.working n)
  | again {n : ℕ} (h : n < limit) : Move limit (.working n) false (.waiting n)
  | halt {p : Phase} (h : p ≠ .idle) : Move limit p false (.finished p.tried)

variable {limit : ℕ} {p q : Phase} {tries : Bool}

theorem Move.valid (h : Move limit p tries q) (hlimit : 0 < limit) (hp : p.Valid limit) :
    q.Valid limit := by
  cases h with
  | stay => exact hp
  | start => exact hlimit
  | reject => exact Nat.zero_le limit
  | attempt n => exact hp
  | refuse hm =>
    have hlt : _ < limit := hp
    exact Nat.le_trans hm hlt
  | confirm n => exact hp
  | again hlt => exact hlt
  | halt => exact hp.tried_le

theorem Move.spent (h : Move limit p tries q) (hp : p.Valid limit) :
    p.spent limit + tries.toNat ≤ q.spent limit := by
  cases h with
  | stay => exact Nat.le_refl _
  | start => exact Nat.le_refl _
  | reject => exact Nat.zero_le _
  | attempt n => exact Nat.le_refl _
  | refuse hm => exact hp
  | confirm n => exact Nat.le_refl _
  | again hlt => exact Nat.le_refl _
  | halt => exact hp.spent_le

theorem Move.of_over {n : ℕ} (h : Move limit (.finished n) tries q) : tries = false ∧ q = .finished n := by
  cases h with
  | stay => exact ⟨rfl, rfl⟩
  | halt => exact ⟨rfl, rfl⟩

theorem Move.after_halt (hp : p ≠ .idle) (h : Move limit (.finished p.tried) tries q) :
    Move limit p tries q := by
  obtain ⟨rfl, rfl⟩ := h.of_over
  exact .halt hp

variable {σ ι : Type} {step : σ → ι → σ → Prop} {start s : σ} {past : List (σ × ι)}

theorem valid_of_trace (phase : σ → Phase) (h : Trace step start past s) (hlimit : 0 < limit)
    (hstart : (phase start).Valid limit)
    (hstep : ∀ s i s', step s i s' → phase s' = .idle ∨ ∃ tries, Move limit (phase s) tries (phase s')) :
    (phase s).Valid limit := by
  apply h.invariant hstart
  intro s i s' hs htaken
  rcases hstep s i s' htaken with hidle | ⟨tries, hmove⟩
  · rw [hidle]
    trivial
  · exact hmove.valid hlimit hs

theorem over_stays {n : ℕ} (phase : σ → Phase) (tries : σ → ι → Bool)
    (h : Trace step start past s) (hover : phase start = .finished n)
    (hmoves : ∀ t ∈ transitions past s, Move limit (phase t.1) (tries t.1 t.2.1) (phase t.2.2)) :
    phase s = .finished n ∧ ∀ e ∈ past, tries e.1 e.2 = false := by
  induction h with
  | nil => exact ⟨hover, by simp⟩
  | @snoc past s s' i before taken ih =>
    obtain ⟨hmove, hbefore⟩ := List.forall_mem_cons.mp hmoves
    obtain ⟨hphase, hnone⟩ := ih hbefore
    have hmove : Move limit (phase s) (tries s i) (phase s') := hmove
    rw [hphase] at hmove
    obtain ⟨hstill, hstays⟩ := hmove.of_over
    exact ⟨hstays, List.forall_mem_cons.mpr ⟨hstill, hnone⟩⟩

/-- While it is not forgotten, it is tried at most as often as the limit leaves. -/
theorem tries_le (phase : σ → Phase) (tries : σ → ι → Bool) (h : Trace step start past s)
    (hlimit : 0 < limit) (hstart : (phase start).Valid limit)
    (hmoves : ∀ t ∈ transitions past s, Move limit (phase t.1) (tries t.1 t.2.1) (phase t.2.2)) :
    (phase start).spent limit + past.countP (fun e => tries e.1 e.2) ≤ limit := by
  have hrun : (phase s).Valid limit ∧
      (phase start).spent limit + past.countP (fun e => tries e.1 e.2) ≤
        (phase s).spent limit := by
    induction h with
    | nil => exact ⟨hstart, Nat.le_refl _⟩
    | @snoc past s s' i before taken ih =>
      obtain ⟨hmove, hbefore⟩ := List.forall_mem_cons.mp hmoves
      obtain ⟨hvalid, hcount⟩ := ih hbefore
      refine ⟨hmove.valid hlimit hvalid, ?_⟩
      have hspent := hmove.spent hvalid
      rw [List.countP_cons]
      cases htries : tries s i with
      | false =>
        rw [htries] at hspent
        simp only [Bool.toNat_false, Bool.false_eq_true, ite_false] at hspent ⊢
        omega
      | true =>
        rw [htries] at hspent
        simp only [Bool.toNat_true, ite_true] at hspent ⊢
        omega
  exact Nat.le_trans hrun.2 hrun.1.spent_le

end Foundation.Retries
