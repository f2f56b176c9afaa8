import Mathlib.Data.List.Chain
import Mathlib.Logic.Function.Basic
import Mathlib.Logic.Relation
import Mathlib.Order.Nat
import Mathlib.Tactic.Common

/-!
# Numbers from one counter

A counter hands its next number to one of its clients at a time. Clients come and go, and each
holds the last number it was handed. However they are interleaved, no two of them hold one
number, and a number that is handed out passes every number that a client still there ever held.
-/

namespace Foundation

/-- The last number, and of each client that is there the number it holds. -/
structure Tickets (κ : Type) where
  last : ℕ
  held : κ → Option (Option ℕ)

namespace Tickets
variable {κ : Type}

def Holds (t : Tickets κ) (k : κ) (n : ℕ) : Prop := t.held k = some (some n)

structure Valid (t : Tickets κ) : Prop where
  le_last : ∀ k n, t.Holds k n → n ≤ t.last
  distinct : ∀ k k' n, t.Holds k n → t.Holds k' n → k = k'

/-- One change. Only clients in `may` may come. -/
inductive Step [DecidableEq κ] (may : κ → Prop) (t : Tickets κ) : Tickets κ → Prop
  | same : Step may t t
  | opened (k : κ) (allowed : may k) (absent : t.held k = none) :
      Step may t { t with held := Function.update t.held k (some none) }
  | issued (k : κ) (allowed : t.held k = none → may k) :
      Step may t ⟨t.last + 1, Function.update t.held k (some (some (t.last + 1)))⟩
  | closed (k : κ) : Step may t { t with held := Function.update t.held k none }

/-- What one operation, of any number of changes, does to the numbers of the clients that are
there after it. -/
structure Advances (t t' : Tickets κ) : Prop where
  valid : t'.Valid
  kept : ∀ k n, t.Holds k n → t'.held k ≠ none → ∃ n', t'.Holds k n' ∧ n ≤ n'
  later : ∀ k n', t'.Holds k n' → ¬t.Holds k n' →
    ∀ other n, t.Holds other n → t'.held other ≠ none → n < n'

theorem Advances.refl {t : Tickets κ} (h : t.Valid) : t.Advances t :=
  ⟨h, fun _ n hn _ => ⟨n, hn, le_rfl⟩, fun _ _ hn' hnew => absurd hn' hnew⟩

theorem Valid.fallBack {t : Tickets κ} {last : ℕ} (h : t.Valid)
    (hlast : ∀ k n, t.Holds k n → n ≤ last) : t.Advances ⟨last, t.held⟩ :=
  ⟨⟨hlast, h.distinct⟩, fun _ n hn _ => ⟨n, hn, le_rfl⟩, fun _ _ hn' hnew => absurd hn' hnew⟩

section
variable [DecidableEq κ] {may : κ → Prop} {t t' : Tickets κ}

theorem holds_update {held : κ → Option (Option ℕ)} {last n : ℕ} {k other : κ}
    {ticket : Option (Option ℕ)} :
    (⟨last, Function.update held k ticket⟩ : Tickets κ).Holds other n ↔
      (other = k ∧ ticket = some (some n)) ∨ (other ≠ k ∧ held other = some (some n)) := by
  unfold Holds
  by_cases h : other = k
  · subst h
    simp
  · simp [h]

theorem Valid.update {held : κ → Option (Option ℕ)} {last : ℕ} {k : κ}
    {ticket : Option (Option ℕ)} (h : (⟨last, held⟩ : Tickets κ).Valid)
    (hticket : ∀ n, ticket ≠ some (some n)) :
    (⟨last, Function.update held k ticket⟩ : Tickets κ).Valid := by
  constructor
  · intro other n hn
    rcases holds_update.mp hn with ⟨-, hnew⟩ | ⟨-, hold⟩
    · exact absurd hnew (hticket n)
    · exact h.le_last other n hold
  · intro other other' n hn hn'
    rcases holds_update.mp hn with ⟨-, hnew⟩ | ⟨-, hold⟩
    · exact absurd hnew (hticket n)
    · rcases holds_update.mp hn' with ⟨-, hnew⟩ | ⟨-, hold'⟩
      · exact absurd hnew (hticket n)
      · exact h.distinct other other' n hold hold'

theorem Step.valid (h : t.Valid) (hstep : Step may t t') : t'.Valid := by
  cases hstep with
  | same => exact h
  | opened k allowed absent => exact h.update fun n hn => by cases hn
  | closed k => exact h.update fun n hn => by cases hn
  | issued k allowed =>
    constructor
    · intro other n hn
      rcases holds_update.mp hn with ⟨-, hnew⟩ | ⟨-, hold⟩
      · cases hnew
        exact le_rfl
      · exact (h.le_last other n hold).trans (Nat.le_succ _)
    · intro other other' n hn hn'
      rcases holds_update.mp hn with ⟨rfl, hnew⟩ | ⟨hne, hold⟩
      · cases hnew
        rcases holds_update.mp hn' with ⟨hsame, -⟩ | ⟨-, hold'⟩
        · exact hsame.symm
        · exact absurd (h.le_last other' _ hold') (Nat.not_succ_le_self _)
      · rcases holds_update.mp hn' with ⟨-, hnew'⟩ | ⟨-, hold'⟩
        · cases hnew'
          exact absurd (h.le_last other _ hold) (Nat.not_succ_le_self _)
        · exact h.distinct other other' n hold hold'

theorem Step.advances (h : t.Valid) (hstep : Step may t t') : t.Advances t' := by
  refine ⟨hstep.valid h, ?_, ?_⟩
  · intro k n hn hthere
    cases hstep with
    | same => exact ⟨n, hn, le_rfl⟩
    | opened other allowed absent =>
      refine ⟨n, holds_update.mpr (Or.inr ⟨?_, hn⟩), le_rfl⟩
      rintro rfl
      rw [Holds, absent] at hn
      cases hn
    | issued other allowed =>
      by_cases hsame : k = other
      · exact ⟨_, holds_update.mpr (Or.inl ⟨hsame, rfl⟩),
          (h.le_last k n hn).trans (Nat.le_succ _)⟩
      · exact ⟨n, holds_update.mpr (Or.inr ⟨hsame, hn⟩), le_rfl⟩
    | closed other =>
      refine ⟨n, holds_update.mpr (Or.inr ⟨?_, hn⟩), le_rfl⟩
      rintro rfl
      exact hthere (Function.update_self ..)
  · intro k n' hn' hnew other n hn hthere
    cases hstep with
    | same => exact absurd hn' hnew
    | opened k₁ allowed absent =>
      rcases holds_update.mp hn' with ⟨-, hnone⟩ | ⟨-, hold⟩
      · cases hnone
      · exact absurd hold hnew
    | issued k₁ allowed =>
      rcases holds_update.mp hn' with ⟨-, hlast⟩ | ⟨-, hold⟩
      · cases hlast
        exact Nat.lt_succ_of_le (h.le_last other n hn)
      · exact absurd hold hnew
    | closed k₁ =>
      rcases holds_update.mp hn' with ⟨-, hnone⟩ | ⟨-, hold⟩
      · cases hnone
      · exact absurd hold hnew

theorem Step.there (hstep : Step (fun _ => False) t t') {k : κ} (h : t'.held k ≠ none) :
    t.held k ≠ none := by
  intro hnone
  cases hstep with
  | same => exact h hnone
  | opened other allowed absent => exact allowed
  | issued other allowed =>
    by_cases hsame : k = other
    · subst hsame
      exact allowed hnone
    · exact h ((Function.update_of_ne hsame ..).trans hnone)
  | closed other =>
    by_cases hsame : k = other
    · subst hsame
      exact h (Function.update_self ..)
    · exact h ((Function.update_of_ne hsame ..).trans hnone)

theorem advances_of_steps (h : t.Valid)
    (hsteps : Relation.ReflTransGen (Step fun _ => False) t t') : t.Advances t' := by
  induction hsteps with
  | refl => exact .refl h
  | tail _ hstep ih =>
    have hadvances := hstep.advances ih.valid
    refine ⟨hadvances.valid, ?_, ?_⟩
    · intro k n hn hthere
      obtain ⟨n₁, hn₁, hle₁⟩ := ih.kept k n hn (hstep.there hthere)
      obtain ⟨n₂, hn₂, hle₂⟩ := hadvances.kept k n₁ hn₁ hthere
      exact ⟨n₂, hn₂, hle₁.trans hle₂⟩
    · intro k n' hn' hnew other n hn hthere
      rename_i t₁ t₂ _
      by_cases hbefore : t₁.Holds k n'
      · exact ih.later k n' hbefore hnew other n hn (hstep.there hthere)
      · obtain ⟨n₁, hn₁, hle₁⟩ := ih.kept other n hn (hstep.there hthere)
        exact hle₁.trans_lt (hadvances.later k n' hn' hbefore other n₁ hn₁ hthere)

end

/-- A client of the first state was handed the number in one of the states, newest first, and has
been there since. -/
inductive Handed (k : κ) (n : ℕ) : List (Tickets κ) → Prop
  | now {t : Tickets κ} {earlier : List (Tickets κ)} (holds : t.Holds k n) :
      Handed k n (t :: earlier)
  | before {t : Tickets κ} {earlier : List (Tickets κ)} (there : t.held k ≠ none)
      (handed : Handed k n earlier) : Handed k n (t :: earlier)

theorem Handed.le {k : κ} {n : ℕ} {states : List (Tickets κ)} (h : Handed k n states)
    (hruns : states.IsChain fun t' t => t.Advances t') :
    ∃ t ∈ states.head?, ∃ n', t.Holds k n' ∧ n ≤ n' := by
  induction h with
  | now holds => exact ⟨_, rfl, n, holds, le_rfl⟩
  | @before t earlier there handed ih =>
    obtain ⟨t₁, ht₁, n₁, hn₁, hle₁⟩ := ih hruns.tail
    cases earlier with
    | nil => cases ht₁
    | cons t₂ rest =>
      cases ht₁
      obtain ⟨n₂, hn₂, hle₂⟩ := (List.isChain_cons_cons.mp hruns).1.kept k n₁ hn₁ there
      exact ⟨t, rfl, n₂, hn₂, hle₁.trans hle₂⟩

/-- A new number passes every number that was handed to a client that is still there. -/
theorem Advances.lt_of_handed {t t' : Tickets κ} {earlier : List (Tickets κ)}
    (h : t.Advances t') (hruns : (t :: earlier).IsChain fun t' t => t.Advances t') {k : κ} {n' : ℕ}
    (hn' : t'.Holds k n') (hnew : ¬t.Holds k n') {other : κ} {n : ℕ}
    (hhanded : Handed other n (t :: earlier)) (hthere : t'.held other ≠ none) : n < n' := by
  obtain ⟨_, ⟨⟩, n₁, hn₁, hle⟩ := hhanded.le hruns
  exact hle.trans_lt (h.later k n' hn' hnew other n₁ hn₁ hthere)

end Tickets
end Foundation
