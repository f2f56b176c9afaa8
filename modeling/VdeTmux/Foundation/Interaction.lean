import Mathlib.Tactic.Common

/-!
# Programs that call an environment

A program makes calls and goes on with the replies. An environment answers a call by what was
called and answered before, so it may fail, hang back or change its mind at any time. `Meets`
says when a program may make which call and how it may end; the history is newest first.
-/

namespace Foundation

inductive Prog (Call : Type) (Reply : Call → Type) (α : Type) : Type
  | done (a : α)
  | call (c : Call) (next : Reply c → Prog Call Reply α)

variable {Call : Type} {Reply : Call → Type} {α β ε σ : Type}

abbrev Answered (Call : Type) (Reply : Call → Type) : Type := (c : Call) × Reply c

namespace Prog

protected def bind (p : Prog Call Reply α) (f : α → Prog Call Reply β) : Prog Call Reply β :=
  match p with
  | .done a => f a
  | .call c next => .call c fun r => (next r).bind f

instance : Monad (Prog Call Reply) where
  pure := .done
  bind := .bind

/-- The history after a run, and the result. -/
def run (env : List (Answered Call Reply) → (c : Call) → Reply c) :
    Prog Call Reply α → List (Answered Call Reply) → List (Answered Call Reply) × α
  | .done a, past => (past, a)
  | .call c next, past => (next (env past c)).run env (⟨c, env past c⟩ :: past)

/-- Every call is allowed when it is made, and the end is as `post` says, whatever is replied. -/
def Meets (allowed : List (Answered Call Reply) → Call → Prop)
    (post : α → List (Answered Call Reply) → Prop) :
    Prog Call Reply α → List (Answered Call Reply) → Prop
  | .done a, past => post a past
  | .call c next, past => allowed past c ∧ ∀ r, (next r).Meets allowed post (⟨c, r⟩ :: past)

section Meets
variable {allowed : List (Answered Call Reply) → Call → Prop}
  {post post' : α → List (Answered Call Reply) → Prop} {last : β → List (Answered Call Reply) → Prop}
  {p : Prog Call Reply α} {past : List (Answered Call Reply)}

theorem Meets.mono (h : p.Meets allowed post past) (hpost : ∀ a past, post a past → post' a past) :
    p.Meets allowed post' past := by
  induction p generalizing past with
  | done a => exact hpost a past h
  | call c next ih => exact ⟨h.1, fun r => ih r (h.2 r)⟩

theorem Meets.bind {f : α → Prog Call Reply β}
    (h : p.Meets allowed (fun a past => (f a).Meets allowed last past) past) :
    (p.bind f).Meets allowed last past := by
  induction p generalizing past with
  | done a => exact h
  | call c next ih => exact ⟨h.1, fun r => ih r (h.2 r)⟩

theorem Meets.ends (h : p.Meets allowed post past)
    (env : List (Answered Call Reply) → (c : Call) → Reply c) :
    post (p.run env past).2 (p.run env past).1 := by
  induction p generalizing past with
  | done a => exact h
  | call c next ih => exact ih (env past c) (h.2 (env past c))

theorem Meets.calls (h : p.Meets allowed post past)
    (env : List (Answered Call Reply) → (c : Call) → Reply c)
    (hpast : ∀ later c r earlier, past = later ++ ⟨c, r⟩ :: earlier → allowed earlier c) :
    ∀ later c r earlier, (p.run env past).1 = later ++ ⟨c, r⟩ :: earlier → allowed earlier c := by
  induction p generalizing past with
  | done a => exact hpast
  | call c next ih =>
    refine ih (env past c) (h.2 (env past c)) ?_
    intro later c' r earlier heq
    rcases List.cons_eq_append_iff.mp heq with ⟨-, htail⟩ | ⟨later', -, htail⟩
    · cases htail
      exact h.1
    · exact hpast later' c' r earlier htail

end Meets

end Prog

abbrev Fallible (Call : Type) (Reply : Call → Type) (ε α : Type) : Type :=
  ExceptT ε (Prog Call Reply) α

namespace Fallible

def ask (c : Call) (read : Reply c → Except ε α) : Fallible Call Reply ε α :=
  ExceptT.mk (.call c fun r => .done (read r))

def check (result : Except ε α) : Fallible Call Reply ε α := ExceptT.mk (.done result)

def Ends (allowed : List (Answered Call Reply) → Call → Prop)
    (post : α → List (Answered Call Reply) → Prop) (fail : ε → List (Answered Call Reply) → Prop)
    (m : Fallible Call Reply ε α) (past : List (Answered Call Reply)) : Prop :=
  Prog.Meets allowed (fun result past =>
    match result with
    | .ok a => post a past
    | .error e => fail e past) m.run past

section Ends
variable {allowed : List (Answered Call Reply) → Call → Prop}
  {post post' : α → List (Answered Call Reply) → Prop}
  {last : β → List (Answered Call Reply) → Prop} {fail : ε → List (Answered Call Reply) → Prop}
  {m : Fallible Call Reply ε α} {past : List (Answered Call Reply)}

theorem Ends.mono (h : Ends allowed post fail m past)
    (hpost : ∀ a past, post a past → post' a past) : Ends allowed post' fail m past := by
  refine Prog.Meets.mono h fun result past hresult => ?_
  cases result with
  | ok a => exact hpost a past hresult
  | error e => exact hresult

theorem Ends.pure {a : α} (h : post a past) :
    Ends allowed post fail (pure a : Fallible Call Reply ε α) past := h

theorem Ends.bind {f : α → Fallible Call Reply ε β}
    (h : Ends allowed (fun a past => Ends allowed last fail (f a) past) fail m past) :
    Ends allowed last fail (m >>= f) past := by
  refine Prog.Meets.bind (Prog.Meets.mono h fun result past hresult => ?_)
  cases result with
  | ok a => exact hresult
  | error e => exact hresult

theorem Ends.ask {c : Call} {read : Reply c → Except ε α} (hallowed : allowed past c)
    (hok : ∀ r a, read r = .ok a → post a (⟨c, r⟩ :: past))
    (herror : ∀ r e, read r = .error e → fail e (⟨c, r⟩ :: past)) :
    Ends allowed post fail (ask c read) past := by
  refine ⟨hallowed, fun r => ?_⟩
  cases hread : read r with
  | ok a =>
    simp only [Prog.Meets, hread]
    exact hok r a hread
  | error e =>
    simp only [Prog.Meets, hread]
    exact herror r e hread

theorem Ends.check {result : Except ε α} (hok : ∀ a, result = .ok a → post a past)
    (herror : ∀ e, result = .error e → fail e past) :
    Ends allowed post fail (check result) past := by
  cases result with
  | ok a => exact hok a rfl
  | error e => exact herror e rfl

/-- A loop over a list: the invariant knows which elements are done. -/
theorem Ends.foldlM {f : σ → β → Fallible Call Reply ε σ} {l : List β}
    (I : List β → σ → List (Answered Call Reply) → Prop)
    (hstep : ∀ finished b rest s past, l = finished ++ b :: rest → I finished s past →
      Ends allowed (I (finished ++ [b])) fail (f s b) past)
    {s : σ} (hstart : I [] s past) : Ends allowed (I l) fail (l.foldlM f s) past := by
  suffices hrest : ∀ rest finished s past, l = finished ++ rest → I finished s past →
      Ends allowed (I l) fail (rest.foldlM f s) past from hrest l [] s past rfl hstart
  intro rest
  induction rest with
  | nil =>
    intro finished s past hl hI
    rw [List.append_nil] at hl
    exact Ends.pure (hl ▸ hI)
  | cons b rest ih =>
    intro finished s past hl hI
    rw [List.foldlM_cons]
    refine Ends.bind ((hstep finished b rest s past hl hI).mono fun s' past' hI' => ?_)
    exact ih (finished ++ [b]) s' past' (by simpa using hl) hI'

end Ends

end Fallible

end Foundation
