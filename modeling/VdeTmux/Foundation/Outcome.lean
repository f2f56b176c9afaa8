import Mathlib.Tactic.Common

/-!
# Checked steps

Guards, bounded increments and relabelled errors for computations in `Except`. Each operation
has one inversion rule for success; a caller never unfolds the operation itself.
-/

namespace Foundation

variable {ε ε' α β : Type}

theorem bind_eq_ok {x : Except ε α} {f : α → Except ε β} {b : β} :
    x >>= f = .ok b ↔ ∃ a, x = .ok a ∧ f a = .ok b := by
  cases x with
  | error e => simp [bind, Except.bind]
  | ok a => simp [bind, Except.bind]

theorem seq_eq_ok {x : Except ε Unit} {f : Unit → Except ε β} {b : β} :
    x >>= f = .ok b ↔ x = .ok () ∧ f () = .ok b := by
  cases x with
  | error e => simp [bind, Except.bind]
  | ok a => simp [bind, Except.bind]

theorem bind_eq_error {x : Except ε α} {f : α → Except ε β} {e : ε} :
    x >>= f = .error e ↔ x = .error e ∨ ∃ a, x = .ok a ∧ f a = .error e := by
  cases x with
  | error e' => simp [bind, Except.bind]
  | ok a => simp [bind, Except.bind]

theorem map_eq_ok {x : Except ε α} {f : α → β} {b : β} :
    f <$> x = .ok b ↔ ∃ a, x = .ok a ∧ f a = b := by
  cases x <;> simp [Functor.map, Except.map]

@[simp] theorem pure_eq_ok {a b : α} : (pure a : Except ε α) = .ok b ↔ a = b := by
  simp [pure, Except.pure]

theorem bind_pure_eq_ok {x : Except ε α} {f : α → β} {b : β} :
    (x >>= fun a => pure (f a)) = .ok b ↔ ∃ a, x = .ok a ∧ b = f a := by
  simp only [bind_eq_ok, pure_eq_ok, eq_comm (a := b)]

@[simp] theorem exists_ok_unit {x : Except ε Unit} : (∃ u, x = .ok u) ↔ x = .ok () :=
  ⟨fun ⟨_, h⟩ => h, fun h => ⟨(), h⟩⟩

@[simp] theorem throw_ne_ok {e : ε} {a : α} : (throw e : Except ε α) ≠ .ok a := nofun

theorem ok_or_error (x : Except ε α) : (∃ a, x = .ok a) ∨ ∃ e, x = .error e := by
  cases x with
  | error e => exact Or.inr ⟨e, rfl⟩
  | ok a => exact Or.inl ⟨a, rfl⟩

def refuse (bad : Prop) [Decidable bad] (e : ε) : Except ε Unit :=
  if bad then .error e else .ok ()

@[simp] theorem refuse_eq_ok {bad : Prop} [Decidable bad] {e : ε} {u : Unit} :
    refuse bad e = .ok u ↔ ¬bad := by
  unfold refuse
  split_ifs with h <;> simp [h]

theorem refuse_eq_error {bad : Prop} [Decidable bad] {e e' : ε} :
    refuse bad e = .error e' ↔ bad ∧ e = e' := by
  unfold refuse
  split_ifs with h <;> simp [h]

@[simp] theorem mapError_eq_ok {x : Except ε α} {g : ε → ε'} {a : α} :
    x.mapError g = .ok a ↔ x = .ok a := by
  cases x <;> simp [Except.mapError]

theorem mapError_eq_error {x : Except ε α} {g : ε → ε'} {e : ε'} :
    x.mapError g = .error e ↔ ∃ e₀, x = .error e₀ ∧ g e₀ = e := by
  cases x <;> simp [Except.mapError]

def increment (limit : ℕ) (e : ε) (n : ℕ) : Except ε ℕ :=
  if n < limit then .ok (n + 1) else .error e

@[simp] theorem increment_eq_ok {limit n m : ℕ} {e : ε} :
    increment limit e n = .ok m ↔ n < limit ∧ n + 1 = m := by
  unfold increment
  split_ifs with h <;> simp [h]

theorem increment_of_lt {limit n : ℕ} {e : ε} (h : n < limit) :
    increment limit e n = .ok (n + 1) := by
  simp [h]

theorem increment_of_le {limit n : ℕ} {e : ε} (h : limit ≤ n) :
    increment limit e n = .error e := by
  simp [increment, Nat.not_lt.mpr h]

@[simp] theorem elim_error_eq_ok {o : Option α} {e : ε} {a : α} :
    o.elim (Except.error e) Except.ok = Except.ok a ↔ o = some a := by
  cases o <;> simp

def forSome (f : α → Except ε Unit) : Option α → Except ε Unit
  | none => .ok ()
  | some a => f a

@[simp] theorem forSome_none {f : α → Except ε Unit} : forSome f none = .ok () := rfl

@[simp] theorem forSome_some {f : α → Except ε Unit} {a : α} : forSome f (some a) = f a := rfl

theorem forM_eq_ok {f : α → Except ε Unit} {l : List α} {u : Unit} :
    l.forM f = .ok u ↔ ∀ a ∈ l, f a = .ok () := by
  induction l with
  | nil => simp [List.forM, pure, Except.pure]
  | cons a l ih =>
    have hstep : (a :: l).forM f = .ok u ↔ f a = .ok () ∧ l.forM f = .ok u := by
      refine (bind_eq_ok (x := f a) (f := fun _ => l.forM f)).trans ?_
      exact ⟨fun ⟨_, ha, hl⟩ => ⟨ha, hl⟩, fun ⟨ha, hl⟩ => ⟨(), ha, hl⟩⟩
    rw [hstep, ih, List.forall_mem_cons]

theorem mem_of_mapM_eq_ok {f : α → Except ε β} {l : List α} {l' : List β}
    (h : l.mapM f = .ok l') (b : β) : b ∈ l' ↔ ∃ a ∈ l, f a = .ok b := by
  induction l generalizing l' with
  | nil =>
    cases h
    simp
  | cons a l ih =>
    rw [List.mapM_cons] at h
    obtain ⟨b', hb', h⟩ := bind_eq_ok.mp h
    obtain ⟨rest, hrest, rfl⟩ := bind_pure_eq_ok.mp h
    simp [ih hrest, hb', eq_comm]

theorem ok_of_mapM_eq_ok {f : α → Except ε β} {l : List α} {l' : List β}
    (h : l.mapM f = .ok l') : ∀ a ∈ l, ∃ b, f a = .ok b := by
  induction l generalizing l' with
  | nil => simp
  | cons a l ih =>
    rw [List.mapM_cons] at h
    obtain ⟨b, hb, h⟩ := bind_eq_ok.mp h
    obtain ⟨rest, hrest, -⟩ := bind_pure_eq_ok.mp h
    exact List.forall_mem_cons.mpr ⟨⟨b, hb⟩, ih hrest⟩

theorem foldlM_total {f : β → α → Except ε β} {l : List α}
    (h : ∀ a ∈ l, ∀ b, ∃ b', f b a = .ok b') (b : β) : ∃ b', l.foldlM f b = .ok b' := by
  induction l generalizing b with
  | nil => exact ⟨b, rfl⟩
  | cons a l ih =>
    obtain ⟨ha, hl⟩ := List.forall_mem_cons.mp h
    obtain ⟨b₁, hb₁⟩ := ha b
    obtain ⟨b₂, hb₂⟩ := ih hl b₁
    exact ⟨b₂, by rw [List.foldlM_cons, hb₁]; exact hb₂⟩

theorem foldlM_invariant {f : β → α → Except ε β} {l : List α} {b b' : β} (I : β → Prop)
    (h : l.foldlM f b = .ok b') (hb : I b)
    (hstep : ∀ a ∈ l, ∀ b b', I b → f b a = .ok b' → I b') : I b' := by
  induction l generalizing b with
  | nil =>
    cases h
    exact hb
  | cons a l ih =>
    obtain ⟨hnow, hrest⟩ := List.forall_mem_cons.mp hstep
    rw [List.foldlM_cons] at h
    obtain ⟨b₁, hb₁, h⟩ := bind_eq_ok.mp h
    exact ih h (hnow b b₁ hb hb₁) hrest

def ErrorsIn (P : ε → Prop) (x : Except ε α) : Prop := ∀ e, x = .error e → P e

section ErrorsIn
variable {P : ε → Prop}

theorem errorsIn_ok {a : α} : ErrorsIn P (.ok a) := nofun

theorem errorsIn_of_ok {x : Except ε α} (h : ∃ a, x = .ok a) : ErrorsIn P x := by
  obtain ⟨a, rfl⟩ := h
  exact nofun

theorem errorsIn_pure {a : α} : ErrorsIn P (pure a : Except ε α) := nofun

theorem errorsIn_error {e : ε} : ErrorsIn P (.error e : Except ε α) ↔ P e :=
  ⟨fun h => h e rfl, fun h _ he => by cases he; exact h⟩

theorem ErrorsIn.bind {x : Except ε α} {f : α → Except ε β} (hx : ErrorsIn P x)
    (hf : ∀ a, x = .ok a → ErrorsIn P (f a)) : ErrorsIn P (x >>= f) := by
  intro e he
  rcases bind_eq_error.mp he with he | ⟨a, ha, he⟩
  · exact hx e he
  · exact hf a ha e he

theorem errorsIn_refuse {bad : Prop} [Decidable bad] {e : ε} (h : bad → P e) :
    ErrorsIn P (refuse bad e) := by
  intro e' he
  obtain ⟨hbad, rfl⟩ := refuse_eq_error.mp he
  exact h hbad

theorem errorsIn_mapError {x : Except ε' α} {g : ε' → ε} (h : ∀ e, P (g e)) :
    ErrorsIn P (x.mapError g) := by
  intro e he
  obtain ⟨e', -, rfl⟩ := mapError_eq_error.mp he
  exact h e'

theorem errorsIn_increment {limit n : ℕ} {e : ε} (h : n < limit) :
    ErrorsIn P (increment limit e n) := by
  rw [increment_of_lt h]
  exact errorsIn_ok

theorem errorsIn_ite {c : Prop} [Decidable c] {x y : Except ε α} (hx : c → ErrorsIn P x)
    (hy : ¬c → ErrorsIn P y) : ErrorsIn P (if c then x else y) := by
  split_ifs with h
  · exact hx h
  · exact hy h

end ErrorsIn

end Foundation
