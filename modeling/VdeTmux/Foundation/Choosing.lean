import Mathlib.Data.List.Basic
import Mathlib.Data.List.Induction
import Mathlib.Tactic.Common

/-!
# Choosing in a loop

A loop keeps a candidate until a better one comes. In the end no candidate is better than the one
that it keeps.
-/

namespace Foundation.Choosing

variable {β : Type} (better : β → β → Prop) [DecidableRel better]

def keep (kept next : Option β) : Option β :=
  match next with
  | none => kept
  | some b =>
    match kept with
    | none => some b
    | some a => if better b a then some b else some a

def choose (candidates : List (Option β)) : Option β := candidates.foldl (keep better) none

theorem choose_concat (candidates : List (Option β)) (next : Option β) :
    choose better (candidates ++ [next]) = keep better (choose better candidates) next := by
  rw [choose, List.foldl_append, List.foldl_cons, List.foldl_nil, choose]

theorem choose_eq_none {candidates : List (Option β)} :
    choose better candidates = none ↔ ∀ b, some b ∉ candidates := by
  induction candidates using List.reverseRecOn with
  | nil => exact iff_of_true rfl fun b => List.not_mem_nil
  | append_singleton candidates next ih =>
    rw [choose_concat]
    cases next with
    | none =>
      rw [keep, ih]
      simp
    | some b =>
      refine iff_of_false ?_ fun h => h b (List.mem_append_right _ (List.mem_singleton_self _))
      cases choose better candidates with
      | none => exact Option.some_ne_none b
      | some a =>
        obtain ⟨c, hc⟩ : ∃ c, keep better (some a) (some b) = some c := by
          by_cases hbetter : better b a
          · exact ⟨b, if_pos hbetter⟩
          · exact ⟨a, if_neg hbetter⟩
        rw [hc]
        exact Option.some_ne_none c

theorem choose_eq_some (htrans : ∀ a b c, better a b → better b c → better a c)
    (hirrefl : ∀ a, ¬better a a) {candidates : List (Option β)} {chosen : β}
    (h : choose better candidates = some chosen) :
    some chosen ∈ candidates ∧ ∀ b, some b ∈ candidates → ¬better b chosen := by
  induction candidates using List.reverseRecOn generalizing chosen with
  | nil => cases h
  | append_singleton candidates next ih =>
    rw [choose_concat] at h
    cases next with
    | none =>
      obtain ⟨hmem, hbest⟩ := ih h
      refine ⟨List.mem_append_left _ hmem, fun b hb => ?_⟩
      rcases List.mem_append.mp hb with hb | hb
      · exact hbest b hb
      · cases List.mem_singleton.mp hb
    | some next =>
      cases hkept : choose better candidates with
      | none =>
        rw [hkept] at h
        obtain rfl := Option.some.inj h
        refine ⟨List.mem_append_right _ (List.mem_singleton_self _), fun b hb => ?_⟩
        rcases List.mem_append.mp hb with hb | hb
        · exact absurd hb ((choose_eq_none better).mp hkept b)
        · rw [Option.some.inj (List.mem_singleton.mp hb)]
          exact hirrefl next
      | some kept =>
        obtain ⟨hmem, hbest⟩ := ih hkept
        rw [hkept, keep] at h
        split_ifs at h with hbetter
        · obtain rfl := Option.some.inj h
          refine ⟨List.mem_append_right _ (List.mem_singleton_self _), fun b hb hlt => ?_⟩
          rcases List.mem_append.mp hb with hb | hb
          · exact hbest b hb (htrans b next kept hlt hbetter)
          · rw [Option.some.inj (List.mem_singleton.mp hb)] at hlt
            exact hirrefl next hlt
        · obtain rfl := Option.some.inj h
          refine ⟨List.mem_append_left _ hmem, fun b hb => ?_⟩
          rcases List.mem_append.mp hb with hb | hb
          · exact hbest b hb
          · rw [Option.some.inj (List.mem_singleton.mp hb)]
            exact hbetter

theorem exists_best (htrans : ∀ a b c, better a b → better b c → better a c)
    (hirrefl : ∀ a, ¬better a a) {candidates : List β} {a : β} (ha : a ∈ candidates) :
    ∃ m ∈ candidates, ∀ b ∈ candidates, ¬better b m := by
  cases hchosen : choose better (candidates.map some) with
  | none => exact absurd (List.mem_map_of_mem ha) ((choose_eq_none better).mp hchosen a)
  | some m =>
    obtain ⟨hmem, hbest⟩ := choose_eq_some better htrans hirrefl hchosen
    obtain ⟨m', hm', heq⟩ := List.mem_map.mp hmem
    rw [Option.some.inj heq] at hm'
    exact ⟨m, hm', fun b hb => hbest b (List.mem_map_of_mem hb)⟩

/-- When the candidates stand for elements that are compared in the same way and no two of them
are equal in it, the chosen one is the element that no other comes before. -/
theorem map_choose_eq_some {α : Type} (element : β → α) (candidate : α → β) (own : α → Prop)
    {before : α → α → Prop} (htrans : ∀ a b c, better a b → better b c → better a c)
    (hirrefl : ∀ a, ¬better a a) {candidates : List (Option β)}
    (hmem : ∀ b, some b ∈ candidates ↔ own (element b) ∧ b = candidate (element b))
    (helement : ∀ a, element (candidate a) = a)
    (hbetter : ∀ a b, own a → own b → (better (candidate a) (candidate b) ↔ before a b))
    (htotal : ∀ a b, own a → own b → ¬before a b → ¬before b a → a = b) {a : α} :
    (choose better candidates).map element = some a ↔ own a ∧ ∀ b, own b → ¬before b a := by
  have hown : ∀ a, own a → some (candidate a) ∈ candidates := fun a ha => by
    rw [hmem, helement]
    exact ⟨ha, rfl⟩
  have hleast : ∀ chosen, choose better candidates = some chosen →
      own (element chosen) ∧ ∀ b, own b → ¬before b (element chosen) := by
    intro chosen hchosen
    obtain ⟨hin, hbest⟩ := choose_eq_some better htrans hirrefl hchosen
    obtain ⟨hchosenOwn, heq⟩ := (hmem chosen).mp hin
    refine ⟨hchosenOwn, fun b hb hbefore => hbest (candidate b) (hown b hb) ?_⟩
    rw [heq]
    exact (hbetter b (element chosen) hb hchosenOwn).mpr hbefore
  constructor
  · intro h
    obtain ⟨chosen, hchosen, rfl⟩ := Option.map_eq_some_iff.mp h
    exact hleast chosen hchosen
  · rintro ⟨ha, hfirst⟩
    cases hchosen : choose better candidates with
    | none => exact absurd (hown a ha) ((choose_eq_none better).mp hchosen _)
    | some chosen =>
      obtain ⟨hchosenOwn, hbest⟩ := hleast chosen hchosen
      rw [Option.map_some, htotal (element chosen) a hchosenOwn ha (hfirst _ hchosenOwn)
        (hbest a ha)]

end Foundation.Choosing
