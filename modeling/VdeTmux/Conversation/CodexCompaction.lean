import VdeTmux.Conversation.CodexHistory
import VdeTmux.Foundation.Occurrences

/-!
# What a compaction retains

A retained instruction is an entry from before, with its source and its turn. Which ones are
retained depends only on how many copies of their text the replacement history holds.
-/

open Foundation
open Foundation.Json (Value SerdeJson)

namespace VdeTmux.Conversation.Codex.Parser

def retainKey (entry : Entry) : Option String :=
  if entry.retainable = true then some entry.message.text else none

theorem retainKey_eq_some {entry : Entry} {text : String} :
    retainKey entry = some text ↔ entry.retainable = true ∧ entry.message.text = text := by
  unfold retainKey
  split_ifs with h <;> simp [h]

theorem lastUnused_eq (entries : List Entry) (used : List ℕ) (text : String) :
    lastUnused entries used text = Occurrences.lastUnused retainKey entries used text := by
  unfold lastUnused Occurrences.lastUnused
  congr 2
  funext entry
  rw [Bool.and_assoc]
  congr 1
  by_cases hretain : entry.1.retainable = true <;> simp [retainKey, hretain]

def copyOf (text : String) (item : Value) : Bool :=
  isUserMessage item && (responseUserText (item.get "content")).toOption = some text

def copies (history : List Value) (text : String) : ℕ := history.countP (copyOf text)

variable {entries : List Entry} {history : List Value} {traced : List (Option ℕ)} {used : List ℕ}

theorem copies_cons_of_ne {item : Value} (h : isUserMessage item = false) :
    copies (item :: history) = copies history := by
  funext text
  exact List.countP_cons_of_neg (by simp [copyOf, h])

theorem copies_cons {item : Value} {text : String} (h : isUserMessage item = true)
    (htext : responseUserText (item.get "content") = .ok text) :
    copies (item :: history) = Occurrences.added (copies history) text := by
  funext other
  unfold Occurrences.added
  split_ifs with hother
  · exact List.countP_cons_of_pos (by simp [copyOf, h, htext, hother, Except.toOption])
  · exact List.countP_cons_of_neg (by simp [copyOf, h, htext, Ne.symm hother, Except.toOption])

structure Traced (entries : List Entry) (history : List Value) (traced : List (Option ℕ))
    (used : List ℕ) : Prop where
  length : traced.length = history.length
  found : traced.filterMap (fun found => found) = used
  matched : Occurrences.Matched retainKey entries (copies history) used
  user : ∀ item ∈ history.zip traced, item.2.isSome = true → isUserMessage item.1 = true

theorem trace_traced (h : trace entries history = .ok (traced, used)) :
    Traced entries history traced used := by
  induction history generalizing traced used with
  | nil =>
    cases h
    exact ⟨rfl, rfl, .nil, List.forall_mem_nil _⟩
  | cons item rest ih =>
    obtain ⟨⟨traced₀, used₀⟩, hrest, h⟩ := bind_eq_ok.mp h
    have hih := ih hrest
    dsimp only at h
    split_ifs at h with huser
    · cases h
      refine ⟨by simp [hih.length], by simp [hih.found], ?_, List.forall_mem_cons.mpr ⟨?_, hih.user⟩⟩
      · rw [copies_cons_of_ne huser]
        exact hih.matched
      · exact fun h => by cases h
    · obtain ⟨text, htext, h⟩ := bind_eq_ok.mp h
      have huser := (Bool.not_eq_false _).mp huser
      have hcopies : copies (item :: rest) = _ := copies_cons huser htext
      split at h
      · rename_i hfound
        cases h
        rw [lastUnused_eq] at hfound
        refine ⟨by simp [hih.length], by simp [hih.found], ?_,
          List.forall_mem_cons.mpr ⟨fun _ => huser, hih.user⟩⟩
        rw [hcopies]
        exact hih.matched.miss hfound
      · rename_i found hfound
        cases h
        rw [lastUnused_eq] at hfound
        refine ⟨by simp [hih.length], by simp [hih.found], ?_,
          List.forall_mem_cons.mpr ⟨fun _ => huser, hih.user⟩⟩
        rw [hcopies]
        exact hih.matched.cons hfound

variable [Sha256]

/-- The entries rebuilt for the items of a replacement history: retained messages and summaries. -/
inductive Rebuilt (entries : List Entry) (ref : ℕ → String) :
    ℕ → List (Value × Option ℕ) → List Entry → Prop
  | nil {index} : Rebuilt entries ref index [] []
  | skipped {index item traced rest more} (h : isUserMessage item = true →
      (traced.bind fun found => entries[found]?) = none) (hmore : Rebuilt entries ref (index + 1) rest more) :
      Rebuilt entries ref index ((item, traced) :: rest) more
  | retained {index item found entry rest more} (h : entries[found]? = some entry)
      (hmore : Rebuilt entries ref (index + 1) rest more) :
      Rebuilt entries ref index ((item, some found) :: rest) (⟨entry.message, none⟩ :: more)
  | summarized {index item traced text rest more} (h : (traced.bind fun found => entries[found]?) = none)
      (hmore : Rebuilt entries ref (index + 1) rest more) :
      Rebuilt entries ref index ((item, traced) :: rest) (summaryEntry (ref index) "user" text :: more)

variable {p p' : Parser} {line : ℕ}

theorem rebuild_rebuilt {index : ℕ} {items : List (Value × Option ℕ)} {shown : List Entry}
    (h : rebuild p line index items = .ok (p', shown)) :
    Rebuilt p.entries (fun i => p.ref s!"l{line}#rh{i}") index items shown := by
  induction items generalizing p p' index shown with
  | nil =>
    cases h
    exact .nil
  | cons item rest ih =>
    obtain ⟨item, traced⟩ := item
    obtain ⟨⟨p₁, first⟩, hfirst, h⟩ := bind_eq_ok.mp h
    obtain ⟨⟨p₂, more⟩, hmore, h⟩ := bind_eq_ok.mp h
    have hnoted := rebuildItem_noted hfirst
    have hrebuilt := ih hmore
    simp only [ref, hnoted.entries, hnoted.session] at hrebuilt
    cases h
    have hother (h : isUserMessage item = false) : isUserMessage item = true →
        (traced.bind fun found => p.entries[found]?) = none := by
      rw [h]
      exact fun h => by cases h
    unfold rebuildItem at hfirst
    split at hfirst
    · split at hfirst
      · rename_i entry hfound
        obtain ⟨found, rfl, hentry⟩ := Option.bind_eq_some_iff.mp hfound
        cases hfirst
        exact .retained hentry hrebuilt
      · rename_i hfound
        obtain ⟨text, -, hfirst⟩ := bind_eq_ok.mp hfirst
        split_ifs at hfirst
        · cases hfirst
          exact .skipped (fun _ => hfound) hrebuilt
        · cases hfirst
          exact .summarized hfound hrebuilt
    · rename_i htype hrole
      cases hfirst
      exact .skipped (hother (by simp [isUserMessage, hrole])) hrebuilt
    · rename_i htype hrole
      cases hfirst
      exact .skipped (hother (by simp [isUserMessage, hrole])) hrebuilt
    · rename_i htype
      cases hfirst
      exact .skipped (hother (by simp [isUserMessage, htype])) hrebuilt
    · rename_i htype
      cases hfirst
      exact .skipped (hother (by simp [isUserMessage, htype])) hrebuilt
    · cases hfirst

namespace Rebuilt
variable {ref : ℕ → String} {index : ℕ} {items : List (Value × Option ℕ)} {shown : List Entry}

theorem origin (h : Rebuilt entries ref index items shown) {entry : Entry} (hmem : entry ∈ shown) :
    (∃ found before, some found ∈ items.map (·.2) ∧ entries[found]? = some before ∧
      entry = ⟨before.message, none⟩) ∨
    ∃ i text, index ≤ i ∧ i < index + items.length ∧ entry = summaryEntry (ref i) "user" text := by
  induction h with
  | nil => cases hmem
  | skipped _ _ ih =>
    rcases ih hmem with ⟨found, before, hfound, hbefore⟩ | ⟨i, text, hi, hlt, heq⟩
    · exact Or.inl ⟨found, before, List.mem_cons_of_mem _ hfound, hbefore⟩
    · exact Or.inr ⟨i, text, by omega, by rw [List.length_cons]; omega, heq⟩
  | retained hentry _ ih =>
    rcases List.mem_cons.mp hmem with rfl | hmem
    · exact Or.inl ⟨_, _, List.mem_cons_self, hentry, rfl⟩
    · rcases ih hmem with ⟨found, before, hfound, hbefore⟩ | ⟨i, text, hi, hlt, heq⟩
      · exact Or.inl ⟨found, before, List.mem_cons_of_mem _ hfound, hbefore⟩
      · exact Or.inr ⟨i, text, by omega, by rw [List.length_cons]; omega, heq⟩
  | summarized _ _ ih =>
    rcases List.mem_cons.mp hmem with rfl | hmem
    · exact Or.inr ⟨_, _, Nat.le_refl _, by rw [List.length_cons]; omega, rfl⟩
    · rcases ih hmem with ⟨found, before, hfound, hbefore⟩ | ⟨i, text, hi, hlt, heq⟩
      · exact Or.inl ⟨found, before, List.mem_cons_of_mem _ hfound, hbefore⟩
      · exact Or.inr ⟨i, text, by omega, by rw [List.length_cons]; omega, heq⟩

theorem instructions (h : Rebuilt entries ref index items shown)
    (huser : ∀ item ∈ items, item.2.isSome = true → isUserMessage item.1 = true) :
    (shown.filter fun entry => entry.message.kind = .instruction).map (·.message) =
      (((items.filterMap (·.2)).filterMap fun found => entries[found]?).filter fun entry =>
        entry.message.kind = .instruction).map (·.message) := by
  induction h with
  | nil => rfl
  | @skipped index item traced rest more hnone _ ih =>
    obtain ⟨hitem, hrest⟩ := List.forall_mem_cons.mp huser
    rw [ih hrest]
    cases traced with
    | none => rfl
    | some found =>
      have hmissing : entries[found]? = none := hnone (hitem rfl)
      simp [hmissing]
  | @retained index item found entry rest more hentry _ ih =>
    have hih := ih (List.forall_mem_cons.mp huser).2
    have hfound : (((item, some found) :: rest).filterMap (·.2)).filterMap (fun i => entries[i]?) =
        entry :: (rest.filterMap (·.2)).filterMap fun i => entries[i]? := by
      simp [hentry]
    rw [hfound, List.filter_cons, List.filter_cons]
    split_ifs
    · rw [List.map_cons, List.map_cons, hih]
    · exact hih
  | @summarized index item traced text rest more hnone _ ih =>
    rw [List.filter_cons_of_neg (by simp [summaryEntry, message]), ih (List.forall_mem_cons.mp huser).2]
    cases traced with
    | none => rfl
    | some found =>
      have hmissing : entries[found]? = none := hnone
      simp [hmissing]

/-- What is retained stands among the rebuilt entries in the order of the history, as it was. -/
theorem retained_sublist (h : Rebuilt entries ref index items shown)
    (huser : ∀ item ∈ items, item.2.isSome = true → isUserMessage item.1 = true) :
    (((items.filterMap (·.2)).filterMap fun found => entries[found]?).map (·.message)).Sublist
      (shown.map (·.message)) := by
  induction h with
  | nil => exact .slnil
  | @skipped index item traced rest more hnone _ ih =>
    obtain ⟨hitem, hrest⟩ := List.forall_mem_cons.mp huser
    have hkept := ih hrest
    cases traced with
    | none => exact hkept
    | some found =>
      have hmissing : entries[found]? = none := hnone (hitem rfl)
      simpa [hmissing] using hkept
  | @retained index item found entry rest more hentry _ ih =>
    have hkept := ih (List.forall_mem_cons.mp huser).2
    simpa [hentry] using hkept
  | @summarized index item traced text rest more hnone _ ih =>
    have hkept := (ih (List.forall_mem_cons.mp huser).2).cons
      (summaryEntry (ref index) "user" text).message
    cases traced with
    | none => exact hkept
    | some found =>
      have hmissing : entries[found]? = none := hnone
      simpa [hmissing] using hkept

end Rebuilt

end VdeTmux.Conversation.Codex.Parser
