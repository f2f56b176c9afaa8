import Mathlib.Data.List.Basic

/-!
# Buffered readers and frames

A source hands its items over in pieces that it chooses. A buffered reader keeps what it has not
used of the last piece; what is still to come does not depend on where the pieces end. Frames are
runs of items that a separator ends.
-/

namespace Foundation

variable {α : Type}

/-- What a source hands over at once. At its end it hands over nothing. -/
structure Piece (α : Type) where
  items : List α
  nonempty : items ≠ []

structure Buffered (α : Type) where
  buffer : List α := []
  incoming : List (Piece α) := []

namespace Buffered

def content (r : Buffered α) : List α := r.buffer ++ r.incoming.flatMap (·.items)

/-- The reader with something in its buffer, unless the source has ended. -/
def fill (r : Buffered α) : Buffered α :=
  match r.buffer, r.incoming with
  | [], piece :: rest => ⟨piece.items, rest⟩
  | _, _ => r

def consume (r : Buffered α) (count : ℕ) : Buffered α := { r with buffer := r.buffer.drop count }

@[simp] theorem content_fill (r : Buffered α) : r.fill.content = r.content := by
  obtain ⟨buffer, incoming⟩ := r
  cases buffer with
  | cons x xs => rfl
  | nil =>
    cases incoming with
    | nil => rfl
    | cons piece rest => simp [fill, content]

theorem fill_buffer_eq_nil {r : Buffered α} : r.fill.buffer = [] ↔ r.content = [] := by
  obtain ⟨buffer, incoming⟩ := r
  cases buffer with
  | cons x xs => simp [fill, content]
  | nil =>
    cases incoming with
    | nil => simp [fill, content]
    | cons piece rest => simp [fill, content, piece.nonempty]

theorem content_consume {r : Buffered α} {count : ℕ} (h : count ≤ r.buffer.length) :
    (r.consume count).content = r.content.drop count := by
  simp only [consume, content]
  rw [List.drop_append_of_le_length h]

theorem consume_lt {r : Buffered α} {count : ℕ} (hpos : 0 < count)
    (h : count ≤ r.buffer.length) : (r.consume count).content.length < r.content.length := by
  rw [content_consume h, List.length_drop]
  have hle : r.buffer.length ≤ r.content.length := by
    simp only [content, List.length_append]
    omega
  omega

end Buffered

theorem frame_in_buffer {stop : α} {buffer more body rest : List α} (hbody : stop ∉ body)
    (h : buffer ++ more = body ++ stop :: rest) :
    (∃ left, buffer = body ++ stop :: left ∧ rest = left ++ more) ∨
      (stop ∉ buffer ∧ ∃ body', body = buffer ++ body' ∧ more = body' ++ stop :: rest) := by
  rcases List.append_eq_append_iff.mp h with ⟨tail, hbuffer, hmore⟩ | ⟨tail, hbuffer, hmore⟩
  · refine Or.inr ⟨fun hmem => hbody ?_, tail, hbuffer, hmore⟩
    rw [hbuffer]
    exact List.mem_append_left _ hmem
  · cases tail with
    | nil =>
      rw [List.append_nil] at hbuffer
      refine Or.inr ⟨hbuffer ▸ hbody, [], by simp [hbuffer], ?_⟩
      simpa using hmore.symm
    | cons x left =>
      rw [List.cons_append, List.cons.injEq] at hmore
      obtain ⟨rfl, hrest⟩ := hmore
      exact Or.inl ⟨left, hbuffer, hrest⟩

section
variable [DecidableEq α]

theorem findIdx?_stop {stop : α} {body left : List α} (hbody : stop ∉ body) :
    (body ++ stop :: left).findIdx? (· = stop) = some body.length := by
  rw [List.findIdx?_append, List.findIdx?_eq_none_iff.mpr, List.findIdx?_cons]
  · simp
  · intro x hx
    simp only [decide_eq_false_iff_not]
    rintro rfl
    exact hbody hx

theorem findIdx?_no_stop {stop : α} {buffer : List α} (h : stop ∉ buffer) :
    buffer.findIdx? (· = stop) = none := by
  rw [List.findIdx?_eq_none_iff]
  intro x hx
  simp only [decide_eq_false_iff_not]
  rintro rfl
  exact h hx

end

def framed (stop : α) (bodies : List (List α)) : List α := bodies.flatMap (· ++ [stop])

theorem framed_cons (stop : α) (body : List α) (bodies : List (List α)) (tail : List α) :
    framed stop (body :: bodies) ++ tail = body ++ stop :: (framed stop bodies ++ tail) := by
  simp [framed]

/-- Reading several frames one after the other from the same reader. -/
def readTimes {σ β : Type} (read : σ → β × σ) : ℕ → σ → List β × σ
  | 0, s => ([], s)
  | n + 1, s =>
    let (first, s) := read s
    let (others, s) := readTimes read n s
    (first :: others, s)

/-- A reader that reads each of the frames as it should reads all of them, in order, and leaves
what follows the last one. -/
theorem readTimes_framed {β : Type} {stop : α} {read : Buffered α → β × Buffered α}
    {result : List α → β} {bodies : List (List α)}
    (hread : ∀ body ∈ bodies, ∀ rest r, r.content = body ++ stop :: rest →
      (read r).1 = result body ∧ (read r).2.content = rest)
    {r : Buffered α} {tail : List α} (h : r.content = framed stop bodies ++ tail) :
    (readTimes read bodies.length r).1 = bodies.map result ∧
      (readTimes read bodies.length r).2.content = tail := by
  induction bodies generalizing r with
  | nil => exact ⟨rfl, h⟩
  | cons body bodies ih =>
    rw [framed_cons] at h
    obtain ⟨hfirst, hrest⟩ := hread body List.mem_cons_self _ r h
    obtain ⟨hothers, htail⟩ :=
      ih (fun body hbody => hread body (List.mem_cons_of_mem _ hbody)) hrest
    exact ⟨congrArg₂ List.cons hfirst hothers, htail⟩

end Foundation
