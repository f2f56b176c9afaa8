import Mathlib.Tactic.Common
import VdeTmux.Foundation.Text

/-!
# Digests and hexadecimal text

The hash function is a parameter: it maps bytes to 32 bytes. What the callers rely on, the shape
of the printed digest, follows from the printing alone.
-/

namespace Foundation

class Sha256 where
  digest : List UInt8 → Vector UInt8 32

/-- A digest to evaluate definitions with where no text is hashed. -/
@[reducible] def Sha256.constant : Sha256 := ⟨fun _ => Vector.replicate 32 0⟩

def hexDigit (n : ℕ) : Char :=
  Char.ofNat (if n < 10 then 48 + n else 87 + n)

def hexByte (b : UInt8) : List Char := [hexDigit (b.toNat / 16), hexDigit (b.toNat % 16)]

def isHexDigit (c : Char) : Bool :=
  ('0' ≤ c && c ≤ '9') || ('a' ≤ c && c ≤ 'f') || ('A' ≤ c && c ≤ 'F')

def isLowerHexDigit (c : Char) : Bool := ('0' ≤ c && c ≤ '9') || ('a' ≤ c && c ≤ 'f')

def utf8 (s : String) : List UInt8 := s.toByteArray.data.toList

def sha256Hex [Sha256] (bytes : List UInt8) : String :=
  String.ofList ((Sha256.digest bytes).toList.flatMap hexByte)

theorem hexDigit_isLower : ∀ n < 16, isLowerHexDigit (hexDigit n) = true := by decide

theorem hexDigit_utf8Size : ∀ n < 16, (hexDigit n).utf8Size = 1 := by decide

theorem isHexDigit_of_lower {c : Char} (h : isLowerHexDigit c = true) : isHexDigit c = true := by
  simp only [isLowerHexDigit, isHexDigit, Bool.or_eq_true] at h ⊢
  exact Or.inl h

theorem hexByte_bytes (b : UInt8) : Text.charBytes (hexByte b) = 2 := by
  have hlt := b.toNat_lt
  have hhigh := hexDigit_utf8Size (b.toNat / 16) (by omega)
  have hlow := hexDigit_utf8Size (b.toNat % 16) (by omega)
  simp [Text.charBytes, hexByte, hhigh, hlow]

theorem hexBytes_length (bs : List UInt8) :
    Text.charBytes (bs.flatMap hexByte) = 2 * bs.length := by
  induction bs with
  | nil => rfl
  | cons b bs ih =>
    have hb := hexByte_bytes b
    simp only [Text.charBytes, List.flatMap_cons, List.map_append, List.sum_append,
      List.length_cons] at hb ih ⊢
    omega

theorem sha256Hex_length [Sha256] (bytes : List UInt8) : Text.byteLen (sha256Hex bytes) = 64 := by
  simp [Text.byteLen, sha256Hex, String.toList_ofList, hexBytes_length]

theorem sha256Hex_lower [Sha256] (bytes : List UInt8) :
    (sha256Hex bytes).toList.all isLowerHexDigit = true := by
  simp only [sha256Hex, String.toList_ofList, List.all_eq_true, List.mem_flatMap]
  rintro c ⟨b, -, hc⟩
  have hlt := b.toNat_lt
  rcases List.mem_cons.mp hc with rfl | hc
  · exact hexDigit_isLower _ (by omega)
  · rw [List.mem_singleton.mp hc]
    exact hexDigit_isLower _ (by omega)

theorem sha256Hex_hex [Sha256] (bytes : List UInt8) :
    (sha256Hex bytes).toList.all isHexDigit = true := by
  have h := sha256Hex_lower bytes
  rw [List.all_eq_true] at h ⊢
  exact fun c hc => isHexDigit_of_lower (h c hc)

end Foundation
