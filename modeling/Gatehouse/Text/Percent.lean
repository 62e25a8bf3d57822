import Gatehouse.Text.Digits
import Gatehouse.Text.Utf8

/-!
# Percent-encoding

A byte that may not stand for itself is written as a percent sign and two hexadecimal
digits.  Text is encoded byte by byte in UTF-8.

Main results:

- Theorem {lit}`percentDecode_segment`: decoding what was encoded gives the bytes back.
-/

namespace Gatehouse
namespace Text

/-- A byte as a percent sign and two digits. -/
def percentByte (b : UInt8) : List Char :=
  ['%', hexCharUpper (b.toNat / 16), hexCharUpper (b.toNat % 16)]

/-- Whether a byte is an ASCII letter or digit. -/
def isPlainByte (b : UInt8) : Bool := (Char.ofNat b.toNat).isAlphanum

/-- A byte in a path segment: letters and digits stand for themselves. -/
def segmentByte (b : UInt8) : List Char :=
  if isPlainByte b then [Char.ofNat b.toNat] else percentByte b

/-- A text as one segment of a path. -/
def percentSegment (text : String) : List Char := (utf8 text).flatMap segmentByte

/-- The bytes that a percent-encoded ASCII text stands for. -/
def percentDecode : List Char → List UInt8
  | '%' :: high :: low :: rest =>
      match hexValue? high, hexValue? low with
      | some h, some l => UInt8.ofNat (16 * h + l) :: percentDecode rest
      | _, _ => 0x25 :: percentDecode (high :: low :: rest)
  | c :: rest => UInt8.ofNat c.toNat :: percentDecode rest
  | [] => []
termination_by cs => cs.length

theorem percentDecode_segmentByte (b : UInt8) (rest : List Char) :
    percentDecode (segmentByte b ++ rest) = b :: percentDecode rest := by
  have plain : ∀ n : Fin 256, (Char.ofNat n.val).isAlphanum = true →
      Char.ofNat n.val ≠ '%' ∧ (Char.ofNat n.val).toNat = n.val := by decide +kernel
  have coded : ∀ n : Fin 256, hexValue? (hexCharUpper (n.val / 16)) = some (n.val / 16) ∧
      hexValue? (hexCharUpper (n.val % 16)) = some (n.val % 16) := by decide +kernel
  have bound := b.toNat_lt
  unfold segmentByte
  split
  · rename_i h
    obtain ⟨hne, hval⟩ := plain ⟨b.toNat, bound⟩ h
    rw [List.singleton_append, percentDecode]
    · simp only at hval
      simp [hval]
    · intro _ _ _ hc _
      exact hne hc
  · obtain ⟨hh, hl⟩ := coded ⟨b.toNat, bound⟩
    simp only at hh hl
    have hn : 16 * (b.toNat / 16) + b.toNat % 16 = b.toNat := Nat.div_add_mod b.toNat 16
    simp only [percentByte, List.cons_append, List.nil_append, percentDecode, hh, hl, hn]
    simp

/-- Decoding an encoded segment gives the bytes of the text back. -/
theorem percentDecode_segment (text : String) :
    percentDecode (percentSegment text) = utf8 text := by
  unfold percentSegment
  induction utf8 text with
  | nil => simp [percentDecode]
  | cons b bytes ih => rw [List.flatMap_cons, percentDecode_segmentByte, ih]

end Text
end Gatehouse
