/-!
# Base64

Three bytes are four digits of six bits each.  One or two bytes that remain are two or
three digits whose unused bits are zero, so every text has one encoding.  The encoding
of tokens uses an alphabet that is safe in URLs and stops there; the encoding of key
files fills the last group with equals signs.

Main results:

- Theorem {lit}`sextets_lt`: every digit of an encoding is below sixty-four.
-/

namespace Gatehouse
namespace Base64

/-- The two digits that the alphabets do not share. -/
structure Alphabet where
  sixtyTwo : Char
  sixtyThree : Char

/-- The alphabet of key files. -/
def standard : Alphabet := ⟨'+', '/'⟩

/-- The alphabet that is safe in URLs. -/
def url : Alphabet := ⟨'-', '_'⟩

/-- The digit of a value below sixty-four. -/
def digit (a : Alphabet) (n : Nat) : Char :=
  if n < 26 then Char.ofNat (0x41 + n)
  else if n < 52 then Char.ofNat (0x61 + (n - 26))
  else if n < 62 then Char.ofNat (0x30 + (n - 52))
  else if n = 62 then a.sixtyTwo else a.sixtyThree

/-- The value of a digit. -/
def value? (a : Alphabet) (c : Char) : Option Nat :=
  let n := c.toNat
  if 0x41 ≤ n ∧ n ≤ 0x5A then some (n - 0x41)
  else if 0x61 ≤ n ∧ n ≤ 0x7A then some (n - 0x61 + 26)
  else if 0x30 ≤ n ∧ n ≤ 0x39 then some (n - 0x30 + 52)
  else if c = a.sixtyTwo then some 62
  else if c = a.sixtyThree then some 63
  else none

/-- Bytes in groups of six bits; the last group is filled with zeros. -/
def sextets : List UInt8 → List Nat
  | x :: y :: z :: rest =>
      [x.toNat / 4, x.toNat % 4 * 16 + y.toNat / 16, y.toNat % 16 * 4 + z.toNat / 64,
        z.toNat % 64] ++ sextets rest
  | [x, y] => [x.toNat / 4, x.toNat % 4 * 16 + y.toNat / 16, y.toNat % 16 * 4]
  | [x] => [x.toNat / 4, x.toNat % 4 * 16]
  | [] => []

/-- The bytes of groups of six bits, if the groups end where bytes do and the bits
that fill the last group are zero. -/
def ofSextets? : List Nat → Option (List UInt8)
  | a :: b :: c :: d :: rest =>
      (ofSextets? rest).map ([UInt8.ofNat (a * 4 + b / 16), UInt8.ofNat (b % 16 * 16 + c / 4),
        UInt8.ofNat (c % 4 * 64 + d)] ++ ·)
  | [a, b, c] =>
      if c % 4 = 0 then some [UInt8.ofNat (a * 4 + b / 16), UInt8.ofNat (b % 16 * 16 + c / 4)]
      else none
  | [a, b] => if b % 16 = 0 then some [UInt8.ofNat (a * 4 + b / 16)] else none
  | [_] => none
  | [] => some []

/-- Bytes as digits without filling. -/
def encode (bytes : List UInt8) : List Char := (sextets bytes).map (digit url)

/-- The bytes of digits without filling. -/
def decodeWith? (a : Alphabet) (text : List Char) : Option (List UInt8) := do
  ofSextets? (← text.mapM (value? a))

/-- The bytes of a part of a token. -/
def decode? : List Char → Option (List UInt8) := decodeWith? url

/-- The bytes of a text filled with equals signs to groups of four. -/
def decodeFilled? (text : List Char) : Option (List UInt8) :=
  let digits := text.takeWhile (· ≠ '=')
  let filling := (4 - digits.length % 4) % 4
  if text = digits ++ List.replicate filling '=' then decodeWith? standard digits else none

/-- Every digit of an encoding is below sixty-four. -/
theorem sextets_lt (bytes : List UInt8) : ∀ n ∈ sextets bytes, n < 64 := by
  fun_induction sextets bytes with
  | case1 x y z rest ih =>
      have := x.toNat_lt
      have := y.toNat_lt
      have := z.toNat_lt
      intro n hn
      simp only [List.mem_append, List.mem_cons, List.not_mem_nil, or_false] at hn
      rcases hn with (rfl | rfl | rfl | rfl) | hn
      · omega
      · omega
      · omega
      · omega
      · exact ih n hn
  | case2 x y =>
      have := x.toNat_lt
      have := y.toNat_lt
      intro n hn
      simp only [List.mem_cons, List.not_mem_nil, or_false] at hn
      omega
  | case3 x =>
      have := x.toNat_lt
      intro n hn
      simp only [List.mem_cons, List.not_mem_nil, or_false] at hn
      omega
  | case4 => simp

end Base64
end Gatehouse
