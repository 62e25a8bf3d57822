import Gatehouse.Text.Utf8
import Gatehouse.Time.Timestamp
import Gatehouse.Token.Rsa

/-!
# Keys in the distinguished encoding

A key is a tree of blocks; each block has a tag, a length and a body.  The reader keeps
what keys are made of and steps over everything else.  A public key itself has one
encoding only, so a key is read and then compared with its own encoding.

Main results:

- Theorem {lit}`encode_of_publicKey?`: what reads as a public key is the encoding of it.
-/

namespace Gatehouse
namespace Der

/-- A block of an encoded tree. -/
inductive Block where
  | sequence (items : List Block)
  /-- An integer, as the bytes of its two's complement. -/
  | integer (body : List UInt8)
  /-- A string of bits without the byte that counts the unused ones. -/
  | bits (body : List UInt8)
  | octets (body : List UInt8)
  /-- The identifier of an algorithm. -/
  | identifier (arcs : List Nat)
  | other
deriving Repr, Inhabited

/-! ## Tags and lengths -/

/-- A number in groups of seven bits, the last one unmarked, and what stands behind
it. -/
def readSevens : Nat → List UInt8 → Option (Nat × List UInt8)
  | _, [] => none
  | n, b :: rest =>
      let n := n * 128 + b.toNat % 128
      if b.toNat < 128 then some (n, rest) else readSevens n rest

/-- The numbers of some bytes in groups of seven bits, with fuel for their count. -/
def readArcs : Nat → List UInt8 → Option (List Nat)
  | _, [] => some []
  | 0, _ => none
  | fuel + 1, bytes => do
      let (arc, rest) ← readSevens 0 bytes
      return arc :: (← readArcs fuel rest)

/-- What kind a block is of. -/
structure Tag where
  /-- Whether the number has its general meaning. -/
  universal : Bool
  number : Nat

/-- Reads a tag. -/
def readTag : List UInt8 → Option (Tag × List UInt8)
  | [] => none
  | b :: rest => do
      let universal := b.toNat < 64
      if b.toNat % 32 = 31 then
        let (number, rest) ← readSevens 0 rest
        return (⟨universal, number⟩, rest)
      else return (⟨universal, b.toNat % 32⟩, rest)

/-- Reads a length: one byte, or a count of at most eight bytes and those bytes. -/
def readLength : List UInt8 → Option (Nat × List UInt8)
  | [] => none
  | b :: rest =>
      if b.toNat < 128 then some (b.toNat, rest)
      else
        let count := b.toNat - 128
        if count > 8 ∨ rest.length < count then none
        else some (Rsa.ofBytes (rest.take count), rest.drop count)

/-! ## Bodies -/

/-- The identifier of a body: its first byte holds two numbers. -/
def identifier? : List UInt8 → Option (List Nat)
  | [] => none
  | b :: rest => do
      let n := b.toNat
      let first := if n < 40 then 0 else if n < 80 then 1 else 2
      return first :: (n - 40 * first) :: (← readArcs rest.length rest)

/-- Whether a byte may stand in a printable string. -/
def isPrintableByte (b : UInt8) : Bool :=
  let c := Char.ofNat b.toNat
  c.isAlphanum || [' ', '\'', '(', ')', '+', ',', '-', '.', '/', ':', '=', '?'].contains c

/-- Whether decimal digits are a month, a day and a time of day. -/
def isMoment (year : Nat) (digits : List Char) : Bool :=
  let pair (i : Nat) := ((digits.drop i).take 2).foldl (fun n c => n * 10 + (c.toNat - 48)) 0
  digits.all Char.isDigit && Day.isValid ⟨year, pair 0, pair 2⟩ && decide (pair 4 < 24) &&
    decide (pair 6 < 60) && decide (pair 8 < 60)

/-- The value of decimal digits. -/
def decimalValue (digits : List Char) : Nat :=
  digits.foldl (fun n c => n * 10 + (c.toNat - 48)) 0

/-- Whether a body is a moment with a year of two digits. -/
def isShortMoment (body : List UInt8) : Bool :=
  let cs := body.map fun b => Char.ofNat b.toNat
  let year := decimalValue (cs.take 2)
  cs.length == 13 && cs.getLast? == some 'Z' && (cs.take 2).all Char.isDigit &&
    isMoment (if year ≥ 50 then 1900 + year else 2000 + year) ((cs.drop 2).take 10)

/-- Whether a body is a moment with a year of four digits, perhaps with a fraction. -/
def isLongMoment (body : List UInt8) : Bool :=
  let cs := body.map fun b => Char.ofNat b.toNat
  let fraction := (cs.drop 14).dropLast
  decide (15 ≤ cs.length) && cs.getLast? == some 'Z' && (cs.take 4).all Char.isDigit &&
    isMoment (decimalValue (cs.take 4)) ((cs.drop 4).take 10) &&
    (fraction.isEmpty || (fraction.head? == some '.' && fraction.tail.all Char.isDigit))

/-- Whether a body is what its tag promises, for the tags of texts and moments. -/
def isProper (number : Nat) (body : List UInt8) : Bool :=
  match number with
  | 1 => body.length == 1
  | 12 | 20 | 28 | 30 => (Text.ofUtf8? body).isSome
  | 19 => body.all isPrintableByte
  | 22 => body.all fun b => decide (b.toNat < 128)
  | 23 => isShortMoment body
  | 24 => isLongMoment body
  | _ => true

/-- The block of a tag and a body, with a reader for the blocks inside. -/
def ofBody? (inside : List UInt8 → Option (List Block)) (tag : Tag) (body : List UInt8) :
    Option Block :=
  if !tag.universal then some .other
  else
    match tag.number with
    | 2 => some (.integer body)
    | 3 =>
        match body with
        | [] => some (.bits [])
        | unused :: bytes => if 8 * bytes.length < unused.toNat then none else some (.bits bytes)
    | 4 => some (.octets body)
    | 6 => (identifier? body).map .identifier
    | 16 => if body.isEmpty then none else (inside body).map .sequence
    | 17 => if body.isEmpty then none else (inside body).map fun _ => .other
    | n => if isProper n body then some .other else none

/-- The blocks of some bytes, with fuel for their number and depth. -/
def readBlocks : Nat → List UInt8 → Option (List Block)
  | _, [] => some []
  | 0, _ => none
  | fuel + 1, bytes => do
      let (tag, rest) ← readTag bytes
      let (length, rest) ← readLength rest
      if rest.length < length then none
      else
        let block ← ofBody? (readBlocks fuel) tag (rest.take length)
        return block :: (← readBlocks fuel (rest.drop length))

/-- The blocks of some bytes; there is at least one. -/
def blocks? (bytes : List UInt8) : Option (List Block) :=
  if bytes.isEmpty then none else readBlocks bytes.length bytes

/-! ## Public keys -/

/-- The encoding of a length. -/
def encodeLength (n : Nat) : List UInt8 :=
  if n < 128 then [UInt8.ofNat n]
  else UInt8.ofNat (128 + Rsa.byteCount n) :: Rsa.toBytes (Rsa.byteCount n) n

/-- The encoding of a natural number: the fewest bytes that leave the sign bit clear. -/
def encodeNatural (n : Nat) : List UInt8 :=
  let width := max 1 (Rsa.byteCount (2 * n))
  0x02 :: encodeLength width ++ Rsa.toBytes width n

/-- The encoding of a public key. -/
def encode (key : Rsa.PublicKey) : List UInt8 :=
  let body := encodeNatural key.modulus ++ encodeNatural key.exponent
  0x30 :: encodeLength body.length ++ body

/-- Whether a key can be used: of at most 4096 bits, odd, and with an odd exponent below
2^33 and below the modulus. -/
def isUsable (key : Rsa.PublicKey) : Bool :=
  key.modulus % 2 == 1 && decide (key.modulus < Nat.pow 2 4096) && key.exponent % 2 == 1 &&
    decide (2 ≤ key.exponent) && decide (key.exponent < Nat.pow 2 33) &&
    decide (key.exponent < key.modulus)

/-- The usable public key that some bytes encode. -/
def publicKey? (bytes : List UInt8) : Option Rsa.PublicKey :=
  match blocks? bytes with
  | some [.sequence [.integer modulus, .integer exponent]] =>
      let key : Rsa.PublicKey := ⟨Rsa.ofBytes modulus, Rsa.ofBytes exponent⟩
      if encode key = bytes ∧ isUsable key then some key else none
  | _ => none

/-- The private key that some bytes encode; its second and fourth number count. -/
def privateKey? (bytes : List UInt8) : Option Rsa.PrivateKey :=
  match blocks? bytes with
  | some [.sequence (.integer _ :: .integer modulus :: .integer _ :: .integer exponent :: _)] =>
      some ⟨Rsa.ofBytes modulus, Rsa.ofBytes exponent⟩
  | _ => none

/-- What reads as a public key is the encoding of it. -/
theorem encode_of_publicKey? {bytes : List UInt8} {key : Rsa.PublicKey}
    (h : publicKey? bytes = some key) : encode key = bytes := by
  unfold publicKey? at h
  split at h
  · simp only at h
    split at h
    · rename_i hk
      simp only [Option.some.injEq] at h
      exact h ▸ hk.1
    · simp at h
  · simp at h

end Der
end Gatehouse
