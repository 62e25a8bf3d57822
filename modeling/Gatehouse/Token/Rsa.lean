import Gatehouse.Token.Sha256

/-!
# RSA signatures

A signature is a number below the modulus that, raised to the public exponent, gives
the digest in its padded form.  The padded form is as long as the modulus, so there is
one for each message.

Main results:

- Theorem {lit}`powMod_eq`: the square-and-multiply loop computes the power.
- Theorem {lit}`toBytes_length`: a number is written with the width that was asked for.
-/

namespace Gatehouse
namespace Rsa

/-- A public key. -/
structure PublicKey where
  modulus : Nat
  exponent : Nat
deriving DecidableEq, Repr

/-- A private key. -/
structure PrivateKey where
  modulus : Nat
  exponent : Nat
deriving DecidableEq, Repr

/-! ## Numbers and bytes -/

/-- A power in the remainders of a modulus, by squaring. -/
def powMod (base exponent modulus : Nat) : Nat :=
  if exponent = 0 then 1 % modulus
  else
    let half := powMod (base * base % modulus) (exponent / 2) modulus
    if exponent % 2 = 0 then half else half * base % modulus
termination_by exponent

/-- The number of bytes, most significant first. -/
def ofBytes (bytes : List UInt8) : Nat :=
  bytes.foldl (fun n b => n * 256 + b.toNat) 0

/-- The low bytes of a number with a width, most significant first. -/
def toBytes : Nat → Nat → List UInt8
  | 0, _ => []
  | width + 1, n => toBytes width (n / 256) ++ [UInt8.ofNat (n % 256)]

/-- The number of bytes that a number takes. -/
def byteCount (n : Nat) : Nat :=
  if n = 0 then 0 else byteCount (n / 256) + 1
termination_by n

/-! ## Padded digests -/

/-- The mark of a SHA-256 digest. -/
def digestMark : List UInt8 :=
  [0x30, 0x31, 0x30, 0x0d, 0x06, 0x09, 0x60, 0x86, 0x48, 0x01, 0x65, 0x03, 0x04, 0x02, 0x01,
    0x05, 0x00, 0x04, 0x20]

/-- The padded digest of a message, if the width has room for it. -/
def padded? (width : Nat) (message : List UInt8) : Option (List UInt8) :=
  let marked := digestMark ++ Sha256.digest message
  if width < marked.length + 11 then none
  else some ([0x00, 0x01] ++ List.replicate (width - marked.length - 3) 0xff ++ [0x00] ++ marked)

/-- Whether some bytes are the signature of a message. -/
def PublicKey.accepts (key : PublicKey) (message signature : List UInt8) : Bool :=
  let width := byteCount key.modulus
  match padded? width message with
  | none => false
  | some form =>
      signature.length == width && decide (ofBytes signature < key.modulus) &&
        toBytes width (powMod (ofBytes signature) key.exponent key.modulus) == form

/-- The signature of a message, if the key is long enough. -/
def PrivateKey.sign? (key : PrivateKey) (message : List UInt8) : Option (List UInt8) :=
  let width := byteCount key.modulus
  (padded? width message).map fun form =>
    toBytes width (powMod (ofBytes form) key.exponent key.modulus)

/-! ## Laws -/

/-- The square-and-multiply loop computes the power. -/
theorem powMod_eq (base exponent modulus : Nat) :
    powMod base exponent modulus = Nat.pow base exponent % modulus := by
  rw [Nat.pow_eq]
  fun_induction powMod base exponent modulus with
  | case1 base => simp
  | case2 base exponent h half even ih =>
      have hx : 2 * (exponent / 2) = exponent := by omega
      rw [show half = _ from ih, ← Nat.pow_mod, ← Nat.pow_two, ← Nat.pow_mul, hx]
  | case3 base exponent h half odd ih =>
      have hx : 2 * (exponent / 2) + 1 = exponent := by omega
      rw [show half = _ from ih, ← Nat.pow_mod, ← Nat.pow_two, ← Nat.pow_mul, Nat.mod_mul_mod,
        ← Nat.pow_succ, Nat.succ_eq_add_one, hx]

/-- A number is written with the width that was asked for. -/
@[simp] theorem toBytes_length (width n : Nat) : (toBytes width n).length = width := by
  induction width generalizing n with
  | zero => rfl
  | succ width ih => simp [toBytes, ih]

end Rsa
end Gatehouse
