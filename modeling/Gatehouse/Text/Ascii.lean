/-!
# ASCII case

Schemes, header names and principal names are compared up to the case of the ASCII
letters; every other character stands for itself.
-/

namespace Gatehouse
namespace Text

/-- The text with the ASCII letters in lower case. -/
def lower (s : String) : String :=
  String.ofList (s.toList.map Char.toLower)

/-- The text with the ASCII letters in upper case. -/
def upper (s : String) : String :=
  String.ofList (s.toList.map Char.toUpper)

/-- Equality up to the case of the ASCII letters. -/
def equalIgnoringCase (s t : String) : Bool :=
  lower s == lower t

/-- A character that an HTTP field value may show as text: visible ASCII, the
space or the tab. -/
def isReadable (c : Char) : Bool :=
  (0x20 ≤ c.toNat && c.toNat ≤ 0x7E) || c.toNat == 0x09

/-- Readable characters are ASCII characters. -/
theorem ascii_of_isReadable {c : Char} (h : isReadable c = true) : c.toNat < 0x80 := by
  simp only [isReadable, Bool.or_eq_true, Bool.and_eq_true, decide_eq_true_eq, beq_iff_eq] at h
  omega

/-- Comparing up to case is symmetric. -/
theorem equalIgnoringCase_comm (s t : String) :
    equalIgnoringCase s t = equalIgnoringCase t s := by
  simp only [equalIgnoringCase, BEq.comm]

/-! ## Finitely many characters -/

/-- What holds of all characters below a bound holds of every one that is. -/
theorem of_toNat_lt {bound : Nat} {P : Char → Prop} (hall : ∀ n : Fin bound, P (Char.ofNat n.val))
    {c : Char} (hc : c.toNat < bound) : P c := by
  have hholds := hall ⟨c.toNat, hc⟩
  rwa [Char.ofNat_toNat] at hholds

/-- What is true of no blank is true of visible characters only. -/
theorem visible_of_true {p : Char → Bool} (hblank : ∀ n : Fin 0x21, p (Char.ofNat n.val) = false)
    {c : Char} (h : p c = true) : 0x20 < c.toNat := by
  refine Nat.lt_of_not_le fun hle => ?_
  have hfalse := of_toNat_lt (P := fun d => p d = false) hblank (Nat.lt_succ_of_le hle)
  exact Bool.eq_false_iff.1 hfalse h

/-- Letters and digits are ASCII characters. -/
theorem ascii_of_isAlphanum {c : Char} (h : c.isAlphanum = true) : c.toNat < 0x80 := by
  have hranges : (c.isUpper || c.isLower || c.isDigit) = true := h
  rw [Bool.or_eq_true, Bool.or_eq_true] at hranges
  rcases hranges with (hupper | hlower) | hdigit
  · have hlast : c ≤ 'Z' := (of_decide_eq_true hupper).2
    exact Nat.lt_of_le_of_lt hlast (by decide)
  · have hlast : c ≤ 'z' := of_decide_eq_true (Bool.and_eq_true_iff.1 hlower).2
    exact Nat.lt_of_le_of_lt hlast (by decide)
  · have hlast : c ≤ '9' := of_decide_eq_true (Bool.and_eq_true_iff.1 hdigit).2
    exact Nat.lt_of_le_of_lt hlast (by decide)

/-- A character whose lower case is an ASCII character is one. -/
theorem ascii_of_toLower {c : Char} (h : c.toLower.toNat < 0x80) : c.toNat < 0x80 := by
  unfold Char.toLower at h
  split at h
  · rename_i hupper
    exact Nat.lt_of_le_of_lt (UInt32.le_iff_toNat_le.1 hupper.2) (by decide)
  · exact h

/-- What holds of the letters and digits among the ASCII characters holds of all of them. -/
theorem of_isAlphanum {P : Char → Prop}
    (hall : ∀ n : Fin 0x80, (Char.ofNat n.val).isAlphanum = true → P (Char.ofNat n.val)) {c : Char}
    (h : c.isAlphanum = true) : P c :=
  of_toNat_lt (P := fun d => d.isAlphanum = true → P d) hall (ascii_of_isAlphanum h) h

end Text
end Gatehouse
