/-!
# Decimal and hexadecimal digits

Writing a natural number in base ten, and reading digits back.

Main results:

- Theorem {lit}`ofDecimal_decimal`: the written number reads back.
-/

namespace Gatehouse
namespace Text

/-- The digit of a value below ten. -/
def digitChar (n : Nat) : Char :=
  Char.ofNat ('0'.toNat + n)

/-- The value of a decimal digit. -/
def digitValue (c : Char) : Nat :=
  c.toNat - '0'.toNat

/-- The decimal digits of a number, most significant first, without leading
zeros. -/
def decimalList (n : Nat) : List Char :=
  if n < 10 then [digitChar n]
  else decimalList (n / 10) ++ [digitChar (n % 10)]
termination_by n

/-- A number in base ten. -/
def decimal (n : Nat) : String :=
  String.ofList (decimalList n)

/-- The number that a list of decimal digits denotes. -/
def ofDecimal (cs : List Char) : Nat :=
  cs.foldl (fun n c => n * 10 + digitValue c) 0

/-- A number in base ten with zeros in front up to a width. -/
def padded (width n : Nat) : String :=
  let digits := decimalList n
  String.ofList (List.replicate (width - digits.length) '0' ++ digits)

/-- The value of a hexadecimal digit of either case. -/
def hexValue? (c : Char) : Option Nat :=
  let n := c.toNat
  if c.isDigit then some (n - 0x30)
  else if 0x61 ≤ n ∧ n ≤ 0x66 then some (n - 0x57)
  else if 0x41 ≤ n ∧ n ≤ 0x46 then some (n - 0x37)
  else none

/-- The lower-case hexadecimal digit of a value below sixteen. -/
def hexChar (n : Nat) : Char :=
  if n < 10 then Char.ofNat (0x30 + n) else Char.ofNat (0x57 + n)

/-- The upper-case hexadecimal digit of a value below sixteen. -/
def hexCharUpper (n : Nat) : Char :=
  if n < 10 then Char.ofNat (0x30 + n) else Char.ofNat (0x37 + n)

/-- The number that a list of hexadecimal digits denotes, if all are digits. -/
def ofHex? (cs : List Char) : Option Nat :=
  cs.foldl (fun n c => n.bind fun n => (hexValue? c).map (n * 16 + ·)) (some 0)

theorem digitValue_digitChar {n : Nat} (h : n < 10) : digitValue (digitChar n) = n := by
  revert n
  decide

theorem isDigit_digitChar {n : Nat} (h : n < 10) : (digitChar n).isDigit = true := by
  revert n
  decide

/-- The written number reads back. -/
@[simp] theorem ofDecimal_decimal (n : Nat) : ofDecimal (decimalList n) = n := by
  fun_induction decimalList n with
  | case1 n h => simp [ofDecimal, digitValue_digitChar h]
  | case2 n h ih =>
      have hdigit := digitValue_digitChar (Nat.mod_lt n (by decide : 10 > 0))
      simp only [ofDecimal, List.foldl_append, List.foldl_cons, List.foldl_nil] at ih ⊢
      rw [ih, hdigit]
      omega

/-- A number is written in digits only. -/
theorem isDigit_of_mem_decimalList {n : Nat} {c : Char} (h : c ∈ decimalList n) :
    c.isDigit = true := by
  fun_induction decimalList n with
  | case1 n hn =>
      rw [List.mem_singleton] at h
      exact h ▸ isDigit_digitChar hn
  | case2 n hn ih =>
      rcases List.mem_append.mp h with h | h
      · exact ih h
      · rw [List.mem_singleton] at h
        exact h ▸ isDigit_digitChar (Nat.mod_lt n (by decide))

/-- Digits in front of a text that begins with no digit are all digits that stand there. -/
theorem takeWhile_isDigit {digits rest : List Char} (hdigits : ∀ c ∈ digits, c.isDigit = true)
    (hrest : rest.head?.any Char.isDigit = false) :
    (digits ++ rest).takeWhile Char.isDigit = digits := by
  rw [List.takeWhile_append_of_pos hdigits]
  cases rest with
  | nil => simp
  | cons c rest =>
      have hc : c.isDigit = false := by simpa using hrest
      simp [hc]

end Text
end Gatehouse
