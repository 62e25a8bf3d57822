import Gatehouse.Text.Digits

/-!
# Numbers in configuration

A number is written in decimal digits, with a plus sign in front or without, and must be
below a bound.

Main results:

- Theorem {lit}`parseNatural_decimal`: a number below the bound is read from its digits.
- Theorem {lit}`parseNatural_eq_ok_iff`: which texts are read, and as which numbers.
-/

namespace Gatehouse
namespace Text

/-- Why a text is not read as a number. -/
inductive NumberFault where
  /-- There is nothing to read. -/
  | empty
  /-- A character is no digit. -/
  | invalidDigit
  /-- The number is not below the bound. -/
  | tooLarge
deriving DecidableEq, Repr

/-- The wording of a fault. -/
def NumberFault.message : NumberFault → String
  | empty => "cannot parse integer from empty string"
  | invalidDigit => "invalid digit found in string"
  | tooLarge => "number too large to fit in target type"

/-- Reads digits after a number that has been read; the first fault counts. -/
def naturalFrom (bound : Nat) : Nat → List Char → Except NumberFault Nat
  | n, [] => .ok n
  | n, c :: cs =>
      if !c.isDigit then .error .invalidDigit
      else
        let next := n * 10 + digitValue c
        if bound ≤ next then .error .tooLarge else naturalFrom bound next cs

/-- Reads a number below a bound. -/
def parseNatural (bound : Nat) (text : String) : Except NumberFault Nat :=
  match text.toList with
  | [] => .error .empty
  | ['+'] => .error .invalidDigit
  | '+' :: c :: cs => naturalFrom bound 0 (c :: cs)
  | cs => naturalFrom bound 0 cs

theorem le_foldl_digits (n : Nat) (cs : List Char) :
    n ≤ cs.foldl (fun n c => n * 10 + digitValue c) n := by
  induction cs generalizing n with
  | nil => exact Nat.le_refl _
  | cons c cs ih =>
      have := ih (n * 10 + digitValue c)
      simp only [List.foldl_cons]
      omega

theorem naturalFrom_digits {bound : Nat} {cs : List Char} {n : Nat}
    (hd : ∀ c ∈ cs, c.isDigit = true)
    (hb : cs.foldl (fun n c => n * 10 + digitValue c) n < bound) :
    naturalFrom bound n cs = .ok (cs.foldl (fun n c => n * 10 + digitValue c) n) := by
  induction cs generalizing n with
  | nil => rfl
  | cons c cs ih =>
      have hc := hd c (List.mem_cons_self ..)
      have hle := le_foldl_digits (n * 10 + digitValue c) cs
      simp only [List.foldl_cons] at hb ⊢
      have hlt : ¬ bound ≤ n * 10 + digitValue c := by omega
      simp only [naturalFrom, hc, Bool.not_true, Bool.false_eq_true, if_false, hlt]
      exact ih (fun c h => hd c (List.mem_cons_of_mem _ h)) hb

/-- A number below the bound is read from its digits. -/
theorem parseNatural_decimal {bound n : Nat} (h : n < bound) :
    parseNatural bound (decimal n) = .ok n := by
  have hd : ∀ c ∈ decimalList n, c.isDigit = true := fun _ => isDigit_of_mem_decimalList
  have hv : (decimalList n).foldl (fun n c => n * 10 + digitValue c) 0 = n :=
    ofDecimal_decimal n
  have key := naturalFrom_digits (n := 0) hd (hv.symm ▸ h)
  rw [hv] at key
  have plus : ∀ cs, decimalList n ≠ '+' :: cs := fun cs hcs => by
    have := hd '+' (hcs ▸ List.mem_cons_self ..)
    exact absurd this (by decide)
  unfold parseNatural decimal
  rw [String.toList_ofList]
  split
  · rename_i hnil
    unfold decimalList at hnil
    split at hnil <;> simp at hnil
  · rename_i hcs
    exact absurd hcs (plus _)
  · rename_i hcs
    exact absurd hcs (plus _)
  · exact key

/-! ## Which texts are numbers -/

/-- A text without its plus sign, if it has one. -/
def unsigned : List Char → List Char
  | '+' :: cs => cs
  | cs => cs

/-- Whether a text is a number: digits, with a plus sign in front or without. -/
structure IsNumeral (cs : List Char) : Prop where
  nonempty : unsigned cs ≠ []
  digits : ∀ c ∈ unsigned cs, c.isDigit = true

/-- The number that a text is. -/
def numeral (cs : List Char) : Nat := ofDecimal (unsigned cs)

/-- Digits are read if the number that they make is below the bound. -/
theorem naturalFrom_eq_ok_iff {bound n m : Nat} {cs : List Char} (hcs : cs ≠ []) :
    naturalFrom bound n cs = .ok m ↔
      (∀ c ∈ cs, c.isDigit = true) ∧ cs.foldl (fun n c => n * 10 + digitValue c) n = m ∧
        m < bound := by
  constructor
  · intro h
    induction cs generalizing n with
    | nil => contradiction
    | cons c cs ih =>
        unfold naturalFrom at h
        split at h
        · contradiction
        · rename_i hdigit
          dsimp only at h
          split at h
          · contradiction
          · rename_i hbound
            have hc : c.isDigit = true := by simpa using hdigit
            cases cs with
            | nil =>
                have hm := Except.ok.inj h
                exact ⟨by simpa using hc, hm, hm ▸ Nat.lt_of_not_le hbound⟩
            | cons d cs =>
                rcases ih (List.cons_ne_nil d cs) h with ⟨hdigits, hvalue, hlt⟩
                exact ⟨List.forall_mem_cons.2 ⟨hc, hdigits⟩, hvalue, hlt⟩
  · rintro ⟨hdigits, rfl, hlt⟩
    exact naturalFrom_digits hdigits hlt

/-- A text is read as a number exactly if it is this number, and below the bound. -/
theorem parseNatural_eq_ok_iff {bound n : Nat} {text : String} :
    parseNatural bound text = .ok n ↔
      IsNumeral text.toList ∧ numeral text.toList = n ∧ n < bound := by
  have hread (cs : List Char) (hcs : unsigned cs ≠ []) :
      naturalFrom bound 0 (unsigned cs) = .ok n ↔ IsNumeral cs ∧ numeral cs = n ∧ n < bound := by
    rw [naturalFrom_eq_ok_iff hcs]
    exact and_congr_left fun _ => ⟨fun hdigits => ⟨hcs, hdigits⟩, IsNumeral.digits⟩
  unfold parseNatural
  generalize text.toList = cs
  split
  · exact iff_of_false nofun fun h => h.1.nonempty rfl
  · exact iff_of_false nofun fun h => h.1.nonempty rfl
  · rename_i c cs
    exact hread ('+' :: c :: cs) (List.cons_ne_nil c cs)
  · rename_i hnil hsign hplus
    have hsame : unsigned cs = cs := by
      unfold unsigned
      split
      · rename_i rest
        cases rest with
        | nil => exact absurd rfl hsign
        | cons c rest => exact absurd rfl (hplus c rest)
      · rfl
    have hread := hread cs
    rw [hsame] at hread
    exact hread hnil

end Text
end Gatehouse
