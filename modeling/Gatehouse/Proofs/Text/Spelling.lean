import Gatehouse.Text.Ascii
import Gatehouse.Text.Percent

/-!
# How a segment is spelled

A text is spelled as one segment of a path: letters and digits stand for themselves, and every
other byte is a percent sign with two digits behind it.  Nothing in it separates the parts of an
address, and the text can be read from it.

Main results:

- Theorem {lit}`Text.spelled_percentSegment`: of what a segment is made.
- Theorem {lit}`Text.Spelled.digits_behind`: no percent sign stands alone.
- Theorem {lit}`Text.percentSegment_injective`: different texts are spelled differently.
-/

namespace Gatehouse
namespace Text

/-- The digits with which a byte is percent-encoded. -/
def segmentDigits : List Char := "0123456789ABCDEF".toList

/-- A text of letters and digits and of percent signs, each with two digits behind it. -/
inductive Spelled : List Char → Prop
  | nil : Spelled []
  | plain {c : Char} {rest : List Char} (hc : c.isAlphanum = true) (h : Spelled rest) :
      Spelled (c :: rest)
  | coded {high low : Char} {rest : List Char} (hhigh : high ∈ segmentDigits)
      (hlow : low ∈ segmentDigits) (h : Spelled rest) : Spelled ('%' :: high :: low :: rest)

/-- A byte in a segment is spelled. -/
theorem spelled_segmentByte (b : UInt8) {rest : List Char} (h : Spelled rest) :
    Spelled (segmentByte b ++ rest) := by
  have hdigit : ∀ n : Fin 16, hexCharUpper n.val ∈ segmentDigits := by decide
  have hbound := b.toNat_lt
  unfold segmentByte
  split
  · rename_i hplain
    exact .plain hplain h
  · exact .coded (hdigit ⟨b.toNat / 16, by omega⟩) (hdigit ⟨b.toNat % 16, by omega⟩) h

/-- A text is spelled as one segment. -/
theorem spelled_percentSegment (text : String) : Spelled (percentSegment text) := by
  unfold percentSegment
  induction utf8 text with
  | nil => exact .nil
  | cons b bytes ih => exact spelled_segmentByte b ih

namespace Spelled

variable {cs : List Char}

/-- The characters of a spelled text are letters, digits and percent signs. -/
theorem isAlphanum_or (h : Spelled cs) {c : Char} (hc : c ∈ cs) :
    c.isAlphanum = true ∨ c = '%' := by
  have hdigit : ∀ d ∈ segmentDigits, d.isAlphanum = true := List.all_eq_true.1 (by decide)
  induction h with
  | nil => exact absurd hc List.not_mem_nil
  | plain hplain _ ih =>
      rcases List.mem_cons.1 hc with rfl | hc
      · exact .inl hplain
      · exact ih hc
  | coded hhigh hlow _ ih =>
      simp only [List.mem_cons] at hc
      rcases hc with rfl | rfl | rfl | hc
      · exact .inr rfl
      · exact .inl (hdigit _ hhigh)
      · exact .inl (hdigit _ hlow)
      · exact ih hc

/-- The characters of a spelled text are ASCII characters, and none of them separates the parts of
an address. -/
theorem ascii (h : Spelled cs) {c : Char} (hc : c ∈ cs) :
    c.toNat < 0x80 ∧ c ≠ '/' ∧ c ≠ '?' ∧ c ≠ '#' := by
  rcases h.isAlphanum_or hc with hplain | rfl
  · have hmarks : ['/', '?', '#'].any Char.isAlphanum = false := by decide
    have hother : ∀ d ∈ ['/', '?', '#'], c ≠ d := by
      rintro d hd rfl
      exact List.any_eq_false.1 hmarks c hd hplain
    exact ⟨ascii_of_isAlphanum hplain, hother '/' (by decide), hother '?' (by decide),
      hother '#' (by decide)⟩
  · decide

/-- Every percent sign of a spelled text has two digits behind it. -/
theorem digits_behind {front back : List Char} (h : Spelled (front ++ '%' :: back)) :
    ∃ high low rest, back = high :: low :: rest ∧ high ∈ segmentDigits ∧ low ∈ segmentDigits := by
  have hsign : '%' ∉ segmentDigits := by decide
  generalize hcs : front ++ '%' :: back = cs at h
  induction h generalizing front with
  | nil => exact absurd hcs (by simp)
  | plain hplain _ ih =>
      cases front with
      | nil =>
          rw [← (List.cons.inj hcs).1] at hplain
          exact absurd hplain (by decide)
      | cons d front => exact ih (List.cons.inj hcs).2
  | @coded high low rest hhigh hlow _ ih =>
      match front with
      | [] => exact ⟨high, low, rest, (List.cons.inj hcs).2, hhigh, hlow⟩
      | [_] => exact absurd ((List.cons.inj (List.cons.inj hcs).2).1 ▸ hhigh) hsign
      | [_, _] =>
          have hcs := (List.cons.inj (List.cons.inj hcs).2).2
          exact absurd ((List.cons.inj hcs).1 ▸ hlow) hsign
      | _ :: _ :: _ :: front =>
          have hcs := (List.cons.inj (List.cons.inj hcs).2).2
          exact ih (List.cons.inj hcs).2

/-- A spelled text whose lower case starts with a coded dot starts with one. -/
theorem coded_dot (h : Spelled cs) {tail : List Char}
    (hlower : cs.map Char.toLower = '%' :: '2' :: 'e' :: tail) :
    ∃ rest, cs = '%' :: '2' :: 'E' :: rest ∧ Spelled rest ∧ rest.map Char.toLower = tail := by
  have htwo : segmentDigits.filter (·.toLower == '2') = ['2'] := by decide
  have hletter : segmentDigits.filter (·.toLower == 'e') = ['E'] := by decide
  cases h with
  | nil => exact nomatch hlower
  | @plain c rest hc _ =>
      have hsign := of_isAlphanum (P := fun d => d.toLower ≠ '%') (by decide) hc
      exact absurd (List.cons.inj hlower).1 hsign
  | @coded high low rest hhigh hlow hrest =>
      simp only [List.map_cons, List.cons.injEq] at hlower
      rcases hlower with ⟨-, hhighLower, hlowLower, htail⟩
      have hhighTwo : high ∈ segmentDigits.filter (·.toLower == '2') :=
        List.mem_filter.2 ⟨hhigh, beq_iff_eq.2 hhighLower⟩
      have hlowLetter : low ∈ segmentDigits.filter (·.toLower == 'e') :=
        List.mem_filter.2 ⟨hlow, beq_iff_eq.2 hlowLower⟩
      rw [htwo, List.mem_singleton] at hhighTwo
      rw [hletter, List.mem_singleton] at hlowLetter
      exact ⟨rest, by rw [hhighTwo, hlowLetter], hrest, htail⟩

/-- No dot stands in a spelled text, nor in its lower case. -/
theorem dot_not_mem (h : Spelled cs) : '.' ∉ cs.map Char.toLower := by
  intro hdot
  rcases List.mem_map.1 hdot with ⟨c, hc, hlower⟩
  rcases h.isAlphanum_or hc with hc | rfl
  · have hother := of_isAlphanum (P := fun d => d.toLower ≠ '.') (by decide) hc
    exact hother hlower
  · exact absurd hlower (by decide)

end Spelled

/-- Different texts have different bytes. -/
theorem utf8_injective {text other : String} (h : utf8 text = utf8 other) : text = other := by
  rw [← Option.some.injEq, ← ofUtf8?_utf8 text, ← ofUtf8?_utf8 other, h]

/-- Different texts are spelled differently. -/
theorem percentSegment_injective {text other : String}
    (h : percentSegment text = percentSegment other) : text = other := by
  apply utf8_injective
  rw [← percentDecode_segment, h, percentDecode_segment]

end Text
end Gatehouse
