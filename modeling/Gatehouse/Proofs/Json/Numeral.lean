import Gatehouse.Json.Value
import Gatehouse.Proofs.Json.Yield

/-!
# How numbers are written

The text of a number has up to four parts: a sign, whole digits, a fraction and an exponent.
Every number is written so, doubles included, and what is written so can be stepped over, whether
or not it is in the range of numbers that can be read.

Main results:

- Theorem {lit}`isNumberText_chars`: every number is written in these parts.
- Theorem {lit}`yields_skipNumber`: what is written in these parts is stepped over.
-/

namespace Gatehouse
namespace Json

/-! ## The parts of a number -/

/-- Whether a text is digits, one at least. -/
structure IsDigits (cs : List Char) : Prop where
  nonempty : cs ≠ []
  digit : ∀ ch ∈ cs, ch.isDigit = true

/-- Whether a text is the whole digits of a number: a zero stands alone. -/
structure IsWholeDigits (cs : List Char) : Prop where
  digits : IsDigits cs
  leading : ∀ more, cs = '0' :: more → more = []

/-- How a fraction is written, if there is one. -/
inductive IsFraction : List Char → Prop where
  | none : IsFraction []
  | digits {cs : List Char} (h : IsDigits cs) : IsFraction ('.' :: cs)

/-- How an exponent is written, if there is one. -/
inductive IsExponent : List Char → Prop where
  | none : IsExponent []
  | digits {sign cs : List Char} (hsign : sign = [] ∨ sign = ['+'] ∨ sign = ['-'])
      (h : IsDigits cs) : IsExponent ('e' :: (sign ++ cs))

/-- Whether a text is a number without its sign. -/
inductive IsUnsigned : List Char → Prop where
  | intro {whole fraction exponent : List Char} (hwhole : IsWholeDigits whole)
      (hfraction : IsFraction fraction) (hexponent : IsExponent exponent) :
      IsUnsigned (whole ++ (fraction ++ exponent))

/-- Whether a text is a number. -/
inductive IsNumberText : List Char → Prop where
  | plain {cs : List Char} (h : IsUnsigned cs) : IsNumberText cs
  | minus {cs : List Char} (h : IsUnsigned cs) : IsNumberText ('-' :: cs)

variable {cs fraction exponent rest : List Char}

/-- Digits begin with one. -/
theorem IsDigits.eq_cons (h : IsDigits cs) : ∃ ch more, cs = ch :: more ∧ ch.isDigit = true := by
  rcases List.exists_cons_of_ne_nil h.nonempty with ⟨ch, more, rfl⟩
  exact ⟨ch, more, rfl, h.digit ch List.mem_cons_self⟩

/-- A number without its sign begins with a digit. -/
theorem IsUnsigned.eq_cons (h : IsUnsigned cs) :
    ∃ ch more, cs = ch :: more ∧ ch.isDigit = true := by
  rcases h with ⟨hwhole, -, -⟩
  rcases hwhole.digits.eq_cons with ⟨ch, more, rfl, hdigit⟩
  exact ⟨ch, _, rfl, hdigit⟩

/-- A number begins with a sign or a digit. -/
theorem IsNumberText.eq_cons (h : IsNumberText cs) :
    ∃ ch more, (ch = '-' ∨ ch.isDigit = true) ∧ cs = ch :: more := by
  cases h with
  | plain h =>
      rcases h.eq_cons with ⟨ch, more, rfl, hdigit⟩
      exact ⟨ch, more, .inr hdigit, rfl⟩
  | minus h => exact ⟨'-', _, .inl rfl, rfl⟩

/-! ## Numbers are written so -/

/-- The digits of a natural number are whole digits. -/
theorem isWholeDigits_decimalList (n : Nat) : IsWholeDigits (Text.decimalList n) := by
  rcases decimalList_eq_cons n with ⟨ch, own, hcons, -, hzero⟩
  refine ⟨⟨by simp [hcons], fun _ => Text.isDigit_of_mem_decimalList⟩, fun more hmore => ?_⟩
  rw [hcons, List.cons.injEq] at hmore
  exact hmore.2 ▸ (hzero hmore.1).2

/-- A zero alone is whole digits. -/
theorem isWholeDigits_zero : IsWholeDigits ['0'] :=
  ⟨⟨List.cons_ne_nil _ _, by simp⟩, fun _ hmore => (List.cons.inj hmore).2.symm⟩

/-- Some zeros are digits. -/
theorem isDigit_of_mem_zeros {count : Nat} {ch : Char} (h : ch ∈ List.replicate count '0') :
    ch.isDigit = true := by
  rw [List.eq_of_mem_replicate h]
  decide

section Decimals

variable {ch : Char} {more : List Char} (hzero : ch ≠ '0')
  (hdigits : ∀ d ∈ ch :: more, d.isDigit = true)

include hdigits in
/-- Digits behind a point and some zeros are a number. -/
theorem isUnsigned_behind_zeros (count : Nat) :
    IsUnsigned ("0." ++ String.ofList (List.replicate count '0' ++ ch :: more)).toList := by
  have hfraction : IsDigits (List.replicate count '0' ++ ch :: more) := by
    refine ⟨by simp, fun d hd => ?_⟩
    rcases List.mem_append.1 hd with hd | hd
    · exact isDigit_of_mem_zeros hd
    · exact hdigits d hd
  simpa using IsUnsigned.intro isWholeDigits_zero (.digits hfraction) .none

include hzero hdigits in
/-- Digits with a point among them or behind them are a number. -/
theorem isUnsigned_pointed (count : Nat) :
    IsUnsigned (String.ofList ((ch :: more).take (count + 1)) ++ "." ++
      (if ((ch :: more).drop (count + 1)).isEmpty then "0"
        else String.ofList ((ch :: more).drop (count + 1)))).toList := by
  have hwhole : IsWholeDigits ((ch :: more).take (count + 1)) := by
    refine ⟨⟨by simp, fun d hd => hdigits d (List.mem_of_mem_take hd)⟩, fun rest hrest => ?_⟩
    rw [List.take_succ_cons, List.cons.injEq] at hrest
    exact absurd hrest.1 hzero
  split
  · simpa using IsUnsigned.intro hwhole (.digits isWholeDigits_zero.digits) .none
  · rename_i hsome
    rw [List.isEmpty_iff] at hsome
    have hfraction : IsDigits ((ch :: more).drop (count + 1)) :=
      ⟨hsome, fun d hd => hdigits d (List.mem_of_mem_drop hd)⟩
    simpa using IsUnsigned.intro hwhole (.digits hfraction) .none

include hzero hdigits in
/-- Digits with a point behind the first one and an exponent are a number. -/
theorem isUnsigned_scaled {sign : String}
    (hsign : sign.toList = [] ∨ sign.toList = ['+'] ∨ sign.toList = ['-']) (power : Nat) :
    IsUnsigned (DecimalStyle.withPoint (ch :: more) ++ "e" ++ sign ++
      Text.decimal power).toList := by
  have hwhole : IsWholeDigits [ch] :=
    ⟨⟨by simp, fun d hd => hdigits d (List.mem_cons.2 (.inl (List.mem_singleton.1 hd)))⟩,
      fun _ hmore => absurd (List.cons.inj hmore).1 hzero⟩
  have hexponent := IsExponent.digits hsign (isWholeDigits_decimalList power).digits
  cases more with
  | nil =>
      simpa [DecimalStyle.withPoint, Text.decimal] using IsUnsigned.intro hwhole .none hexponent
  | cons d more =>
      have hfraction : IsDigits (d :: more) :=
        ⟨by simp, fun e he => hdigits e (List.mem_cons_of_mem ch he)⟩
      simpa [DecimalStyle.withPoint, Text.decimal] using
        IsUnsigned.intro hwhole (.digits hfraction) hexponent

end Decimals

/-- A decimal is written as a number without a sign. -/
theorem isUnsigned_write (style : DecimalStyle) (d : Decimal) :
    IsUnsigned (style.write d).toList := by
  have hdigits : ∀ ch ∈ Text.decimalList d.digits, ch.isDigit = true :=
    fun _ => Text.isDigit_of_mem_decimalList
  rcases decimalList_eq_cons d.digits with ⟨ch, more, hcons, -, hzero⟩
  unfold DecimalStyle.write
  dsimp only
  split
  · exact .intro isWholeDigits_zero (.digits isWholeDigits_zero.digits) .none
  rename_i hpositive
  have hleading : ch ≠ '0' := fun h => hpositive (hzero h).1
  rw [hcons] at hdigits ⊢
  split
  · split
    · exact isUnsigned_behind_zeros hdigits _
    · -- zeros behind the digits are digits as well
      refine isUnsigned_pointed hleading (fun e he => ?_) _
      exact (List.mem_append.1 he).elim (hdigits e) isDigit_of_mem_zeros
  · refine isUnsigned_scaled hleading hdigits ?_ _
    split
    · exact .inr (.inr rfl)
    · split
      · exact .inr (.inl rfl)
      · exact .inl rfl

/-- Every number is written in these parts. -/
theorem isNumberText_chars (n : Number) : IsNumberText n.chars := by
  have hwhole : ∀ m, IsUnsigned (Text.decimalList m) := by
    intro m
    simpa using IsUnsigned.intro (isWholeDigits_decimalList m) .none .none
  cases n with
  | natural m => exact .plain (hwhole m)
  | negative m => exact .minus (hwhole m)
  | double x =>
      have hsize := isUnsigned_write Number.doubleStyle x.size.shortest
      rw [Number.chars, Double.write]
      cases x.negative with
      | false => simpa using IsNumberText.plain hsize
      | true => simpa using IsNumberText.minus hsize

/-! ## What is written so is stepped over -/

/-- Digits are stepped over up to where there is no further one. -/
theorem skipSomeDigits_of_digits (h : IsDigits cs) (hrest : rest.head?.any Char.isDigit = false)
    {c : Cursor} (hc : c.rest = cs ++ rest) :
    ∃ c', skipSomeDigits c = .ok c' ∧ c'.rest = rest := by
  rcases h.eq_cons with ⟨ch, more, rfl, hdigit⟩
  have hfirst : c.rest.head?.any Char.isDigit = true := by
    rw [hc]
    simpa using hdigit
  exact ⟨c.skipDigits, by rw [skipSomeDigits, if_pos hfirst], skipDigits_rest h.digit hrest hc⟩

/-- Whole digits are stepped over up to where there is no further digit. -/
theorem skipWhole_of_digits (h : IsWholeDigits cs) (hrest : rest.head?.any Char.isDigit = false)
    {c : Cursor} (hc : c.rest = cs ++ rest) : ∃ c', skipWhole c = .ok c' ∧ c'.rest = rest := by
  rcases h.digits.eq_cons with ⟨ch, more, rfl, -⟩
  by_cases hzero : ch = '0'
  · subst hzero
    have hmore := h.leading more rfl
    subst hmore
    have hcons : c.rest = '0' :: rest := hc
    exact ⟨c.advance, by rw [skipWhole_zero hcons, hrest]; rfl, by simp [hcons]⟩
  · have hother : ∀ more', c.rest ≠ '0' :: more' := by
      intro more' hsame
      rw [hc, List.cons_append, List.cons.injEq] at hsame
      exact hzero hsame.1
    rw [skipWhole_other hother]
    exact skipSomeDigits_of_digits h.digits hrest hc

/-- Behind an exponent, or where there is none, stands no digit and no point. -/
theorem IsExponent.plain (h : IsExponent exponent) (hrest : Stops rest) :
    (exponent ++ rest).head?.any Char.isDigit = false ∧ (exponent ++ rest).head? ≠ some '.' := by
  cases h with
  | none =>
      refine ⟨hrest.noDigit, ?_⟩
      cases rest with
      | nil => simp
      | cons ch more => simpa using hrest.plain.2.1
  | digits => exact ⟨rfl, by simp⟩

/-- An exponent is stepped over. -/
theorem yields_skipExponent (h : IsExponent exponent) :
    Yields Stops skipExponent (exponent ++ ·) () := by
  intro c rest hrest hc
  cases h with
  | none =>
      have hletter : c.rest.head?.any isExponentLetter = false := by
        rw [hc]
        cases rest with
        | nil => rfl
        | cons ch more => exact hrest.plain.2.2
      exact ⟨c, by simp only [skipExponent, hletter]; rfl, hc⟩
  | @digits sign cs hsign hdigits =>
      have hletter : c.rest.head?.any isExponentLetter = true := by
        rw [hc]
        rfl
      have hbehind : c.advance.rest = sign ++ (cs ++ rest) := by simp [hc]
      rcases hdigits.eq_cons with ⟨ch, more, hcons, hdigit⟩
      have hsigned : ∃ d : Cursor,
          (if c.advance.rest.head? = some '+' ∨ c.advance.rest.head? = some '-' then
            c.advance.advance else c.advance) = d ∧ d.rest = cs ++ rest := by
        rcases hsign with rfl | rfl | rfl
        · have hnone : ¬ (c.advance.rest.head? = some '+' ∨ c.advance.rest.head? = some '-') := by
            rw [hbehind, hcons]
            rintro (h | h)
            all_goals
              rw [Option.some.inj h] at hdigit
              exact absurd hdigit (by decide)
          exact ⟨_, if_neg hnone, hbehind⟩
        · exact ⟨_, if_pos (.inl (by rw [hbehind]; rfl)), by rw [Cursor.advance_rest, hbehind]; rfl⟩
        · exact ⟨_, if_pos (.inr (by rw [hbehind]; rfl)), by rw [Cursor.advance_rest, hbehind]; rfl⟩
      rcases hsigned with ⟨d, hd, hrest'⟩
      rcases skipSomeDigits_of_digits hdigits hrest.noDigit hrest' with ⟨c', hskip, hc'⟩
      refine ⟨c', ?_, hc'⟩
      simp only [skipExponent, hletter, if_true, hd, hskip]
      rfl

/-- A fraction and an exponent are stepped over. -/
theorem yields_skipAfterWhole (hfraction : IsFraction fraction) (hexponent : IsExponent exponent) :
    Yields Stops skipAfterWhole (fun rest => fraction ++ (exponent ++ rest)) () := by
  intro c rest hrest hc
  rcases hexponent.plain hrest with ⟨hdigit, hpoint⟩
  cases hfraction with
  | none =>
      have hc : c.rest = exponent ++ rest := hc
      rcases yields_skipExponent hexponent hrest hc with ⟨c', hskip, hc'⟩
      rw [← hc] at hpoint
      exact ⟨c', by simp only [skipAfterWhole, if_neg hpoint]; exact hskip, hc'⟩
  | @digits cs hdigits =>
      have hhead : c.rest.head? = some '.' := by rw [hc]; rfl
      have hbehind : c.advance.rest = cs ++ (exponent ++ rest) := by simp [hc]
      rcases skipSomeDigits_of_digits hdigits hdigit hbehind with ⟨d, hfraction, hd⟩
      rcases yields_skipExponent hexponent hrest hd with ⟨c', hskip, hc'⟩
      refine ⟨c', ?_, hc'⟩
      simp only [skipAfterWhole, if_pos hhead, hfraction]
      exact hskip

/-- A number without its sign is stepped over. -/
theorem IsUnsigned.skipped (h : IsUnsigned cs) {c : Cursor} (hrest : Stops rest)
    (hc : c.rest = cs ++ rest) :
    ∃ c', (skipWhole c >>= skipAfterWhole) = .ok ((), c') ∧ c'.rest = rest := by
  rcases h with ⟨hwhole, hfraction, hexponent⟩
  rename_i whole fraction exponent
  have hdigit : (fraction ++ (exponent ++ rest)).head?.any Char.isDigit = false := by
    cases hfraction with
    | none => exact (hexponent.plain hrest).1
    | digits => rfl
  rw [List.append_assoc, List.append_assoc] at hc
  rcases skipWhole_of_digits hwhole hdigit hc with ⟨d, hskip, hd⟩
  rcases yields_skipAfterWhole hfraction hexponent hrest hd with ⟨c', hafter, hc'⟩
  exact ⟨c', bind_eq_ok.2 ⟨d, hskip, hafter⟩, hc'⟩

/-- What is written as a number is stepped over, in the range of numbers or not. -/
theorem yields_skipNumber (h : IsNumberText cs) : Yields Stops skipNumber (cs ++ ·) () := by
  intro c rest hrest hc
  rw [skipNumber_eq]
  cases h with
  | plain h =>
      rcases h.eq_cons with ⟨ch, more, rfl, hdigit⟩
      have hsign : c.rest.head? ≠ some '-' := by
        rw [hc]
        rintro hminus
        rw [Option.some.inj hminus] at hdigit
        exact absurd hdigit (by decide)
      rw [if_neg hsign]
      exact h.skipped hrest hc
  | minus h =>
      have hsign : c.rest.head? = some '-' := by rw [hc]; rfl
      rw [if_pos hsign]
      exact h.skipped hrest (by simp [hc])

end Json
end Gatehouse
