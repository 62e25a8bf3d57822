import Gatehouse.Proofs.Json.Progress
import Gatehouse.Text.Natural

/-!
# Strings and numbers read back

What is written in front of other text is read back, and the reading stops where that text
begins, provided that it does not carry on what was written: a string ends with its quote, but
a number ends only where no further digit, point or exponent follows.

Main results:

- Definition {lit}`Yields`: a reader gives back what was written in front of other text.
- Theorem {lit}`yields_readQuoted`: strings read back.
- Theorem {lit}`yields_readNumber`: whole numbers of 64 bits read back.
-/

namespace Gatehouse
namespace Json

/-- Whether a reader gives a value where it has been written in front of a text that passes the
test, and stops at that text. -/
def Yields {α : Type} (test : List Char → Prop) (r : Reader α) (front : List Char → List Char)
    (a : α) : Prop :=
  ∀ ⦃c : Cursor⦄ ⦃rest : List Char⦄, test rest → c.rest = front rest →
    ∃ c', r c = .ok (a, c') ∧ c'.rest = rest

/-- Any text. -/
def anyText : List Char → Prop := fun _ => True

/-- Whether a text is empty or begins with a mark that may stand behind a value. -/
def Stops : List Char → Prop
  | [] => True
  | ch :: _ => ch = ',' ∨ ch = ']' ∨ ch = '\x7d'

/-- A mark that may stand behind a value carries no number on. -/
theorem Stops.plain {ch : Char} {more : List Char} (h : Stops (ch :: more)) :
    ch.isDigit = false ∧ ch ≠ '.' ∧ isExponentLetter ch = false := by
  rcases h with rfl | rfl | rfl <;> decide

/-- Behind a value stands no digit. -/
theorem Stops.noDigit {rest : List Char} (h : Stops rest) :
    rest.head?.any Char.isDigit = false := by
  cases rest with
  | nil => rfl
  | cons ch more => exact h.plain.1

section Yields

variable {α β : Type} {test : List Char → Prop} {r : Reader α} {a : α}
  {front : List Char → List Char}

/-- What reads back in front of any text reads back in front of a mark. -/
theorem Yields.stops (h : Yields anyText r front a) : Yields Stops r front a :=
  fun _ _ _ hc => h trivial hc

/-- What is made of a value that reads back reads back. -/
theorem Yields.map {f : α → β} (h : Yields test r front a) :
    Yields test (fun c => do
      let (a, c) ← r c
      return (f a, c)) front (f a) := by
  intro c rest hrest hc
  rcases h hrest hc with ⟨c', hread, hc'⟩
  exact ⟨c', bind_eq_ok.2 ⟨(a, c'), hread, rfl⟩, hc'⟩

end Yields

/-! ## Blanks -/

/-- Where no blank stands there is none to skip. -/
theorem Cursor.skipSpace_eq_self {c : Cursor} {ch : Char} {rest : List Char}
    (h : c.rest = ch :: rest) (hplain : isSpace ch = false) : c.skipSpace = c := by
  rcases c with ⟨text, line, column⟩
  subst h
  simp [skipSpace, skipWhile, hplain]

/-- The end of a text is its end. -/
theorem readEnd_of_nil {c : Cursor} (h : c.rest = []) : readEnd c = .ok () := by
  simp [readEnd, Cursor.skipSpace, Cursor.skipWhile, h]

/-- A fixed word reads back. -/
theorem yields_readWord (word : List Char) : Yields anyText (readWord word) (word ++ ·) () := by
  induction word with
  | nil => exact fun c rest _ hc => ⟨c, rfl, hc⟩
  | cons ch word ih =>
      intro c rest htest hc
      rcases ih (c := c.advance) htest (by simp [hc]) with ⟨c', hread, hc'⟩
      refine ⟨c', ?_, hc'⟩
      simp only [readWord, hc, List.cons_append, if_true]
      exact hread

/-! ## Strings -/

/-- A short escape reads back. -/
theorem readEscape_short {c : Cursor} {letter ch : Char} {rest : List Char}
    (h : c.rest = letter :: rest) (hshort : shortEscape? letter = some ch) :
    readEscape c = .ok (ch, c.advance) := by
  simp only [readEscape, h, hshort]

/-- The position behind characters of one byte is there. -/
theorem positionAfter_of_oneByte {front : List Char} (h : ∀ ch ∈ front, ch.utf8Size = 1)
    (rest : List Char) (line column : Nat) :
    ∃ position, Cursor.positionAfter front.length (front ++ rest) line column = some position := by
  induction front generalizing line column with
  | nil => exact ⟨⟨line, column⟩, by rw [Cursor.positionAfter.eq_def]; simp⟩
  | cons ch front ih =>
      rcases List.forall_mem_cons.1 h with ⟨hch, hfront⟩
      rcases ih hfront (Cursor.behind ch line column).1 (Cursor.behind ch line column).2 with
        ⟨position, hposition⟩
      refine ⟨position, ?_⟩
      rw [Cursor.positionAfter.eq_def]
      simp [hch, hposition]

/-- Four hexadecimal digits read back. -/
theorem yields_readHex {digits : List Char} {n : Nat} (hlength : digits.length = 4)
    (hbytes : ∀ ch ∈ digits, ch.utf8Size = 1) (hvalue : Text.ofHex? digits = some n) :
    Yields anyText readHex (digits ++ ·) n := by
  intro c rest _ hc
  rcases positionAfter_of_oneByte hbytes rest c.line c.column with ⟨position, hposition⟩
  rw [hlength] at hposition
  have htake : (digits ++ rest).take 4 = digits := by rw [← hlength, List.take_left]
  have hdrop : (digits ++ rest).drop 4 = rest := by rw [← hlength, List.drop_left]
  refine ⟨⟨rest, position.line, position.column⟩, ?_, rfl⟩
  simp only [readHex, hc, hposition, htake, hdrop, hvalue]

/-- A hexadecimal digit is of one byte. -/
theorem utf8Size_hexChar : ∀ n < 16, (Text.hexChar n).utf8Size = 1 := by
  decide

/-- The escape of a control character has digits of one byte. -/
theorem utf8Size_control {n : Nat} (h : n < 32) :
    ∀ ch ∈ ['0', '0', Text.hexChar (n / 16), Text.hexChar (n % 16)], ch.utf8Size = 1 := by
  intro ch hch
  simp only [List.mem_cons, List.not_mem_nil, or_false] at hch
  rcases hch with rfl | rfl | rfl | rfl
  · rfl
  · rfl
  · exact utf8Size_hexChar _ (by omega)
  · exact utf8Size_hexChar _ (by omega)

/-- The escape of a control character reads back. -/
theorem readEscape_control {c : Cursor} {ch : Char} {rest : List Char} (hcontrol : ch.toNat < 32)
    (h : c.rest = 'u' :: (['0', '0', Text.hexChar (ch.toNat / 16),
      Text.hexChar (ch.toNat % 16)] ++ rest)) :
    ∃ c', readEscape c = .ok (ch, c') ∧ c'.rest = rest := by
  have hdigits := yields_readHex rfl (utf8Size_control hcontrol)
    (ofHex?_pair _ (Nat.lt_trans hcontrol (by decide)))
  rcases hdigits trivial (Cursor.advance_rest_of_cons h) with ⟨c', hhex, hc'⟩
  have htrailing : isTrailing ch.toNat = false := by simp [isTrailing]; omega
  have hleading : isLeading ch.toNat = false := by simp [isLeading]; omega
  refine ⟨c', ?_, hc'⟩
  simp [readEscape, h, shortEscape?, readCodePoint, hhex, htrailing, hleading, bind, Except.bind,
    pure, Except.pure, Char.ofNat_toNat]

/-- A character of a string reads back. -/
theorem readBody_escapeChar (fuel : Nat) (read : List Char) {ch : Char} {rest : List Char}
    {c : Cursor} (h : c.rest = escapeChar ch ++ rest) :
    ∃ c', readBody readEscape (fuel + 1) read c = readBody readEscape fuel (ch :: read) c' ∧
      c'.rest = rest := by
  have hshort : ∀ {letter : Char}, c.rest = '\\' :: letter :: rest →
      shortEscape? letter = some ch →
      ∃ c', readBody readEscape (fuel + 1) read c = readBody readEscape fuel (ch :: read) c' ∧
        c'.rest = rest := by
    intro letter hletter hdecoded
    have hbehind : c.advance.rest = letter :: rest := by simp [hletter]
    refine ⟨_, readBody_escape hletter (readEscape_short hbehind hdecoded), ?_⟩
    exact Cursor.advance_rest_of_cons hbehind
  have hnamed : ∀ {n : Nat}, ch.toNat = n → Char.ofNat n = ch := by
    rintro n rfl
    exact Char.ofNat_toNat ch
  unfold escapeChar at h
  split at h
  · exact hshort h (by simp_all [shortEscape?])
  split at h
  · exact hshort h (by simp_all [shortEscape?])
  split at h
  · exact hshort h (by simp_all [shortEscape?])
  split at h
  · exact hshort h (by simp_all [shortEscape?])
  split at h
  · exact hshort h (by simp_all [shortEscape?])
  split at h
  · rename_i hvalue
    exact hshort h (congrArg some (hnamed hvalue))
  split at h
  · rename_i hvalue
    exact hshort h (congrArg some (hnamed hvalue))
  split at h
  · rename_i hcontrol
    rcases readEscape_control (c := c.advance) hcontrol (by simpa using congrArg List.tail h) with
      ⟨c', hread, hc'⟩
    exact ⟨c', readBody_escape h hread, hc'⟩
  · rename_i hquote hescape _ _ _ _ _ hvisible
    exact ⟨_, readBody_plain h hquote hescape hvisible, by simp [h]⟩

/-- The characters of a string up to its closing quote read back. -/
theorem readBody_writeBody (read : List Char) {chars rest : List Char} {fuel : Nat} {c : Cursor}
    (hfuel : chars.length < fuel) (h : c.rest = writeBody chars rest) :
    ∃ c', readBody readEscape fuel read c = .ok (read.reverse ++ chars, c') ∧ c'.rest = rest := by
  induction chars generalizing read fuel c with
  | nil =>
      rcases Nat.exists_eq_succ_of_ne_zero (Nat.ne_of_gt hfuel) with ⟨fuel, rfl⟩
      exact ⟨_, by rw [readBody_quote h, List.append_nil], by simp [h, writeBody]⟩
  | cons ch chars ih =>
      rcases Nat.exists_eq_succ_of_ne_zero (Nat.ne_of_gt (Nat.zero_lt_of_lt hfuel)) with
        ⟨fuel, rfl⟩
      rcases readBody_escapeChar fuel read h with ⟨d, hchar, hd⟩
      rcases ih (ch :: read) (Nat.lt_of_succ_lt_succ hfuel) hd with ⟨c', hread, hc'⟩
      refine ⟨c', ?_, hc'⟩
      rw [hchar, hread, List.reverse_cons, List.append_assoc, List.singleton_append]

/-- Each character of a string takes one character at least. -/
theorem length_lt_writeBody (chars rest : List Char) :
    chars.length < (writeBody chars rest).length := by
  induction chars with
  | nil => simp [writeBody]
  | cons ch chars ih =>
      have hsome : 0 < (escapeChar ch).length := by
        unfold escapeChar
        repeat' split
        all_goals exact Nat.zero_lt_succ _
      rw [writeBody, List.length_append, List.length_cons]
      omega

/-- Strings read back. -/
theorem yields_readQuoted (s : String) : Yields anyText readQuoted (writeString s) s := by
  intro c rest _ hc
  have hbehind : c.advance.rest = writeBody s.toList rest := by simp [hc, writeString]
  have hfuel : s.toList.length < c.advance.rest.length + 1 := by
    rw [hbehind]
    exact Nat.lt_succ_of_lt (length_lt_writeBody _ _)
  rcases readBody_writeBody [] hfuel hbehind with ⟨c', hread, hc'⟩
  refine ⟨c', ?_, hc'⟩
  simp only [readQuoted, hread, List.reverse_nil, List.nil_append, String.ofList_toList]

/-! ## Numbers -/

/-- Whether a number can be one of a value: a natural number is of 64 bits, and a negative one
of 64 bits with a sign. -/
def Number.Fits : Number → Prop
  | .natural n => n < Nat.pow 2 64
  | .negative n => 0 < n ∧ n ≤ Nat.pow 2 63
  | .double _ => True

/-- Whether a number is kept as a whole number. -/
def Number.IsWhole : Number → Prop
  | .double _ => False
  | _ => True

instance : DecidablePred Number.Fits
  | .natural n => inferInstanceAs (Decidable (n < Nat.pow 2 64))
  | .negative n => inferInstanceAs (Decidable (0 < n ∧ n ≤ Nat.pow 2 63))
  | .double _ => .isTrue trivial

instance : DecidablePred Number.IsWhole
  | .natural _ => .isTrue trivial
  | .negative _ => .isTrue trivial
  | .double _ => .isFalse id

/-- Digits before the point that fit 64 bits are taken as they are. -/
theorem Significand.foldl_pushWhole {digits : List Char} {value : Nat}
    (h : digits.foldl (fun n c => n * 10 + Text.digitValue c) value < Nat.pow 2 64) :
    digits.foldl (fun (s : Significand) c => s.pushWhole (Text.digitValue c)) ⟨value, 0, false⟩ =
      ⟨digits.foldl (fun n c => n * 10 + Text.digitValue c) value, 0, false⟩ := by
  induction digits generalizing value with
  | nil => rfl
  | cons ch digits ih =>
      rw [List.foldl_cons] at h
      have hfits : value * 10 + Text.digitValue ch < limit :=
        Nat.lt_of_le_of_lt (Text.le_foldl_digits _ digits) h
      have hpush : pushWhole ⟨value, 0, false⟩ (Text.digitValue ch) =
          ⟨value * 10 + Text.digitValue ch, 0, false⟩ := by
        simp [pushWhole, hfits]
      rw [List.foldl_cons, List.foldl_cons, hpush, ih h]

/-- The digits of a number of 64 bits denote it. -/
theorem Significand.ofWhole_decimalList {n : Nat} (h : n < Nat.pow 2 64) :
    ofWhole (Text.decimalList n) = ⟨n, 0, false⟩ := by
  have hvalue : (Text.decimalList n).foldl (fun n c => n * 10 + Text.digitValue c) 0 = n :=
    Text.ofDecimal_decimal n
  rw [ofWhole, foldl_pushWhole (by rwa [hvalue]), hvalue]

/-- A number begins with a digit, which is no zero unless the number is zero. -/
theorem decimalList_eq_cons (n : Nat) :
    ∃ ch more, Text.decimalList n = ch :: more ∧ ch.isDigit = true ∧
      (ch = '0' → n = 0 ∧ more = []) := by
  fun_induction Text.decimalList n with
  | case1 n hn =>
      refine ⟨_, [], rfl, Text.isDigit_digitChar hn, fun hzero => ⟨?_, rfl⟩⟩
      have hvalue := Text.digitValue_digitChar hn
      rw [hzero] at hvalue
      exact hvalue.symm
  | case2 n hn ih =>
      rcases ih with ⟨ch, more, hcons, hdigit, hzero⟩
      refine ⟨ch, more ++ [Text.digitChar (n % 10)], by rw [hcons]; rfl, hdigit, fun h => ?_⟩
      have hsmall := (hzero h).1
      omega

/-- Stepping over digits leaves the text behind them. -/
theorem skipDigits_rest {digits rest : List Char} {c : Cursor}
    (hdigits : ∀ ch ∈ digits, ch.isDigit = true) (hrest : rest.head?.any Char.isDigit = false)
    (h : c.rest = digits ++ rest) : c.skipDigits.rest = rest := by
  induction digits generalizing c with
  | nil =>
      have hnone : c.rest.takeWhile Char.isDigit = [] := by
        rw [h]
        exact Text.takeWhile_isDigit (fun _ hch => absurd hch List.not_mem_nil) hrest
      rw [Cursor.skipDigits_eq_self hnone, h, List.nil_append]
  | cons ch digits ih =>
      rcases List.forall_mem_cons.1 hdigits with ⟨hch, hmore⟩
      rw [Cursor.skipDigits_advance h hch]
      exact ih hmore (by simp [h])

/-- Behind whole digits a number is over where other text begins. -/
theorem readAfterWhole_of_stops {negative : Bool} {s : Significand} {c : Cursor} {n : Number}
    (hrest : Stops c.rest) (hnumber : wholeNumber? negative s = some n) :
    readAfterWhole negative s c = .ok (n, c) := by
  unfold readAfterWhole
  cases hc : c.rest with
  | nil => simp [hnumber]
  | cons ch more =>
      rw [hc] at hrest
      rcases hrest.plain with ⟨-, hpoint, hletter⟩
      split
      · rename_i hsame
        exact absurd (List.cons.inj hsame).1 hpoint
      · simp [hletter, hnumber]

/-- The digits of a number read back. -/
theorem yields_readUnsigned {negative : Bool} {m : Nat} {n : Number} (hfits : m < Nat.pow 2 64)
    (hnumber : wholeNumber? negative ⟨m, 0, false⟩ = some n) :
    Yields Stops (readUnsigned negative) (Text.decimalList m ++ ·) n := by
  intro c rest hrest hc
  rcases decimalList_eq_cons m with ⟨ch, more, hcons, hdigit, hzero⟩
  have hdigits : ∀ ch ∈ Text.decimalList m, ch.isDigit = true :=
    fun _ => Text.isDigit_of_mem_decimalList
  have hc' : c.rest = ch :: (more ++ rest) := by rw [hc, hcons]; rfl
  by_cases hfirst : ch = '0'
  · rcases hzero hfirst with ⟨rfl, rfl⟩
    subst hfirst
    have hbehind : c.advance.rest = rest := by simp [hc']
    have hnone : ([] ++ rest).head?.any Char.isDigit = false := hrest.noDigit
    refine ⟨c.advance, ?_, hbehind⟩
    simp only [readUnsigned, hc', hnone]
    exact readAfterWhole_of_stops (by rwa [hbehind]) hnumber
  · have hbehind : c.skipDigits.rest = rest := skipDigits_rest hdigits hrest.noDigit hc
    have htaken : c.rest.takeWhile Char.isDigit = Text.decimalList m := by
      rw [hc]
      exact Text.takeWhile_isDigit hdigits hrest.noDigit
    refine ⟨c.skipDigits, ?_, hbehind⟩
    unfold readUnsigned
    split
    · rename_i hnil
      rw [hc'] at hnil
      cases hnil
    · rename_i hother
      rw [hc', List.cons.injEq] at hother
      exact absurd hother.1 hfirst
    · rename_i hother
      rw [hc', List.cons.injEq] at hother
      rw [← hother.1, hdigit, if_pos rfl, htaken, Significand.ofWhole_decimalList hfits]
      exact readAfterWhole_of_stops (by rwa [hbehind]) hnumber

/-- Whole numbers of 64 bits read back. -/
theorem yields_readNumber {n : Number} (hfits : n.Fits) (hwhole : n.IsWhole) :
    Yields Stops readNumber (n.chars ++ ·) n := by
  intro c rest hrest hc
  cases n with
  | double x => exact absurd hwhole id
  | natural m =>
      rcases decimalList_eq_cons m with ⟨ch, more, hcons, hdigit, -⟩
      have hsign : ∀ text, c.rest ≠ '-' :: text := by
        intro text hsign
        rw [hc, Number.chars, hcons] at hsign
        rw [(List.cons.inj hsign).1] at hdigit
        exact absurd hdigit (by decide)
      have hread : readNumber c = readUnsigned false c := by
        unfold readNumber
        split
        · rename_i text hminus
          exact absurd hminus (hsign text)
        · rfl
      rw [hread]
      exact yields_readUnsigned hfits rfl hrest hc
  | negative m =>
      have hfits' : m < Nat.pow 2 64 := Nat.lt_of_le_of_lt hfits.2 (by decide)
      have hnumber : wholeNumber? true ⟨m, 0, false⟩ = some (.negative m) := by
        simp only [wholeNumber?, Bool.false_eq_true, if_false, if_true]
        exact if_pos hfits
      have hbehind : c.advance.rest = Text.decimalList m ++ rest := by simp [hc, Number.chars]
      have hread : readNumber c = readUnsigned true c.advance := by
        simp only [readNumber, hc, Number.chars, List.cons_append]
      rw [hread]
      exact yields_readUnsigned hfits' hnumber hrest hbehind

end Json
end Gatehouse
