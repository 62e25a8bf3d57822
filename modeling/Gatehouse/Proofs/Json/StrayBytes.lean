import Gatehouse.Proofs.Json.Members
import Gatehouse.Proofs.Json.ReadBack

/-!
# Stray bytes

A JSON text comes as bytes, and some of them may be part of no character.  The marks of JSON are
ASCII and are found wherever they stand.  Inside a string a stray byte matters only if the
string is kept: stepping over a string asks nothing of its bytes, and reading one asks that
they are a text.

Main results:

- Theorem {lit}`skipQuoted_ofBytes`: a string is stepped over whatever its bytes are.
- Theorem {lit}`readQuoted_ofBytes_iff`: a string is read exactly if its bytes are a text.
- Theorem {lit}`Field.readMember_ofBytes`: a member that no field reads may hold any bytes.

Current gaps:

- The bytes are those of a string without escapes.
-/

namespace Gatehouse
namespace Json

open String (utf8EncodeChar)
open Text (bytesInduction firstChar? utf8)

/-! ## Characters and stray bytes -/

@[simp] theorem ofBytes_nil : ofBytes [] = [] :=
  Text.charsOf_nil

theorem ofBytes_utf8EncodeChar (ch : Char) (bytes : List UInt8) :
    ofBytes (utf8EncodeChar ch ++ bytes) = ch :: ofBytes bytes :=
  Text.charsOf_utf8EncodeChar ch bytes

theorem ofBytes_stray {b : UInt8} {bytes : List UInt8} (h : firstChar? (b :: bytes) = none) :
    ofBytes (b :: bytes) = strayByte ++ ofBytes bytes :=
  Text.charsOf_stray h

theorem ofBytes_utf8_append (text : String) (bytes : List UInt8) :
    ofBytes (utf8 text ++ bytes) = text.toList ++ ofBytes bytes :=
  Text.charsOf_utf8_append text bytes

/-- A mark of JSON is found whatever stands before and behind it. -/
theorem ofBytes_append_ascii (front behind : List UInt8) {mark : Char} (h : mark.toNat < 0x80) :
    ofBytes (front ++ UInt8.ofNat mark.toNat :: behind) =
      ofBytes front ++ mark :: ofBytes behind :=
  Text.charsOf_append_ascii front behind h

/-! ## The bytes of a string -/

/-- Whether a byte neither ends a string nor begins an escape nor is a control character. -/
def IsPlainByte (b : UInt8) : Prop :=
  0x20 ≤ b.toNat ∧ b.toNat ≠ 0x22 ∧ b.toNat ≠ 0x5C

/-- Whether a character stands for itself in a string. -/
def IsPlainChar (ch : Char) : Prop :=
  ch ≠ '"' ∧ ch ≠ '\\' ∧ ¬ ch.toNat < 0x20

/-- A character of plain bytes is plain. -/
theorem isPlainChar_of_bytes {ch : Char} (h : ∀ b ∈ utf8EncodeChar ch, IsPlainByte b) :
    IsPlainChar ch := by
  by_cases hascii : ch.toNat < 0x80
  · rw [Text.utf8EncodeChar_ascii hascii] at h
    have hplain := h _ (List.mem_singleton_self _)
    rw [IsPlainByte, Text.toNat_asciiByte hascii] at hplain
    refine ⟨?_, ?_, by omega⟩
    · rintro rfl
      exact hplain.2.1 rfl
    · rintro rfl
      exact hplain.2.2 rfl
  · -- beyond ASCII there are no marks
    refine ⟨?_, ?_, by omega⟩
    · rintro rfl
      exact hascii (by decide)
    · rintro rfl
      exact hascii (by decide)

/-- A string between its quotes, with other bytes behind. -/
def quotedBytes (bytes behind : List UInt8) : List UInt8 :=
  0x22 :: (bytes ++ 0x22 :: behind)

/-- The quotes of a string are found whatever stands between and behind them. -/
theorem ofBytes_quotedBytes (bytes behind : List UInt8) :
    ofBytes (quotedBytes bytes behind) = '"' :: (ofBytes bytes ++ '"' :: ofBytes behind) := by
  have hquote : '"'.toNat < 0x80 := by decide
  have hopen := ofBytes_append_ascii [] (bytes ++ 0x22 :: behind) hquote
  have hclose := ofBytes_append_ascii bytes behind hquote
  rw [List.nil_append, ofBytes_nil, List.nil_append] at hopen
  exact hopen.trans (congrArg ('"' :: ·) hclose)

/-! ## Stepping over a string -/

section Strings

variable {c : Cursor} {rest : List Char} {bytes behind : List UInt8} {fuel : Nat}

/-- The digits of a stray byte are those of half a surrogate pair. -/
theorem readHex_stray (h : c.rest = 'u' :: (['d', 'c', '0', '0'] ++ rest)) :
    ∃ d, readHex c.advance = .ok (0xDC00, d) ∧ d.rest = rest := by
  have hbytes : ∀ digit ∈ ['d', 'c', '0', '0'], digit.utf8Size = 1 := by
    intro digit hdigit
    simp only [List.mem_cons, List.not_mem_nil, or_false] at hdigit
    rcases hdigit with rfl | rfl | rfl | rfl <;> rfl
  have hdigits : Yields anyText readHex (['d', 'c', '0', '0'] ++ ·) 0xDC00 :=
    yields_readHex rfl hbytes (by decide)
  exact hdigits trivial (Cursor.advance_rest_of_cons h)

/-- Behind the letter of a stray byte stands its escape. -/
theorem escape_of_stray (h : c.rest = strayByte ++ rest) :
    c.advance.rest = '\\' :: 'u' :: (['d', 'c', '0', '0'] ++ rest) := by
  rw [Cursor.advance_rest, h]
  rfl

/-- A stray byte is stepped over. -/
theorem skipBody_stray (fuel : Nat) (read : List Char) (h : c.rest = strayByte ++ rest) :
    ∃ d, readBody skipEscape (fuel + 2) read c = readBody skipEscape fuel ('u' :: 'x' :: read) d ∧
      d.rest = rest := by
  have hescape := escape_of_stray h
  have hletter := Cursor.advance_rest_of_cons hescape
  rcases readHex_stray hletter with ⟨d, hhex, hd⟩
  refine ⟨d, ?_, hd⟩
  rw [readBody_plain h (by decide) (by decide) (by decide),
    readBody_escape hescape (skipEscape_digits hletter hhex)]

/-- What is left of a string is stepped over, whatever its bytes are. -/
theorem skipBody_ofBytes (hplain : ∀ b ∈ bytes, IsPlainByte b) (read : List Char)
    (hfuel : (ofBytes bytes).length < fuel) (h : c.rest = ofBytes bytes ++ '"' :: rest) :
    ∃ chars c', readBody skipEscape fuel read c = .ok (chars, c') ∧ c'.rest = rest := by
  induction bytes using bytesInduction generalizing c read fuel with
  | nil =>
      rcases fuel with _ | fuel
      · exact absurd hfuel (Nat.not_lt_zero _)
      rw [ofBytes_nil, List.nil_append] at h
      exact ⟨_, _, readBody_quote h, Cursor.advance_rest_of_cons h⟩
  | char ch bytes ih =>
      rcases fuel with _ | fuel
      · exact absurd hfuel (Nat.not_lt_zero _)
      rw [ofBytes_utf8EncodeChar] at h hfuel
      rcases isPlainChar_of_bytes fun b hb => hplain b (List.mem_append_left _ hb) with
        ⟨hquote, hescape, hvisible⟩
      rw [readBody_plain h hquote hescape hvisible]
      exact ih (fun b hb => hplain b (List.mem_append_right _ hb)) _ (Nat.lt_of_succ_lt_succ hfuel)
        (Cursor.advance_rest_of_cons h)
  | stray b bytes hstray ih =>
      rw [ofBytes_stray hstray, List.append_assoc] at h
      rw [ofBytes_stray hstray, List.length_append] at hfuel
      have hlength : strayByte.length = 7 := rfl
      rcases Nat.exists_eq_add_of_le' (m := 2) (n := fuel) (by omega) with ⟨left, rfl⟩
      rcases skipBody_stray left read h with ⟨d, hskip, hd⟩
      rw [hskip]
      exact ih (fun b hb => hplain b (List.mem_cons_of_mem _ hb)) _ (by omega) hd

/-- A string is stepped over whatever its bytes are. -/
theorem skipQuoted_ofBytes (hplain : ∀ b ∈ bytes, IsPlainByte b)
    (h : c.rest = ofBytes (quotedBytes bytes behind)) :
    ∃ c', skipQuoted c = .ok ((), c') ∧ c'.rest = ofBytes behind := by
  rw [ofBytes_quotedBytes] at h
  have hbody := Cursor.advance_rest_of_cons h
  have hfuel : (ofBytes bytes).length < c.advance.rest.length + 1 := by
    rw [hbody, List.length_append]
    omega
  rcases skipBody_ofBytes hplain [] hfuel hbody with ⟨chars, c', hskip, hc'⟩
  exact ⟨c', by simp only [skipQuoted, hskip], hc'⟩

/-! ## Reading a string -/

/-- The escape of a stray byte is not read. -/
theorem readEscape_stray (h : c.rest = 'u' :: (['d', 'c', '0', '0'] ++ rest)) :
    ∃ failure, readEscape c = .error failure := by
  rcases readHex_stray h with ⟨d, hhex, -⟩
  refine ⟨.placed .loneSurrogate d.here, ?_⟩
  simp [readEscape, h, shortEscape?, readCodePoint, hhex, isTrailing, bind, Except.bind,
    Failure.atHere]

/-- No string with a stray byte is read. -/
theorem readBody_stray (read : List Char) (h : c.rest = strayByte ++ rest)
    (result : List Char × Cursor) : readBody readEscape fuel read c ≠ .ok result := by
  have hescape := escape_of_stray h
  have hletter := Cursor.advance_rest_of_cons hescape
  rcases readEscape_stray hletter with ⟨failure, hlone⟩
  cases fuel with
  | zero => simp [readBody, Failure.atHere]
  | succ fuel =>
      rw [readBody_plain h (by decide) (by decide) (by decide)]
      cases fuel with
      | zero => simp [readBody, Failure.atHere]
      | succ fuel =>
          rw [readBody_refused hescape hlone]
          simp

/-- What is read of a string is a text with these bytes. -/
theorem bytes_of_readBody (hplain : ∀ b ∈ bytes, IsPlainByte b) {read result : List Char}
    (h : c.rest = ofBytes bytes ++ '"' :: rest) {c' : Cursor}
    (hread : readBody readEscape fuel read c = .ok (result, c')) :
    ∃ chars, result = read.reverse ++ chars ∧ bytes = utf8 (String.ofList chars) := by
  induction bytes using bytesInduction generalizing c read fuel with
  | nil =>
      rw [ofBytes_nil, List.nil_append] at h
      rcases fuel with _ | fuel
      · exact nomatch hread
      rw [readBody_quote h, Except.ok.injEq, Prod.mk.injEq] at hread
      exact ⟨[], by rw [List.append_nil, hread.1], rfl⟩
  | char ch bytes ih =>
      rw [ofBytes_utf8EncodeChar] at h
      rcases isPlainChar_of_bytes fun b hb => hplain b (List.mem_append_left _ hb) with
        ⟨hquote, hescape, hvisible⟩
      rcases fuel with _ | fuel
      · exact nomatch hread
      rw [readBody_plain h hquote hescape hvisible] at hread
      rcases ih (fun b hb => hplain b (List.mem_append_right _ hb))
        (Cursor.advance_rest_of_cons h) hread with ⟨chars, hresult, hbytes⟩
      refine ⟨ch :: chars, by simp [hresult], ?_⟩
      rw [hbytes, utf8, utf8, String.toList_ofList, String.toList_ofList, List.flatMap_cons]
  | stray b bytes hstray ih =>
      rw [ofBytes_stray hstray, List.append_assoc] at h
      exact absurd hread (readBody_stray read h _)

/-- A plain text is written as it stands. -/
theorem writeBody_plain {chars : List Char} (h : ∀ ch ∈ chars, IsPlainChar ch)
    (rest : List Char) : writeBody chars rest = chars ++ '"' :: rest := by
  induction chars with
  | nil => rfl
  | cons ch chars ih =>
      rcases List.forall_mem_cons.1 h with ⟨⟨hquote, hescape, hvisible⟩, hchars⟩
      have hcontrol : ∀ other : Char, other.toNat < 0x20 → ch ≠ other := by
        rintro other hother rfl
        exact hvisible hother
      have hself : escapeChar ch = [ch] := by
        rw [escapeChar, if_neg hquote, if_neg hescape, if_neg (hcontrol _ (by decide)),
          if_neg (hcontrol _ (by decide)), if_neg (hcontrol _ (by decide)), if_neg (by omega),
          if_neg (by omega), if_neg hvisible]
      rw [writeBody, ih hchars, hself, List.singleton_append, List.cons_append]

/-- A string is read exactly if its bytes are a text. -/
theorem readQuoted_ofBytes_iff (hplain : ∀ b ∈ bytes, IsPlainByte b)
    (h : c.rest = ofBytes (quotedBytes bytes behind)) {text : String} :
    (∃ c', readQuoted c = .ok (text, c') ∧ c'.rest = ofBytes behind) ↔ bytes = utf8 text := by
  rw [ofBytes_quotedBytes] at h
  constructor
  · rintro ⟨c', hread, -⟩
    unfold readQuoted at hread
    simp only at hread
    split at hread
    · exact nomatch hread
    · rename_i chars d hbody
      rw [Except.ok.injEq, Prod.mk.injEq] at hread
      rcases bytes_of_readBody hplain (Cursor.advance_rest_of_cons h) hbody with
        ⟨chars', hchars, hbytes⟩
      rw [hbytes, ← hread.1, hchars, List.reverse_nil, List.nil_append]
  · rintro rfl
    have hchars : ∀ ch ∈ text.toList, IsPlainChar ch := fun ch hch =>
      isPlainChar_of_bytes fun b hb => hplain b (List.mem_flatMap.2 ⟨ch, hch, hb⟩)
    rw [ofBytes_utf8, ← writeBody_plain hchars] at h
    exact yields_readQuoted text trivial h

/-! ## Members that nobody reads -/

/-- A member that no field reads is stepped over, whatever the bytes of its string are. -/
theorem Field.readMember_ofBytes {δ : Type} {fields : List (Field δ)} {depth : Nat} {draft : δ}
    {name : String} (hnone : (fields.find? fun field => field.name == name) = none)
    (hplain : ∀ b ∈ bytes, IsPlainByte b)
    (h : c.rest =
      ofBytes (utf8 (String.ofList (writeString name [':'])) ++ quotedBytes bytes behind)) :
    ∃ c', Field.readMember fields depth draft c = .ok (draft, c') ∧ c'.rest = ofBytes behind := by
  rw [ofBytes_utf8_append, String.toList_ofList, ← writeString_append, List.singleton_append] at h
  rcases reads_key h with ⟨d, e, hname, hcolon, he⟩
  rcases skipQuoted_ofBytes hplain he with ⟨c', hquoted, hc'⟩
  rw [ofBytes_quotedBytes] at he
  have hskip : skipValue e = .ok ((), c') := by
    rw [skipValue, skipValueWith]
    simp only [Cursor.skipSpace_eq_self he (by decide), he]
    exact hquoted
  exact ⟨c', Field.readMember_of_none hname hnone hcolon hskip, hc'⟩

end Strings

end Json
end Gatehouse
