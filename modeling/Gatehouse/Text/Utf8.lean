/-!
# Text as bytes

Text is sent and signed as bytes in UTF-8.  Bytes that are no text can still be read, with
a replacement character for each stretch that begins a character and breaks off, or with some
characters of the reader's choice for each byte that is part of no character.

Main results:

- Theorem {lit}`ofUtf8?_eq_some_iff`: the bytes of a text read back as the text, and no others.
- Theorem {lit}`readUtf8_utf8`: so they do when faults are replaced.
- Theorem {lit}`charsOf_utf8`: so they do with stray bytes, of which a text has none.
- Theorem {lit}`charsOf_append_ascii`: an ASCII byte stands for itself, whatever is beside it.
-/

namespace Gatehouse
namespace Text

/-- The bytes of a text in UTF-8. -/
def utf8 (text : String) : List UInt8 := text.toList.flatMap String.utf8EncodeChar

/-- The text of some bytes, if they are UTF-8. -/
def ofUtf8? (bytes : List UInt8) : Option String :=
  String.fromUTF8? bytes.toByteArray

theorem toByteArray_utf8 (text : String) : (utf8 text).toByteArray = text.toUTF8 := by
  rw [utf8, ← List.utf8Encode, String.toUTF8]
  exact String.utf8Encode_toList

/-- The bytes of a text read back as the text. -/
@[simp] theorem ofUtf8?_utf8 (text : String) : ofUtf8? (utf8 text) = some text := by
  simp [ofUtf8?, toByteArray_utf8, String.fromUTF8?, String.isValidUTF8, String.fromUTF8]

/-- The text of some bytes is the one with these bytes. -/
theorem ofUtf8?_eq_some_iff {bytes : List UInt8} {text : String} :
    ofUtf8? bytes = some text ↔ bytes = utf8 text := by
  constructor
  · intro h
    unfold ofUtf8? String.fromUTF8? at h
    split at h
    · rename_i hvalid
      rw [← List.toByteArray_inj, toByteArray_utf8, ← Option.some.inj h]
      rfl
    · exact nomatch h
  · rintro rfl
    exact ofUtf8?_utf8 text

/-- An ASCII character is one byte. -/
theorem utf8EncodeChar_ascii {c : Char} (h : c.toNat < 0x80) :
    String.utf8EncodeChar c = [UInt8.ofNat c.toNat] := by
  have hval : c.val.toNat ≤ 127 := Nat.le_of_lt_succ h
  simp only [String.utf8EncodeChar]
  rw [if_pos hval]
  rfl

/-- The byte of an ASCII character has its number. -/
theorem toNat_asciiByte {c : Char} (h : c.toNat < 0x80) :
    (UInt8.ofNat c.toNat).toNat = c.toNat := by
  rw [UInt8.toNat_ofNat']
  omega

/-- An ASCII text has a byte for each of its characters. -/
theorem utf8_of_ascii {text : String} (h : ∀ c ∈ text.toList, c.toNat < 0x80) :
    utf8 text = text.toList.map fun c => UInt8.ofNat c.toNat := by
  rw [utf8, List.map_eq_flatMap, List.flatMap_def, List.flatMap_def]
  congr 1
  exact List.map_congr_left fun c hc => utf8EncodeChar_ascii (h c hc)

/-- The bytes of an ASCII text have the numbers of its characters. -/
theorem chars_utf8_of_ascii {text : String} (h : ∀ c ∈ text.toList, c.toNat < 0x80) :
    ((utf8 text).map fun b => Char.ofNat b.toNat) = text.toList := by
  rw [utf8_of_ascii h, List.map_map]
  refine (List.map_congr_left fun c hc => ?_).trans (List.map_id _)
  rw [Function.comp_apply, toNat_asciiByte (h c hc), Char.ofNat_toNat, id]

/-- A byte below 0x80 is a character of the text. -/
theorem mem_of_mem_utf8 {cs : List Char} {b : UInt8} (h : b ∈ utf8 (String.ofList cs))
    (hascii : b.toNat < 0x80) : ∃ c ∈ cs, c.toNat = b.toNat := by
  rw [utf8, String.toList_ofList, List.mem_flatMap] at h
  rcases h with ⟨c, hc, hb⟩
  refine ⟨c, hc, ?_⟩
  have hval : c.val.toNat = c.toNat := rfl
  simp only [String.utf8EncodeChar, hval] at hb
  split at hb
  · rw [List.mem_singleton] at hb
    rw [hb, UInt8.toNat_ofNat']
    omega
  · -- all bytes of a longer character are beyond ASCII
    exfalso
    split at hb
    · simp only [List.mem_cons, List.not_mem_nil, or_false] at hb
      rcases hb with rfl | rfl <;> rw [UInt8.toNat_ofNat'] at hascii <;> omega
    · split at hb
      · simp only [List.mem_cons, List.not_mem_nil, or_false] at hb
        rcases hb with rfl | rfl | rfl <;> rw [UInt8.toNat_ofNat'] at hascii <;> omega
      · simp only [List.mem_cons, List.not_mem_nil, or_false] at hb
        rcases hb with rfl | rfl | rfl | rfl <;> rw [UInt8.toNat_ofNat'] at hascii <;> omega

/-! ## Faulty bytes -/

/-- The character that stands for bytes that are no character. -/
def replacement : Char := '\uFFFD'

/-- What a character takes whose first byte this is: how many more bytes, the bounds of
the first of them, and the bits of its own; nothing if no character begins so. -/
def firstByte? (b : UInt8) : Option (Nat × (Nat × Nat) × Nat) :=
  let n := b.toNat
  if n < 0x80 then some (0, (0, 0), n)
  else if n < 0xC2 then none
  else if n < 0xE0 then some (1, (0x80, 0xBF), n - 0xC0)
  else if n = 0xE0 then some (2, (0xA0, 0xBF), 0)
  else if n = 0xED then some (2, (0x80, 0x9F), 0xD)
  else if n < 0xF0 then some (2, (0x80, 0xBF), n - 0xE0)
  else if n = 0xF0 then some (3, (0x90, 0xBF), 0)
  else if n < 0xF4 then some (3, (0x80, 0xBF), n - 0xF0)
  else if n = 0xF4 then some (3, (0x80, 0x8F), 4)
  else none

/-- Reads so many further bytes of a character, the first of them within bounds, with the
bits so far.  The byte at which the character breaks off is left. -/
def restOfChar : Nat → Nat × Nat → Nat → List UInt8 → Char × List UInt8
  | 0, _, bits, rest => (Char.ofNat bits, rest)
  | _ + 1, _, _, [] => (replacement, [])
  | more + 1, (low, high), bits, b :: rest =>
      if low ≤ b.toNat ∧ b.toNat ≤ high then
        restOfChar more (0x80, 0xBF) (bits * 64 + b.toNat % 64) rest
      else (replacement, b :: rest)

theorem restOfChar_length (more : Nat) (bounds : Nat × Nat) (bits : Nat) (bytes : List UInt8) :
    (restOfChar more bounds bits bytes).2.length ≤ bytes.length := by
  induction more generalizing bounds bits bytes with
  | zero => simp [restOfChar]
  | succ more ih =>
      cases bytes with
      | nil => simp [restOfChar]
      | cons b rest =>
          unfold restOfChar
          split
          · exact Nat.le_succ_of_le (ih _ _ rest)
          · exact Nat.le_refl _

/-- The characters of some bytes, faults replaced. -/
def replaceFaults : List UInt8 → List Char
  | [] => []
  | b :: rest =>
      match firstByte? b with
      | none => replacement :: replaceFaults rest
      | some (more, bounds, bits) =>
          let next := restOfChar more bounds bits rest
          next.1 :: replaceFaults next.2
termination_by bytes => bytes.length
decreasing_by
  · simp
  · have := restOfChar_length more bounds bits rest
    simp only [List.length_cons]
    omega

/-- The text of some bytes, faults replaced. -/
def readUtf8 (bytes : List UInt8) : String :=
  (ofUtf8? bytes).getD (String.ofList (replaceFaults bytes))

/-- Where there are no faults, the text is read. -/
@[simp] theorem readUtf8_utf8 (text : String) : readUtf8 (utf8 text) = text := by
  simp [readUtf8]

/-! ## Stray bytes -/

/-- The character that some bytes begin with. -/
def firstChar? (bytes : List UInt8) : Option Char :=
  (bytes.take 4).toByteArray.utf8DecodeChar? 0

/-- Bytes begin with a character exactly if its encoding stands first. -/
theorem firstChar?_eq_some_iff {bytes : List UInt8} {c : Char} :
    firstChar? bytes = some c ↔ ∃ rest, bytes = String.utf8EncodeChar c ++ rest := by
  constructor
  · intro h
    have hfront := congrArg (·.data.toList) (ByteArray.eq_of_utf8DecodeChar?_eq_some h)
    simp only [ByteArray.data_append, Array.toList_append, List.toList_data_toByteArray] at hfront
    exact ⟨_ ++ bytes.drop 4, by rw [← List.append_assoc, ← hfront, List.take_append_drop]⟩
  · rintro ⟨rest, rfl⟩
    have htake : (String.utf8EncodeChar c ++ rest).take 4 =
        String.utf8EncodeChar c ++ rest.take (4 - c.utf8Size) := by
      have hlength : (String.utf8EncodeChar c).length ≤ 4 := by
        rw [String.length_utf8EncodeChar]
        exact c.utf8Size_le_four
      rw [List.take_append, List.take_of_length_le hlength, String.length_utf8EncodeChar]
    rw [firstChar?, htake, List.toByteArray_append]
    exact ByteArray.utf8DecodeChar?_utf8EncodeChar_append

/-- A character is encoded in a first byte and further ones. -/
theorem exists_utf8EncodeChar (c : Char) :
    ∃ b more, String.utf8EncodeChar c = b :: more ∧ more.length = c.utf8Size - 1 := by
  have hlength := String.length_utf8EncodeChar c
  have hpos := c.utf8Size_pos
  cases hbytes : String.utf8EncodeChar c with
  | nil =>
      rw [hbytes, List.length_nil] at hlength
      omega
  | cons b more =>
      rw [hbytes, List.length_cons] at hlength
      exact ⟨b, more, rfl, by omega⟩

/-- The characters of some bytes, with this in the place of each byte that is part of none. -/
def charsOf (stray : List Char) : List UInt8 → List Char
  | [] => []
  | b :: rest =>
      match firstChar? (b :: rest) with
      | some c => c :: charsOf stray (rest.drop (c.utf8Size - 1))
      | none => stray ++ charsOf stray rest
termination_by bytes => bytes.length
decreasing_by
  · simp only [List.length_cons, List.length_drop]
    omega
  · simp

variable {stray : List Char}

@[simp] theorem charsOf_nil : charsOf stray [] = [] := by
  rw [charsOf]

/-- A character stands for its encoding. -/
theorem charsOf_utf8EncodeChar (c : Char) (rest : List UInt8) :
    charsOf stray (String.utf8EncodeChar c ++ rest) = c :: charsOf stray rest := by
  have hfirst := firstChar?_eq_some_iff.2 ⟨rest, Eq.refl (String.utf8EncodeChar c ++ rest)⟩
  rcases exists_utf8EncodeChar c with ⟨b, more, hbytes, hlength⟩
  rw [hbytes, List.cons_append] at hfirst ⊢
  simp only [charsOf, hfirst]
  rw [List.drop_left' hlength]

/-- A byte with which no character begins is stray. -/
theorem charsOf_stray {b : UInt8} {rest : List UInt8} (h : firstChar? (b :: rest) = none) :
    charsOf stray (b :: rest) = stray ++ charsOf stray rest := by
  simp only [charsOf, h]

/-- Bytes are none, begin with a character, or begin with a stray byte. -/
@[elab_as_elim] theorem bytesInduction {motive : List UInt8 → Prop} (nil : motive [])
    (char : ∀ c rest, motive rest → motive (String.utf8EncodeChar c ++ rest))
    (stray : ∀ b rest, firstChar? (b :: rest) = none → motive rest → motive (b :: rest))
    (bytes : List UInt8) : motive bytes := by
  induction bytes using charsOf.induct with
  | case1 => exact nil
  | case2 b rest c hfirst ih =>
      rcases firstChar?_eq_some_iff.1 hfirst with ⟨behind, hbytes⟩
      rcases exists_utf8EncodeChar c with ⟨b', more, hencoded, hlength⟩
      have hrest : rest = more ++ behind := by
        rw [hencoded] at hbytes
        exact (List.cons.inj hbytes).2
      rw [hrest, List.drop_left' hlength] at ih
      rw [hbytes]
      exact char c behind ih
  | case3 b rest hfirst ih => exact stray b rest hfirst ih

/-- A text stands for its bytes. -/
theorem charsOf_utf8_append (text : String) (rest : List UInt8) :
    charsOf stray (utf8 text ++ rest) = text.toList ++ charsOf stray rest := by
  rw [utf8]
  induction text.toList with
  | nil => rfl
  | cons c cs ih =>
      rw [List.flatMap_cons, List.append_assoc, charsOf_utf8EncodeChar, ih, List.cons_append]

/-- The bytes of a text are its characters. -/
@[simp] theorem charsOf_utf8 (text : String) : charsOf stray (utf8 text) = text.toList := by
  rw [← List.append_nil (utf8 text), charsOf_utf8_append, charsOf_nil, List.append_nil]

/-- An encoding with an ASCII byte in it is of that byte alone. -/
theorem length_of_ascii_mem {c a : Char} (h : UInt8.ofNat a.toNat ∈ String.utf8EncodeChar c)
    (hascii : a.toNat < 0x80) : (String.utf8EncodeChar c).length = 1 := by
  have hmem : UInt8.ofNat a.toNat ∈ utf8 (String.ofList [c]) := by simpa [utf8] using h
  have hbyte := toNat_asciiByte hascii
  rcases mem_of_mem_utf8 hmem (by omega) with ⟨d, hd, hsame⟩
  rw [List.mem_singleton.1 hd] at hsame
  rw [utf8EncodeChar_ascii (c := c) (by omega), List.length_singleton]

/-- No character begins with a stray byte because ASCII follows. -/
theorem firstChar?_append_ascii {b : UInt8} {rest : List UInt8}
    (h : firstChar? (b :: rest) = none) {a : Char} (hascii : a.toNat < 0x80)
    (back : List UInt8) : firstChar? (b :: (rest ++ UInt8.ofNat a.toNat :: back)) = none := by
  rw [Option.eq_none_iff_forall_ne_some] at h ⊢
  intro c hc
  rcases firstChar?_eq_some_iff.1 hc with ⟨behind, hbytes⟩
  rw [← List.cons_append] at hbytes
  rcases List.append_eq_append_iff.1 hbytes with ⟨x, hencoded, hx⟩ | ⟨x, hfront, -⟩
  · cases x with
    | nil => exact h c (firstChar?_eq_some_iff.2 ⟨[], by simp [hencoded]⟩)
    | cons y x =>
        have hmem : UInt8.ofNat a.toNat ∈ String.utf8EncodeChar c := by
          rw [hencoded, (List.cons.inj hx).1]
          simp
        have hlength := length_of_ascii_mem hmem hascii
        rw [hencoded] at hlength
        simp at hlength
  · exact h c (firstChar?_eq_some_iff.2 ⟨x, hfront⟩)

/-- An ASCII byte is itself wherever it stands. -/
theorem charsOf_append_ascii (front back : List UInt8) {a : Char} (h : a.toNat < 0x80) :
    charsOf stray (front ++ UInt8.ofNat a.toNat :: back) =
      charsOf stray front ++ a :: charsOf stray back := by
  have hback : UInt8.ofNat a.toNat :: back = String.utf8EncodeChar a ++ back := by
    rw [utf8EncodeChar_ascii h, List.singleton_append]
  induction front using bytesInduction with
  | nil => rw [List.nil_append, hback, charsOf_utf8EncodeChar, charsOf_nil, List.nil_append]
  | char c rest ih =>
      rw [List.append_assoc, charsOf_utf8EncodeChar, ih, charsOf_utf8EncodeChar, List.cons_append]
  | stray b rest hstray ih =>
      rw [List.cons_append, charsOf_stray (firstChar?_append_ascii hstray h back), ih,
        charsOf_stray hstray, List.append_assoc]

end Text
end Gatehouse
