import Gatehouse.Time.Rfc3339

/-!
# Timestamps read back

A timestamp is written with the digits of its day, time and fraction, each in a place of fixed
width.  For a year of four digits the text reads back as the same timestamp, a leap second
included.  Whatever text a timestamp is read from, it names a point in time.

Main results:

- Theorem {lit}`Timestamp.readNumber?_padded`: numbers of fixed width read back.
- Theorem {lit}`Timestamp.parse?_write`: timestamps read back.
- Theorem {lit}`Timestamp.isValid_of_parse?`: what is read is a point in time.
-/

namespace Gatehouse

/-! ## Numbers of fixed width -/

namespace Text

variable {n width : Nat}

/-- A number below a power of ten has no more digits than the power. -/
theorem length_decimalList_le (hwidth : 0 < width) (h : n < Nat.pow 10 width) :
    (decimalList n).length ≤ width := by
  fun_induction decimalList n generalizing width with
  | case1 n hn => exact hwidth
  | case2 n hn ih =>
      rcases Nat.exists_eq_succ_of_ne_zero (Nat.ne_of_gt hwidth) with ⟨w, rfl⟩
      have hpow : Nat.pow 10 (Nat.succ w) = Nat.pow 10 w * 10 := rfl
      have hw : 0 < w := by
        rcases Nat.eq_zero_or_pos w with rfl | hw
        · have hone : Nat.pow 10 0 = 1 := rfl
          omega
        · exact hw
      have hshorter := ih hw (by omega)
      rw [List.length_append, List.length_singleton]
      omega

/-- A number of fixed width has that many digits. -/
theorem length_padded (hwidth : 0 < width) (h : n < Nat.pow 10 width) :
    (padded width n).toList.length = width := by
  have hlength := length_decimalList_le hwidth h
  rw [padded, String.toList_ofList, List.length_append, List.length_replicate]
  omega

theorem isDigit_of_mem_padded {c : Char} (h : c ∈ (padded width n).toList) : c.isDigit = true := by
  rw [padded, String.toList_ofList] at h
  rcases List.mem_append.1 h with hzero | hdigit
  · rw [List.eq_of_mem_replicate hzero]
    decide
  · exact isDigit_of_mem_decimalList hdigit

/-- Zeros in front make no difference. -/
theorem ofDecimal_padded : ofDecimal (padded width n).toList = n := by
  have hzeros : ∀ count,
      (List.replicate count '0').foldl (fun n c => n * 10 + digitValue c) 0 = 0 := by
    intro count
    induction count with
    | zero => rfl
    | succ count ih => exact ih
  rw [padded, String.toList_ofList, ofDecimal, List.foldl_append, hzeros]
  exact ofDecimal_decimal n

/-- The value of a digit is below ten. -/
theorem digitValue_lt {ch : Char} (h : ch.isDigit = true) : digitValue ch < 10 := by
  simp only [Char.isDigit, Bool.and_eq_true, decide_eq_true_eq] at h
  have hhigh : ch.toNat ≤ 57 := h.2
  have hzero : '0'.toNat = 48 := rfl
  rw [digitValue, hzero]
  omega

/-- Digits denote a number below the power of ten of their count. -/
theorem ofDecimal_lt {digits : List Char} (h : ∀ ch ∈ digits, ch.isDigit = true) :
    ofDecimal digits < Nat.pow 10 digits.length := by
  have hfold : ∀ n, digits.foldl (fun n c => n * 10 + digitValue c) n <
      (n + 1) * Nat.pow 10 digits.length := by
    induction digits with
    | nil => exact fun n => by simp
    | cons ch digits ih =>
        rcases List.forall_mem_cons.1 h with ⟨hch, hmore⟩
        intro n
        have hvalue : digitValue ch < 10 := digitValue_lt hch
        have hpow : Nat.pow 10 (ch :: digits).length = 10 * Nat.pow 10 digits.length :=
          Nat.pow_succ'
        calc (ch :: digits).foldl (fun n c => n * 10 + digitValue c) n
            < (n * 10 + digitValue ch + 1) * Nat.pow 10 digits.length := ih hmore _
          _ ≤ ((n + 1) * 10) * Nat.pow 10 digits.length := Nat.mul_le_mul_right _ (by omega)
          _ = (n + 1) * Nat.pow 10 (ch :: digits).length := by rw [hpow, Nat.mul_assoc]
  have hwhole := hfold 0
  rwa [Nat.zero_add, Nat.one_mul] at hwhole

/-- In front of no further digit the digits of a number are all that stand there. -/
theorem takeWhile_padded {rest : List Char} (hrest : rest.head?.any Char.isDigit = false) :
    ((padded width n).toList ++ rest).takeWhile Char.isDigit = (padded width n).toList :=
  takeWhile_isDigit (fun _ => isDigit_of_mem_padded) hrest

end Text

/-- A month has at most 31 days. -/
theorem Day.monthLength_le (year : Int) (month : Nat) : monthLength year month ≤ 31 := by
  unfold monthLength
  split
  · split <;> decide
  · split <;> decide

namespace Timestamp

variable {n width : Nat} {rest : List Char}

/-- Numbers of fixed width read back. -/
theorem readNumber?_padded (hwidth : 0 < width) (h : n < Nat.pow 10 width) :
    readNumber? width ((Text.padded width n).toList ++ rest) = some (n, rest) := by
  have hlength := Text.length_padded hwidth h
  have htake : ((Text.padded width n).toList ++ rest).take width =
      (Text.padded width n).toList := by
    rw [List.take_append_of_le_length (Nat.le_of_eq hlength.symm), List.take_of_length_le]
    exact Nat.le_of_eq hlength
  have hdigits : (Text.padded width n).toList.takeWhile Char.isDigit =
      (Text.padded width n).toList := by
    rw [← List.append_nil (Text.padded width n).toList]
    exact (Text.takeWhile_padded rfl).trans (List.append_nil _).symm
  have hsome : (Text.padded width n).toList.isEmpty = false := by
    rw [List.isEmpty_eq_false_iff, ← List.length_pos_iff, hlength]
    exact hwidth
  simp only [readNumber?, htake, hdigits, hsome, Bool.false_eq_true, if_false,
    Text.ofDecimal_padded, List.drop_left]

/-- A number of fixed width begins with a digit. -/
theorem padded_eq_cons (hwidth : 0 < width) (h : n < Nat.pow 10 width) :
    ∃ ch own, (Text.padded width n).toList = ch :: own ∧ ch.isDigit = true := by
  cases hdigits : (Text.padded width n).toList with
  | nil =>
      have hlength := Text.length_padded hwidth h
      rw [hdigits] at hlength
      exact absurd hlength (Nat.ne_of_lt hwidth)
  | cons ch own =>
      have hfirst : ch ∈ (Text.padded width n).toList := by
        rw [hdigits]
        exact List.mem_cons_self
      exact ⟨ch, own, rfl, Text.isDigit_of_mem_padded hfirst⟩

/-- A digit is no blank and no sign. -/
theorem plain_of_isDigit {ch : Char} (h : ch.isDigit = true) :
    Text.isBlank ch = false ∧ ch ≠ '-' ∧ ch ≠ '+' := by
  refine ⟨?_, ?_, ?_⟩
  · simp only [Char.isDigit, Bool.and_eq_true, decide_eq_true_eq] at h
    have hlow : 48 ≤ ch.toNat := h.1
    have hhigh : ch.toNat ≤ 57 := h.2
    rw [← Bool.not_eq_true]
    simp only [Text.isBlank, Bool.or_eq_true, Bool.and_eq_true, decide_eq_true_eq, beq_iff_eq]
    omega
  · rintro rfl
    revert h
    decide
  · rintro rfl
    revert h
    decide

/-- Where no blank stands none is dropped. -/
theorem trimStartList_cons {ch : Char} (h : Text.isBlank ch = false) :
    Text.trimStartList (ch :: rest) = ch :: rest := by
  simp [Text.trimStartList, h]

theorem trimStartList_padded (hwidth : 0 < width) (h : n < Nat.pow 10 width) :
    Text.trimStartList ((Text.padded width n).toList ++ rest) =
      (Text.padded width n).toList ++ rest := by
  rcases padded_eq_cons hwidth h with ⟨ch, own, hdigits, hdigit⟩
  rw [hdigits]
  exact trimStartList_cons (plain_of_isDigit hdigit).1

/-- Fields of fixed width read back. -/
theorem readField?_padded (hwidth : 0 < width) (h : n < Nat.pow 10 width) :
    readField? width ((Text.padded width n).toList ++ rest) = some (n, rest) := by
  rw [readField?, trimStartList_padded hwidth h, readNumber?_padded hwidth h]

/-- A mark reads back. -/
theorem readMark?_cons {mark : Char} (h : Text.isBlank mark = false) :
    readMark? mark (mark :: rest) = some rest := by
  simp [readMark?, trimStartList_cons h]

/-- A year of four digits reads back. -/
theorem readYear?_padded (h : n < Nat.pow 10 4) :
    readYear? ((Text.padded 4 n).toList ++ rest) = some ((n : Int), rest) := by
  have hwidth : 0 < 4 := by decide
  rcases padded_eq_cons hwidth h with ⟨ch, own, hdigits, hdigit⟩
  rcases plain_of_isDigit hdigit with ⟨-, hminus, hplus⟩
  rw [readYear?, trimStartList_padded hwidth h]
  split
  · rename_i heq
    rw [hdigits] at heq
    exact absurd (List.cons.inj heq).1 hminus
  · rename_i heq
    rw [hdigits] at heq
    exact absurd (List.cons.inj heq).1 hplus
  · rw [readNumber?_padded hwidth h]
    rfl

/-- A fraction of so many digits reads back in front of the letter of the time zone. -/
theorem readFraction?_padded (width : Nat) (hwidth : 0 < width) (hmost : width ≤ 9)
    (h : n < Nat.pow 10 width) :
    readFraction? (("." ++ Text.padded width n).toList ++ ['Z']) =
      some (n * Nat.pow 10 (9 - width), ['Z']) := by
  have hlength := Text.length_padded hwidth h
  have htaken : ((Text.padded width n).toList ++ ['Z']).takeWhile Char.isDigit =
      (Text.padded width n).toList := Text.takeWhile_padded rfl
  have hkept : (Text.padded width n).toList.take 9 = (Text.padded width n).toList :=
    List.take_of_length_le (by omega)
  have hsome : (Text.padded width n).toList.isEmpty = false := by
    rw [List.isEmpty_eq_false_iff, ← List.length_pos_iff, hlength]
    exact hwidth
  have hpoint : ("." ++ Text.padded width n).toList ++ ['Z'] =
      '.' :: ((Text.padded width n).toList ++ ['Z']) := by
    rw [String.toList_append]
    rfl
  simp only [hpoint, readFraction?, htaken, hsome, Bool.false_eq_true, if_false, hkept,
    Text.ofDecimal_padded, hlength, List.drop_left' hlength]

/-- The fraction of a second reads back in front of the letter of the time zone. -/
theorem readFraction?_writeFraction (h : n < 1000000000) :
    readFraction? ((writeFraction n).toList ++ ['Z']) = some (n, ['Z']) := by
  unfold writeFraction
  split
  · rename_i hzero
    rw [hzero]
    rfl
  split
  · rename_i hmillis
    have hvalue : n / 1000000 < Nat.pow 10 3 := show n / 1000000 < 1000 by omega
    have hscale : n / 1000000 * Nat.pow 10 (9 - 3) = n :=
      show n / 1000000 * 1000000 = n by omega
    rw [readFraction?_padded 3 (by decide) (by decide) hvalue, hscale]
  split
  · rename_i hmicros
    have hvalue : n / 1000 < Nat.pow 10 6 := show n / 1000 < 1000000 by omega
    have hscale : n / 1000 * Nat.pow 10 (9 - 6) = n := show n / 1000 * 1000 = n by omega
    rw [readFraction?_padded 6 (by decide) (by decide) hvalue, hscale]
  · rw [readFraction?_padded 9 (by decide) (by decide) h]
    exact congrArg some (congrArg (·, ['Z']) (Nat.mul_one n))

/-! ## Whole timestamps -/

/-- The text of a timestamp of a year of four digits, part by part. -/
theorem write_toList (t : Timestamp) (hyear : 0 ≤ t.day.year ∧ t.day.year ≤ 9999) :
    t.write.toList =
      (Text.padded 4 t.day.year.toNat).toList ++ '-' :: ((Text.padded 2 t.day.month).toList ++
        '-' :: ((Text.padded 2 t.day.day).toList ++ 'T' ::
          ((Text.padded 2 (t.second / 3600)).toList ++ ':' ::
            ((Text.padded 2 (t.second / 60 % 60)).toList ++ ':' ::
              ((Text.padded 2 (t.second % 60 + t.nanosecond / 1000000000)).toList ++
                ((writeFraction (t.nanosecond % 1000000000)).toList ++ ['Z'])))))) := by
  have hyear' : writeYear t.day.year = Text.padded 4 t.day.year.toNat := if_pos hyear
  simp only [write, hyear', String.toList_append, List.append_assoc]
  rfl

/-- Days of a year of four digits read back. -/
theorem readDay?_padded {d : Day} (hvalid : d.isValid = true)
    (hyear : 0 ≤ d.year ∧ d.year ≤ 9999) :
    readDay? ((Text.padded 4 d.year.toNat).toList ++ '-' :: ((Text.padded 2 d.month).toList ++
      '-' :: ((Text.padded 2 d.day).toList ++ rest))) = some (d, rest) := by
  have hparts := hvalid
  simp only [Day.isValid, Bool.and_eq_true, decide_eq_true_eq] at hparts
  rcases hparts with ⟨⟨⟨⟨⟨-, -⟩, -⟩, hmonth⟩, -⟩, hday⟩
  have hlength := Day.monthLength_le d.year d.month
  have hyear' : d.year.toNat < Nat.pow 10 4 := show d.year.toNat < 10000 by omega
  have hmonth' : d.month < Nat.pow 10 2 := show d.month < 100 by omega
  have hday' : d.day < Nat.pow 10 2 := show d.day < 100 by omega
  have hback : (d.year.toNat : Int) = d.year := Int.toNat_of_nonneg hyear.1
  have hmark : Text.isBlank '-' = false := by decide
  simp only [readDay?, readYear?_padded hyear', readMark?_cons hmark,
    readField?_padded (by decide) hmonth', readField?_padded (by decide) hday', hback,
    Option.bind_eq_bind, Option.bind_some, hvalid, if_true]

/-- Times read back in front of the letter of the time zone; the second behind the last one of a
minute is a leap second. -/
theorem readTime?_padded {second nanosecond : Nat} (hsecond : second < dayLength)
    (hmost : nanosecond < 2000000000) (hleap : nanosecond < 1000000000 ∨ second % 60 = 59) :
    readTime? ((Text.padded 2 (second / 3600)).toList ++ ':' ::
      ((Text.padded 2 (second / 60 % 60)).toList ++ ':' ::
        ((Text.padded 2 (second % 60 + nanosecond / 1000000000)).toList ++
          ((writeFraction (nanosecond % 1000000000)).toList ++ ['Z'])))) =
      some ((second, nanosecond), ['Z']) := by
  have hday : dayLength = 86400 := rfl
  have hhour' : second / 3600 < Nat.pow 10 2 := show second / 3600 < 100 by omega
  have hminute' : second / 60 % 60 < Nat.pow 10 2 := show second / 60 % 60 < 100 by omega
  have hshown : second % 60 + nanosecond / 1000000000 ≤ 60 := by omega
  have hsecond' : second % 60 + nanosecond / 1000000000 < Nat.pow 10 2 :=
    show second % 60 + nanosecond / 1000000000 < 100 by omega
  have hfraction := readFraction?_writeFraction (n := nanosecond % 1000000000) (by omega)
  have hmark : Text.isBlank ':' = false := by decide
  have hrange : ¬ (23 < second / 3600 ∨ 59 < second / 60 % 60 ∨
      60 < second % 60 + nanosecond / 1000000000) := by omega
  simp only [readTime?, readField?_padded (by decide) hhour', readMark?_cons hmark,
    readField?_padded (by decide) hminute', readField?_padded (by decide) hsecond', hfraction,
    Option.bind_eq_bind, Option.bind_some, if_neg hrange]
  split
  · rename_i hsixty
    have hwhole : second / 3600 * 3600 + second / 60 % 60 * 60 + 59 = second := by omega
    have hrest : nanosecond % 1000000000 + 1000000000 = nanosecond := by omega
    rw [hwhole, hrest]
  · rename_i hsixty
    have hwhole : second / 3600 * 3600 + second / 60 % 60 * 60 +
        (second % 60 + nanosecond / 1000000000) = second := by omega
    have hrest : nanosecond % 1000000000 = nanosecond := by omega
    rw [hwhole, hrest]

/-- What a point in time is made of. -/
theorem isValid_iff {t : Timestamp} :
    t.isValid = true ↔ t.day.isValid = true ∧ t.second < dayLength ∧
      t.nanosecond < 2000000000 ∧ (t.nanosecond < 1000000000 ∨ t.second % 60 = 59) := by
  simp only [isValid, Bool.and_eq_true, Bool.or_eq_true, decide_eq_true_eq, and_assoc]

/-- What is read of a timestamp, part by part. -/
theorem parseList?_eq_some_iff {cs : List Char} {t : Timestamp} :
    parseList? cs = some t ↔ ∃ day mark behind second nanosecond zone offset back,
      readDay? cs = some (day, mark :: behind) ∧ (mark = 'T' ∨ mark = 't' ∨ mark = ' ') ∧
      readTime? behind = some ((second, nanosecond), zone) ∧
      readOffset? (Text.trimStartList zone) = some (offset, back) ∧
      ((Text.trimStartList back).isEmpty ∧ offset.natAbs < dayLength) ∧
      ofLocal? ⟨day, second, nanosecond⟩ offset = some t := by
  constructor
  · intro h
    rcases Option.bind_eq_some_iff.1 h with ⟨⟨day, rest⟩, hday, hbehind⟩
    cases rest with
    | nil => exact nomatch hbehind
    | cons mark behind =>
        dsimp only at hbehind
        split at hbehind
        · rename_i hmark
          rcases Option.bind_eq_some_iff.1 hbehind with ⟨_, ⟨⟩, hlater⟩
          rcases Option.bind_eq_some_iff.1 hlater with ⟨⟨⟨second, nanosecond⟩, zone⟩, htime, hzone⟩
          rcases Option.bind_eq_some_iff.1 hzone with ⟨⟨offset, back⟩, hoffset, hlocal⟩
          dsimp only at hlocal
          split at hlocal
          · rename_i hend
            exact ⟨_, _, _, _, _, _, _, _, hday, hmark, htime, hoffset, hend, hlocal⟩
          · exact nomatch hlocal
        · exact nomatch hbehind
  · rintro ⟨day, mark, behind, second, nanosecond, zone, offset, back, hday, hmark, htime, hoffset,
      hend, hlocal⟩
    refine Option.bind_eq_some_iff.2 ⟨_, hday, (if_pos hmark).trans ?_⟩
    refine Option.bind_eq_some_iff.2 ⟨behind, rfl, Option.bind_eq_some_iff.2 ⟨_, htime, ?_⟩⟩
    refine Option.bind_eq_some_iff.2 ⟨_, hoffset, ?_⟩
    exact (if_pos hend).trans hlocal

/-- Points in time of a year of four digits read back, leap seconds included. -/
theorem parse?_write {t : Timestamp} (hvalid : t.isValid = true)
    (hyear : 0 ≤ t.day.year ∧ t.day.year ≤ 9999) : parse? t.write = some t := by
  rcases isValid_iff.1 hvalid with ⟨hday, hsecond, hmost, hleap⟩
  have hzone : readOffset? (Text.trimStartList ['Z']) = some (0, []) := by decide
  have hlocal : ofLocal? t 0 = some t := by
    have hback : (t.second : Int) < dayLength := Int.ofNat_lt.2 hsecond
    have hsome : ¬ ((t.second : Int) < 0) := by omega
    simp only [ofLocal?, Int.sub_zero, if_neg hsome, if_pos hback, Int.toNat_natCast, hday,
      if_true]
  rw [parse?, write_toList t hyear, parseList?_eq_some_iff]
  exact ⟨_, _, _, _, _, _, _, _, readDay?_padded hday hyear, .inl rfl,
    readTime?_padded hsecond hmost hleap, hzone, ⟨rfl, by decide⟩, hlocal⟩

/-! ## Bounds of what is read -/

/-- A fraction of a second that is read is below one second. -/
theorem lt_of_readFraction? {cs back : List Char} (h : readFraction? cs = some (n, back)) :
    n < 1000000000 := by
  unfold readFraction? at h
  split at h
  · rename_i behind
    dsimp only at h
    split at h
    · exact nomatch h
    · simp only [Option.some.injEq, Prod.mk.injEq] at h
      have hdigits : ∀ ch ∈ (behind.takeWhile Char.isDigit).take 9, ch.isDigit = true :=
        fun ch hch => List.all_eq_true.1 List.all_takeWhile ch (List.mem_of_mem_take hch)
      have hcount : ((behind.takeWhile Char.isDigit).take 9).length ≤ 9 := List.length_take_le 9 _
      generalize (behind.takeWhile Char.isDigit).take 9 = kept at h hdigits hcount
      have hpow := Nat.pow_add 10 kept.length (9 - kept.length)
      rw [Nat.add_sub_cancel' hcount] at hpow
      calc n = Text.ofDecimal kept * Nat.pow 10 (9 - kept.length) := h.1.symm
        _ < Nat.pow 10 kept.length * Nat.pow 10 (9 - kept.length) :=
            Nat.mul_lt_mul_of_pos_right (Text.ofDecimal_lt hdigits) (Nat.pow_pos (by decide))
        _ = 1000000000 := hpow.symm
  · simp only [Option.some.injEq, Prod.mk.injEq] at h
    omega

/-- A time that is read is one of a day, and its fraction reaches one second in a leap second
only. -/
theorem of_readTime? {cs back : List Char} {second nanosecond : Nat}
    (h : readTime? cs = some ((second, nanosecond), back)) :
    second < dayLength ∧ nanosecond < 2000000000 ∧
      (nanosecond < 1000000000 ∨ second % 60 = 59) := by
  have hlength : dayLength = 86400 := rfl
  rcases Option.bind_eq_some_iff.1 h with ⟨⟨hour, c⟩, -, h⟩
  rcases Option.bind_eq_some_iff.1 h with ⟨d, -, h⟩
  rcases Option.bind_eq_some_iff.1 h with ⟨⟨minute, e⟩, -, h⟩
  rcases Option.bind_eq_some_iff.1 h with ⟨f, -, h⟩
  rcases Option.bind_eq_some_iff.1 h with ⟨⟨shown, g⟩, -, h⟩
  rcases Option.bind_eq_some_iff.1 h with ⟨⟨fraction, k⟩, hfraction, h⟩
  have hsmall := lt_of_readFraction? hfraction
  dsimp only at h
  split at h
  · exact nomatch h
  · split at h <;> simp only [Option.some.injEq, Prod.mk.injEq] at h <;> omega

/-- An offset that is read is one of whole minutes. -/
theorem of_readOffset? {cs back : List Char} {offset : Int}
    (h : readOffset? cs = some (offset, back)) : offset % 60 = 0 := by
  have hclock : ∀ {cs back : List Char} {offset : Int},
      readClock? cs = some (offset, back) → offset % 60 = 0 := by
    intro cs back offset h
    rcases Option.bind_eq_some_iff.1 h with ⟨⟨hours, c⟩, -, h⟩
    rcases Option.bind_eq_some_iff.1 h with ⟨⟨minutes, d⟩, -, h⟩
    simp only [pure, Option.some.injEq, Prod.mk.injEq] at h
    omega
  have hsigned : ∀ {cs : List Char}, readOffset?.signed cs = some (offset, back) →
      offset % 60 = 0 := by
    intro cs h
    unfold readOffset?.signed at h
    split at h
    case h_1 | h_2 =>
      simp only [Option.some.injEq, Prod.mk.injEq] at h
      omega
    case h_3 => exact hclock h
    case h_4 | h_5 =>
      rcases Option.map_eq_some_iff.1 h with ⟨⟨seconds, c⟩, hseconds, hoffset⟩
      have hminutes := hclock hseconds
      simp only [Prod.mk.injEq] at hoffset
      omega
    case h_6 => exact nomatch h
  unfold readOffset? at h
  split at h
  · split at h
    · simp only [Option.some.injEq, Prod.mk.injEq] at h
      omega
    · exact hsigned h
  · exact hsigned h

/-- A time of a day, shown by a clock of another time zone, is a point in time. -/
theorem isValid_of_ofLocal? {t u : Timestamp} {offset : Int} (hoffset : offset % 60 = 0)
    (hday : offset.natAbs < dayLength) (hsecond : t.second < dayLength)
    (hmost : t.nanosecond < 2000000000)
    (hleap : t.nanosecond < 1000000000 ∨ t.second % 60 = 59) (h : ofLocal? t offset = some u) :
    u.isValid = true := by
  have hlength : dayLength = 86400 := rfl
  have hshifted : ∀ {v : Timestamp}, (if v.day.isValid then some v else none) = some u →
      v.second < dayLength → v.second % 60 = t.second % 60 → v.nanosecond = t.nanosecond →
      u.isValid = true := by
    intro v hkept hsecond' hminute hfraction
    split at hkept
    · rename_i hvalid
      rw [← Option.some.inj hkept, isValid_iff, hfraction, hminute]
      exact ⟨hvalid, hsecond', hmost, hleap⟩
    · exact nomatch hkept
  unfold ofLocal? at h
  dsimp only at h
  split at h
  · exact hshifted h (by dsimp only; omega) (by dsimp only; omega) rfl
  split at h
  · exact hshifted h (by dsimp only; omega) (by dsimp only; omega) rfl
  · exact hshifted h (by dsimp only; omega) (by dsimp only; omega) rfl

/-- Whatever text a timestamp is read from, it is a point in time. -/
theorem isValid_of_parse? {s : String} {t : Timestamp} (h : parse? s = some t) :
    t.isValid = true := by
  rcases parseList?_eq_some_iff.1 h with
    ⟨day, mark, behind, second, nanosecond, zone, offset, back, -, -, htime, hoffset, hend, hlocal⟩
  rcases of_readTime? htime with ⟨hsecond, hmost, hleap⟩
  exact isValid_of_ofLocal? (of_readOffset? hoffset) hend.2 hsecond hmost hleap hlocal

end Timestamp
end Gatehouse
