import Gatehouse.Proofs.Json.Scalar
import Gatehouse.Toml.Lexeme

/-!
# How strings of a document are spelled

A string of a document stands between quotes of one of four kinds.  What stands there is its text,
character by character, except for escapes, line ends and the quotes.  So whatever stands in the
spelling as a dollar sign and a brace stands in the text as well.

Main results:

- Theorem {lit}`spelledTo_of_readString`: what a string is spelled with.
- Theorem {lit}`Spelling.refers`: a reference in the spelling is one in the text.
- Theorem {lit}`spells_spelled`: every text can be spelled.
-/

namespace Gatehouse
namespace Toml

/-! ## Spellings -/

/-- Whether a dollar sign stands before an opening brace. -/
def Refers (cs : List Char) : Prop := ['$', '\x7b'] <:+: cs

/-- Whether a character has no part in a reference. -/
def Neutral (c : Char) : Prop := c ≠ '$' ∧ c ≠ '\x7b'

instance (c : Char) : Decidable (Neutral c) := inferInstanceAs (Decidable (_ ∧ _))

/-- How a text is spelled: its characters stand for themselves, or a stretch without dollar signs
and opening braces stands for some of them. -/
inductive Spelling : List Char → List Char → Prop where
  | done : Spelling [] []
  | plain {raw text : List Char} (c : Char) (h : Spelling raw text) :
      Spelling (c :: raw) (c :: text)
  | other {c : Char} {piece raw text : List Char} (decoded : List Char) (hc : Neutral c)
      (hpiece : ∀ c ∈ piece, Neutral c) (h : Spelling raw text) :
      Spelling (c :: (piece ++ raw)) (decoded ++ text)

/-- A text spells itself. -/
theorem Spelling.refl (cs : List Char) : Spelling cs cs := by
  induction cs with
  | nil => exact .done
  | cons c cs ih => exact .plain c ih

/-- A spelling that begins with an opening brace spells one. -/
theorem Spelling.brace {raw text : List Char} (h : Spelling ('\x7b' :: raw) text) :
    ['\x7b'] <+: text := by
  generalize hspelled : '\x7b' :: raw = spelled at h
  cases h with
  | done => exact nomatch hspelled
  | plain c =>
      rw [← (List.cons.inj hspelled).1]
      exact List.cons_prefix_cons.2 ⟨rfl, List.nil_prefix⟩
  | other decoded hc => exact absurd (List.cons.inj hspelled).1.symm hc.2

/-- A reference begins with a dollar sign. -/
theorem Refers.of_append {piece raw : List Char} (h : Refers (piece ++ raw))
    (hpiece : ∀ c ∈ piece, Neutral c) : Refers raw := by
  induction piece with
  | nil => exact h
  | cons c piece ih =>
      rcases List.forall_mem_cons.1 hpiece with ⟨hc, hrest⟩
      rcases List.infix_cons_iff.1 h with hfront | hbehind
      · exact absurd (List.cons_prefix_cons.1 hfront).1.symm hc.1
      · exact ih hbehind hrest

/-- A reference in the spelling of a text is one in the text. -/
theorem Spelling.refers {raw text : List Char} (h : Spelling raw text) (hraw : Refers raw) :
    Refers text := by
  induction h with
  | done => exact absurd hraw (by simp [Refers])
  | plain c h ih =>
      rcases List.infix_cons_iff.1 hraw with hfront | hbehind
      · rcases List.cons_prefix_cons.1 hfront with ⟨rfl, rest, rfl⟩
        exact (List.cons_prefix_cons.2 ⟨rfl, h.brace⟩).isInfix
      · exact (ih hbehind).trans (List.suffix_cons _ _).isInfix
  | @other c piece _ _ decoded hc hpiece _ ih =>
      have hbehind := Refers.of_append hraw (List.forall_mem_cons.2 ⟨hc, hpiece⟩)
      exact (ih hbehind).trans (List.suffix_append _ _).isInfix

/-! ## From one place to another -/

/-- Whether what stands between two places has no part in a reference. -/
def Past (cs rest : List Char) : Prop := ∃ piece, cs = piece ++ rest ∧ ∀ c ∈ piece, Neutral c

/-- Whether what stands between two places spells a text. -/
def SpelledTo (cs rest text : List Char) : Prop := ∃ raw, cs = raw ++ rest ∧ Spelling raw text

theorem Past.refl (cs : List Char) : Past cs cs := ⟨[], rfl, by simp⟩

theorem Past.cons {c : Char} {cs rest : List Char} (h : Past cs rest) (hc : Neutral c) :
    Past (c :: cs) rest := by
  rcases h with ⟨piece, rfl, hpiece⟩
  exact ⟨c :: piece, rfl, List.forall_mem_cons.2 ⟨hc, hpiece⟩⟩

theorem Past.trans {cs middle rest : List Char} (h : Past cs middle) (h' : Past middle rest) :
    Past cs rest := by
  rcases h with ⟨piece, rfl, hpiece⟩
  rcases h' with ⟨piece', rfl, hpiece'⟩
  refine ⟨piece ++ piece', (List.append_assoc ..).symm, fun c hc => ?_⟩
  exact (List.mem_append.1 hc).elim (hpiece c) (hpiece' c)

theorem SpelledTo.done (cs : List Char) : SpelledTo cs cs [] := ⟨[], rfl, .done⟩

theorem SpelledTo.plain {cs rest text : List Char} (c : Char) (h : SpelledTo cs rest text) :
    SpelledTo (c :: cs) rest (c :: text) := by
  rcases h with ⟨raw, rfl, hraw⟩
  exact ⟨c :: raw, rfl, .plain c hraw⟩

/-- Characters that stand for themselves come before what is spelled behind them. -/
theorem SpelledTo.append {cs rest text : List Char} (h : SpelledTo cs rest text)
    (front : List Char) : SpelledTo (front ++ cs) rest (front ++ text) := by
  induction front with
  | nil => exact h
  | cons c front ih => exact ih.plain c

/-- A stretch that begins with a character that has no part in a reference stands for some
characters. -/
theorem SpelledTo.behind {c : Char} {cs middle rest text : List Char}
    (h : SpelledTo middle rest text) (decoded : List Char) (hc : Neutral c)
    (hpast : Past cs middle) :
    SpelledTo (c :: cs) rest (decoded ++ text) := by
  rcases h with ⟨raw, rfl, hraw⟩
  rcases hpast with ⟨piece, rfl, hpiece⟩
  refine ⟨c :: (piece ++ raw), ?_, .other decoded hc hpiece hraw⟩
  rw [List.cons_append, List.append_assoc]

/-- A line end has no part in a reference. -/
theorem past_of_newline {cs rest : List Char} (h : afterNewline? cs = some rest) :
    ∃ c cs', cs = c :: cs' ∧ Neutral c ∧ Past cs' rest := by
  unfold afterNewline? at h
  split at h
  · rw [Option.some.inj h]
    exact ⟨'\n', rest, rfl, by decide, .refl _⟩
  · rw [Option.some.inj h]
    exact ⟨'\r', '\n' :: rest, rfl, by decide, (Past.refl _).cons (by decide)⟩
  · contradiction

/-- Blanks have no part in a reference. -/
theorem past_skipBlanks (cs : List Char) : Past cs (skipBlanks cs) := by
  induction cs with
  | nil => exact .refl _
  | cons c cs ih =>
      unfold skipBlanks at ih ⊢
      rw [List.dropWhile_cons]
      split
      · rename_i hblank
        refine ih.cons ?_
        constructor <;> rintro rfl <;> simp [isBlank] at hblank
      · exact .refl _

/-- Blanks and line ends have no part in a reference. -/
theorem past_skipNewlines (fuel : Nat) (cs : List Char) : Past cs (skipNewlines fuel cs) := by
  induction fuel generalizing cs with
  | zero => exact .refl _
  | succ fuel ih =>
      unfold skipNewlines
      split
      · rename_i rest hnewline
        rcases past_of_newline hnewline with ⟨c, cs', hcs', hc, hrest⟩
        exact (past_skipBlanks cs).trans (hcs' ▸ (hrest.trans (ih rest)).cons hc)
      · exact past_skipBlanks cs

/-! ## Strings -/

/-- Hexadecimal digits have no part in a reference. -/
theorem past_of_readCode {count : Nat} {cs rest : List Char} {c : Char}
    (h : readCode count cs = some (c, rest)) : Past cs rest := by
  unfold readCode at h
  dsimp only at h
  split at h
  · contradiction
  · rcases Option.bind_eq_some_iff.1 h with ⟨n, hnumber, hn⟩
    split at hn
    · rw [Option.some.injEq, Prod.mk.injEq] at hn
      refine ⟨cs.take count, ?_, fun d hd => ?_⟩
      · rw [← hn.2, List.take_append_drop]
      · have hdigit := Json.isSome_hexValue?_of_ofHex? hnumber d hd
        constructor <;> rintro rfl <;> simp [Text.hexValue?] at hdigit
    · contradiction

/-- An escape has no part in a reference. -/
theorem past_of_readEscape {cs rest : List Char} {c : Char}
    (h : readEscape cs = some (c, rest)) : Past cs rest := by
  unfold readEscape at h
  split at h
  case h_8 | h_9 => exact (past_of_readCode h).cons (by decide)
  case h_10 => contradiction
  all_goals
    rw [Option.some.injEq, Prod.mk.injEq] at h
    exact h.2 ▸ (Past.refl _).cons (by decide)

/-- A string with escapes is spelled so up to its closing quote. -/
theorem spelledTo_of_readBasicWith {fuel : Nat} {acc cs rest : List Char} {s : String}
    (h : readBasicWith fuel acc cs = some (s, rest)) :
    ∃ text, SpelledTo cs rest text ∧ s = String.ofList (acc.reverse ++ text) := by
  induction fuel generalizing acc cs with
  | zero => exact nomatch h
  | succ fuel ih =>
      unfold readBasicWith at h
      split at h
      · rw [Option.some.injEq, Prod.mk.injEq] at h
        rcases h with ⟨rfl, rfl⟩
        exact ⟨[], (SpelledTo.done _).behind [] (by decide) (.refl _), by rw [List.append_nil]⟩
      · rcases Option.bind_eq_some_iff.1 h with ⟨⟨c, behind⟩, hescape, hmore⟩
        rcases ih hmore with ⟨text, htext, rfl⟩
        exact ⟨c :: text, htext.behind [c] (by decide) (past_of_readEscape hescape), by simp⟩
      · rename_i c behind _ _
        split at h
        · rcases ih h with ⟨text, htext, rfl⟩
          exact ⟨c :: text, htext.plain c, by simp⟩
        · contradiction
      · contradiction

/-- A string without escapes is spelled as it is. -/
theorem spelledTo_of_readLiteral {cs rest : List Char} {s : String}
    (h : readLiteral cs = some (s, rest)) : SpelledTo cs rest s.toList := by
  unfold readLiteral at h
  split at h
  · rename_i body
    dsimp only at h
    split at h
    · rename_i behind hclose
      rw [Option.some.injEq, Prod.mk.injEq] at h
      rcases h with ⟨rfl, rfl⟩
      have hbody := List.prefix_iff_eq_append.1
        (List.takeWhile_prefix (l := body) fun c => isPlain c && decide (c ≠ '\''))
      generalize body.takeWhile (fun c => isPlain c && decide (c ≠ '\'')) = plain at hbody hclose ⊢
      rw [hclose] at hbody
      have hend : SpelledTo ('\'' :: behind) behind [] :=
        (SpelledTo.done _).behind [] (by decide) (.refl _)
      rw [String.toList_ofList]
      have hspelled := hend.append plain
      rw [hbody, List.append_nil] at hspelled
      exact hspelled.behind [] (by decide) (.refl _)
    · contradiction
  · contradiction

/-- A quote closes a string of several lines with two more; up to two of those that follow belong
to it. -/
theorem spelledTo_closeLines {quote : Char} (hquote : Neutral quote) (acc cs : List Char) :
    ∃ text, SpelledTo (quote :: quote :: quote :: cs) (closeLines quote acc cs).2 text ∧
      (closeLines quote acc cs).1 = String.ofList (acc.reverse ++ text) := by
  refine ⟨(cs.takeWhile (· = quote)).take 2, ?_, rfl⟩
  have hextra := List.prefix_iff_eq_append.1
    ((List.take_prefix 2 _).trans (List.takeWhile_prefix (l := cs) (· = quote)))
  have hspelled := (SpelledTo.done (closeLines quote acc cs).2).append
    ((cs.takeWhile (· = quote)).take 2)
  rw [closeLines, hextra, List.append_nil] at hspelled
  exact hspelled.behind [] hquote (((Past.refl _).cons hquote).cons hquote)

/-- A string of several lines is spelled so up to its closing quotes. -/
theorem spelledTo_of_readLinesWith {quote : Char} (hquote : Neutral quote) {escapes : Bool}
    {fuel : Nat} {acc cs rest : List Char} {s : String}
    (h : readLinesWith quote escapes fuel acc cs = some (s, rest)) :
    ∃ text, SpelledTo cs rest text ∧ s = String.ofList (acc.reverse ++ text) := by
  induction fuel generalizing acc cs with
  | zero => exact nomatch h
  | succ fuel ih =>
      have hplain : ∀ {c : Char} {behind : List Char},
          readLinesWith quote escapes fuel (c :: acc) behind = some (s, rest) →
          ∃ text, SpelledTo (c :: behind) rest text ∧ s = String.ofList (acc.reverse ++ text) := by
        intro c behind hmore
        rcases ih hmore with ⟨text, htext, rfl⟩
        exact ⟨c :: text, htext.plain c, by simp⟩
      unfold readLinesWith at h
      split at h
      · rename_i behind hnewline
        rcases past_of_newline hnewline with ⟨c, cs', rfl, hc, hpast⟩
        rcases ih h with ⟨text, htext, rfl⟩
        exact ⟨'\n' :: text, htext.behind ['\n'] hc hpast, by simp⟩
      · rename_i c behind _
        split at h
        · rename_i hsame
          subst hsame
          split at h
          · split at h
            · rename_i d e more _ hquotes
              rcases hquotes with ⟨rfl, rfl⟩
              rcases spelledTo_closeLines hquote acc more with ⟨text, htext, hs⟩
              rw [Option.some.inj h] at htext hs
              exact ⟨text, htext, hs⟩
            · exact hplain h
          · contradiction
        · split at h
          · rename_i hbackslash
            rcases hbackslash with ⟨-, rfl⟩
            split at h
            · rename_i more hnewline
              rcases past_of_newline hnewline with ⟨d, cs', hcs', hd, hpast⟩
              rcases ih h with ⟨text, htext, rfl⟩
              have hskipped : Past behind (skipNewlines fuel more) :=
                (past_skipBlanks behind).trans
                  (hcs' ▸ (hpast.trans (past_skipNewlines fuel more)).cons hd)
              exact ⟨text, htext.behind [] (by decide) hskipped, rfl⟩
            · rcases Option.bind_eq_some_iff.1 h with ⟨⟨d, more⟩, hescape, hmore⟩
              rcases ih hmore with ⟨text, htext, rfl⟩
              exact ⟨d :: text, htext.behind [d] (by decide) (past_of_readEscape hescape), by simp⟩
          · split at h
            · exact hplain h
            · contradiction
      · contradiction

/-- A string of several lines is spelled so behind its opening quotes. -/
theorem spelledTo_of_readLines {quote : Char} (hquote : Neutral quote) {escapes : Bool}
    {cs rest : List Char} {s : String} (h : readLines quote escapes cs = some (s, rest)) :
    SpelledTo (quote :: quote :: quote :: cs) rest s.toList := by
  unfold readLines at h
  rcases spelledTo_of_readLinesWith hquote h with ⟨text, htext, rfl⟩
  have hpast : Past cs ((afterNewline? cs).getD cs) := by
    cases hnewline : afterNewline? cs with
    | none => exact .refl _
    | some behind =>
        rcases past_of_newline hnewline with ⟨c, cs', rfl, hc, hrest⟩
        exact hrest.cons hc
  rw [String.toList_ofList]
  exact htext.behind [] hquote ((hpast.cons hquote).cons hquote)

/-- What a string of any kind is spelled with holds no other references than its text. -/
theorem spelledTo_of_readString {cs rest : List Char} {s : String}
    (h : readString cs = some (s, rest)) : SpelledTo cs rest s.toList := by
  unfold readString at h
  split at h
  · exact spelledTo_of_readLines (by decide) h
  · exact spelledTo_of_readLines (by decide) h
  · unfold readBasic at h
    rcases spelledTo_of_readBasicWith h with ⟨text, htext, rfl⟩
    rw [String.toList_ofList]
    exact htext.behind [] (by decide) (.refl _)
  · exact spelledTo_of_readLiteral h

/-! ## Every text can be spelled -/

/-- Whether a string is read as a text, at the end of a line. -/
def Spells (token text : String) : Prop :=
  ∀ rest, readString (token.toList ++ '\n' :: rest) = some (text, '\n' :: rest)

/-- A reference in a string is one in its text. -/
theorem Spells.refers {token text : String} (h : Spells token text) (htoken : Refers token.toList) :
    Refers text.toList := by
  rcases spelledTo_of_readString (h []) with ⟨raw, hraw, hspelling⟩
  rw [← List.append_cancel_right hraw] at hspelling
  exact hspelling.refers htoken

/-- A character of a string with escapes: as it is, or by its code. -/
def spellChar (c : Char) : List Char :=
  if isPlain c ∧ c ≠ '"' ∧ c ≠ '\\' then [c]
  else ['\\', 'u', '0', '0', Text.hexChar (c.toNat / 16), Text.hexChar (c.toNat % 16)]

/-- A text as a string with escapes. -/
def spelled (text : String) : String :=
  String.ofList ('"' :: (text.toList.flatMap spellChar ++ ['"']))

/-- What is not spelled as it is has a code of seven bits. -/
theorem toNat_lt_of_escaped {c : Char} (h : ¬(isPlain c ∧ c ≠ '"' ∧ c ≠ '\\')) :
    c.toNat < 128 := by
  refine Nat.lt_of_not_le fun hlarge => h ⟨?_, ?_, ?_⟩
  · simp only [isPlain, Bool.or_eq_true, Bool.and_eq_true, decide_eq_true_eq]
    omega
  · rintro rfl
    exact absurd hlarge (by decide)
  · rintro rfl
    exact absurd hlarge (by decide)

/-- A character that is spelled is read back. -/
theorem readBasicWith_spellChar (fuel : Nat) (acc : List Char) (c : Char) (rest : List Char) :
    readBasicWith (fuel + 1) acc (spellChar c ++ rest) = readBasicWith fuel (c :: acc) rest := by
  by_cases hplain : isPlain c ∧ c ≠ '"' ∧ c ≠ '\\'
  · rw [spellChar, if_pos hplain, List.singleton_append, readBasicWith.eq_def]
    simp [hplain]
  · have hvalue := Json.ofHex?_pair c.toNat (toNat_lt_of_escaped hplain)
    have hvalid : c.toNat.isValidChar := c.valid
    have hcode : readCode 4 ('0' :: '0' :: Text.hexChar (c.toNat / 16) ::
        Text.hexChar (c.toNat % 16) :: rest) = some (c, rest) := by
      simp [readCode, hvalue, hvalid]
    rw [spellChar, if_neg hplain]
    simp [readBasicWith, readEscape, hcode]

/-- Characters that are spelled are read back up to the closing quote. -/
theorem readBasicWith_spelled {fuel : Nat} {acc cs : List Char} (rest : List Char)
    (hfuel : cs.length < fuel) :
    readBasicWith fuel acc (cs.flatMap spellChar ++ '"' :: rest) =
      some (String.ofList (acc.reverse ++ cs), rest) := by
  induction cs generalizing fuel acc with
  | nil =>
      cases fuel with
      | zero => exact absurd hfuel (Nat.lt_irrefl _)
      | succ fuel => rw [List.append_nil]; rfl
  | cons c cs ih =>
      cases fuel with
      | zero => exact absurd hfuel (Nat.not_lt_zero _)
      | succ fuel =>
          rw [List.flatMap_cons, List.append_assoc, readBasicWith_spellChar,
            ih (Nat.lt_of_succ_lt_succ hfuel), List.reverse_cons, List.append_assoc]
          rfl

/-- What is spelled does not begin with a quote. -/
theorem head_spellChar (c : Char) : ∃ d more, spellChar c = d :: more ∧ d ≠ '"' := by
  unfold spellChar
  split
  · rename_i hplain
    exact ⟨c, [], rfl, hplain.2.1⟩
  · exact ⟨'\\', _, rfl, by decide⟩

/-- Every character takes some place. -/
theorem length_le_flatMap_spellChar (cs : List Char) :
    cs.length ≤ (cs.flatMap spellChar).length := by
  induction cs with
  | nil => exact Nat.le_refl _
  | cons c cs ih =>
      have hchar : 1 ≤ (spellChar c).length := by
        unfold spellChar
        split <;> simp
      rw [List.flatMap_cons, List.length_append, List.length_cons, Nat.add_comm]
      exact Nat.add_le_add hchar ih

/-- Every text can be spelled. -/
theorem spells_spelled (text : String) : Spells (spelled text) text := by
  intro rest
  have htoken : (spelled text).toList ++ '\n' :: rest =
      '"' :: (text.toList.flatMap spellChar ++ '"' :: '\n' :: rest) := by
    rw [spelled, String.toList_ofList, List.cons_append, List.append_assoc]
    rfl
  have hbasic : readString ('"' :: (text.toList.flatMap spellChar ++ '"' :: '\n' :: rest)) =
      readBasic ('"' :: (text.toList.flatMap spellChar ++ '"' :: '\n' :: rest)) := by
    cases text.toList with
    | nil => rfl
    | cons c cs =>
        rcases head_spellChar c with ⟨d, more, hspelled, hd⟩
        rw [List.flatMap_cons, hspelled, List.append_assoc, List.cons_append]
        simp [readString, hd]
  rw [htoken, hbasic, readBasic, readBasicWith_spelled]
  · rw [List.reverse_nil, List.nil_append, String.ofList_toList]
  · have hlength := length_le_flatMap_spellChar text.toList
    rw [List.length_append]
    omega

end Toml
end Gatehouse
