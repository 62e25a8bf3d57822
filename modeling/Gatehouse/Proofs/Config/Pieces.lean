import Mathlib.Data.List.Chain
import Gatehouse.Config.Document
import Gatehouse.Proofs.Config.References
import Gatehouse.Proofs.Json.Members

/-!
# A text in pieces

A text in which every reference is closed falls into pieces in exactly one way: characters that
stand for themselves, and references.  Expansion turns every piece into its value.  If the last
reference is not closed, all of the text behind it is taken for the name of a variable.

Main results:

- Theorem {lit}`complete_iff`: which texts fall into pieces.
- Theorem {lit}`eq_of_spelling_eq`: a text falls into pieces in one way.
- Theorem {lit}`expandList_spelling_append`: pieces are expanded one by one.
- Theorem {lit}`expands_piecewise`: what becomes of a text without open references.
- Theorem {lit}`keeps_unclosed_iff`: what becomes of a text that ends in an open reference.
-/

namespace Gatehouse
namespace Config

/-! ## Pieces -/

/-- A piece of a text: a character that stands for itself, or a reference to a variable, whose
name ends at the first closing brace. -/
inductive Piece where
  | plain (c : Char)
  | reference (name : List Char) (hname : '\x7d' ∉ name)
deriving DecidableEq

namespace Piece

/-- The characters of a piece. -/
def chars : Piece → List Char
  | plain c => [c]
  | reference name _ => '$' :: '\x7b' :: (name ++ ['\x7d'])

/-- What a piece stands for: a reference for the value of its variable, or for nothing. -/
def value (lookup : String → Option String) : Piece → List Char
  | plain c => [c]
  | reference name _ => ((lookup (String.ofList name)).getD "").toList

/-- Whether a piece may stand right before another one: a dollar sign and an opening brace would
be the beginning of a reference. -/
def MayPrecede (p q : Piece) : Prop := p = plain '$' → q ≠ plain '\x7b'

instance (p q : Piece) : Decidable (MayPrecede p q) := inferInstanceAs (Decidable (_ → _))

end Piece

/-- The characters of pieces, in their order. -/
def spelling (pieces : List Piece) : List Char := pieces.flatMap Piece.chars

/-- What pieces stand for, in their order. -/
def meaning (lookup : String → Option String) (pieces : List Piece) : List Char :=
  pieces.flatMap (Piece.value lookup)

/-- Whether no reference begins with a character that stands for itself. -/
def Apart (pieces : List Piece) : Prop := pieces.IsChain Piece.MayPrecede

instance (pieces : List Piece) : Decidable (Apart pieces) :=
  inferInstanceAs (Decidable (List.IsChain _ _))

/-- Whether a text falls into pieces. -/
structure InPieces (cs : List Char) (pieces : List Piece) : Prop where
  spelled : spelling pieces = cs
  apart : Apart pieces

/-- Whether every dollar sign with an opening brace has a closing brace somewhere behind it. -/
def Complete (cs : List Char) : Prop :=
  ∀ front back, cs = front ++ '$' :: '\x7b' :: back → '\x7d' ∈ back

/-- Whether a dollar sign at the end of a text and a brace at the start of the next one would be
the beginning of a reference. -/
def Joins (cs more : List Char) : Prop :=
  cs.getLast? = some '$' ∧ more.head? = some '\x7b'

variable {lookup : String → Option String} {pieces other : List Piece} {cs rest : List Char}

@[simp] theorem spelling_nil : spelling [] = [] := rfl

@[simp] theorem spelling_cons (p : Piece) (pieces : List Piece) :
    spelling (p :: pieces) = p.chars ++ spelling pieces := rfl

@[simp] theorem meaning_nil : meaning lookup [] = [] := rfl

@[simp] theorem meaning_cons (p : Piece) (pieces : List Piece) :
    meaning lookup (p :: pieces) = p.value lookup ++ meaning lookup pieces := rfl

/-- Only an opening brace that stands for itself begins with one. -/
theorem head_of_spelling (h : (spelling pieces).head? = some '\x7b') :
    pieces.head? = some (.plain '\x7b') := by
  cases pieces with
  | nil => exact nomatch h
  | cons p pieces =>
      cases p with
      | plain c => exact congrArg (some ∘ Piece.plain) (Option.some.inj h)
      | reference name hname => exact absurd (Option.some.inj h) (by decide)

/-- A dollar sign that stands for itself is not followed by an opening brace. -/
theorem Apart.head_ne {p : Piece} (h : Apart (p :: pieces)) (hp : p = .plain '$') :
    (spelling pieces).head? ≠ some '\x7b' := by
  intro hbrace
  have hnext := head_of_spelling hbrace
  cases pieces with
  | nil => exact nomatch hnext
  | cons q pieces => exact (List.isChain_cons_cons.1 h).1 hp (Option.some.inj hnext)

theorem Apart.tail {p : Piece} (h : Apart (p :: pieces)) : Apart pieces := List.IsChain.tail h

/-- A piece may stand before others that do not begin with an opening brace. -/
theorem Apart.cons {p : Piece} (h : Apart pieces)
    (hp : p = .plain '$' → (spelling pieces).head? ≠ some '\x7b') : Apart (p :: pieces) := by
  refine List.isChain_cons.2 ⟨?_, h⟩
  rintro q hq hdollar rfl
  cases pieces with
  | nil => exact nomatch hq
  | cons q pieces =>
      obtain rfl := Option.some.inj hq
      exact hp hdollar rfl

/-! ## A text falls into pieces in one way -/

/-- The first closing brace ends a name, so names with their braces can be told apart. -/
theorem name_eq_of_append_eq {name name' rest rest' : List Char} (hname : '\x7d' ∉ name)
    (hname' : '\x7d' ∉ name') (h : name ++ '\x7d' :: rest = name' ++ '\x7d' :: rest') :
    name = name' ∧ rest = rest' := by
  have hcut := takeName_of_closed hname rest
  rw [h, takeName_of_closed hname' rest', Prod.mk.injEq] at hcut
  exact ⟨hcut.1.symm, hcut.2.symm⟩

/-- Pieces with the same characters are the same. -/
theorem eq_of_spelling_eq (h : Apart pieces) (h' : Apart other)
    (hspelled : spelling pieces = spelling other) : pieces = other := by
  induction pieces generalizing other with
  | nil =>
      cases other with
      | nil => rfl
      | cons q other => cases q <;> exact nomatch hspelled
  | cons p pieces ih =>
      cases other with
      | nil => cases p <;> exact nomatch hspelled
      | cons q other =>
          cases p with
          | plain c =>
              cases q with
              | plain d =>
                  rcases List.cons.inj hspelled with ⟨rfl, hrest⟩
                  rw [ih h.tail h'.tail hrest]
              | reference name hname =>
                  rcases List.cons.inj hspelled with ⟨rfl, hrest⟩
                  exact absurd (congrArg List.head? hrest) (h.head_ne rfl)
          | reference name hname =>
              cases q with
              | plain d =>
                  rcases List.cons.inj hspelled with ⟨rfl, hrest⟩
                  exact absurd (congrArg List.head? hrest).symm (h'.head_ne rfl)
              | reference name' hname' =>
                  have hbehind : name ++ '\x7d' :: spelling pieces =
                      name' ++ '\x7d' :: spelling other := by
                    simpa [Piece.chars] using hspelled
                  rcases name_eq_of_append_eq hname hname' hbehind with ⟨rfl, hrest⟩
                  rw [ih h.tail h'.tail hrest]

/-- What stands behind a part of a complete text is complete. -/
theorem Complete.of_append (front : List Char) (h : Complete (front ++ cs)) : Complete cs := by
  rintro before back rfl
  exact h (front ++ before) back (List.append_assoc ..).symm

/-- A complete text falls into pieces. -/
theorem Complete.exists_pieces (h : Complete cs) : ∃ pieces, InPieces cs pieces := by
  -- a reference takes its name and both braces at once, so the induction is on the length
  induction hlength : cs.length using Nat.strongRecOn generalizing cs with
  | ind n ih =>
      subst hlength
      cases cs with
      | nil => exact ⟨[], rfl, List.isChain_nil⟩
      | cons c behind =>
          by_cases hopen : c = '$' ∧ behind.head? = some '\x7b'
          · rcases hopen with ⟨rfl, hbrace⟩
            rcases List.head?_eq_some_iff.1 hbrace with ⟨rest, rfl⟩
            rcases List.eq_append_cons_of_mem (h [] rest rfl) with ⟨name, rest, rfl, hname⟩
            have hrest : Complete rest := by
              refine Complete.of_append ('$' :: '\x7b' :: (name ++ ['\x7d'])) ?_
              simpa using h
            rcases ih rest.length (by simp; omega) hrest rfl with ⟨pieces, hspelled, hapart⟩
            refine ⟨.reference name hname :: pieces, ?_, hapart.cons nofun⟩
            simp [Piece.chars, hspelled]
          · rcases ih behind.length (by simp) (Complete.of_append [c] h) rfl with
              ⟨pieces, hspelled, hapart⟩
            refine ⟨.plain c :: pieces, ?_, hapart.cons fun hdollar hbrace => hopen ?_⟩
            · rw [spelling_cons, hspelled]
              rfl
            · exact ⟨Piece.plain.inj hdollar, hspelled ▸ hbrace⟩

/-- A text of pieces is complete. -/
theorem Apart.complete (h : Apart pieces) : Complete (spelling pieces) := by
  induction pieces with
  | nil => exact fun front back hcut => absurd hcut (by simp)
  | cons p pieces ih =>
      intro front back hcut
      cases p with
      | plain c =>
          cases front with
          | nil =>
              rcases List.cons.inj hcut with ⟨rfl, hrest⟩
              exact absurd (congrArg List.head? hrest) (h.head_ne rfl)
          | cons d front => exact ih h.tail front back (List.cons.inj hcut).2
      | reference name hname =>
          -- the cut is behind the reference, or the closing brace of it is behind the cut
          rcases List.append_eq_append_iff.1 hcut with ⟨own, -, hrest⟩ | ⟨own, hown, hrest⟩
          · exact ih h.tail own back hrest
          · have hbrace : (('$' :: '\x7b' :: name) ++ ['\x7d']).getLast? = some '\x7d' :=
              List.getLast?_concat
            have hclosing : own ≠ [] → '\x7d' ∈ own := by
              intro hne
              refine List.mem_of_getLast? ?_
              rw [← List.getLast?_append_of_ne_nil front hne, ← hown]
              exact hbrace
            cases own with
            | nil => exact ih h.tail [] back hrest.symm
            | cons c own =>
                have hmem : '\x7d' ∈ '$' :: '\x7b' :: back :=
                  hrest ▸ List.mem_append_left _ (hclosing (List.cons_ne_nil c own))
                simpa using hmem

/-- The texts that fall into pieces are the complete ones. -/
theorem complete_iff : Complete cs ↔ ∃ pieces, InPieces cs pieces :=
  ⟨Complete.exists_pieces, fun ⟨_, hspelled, hapart⟩ => hspelled ▸ hapart.complete⟩

/-! ## Expansion -/

/-- A dollar sign that stands for itself at the end of pieces ends their characters. -/
theorem getLast_spelling (h : pieces.getLast? = some (.plain '$')) :
    (spelling pieces).getLast? = some '$' := by
  rcases List.getLast?_eq_some_iff.1 h with ⟨front, rfl⟩
  simp [spelling, Piece.chars]

/-- Pieces are expanded one by one, in front of whatever does not make a reference with their
end. -/
theorem expandList_spelling_append (h : Apart pieces) (hjoin : ¬Joins (spelling pieces) rest) :
    expandList lookup (spelling pieces ++ rest) =
      meaning lookup pieces ++ expandList lookup rest := by
  have hlast : pieces.getLast? = some (.plain '$') → rest.head? ≠ some '\x7b' :=
    fun hdollar hbrace => hjoin ⟨getLast_spelling hdollar, hbrace⟩
  clear hjoin
  induction pieces with
  | nil => rfl
  | cons p pieces ih =>
      have hmore := ih h.tail fun hdollar => hlast (by rw [List.getLast?_cons, hdollar]; rfl)
      cases p with
      | plain c =>
          have hstays : c = '$' → (spelling pieces ++ rest).head? ≠ some '\x7b' := by
            rintro rfl
            cases hpieces : pieces with
            | nil => exact hlast (by rw [hpieces]; rfl)
            | cons q more =>
                have hhead := h.head_ne rfl
                rw [hpieces] at hhead
                cases q <;> exact hhead
          rw [spelling_cons, meaning_cons, Piece.chars, Piece.value, List.append_assoc,
            List.singleton_append, expandList_cons hstays, hmore]
          rfl
      | reference name hname =>
          have hchars : spelling (.reference name hname :: pieces) ++ rest =
              '$' :: '\x7b' :: (name ++ '\x7d' :: (spelling pieces ++ rest)) := by
            simp [Piece.chars]
          rw [hchars, expandList_reference hname, hmore, meaning_cons, List.append_assoc]
          rfl

/-- A text of pieces becomes what they stand for. -/
theorem InPieces.expandList_eq (h : InPieces cs pieces) :
    expandList lookup cs = meaning lookup pieces := by
  have hend : ¬Joins (spelling pieces) [] := fun hjoin => nomatch hjoin.2
  have hexpanded : expandList lookup (spelling pieces ++ []) =
      meaning lookup pieces ++ expandList lookup [] := expandList_spelling_append h.apart hend
  rwa [expandList, List.append_nil, List.append_nil, h.spelled] at hexpanded

/-- A complete text is expanded on its own, in front of whatever does not make a reference with
its end. -/
theorem Complete.expandList_append (h : Complete cs) (hjoin : ¬Joins cs rest) :
    expandList lookup (cs ++ rest) = expandList lookup cs ++ expandList lookup rest := by
  rcases h.exists_pieces with ⟨pieces, hpieces⟩
  rw [← hpieces.spelled] at hjoin
  rw [hpieces.expandList_eq, ← hpieces.spelled]
  exact expandList_spelling_append hpieces.apart hjoin

/-- A complete text is expanded piece by piece: it falls into pieces in exactly one way, and becomes
what they stand for.  So it is expanded on its own in front of any other text, unless a dollar sign
at its end and a brace make a reference, and a dollar sign without a brace stays behind it, in front
of a reference as well. -/
theorem expands_piecewise {text : String} (h : Complete text.toList) :
    (∃! pieces, InPieces text.toList pieces) ∧
    (∀ pieces, InPieces text.toList pieces →
      ∀ lookup, (expandVariables lookup text).toList = meaning lookup pieces) ∧
    (∀ more : String, ¬Joins text.toList more.toList → ∀ lookup,
      expandVariables lookup (text ++ more) =
        expandVariables lookup text ++ expandVariables lookup more) ∧
    ∀ more : String, more.toList.head? ≠ some '\x7b' → ∀ lookup,
      expandVariables lookup (text ++ "$" ++ more) =
        expandVariables lookup text ++ "$" ++ expandVariables lookup more := by
  refine ⟨?_, fun pieces hpieces lookup => ?_, fun more hjoin lookup => ?_,
    fun more hmore lookup => ?_⟩
  · rcases h.exists_pieces with ⟨pieces, hpieces⟩
    refine ⟨pieces, hpieces, fun other hother => ?_⟩
    exact eq_of_spelling_eq hother.apart hpieces.apart (hother.spelled.trans hpieces.spelled.symm)
  · rw [expandVariables, String.toList_ofList, hpieces.expandList_eq]
  · apply String.toList_injective
    simp [expandVariables, h.expandList_append hjoin]
  · have hjoin : ¬Joins text.toList ('$' :: more.toList) := fun hjoin =>
      absurd (Option.some.inj hjoin.2) (by decide)
    have hstays : expandList lookup ('$' :: more.toList) = '$' :: expandList lookup more.toList :=
      expandList_cons fun _ => hmore
    apply String.toList_injective
    simp [expandVariables, h.expandList_append hjoin, hstays]

/-! ### Dollar signs around references -/

/-- A text that begins and ends with a dollar sign, and has a name with an open reference in it. -/
def dollars : String := "$$\x7bHOST\x7d:$\x7bA$\x7bB\x7d$"

/-- Its pieces. -/
def dollarPieces : List Piece :=
  [.plain '$', .reference "HOST".toList (by decide), .plain ':',
    .reference "A$\x7bB".toList (by decide), .plain '$']

/-- A variable whose value looks like a reference. -/
def hostVariable : String → Option String
  | "HOST" => some "$\x7bX\x7d"
  | _ => none

/-- The value is not expanded again, and the dollar signs stay, the last one also in front of a
further reference. -/
theorem expands_piecewise_of_dollars :
    Complete dollars.toList ∧
    (expandVariables hostVariable dollars).toList = "$$\x7bX\x7d:$".toList ∧
    expandVariables hostVariable (dollars ++ "$\x7bHOST\x7d") =
      expandVariables hostVariable dollars ++ expandVariables hostVariable "$\x7bHOST\x7d" := by
  have hpieces : InPieces dollars.toList dollarPieces := ⟨by decide, by decide⟩
  have hcomplete : Complete dollars.toList := complete_iff.2 ⟨_, hpieces⟩
  rcases expands_piecewise hcomplete with ⟨-, hmeaning, happend, -⟩
  refine ⟨hcomplete, ?_, happend _ ?_ _⟩
  · rw [hmeaning _ hpieces]
    decide
  · rintro ⟨-, hbrace⟩
    exact absurd hbrace (by decide)

/-! ## A reference that is not closed -/

/-- Without a closing brace all of a text is a name. -/
theorem takeName_of_not_mem (h : '\x7d' ∉ cs) : takeName cs = (cs, []) := by
  induction cs with
  | nil => rfl
  | cons c cs ih =>
      rcases not_or.1 (mt List.mem_cons.2 h) with ⟨hc, hcs⟩
      rw [takeName, if_neg (Ne.symm hc), ih hcs]

/-- Behind a complete text, all that follows an open reference is the name of a variable. -/
theorem Complete.expandList_unclosed {back : List Char} (h : Complete cs) (hback : '\x7d' ∉ back) :
    expandList lookup (cs ++ '$' :: '\x7b' :: back) =
      expandList lookup cs ++ ((lookup (String.ofList back)).getD "").toList := by
  have hjoin : ¬Joins cs ('$' :: '\x7b' :: back) := fun hjoin =>
    absurd (Option.some.inj hjoin.2) (by decide)
  have hname : expandList lookup ('$' :: '\x7b' :: back) =
      ((lookup (String.ofList back)).getD "").toList := by
    rw [expandList, takeName_of_not_mem hback, expandList, List.append_nil]
  rw [h.expandList_append hjoin, hname]

/-- Behind a complete text, an open reference and all that follows it is replaced by the value of
the variable whose name is all that follows.  So it is kept exactly if the variable of this name
holds it.  If there is no such variable, a document that ends in this way gives the settings of the
part before the reference, whatever else the document says. -/
theorem keeps_unclosed_iff {front back : String} (hfront : Complete front.toList)
    (hback : '\x7d' ∉ back.toList) (lookup : String → Option String) :
    expandVariables lookup (front ++ "$\x7b" ++ back) =
      expandVariables lookup front ++ (lookup back).getD "" ∧
    (expandVariables lookup (front ++ "$\x7b" ++ back) =
        expandVariables lookup front ++ "$\x7b" ++ back ↔
      lookup back = some ("$\x7b" ++ back)) ∧
    (lookup back = none →
      ofDocument lookup (front ++ "$\x7b" ++ back) = ofDocument lookup front) := by
  have hexpanded : expandVariables lookup (front ++ "$\x7b" ++ back) =
      expandVariables lookup front ++ (lookup back).getD "" := by
    apply String.toList_injective
    simp [expandVariables, hfront.expandList_unclosed hback]
  refine ⟨hexpanded, ?_, fun hunset => ?_⟩
  · rw [hexpanded, String.append_assoc, String.append_right_inj]
    cases lookup back with
    | none =>
        refine iff_of_false (fun hempty => ?_) (Option.some_ne_none _).symm
        exact absurd (congrArg String.toList hempty) (by simp)
    | some value => exact Option.some_inj.symm
  · rw [hunset, Option.getD_none, String.append_empty] at hexpanded
    rw [ofDocument, ofDocument, hexpanded]

/-! ### An open reference in a comment -/

/-- A text without dollar signs is complete. -/
theorem complete_of_not_mem (h : '$' ∉ cs) : Complete cs := by
  rintro front back rfl
  exact absurd (List.mem_append_right front List.mem_cons_self) h

/-- Settings with a comment that is not finished. -/
def commented : String := "public_key = \"k\"\n# behind "

/-- The end of the comment, and a further setting. -/
def uncommented : String := "HOST:80\nmax_queue = 8\n"

/-- An open reference in a comment takes the settings below with it: the gate starts, but with the
standard number of waiting frames. -/
theorem keeps_unclosed_iff_of_comment :
    Complete commented.toList ∧ '\x7d' ∉ uncommented.toList ∧
    expandVariables (fun _ => none) (commented ++ "$\x7b" ++ uncommented) ≠
      expandVariables (fun _ => none) commented ++ "$\x7b" ++ uncommented ∧
    (ofDocument (fun _ => none) (commented ++ "$\x7b" ++ uncommented)).map Settings.maxQueue =
      .ok Settings.standard.maxQueue := by
  have hfront : Complete commented.toList := complete_of_not_mem (by decide)
  have hback : '\x7d' ∉ uncommented.toList := by decide
  rcases keeps_unclosed_iff hfront hback fun _ => none with ⟨-, hkept, hunset⟩
  refine ⟨hfront, hback, mt hkept.1 nofun, ?_⟩
  rw [hunset rfl]
  exact Json.toOption_eq_some_iff.1 (by decide +kernel)

/-- What stands behind an open reference is not always kept. -/
theorem not_always_kept :
    ¬∀ (lookup : String → Option String) (front back : String), Complete front.toList →
      '\x7d' ∉ back.toList →
      expandVariables lookup (front ++ "$\x7b" ++ back) =
        expandVariables lookup front ++ "$\x7b" ++ back := by
  intro hkept
  have hsame := hkept (fun _ => none) "a" "b" (complete_of_not_mem (by decide)) (by decide)
  exact absurd hsame (by decide +kernel)

end Config
end Gatehouse
