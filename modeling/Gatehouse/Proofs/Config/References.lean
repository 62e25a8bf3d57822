import Gatehouse.Config.Expansion
import Gatehouse.Proofs.Toml.Spelling

/-!
# What stands between references

A text is searched for references from its beginning.  What stands in a text behind complete
references, and holds none itself, is left as it is.

Main results:

- Theorem {lit}`expandList_append`: a front part with complete references is expanded on its own.
- Theorem {lit}`expandVariables_token`: a string without references stays.
-/

namespace Gatehouse
namespace Config

variable {lookup : String → Option String}

/-- Whether every reference in a text is closed, and none begins at its end. -/
inductive Closed : List Char → Prop where
  | nil : Closed []
  | plain {c : Char} {cs : List Char} (hc : c ≠ '$') (h : Closed cs) : Closed (c :: cs)
  | dollar {c : Char} {cs : List Char} (hc : c ≠ '\x7b') (h : Closed (c :: cs)) :
      Closed ('$' :: c :: cs)
  | reference {name cs : List Char} (hname : '\x7d' ∉ name) (h : Closed cs) :
      Closed ('$' :: '\x7b' :: (name ++ '\x7d' :: cs))

/-- A text without dollar signs has no references. -/
theorem closed_of_not_mem {cs : List Char} (h : '$' ∉ cs) : Closed cs := by
  induction cs with
  | nil => exact .nil
  | cons c cs ih =>
      rcases not_or.1 (mt List.mem_cons.2 h) with ⟨hc, hcs⟩
      exact .plain (Ne.symm hc) (ih hcs)

/-- The name of a reference ends at the first closing brace. -/
theorem takeName_of_closed {name : List Char} (h : '\x7d' ∉ name) (rest : List Char) :
    takeName (name ++ '\x7d' :: rest) = (name, rest) := by
  induction name with
  | nil => rfl
  | cons c name ih =>
      rcases not_or.1 (mt List.mem_cons.2 h) with ⟨hc, hname⟩
      rw [List.cons_append, takeName, if_neg (Ne.symm hc), ih hname]

/-- A character where no reference begins stays. -/
theorem expandList_cons {c : Char} {rest : List Char}
    (h : c = '$' → rest.head? ≠ some '\x7b') :
    expandList lookup (c :: rest) = c :: expandList lookup rest := by
  rw [expandList.eq_def]
  split
  · contradiction
  · rename_i hsame
    rcases List.cons.inj hsame with ⟨rfl, rfl⟩
    exact absurd rfl (h rfl)
  · rename_i hsame
    rcases List.cons.inj hsame with ⟨rfl, rfl⟩
    rfl

/-- A reference is replaced by the value of its variable. -/
theorem expandList_reference {name : List Char} (h : '\x7d' ∉ name) (rest : List Char) :
    expandList lookup ('$' :: '\x7b' :: (name ++ '\x7d' :: rest)) =
      ((lookup (String.ofList name)).getD "").toList ++ expandList lookup rest := by
  rw [expandList, takeName_of_closed h]

/-- A front part with complete references is expanded on its own. -/
theorem expandList_append {front : List Char} (h : Closed front) (rest : List Char) :
    expandList lookup (front ++ rest) = expandList lookup front ++ expandList lookup rest := by
  induction h with
  | nil => rw [expandList, List.nil_append, List.nil_append]
  | plain hc _ ih =>
      rw [List.cons_append, expandList_cons (absurd · hc), expandList_cons (absurd · hc), ih]
      rfl
  | dollar hc _ ih =>
      have hopen : ∀ cs, (_ :: cs : List Char).head? ≠ some '\x7b' :=
        fun _ hsame => hc (Option.some.inj hsame)
      rw [List.cons_append, List.cons_append, expandList_cons fun _ => hopen _,
        expandList_cons fun _ => hopen _, ← List.cons_append, ih]
      rfl
  | reference hname _ ih =>
      rw [List.cons_append, List.cons_append, List.append_assoc, List.cons_append,
        expandList_reference hname, expandList_reference hname, ih, List.append_assoc]

/-- What refers to nothing stays, in front of anything but an opening brace. -/
theorem expandList_of_not_refers {token rest : List Char} (h : ¬Toml.Refers token)
    (hrest : rest.head? ≠ some '\x7b') :
    expandList lookup (token ++ rest) = token ++ expandList lookup rest := by
  induction token with
  | nil => rfl
  | cons c token ih =>
      have htoken : ¬Toml.Refers token := fun hrefers =>
        h (hrefers.trans (List.suffix_cons c token).isInfix)
      have hstay : c = '$' → (token ++ rest).head? ≠ some '\x7b' := by
        rintro rfl
        cases token with
        | nil => exact hrest
        | cons d token =>
            intro hsame
            rw [Option.some.inj hsame] at h
            exact h ⟨[], token, rfl⟩
      rw [List.cons_append, expandList_cons hstay, ih htoken]
      rfl

/-- A text that refers to nothing stays as it is. -/
theorem expandVariables_of_not_refers {text : String} (h : ¬Toml.Refers text.toList) :
    expandVariables lookup text = text := by
  have hlist : expandList lookup (text.toList ++ []) = text.toList ++ expandList lookup [] :=
    expandList_of_not_refers h nofun
  rw [List.append_nil, expandList, List.append_nil] at hlist
  rw [expandVariables, hlist, String.ofList_toList]

/-- A string at the end of a line whose text refers to nothing stays as it is, behind complete
references. -/
theorem expandVariables_token {front back token text : String} (hfront : Closed front.toList)
    (htoken : Toml.Spells token text) (htext : ¬Toml.Refers text.toList) :
    expandVariables lookup (front ++ token ++ "\n" ++ back) =
      expandVariables lookup front ++ token ++ "\n" ++ expandVariables lookup back := by
  have hstays : ¬Toml.Refers token.toList := mt htoken.refers htext
  have hnewline : ('\n' :: back.toList).head? ≠ some '\x7b' := by simp
  have hline : expandList lookup ('\n' :: back.toList) = '\n' :: expandList lookup back.toList :=
    expandList_cons fun hdollar => absurd hdollar (by decide)
  have hchars : (front ++ token ++ "\n" ++ back).toList =
      front.toList ++ (token.toList ++ '\n' :: back.toList) := by
    simp
  rw [expandVariables, hchars, expandList_append hfront, expandList_of_not_refers hstays hnewline,
    hline]
  apply String.toList_injective
  simp [expandVariables]

end Config
end Gatehouse
