/-!
# References to variables

A configuration text may refer to variables.  A reference is replaced by the value of
its variable, or by nothing if there is none; values are not searched for references.
-/

namespace Gatehouse
namespace Config

/-- What follows the first closing brace, and the name before it.  Without a brace all is
the name. -/
def takeName : List Char → List Char × List Char
  | [] => ([], [])
  | c :: cs =>
      if c = '\x7d' then ([], cs)
      else
        let (name, rest) := takeName cs
        (c :: name, rest)

theorem takeName_length (cs : List Char) : (takeName cs).2.length ≤ cs.length := by
  induction cs with
  | nil => exact Nat.le_refl _
  | cons c cs ih =>
      unfold takeName
      split
      · exact Nat.le_succ _
      · exact Nat.le_succ_of_le ih

/-- Replaces the references in a list of characters. -/
def expandList (lookup : String → Option String) : List Char → List Char
  | [] => []
  | '$' :: '\x7b' :: rest =>
      let name := takeName rest
      ((lookup (String.ofList name.1)).getD "").toList ++ expandList lookup name.2
  | c :: rest => c :: expandList lookup rest
termination_by cs => cs.length
decreasing_by
  · have := takeName_length rest
    simp only [List.length_cons]
    omega
  · simp

/-- Replaces the references in a text. -/
def expandVariables (lookup : String → Option String) (text : String) : String :=
  String.ofList (expandList lookup text.toList)

/-- The names of the references in a list of characters. -/
def namesIn : List Char → List String
  | [] => []
  | '$' :: '\x7b' :: rest =>
      let name := takeName rest
      String.ofList name.1 :: namesIn name.2
  | _ :: rest => namesIn rest
termination_by cs => cs.length
decreasing_by
  · have := takeName_length rest
    simp only [List.length_cons]
    omega
  · simp

/-- Replaces each backslash before an n, and the n, by a newline. -/
def unescapeList : List Char → List Char
  | '\\' :: 'n' :: rest => '\n' :: unescapeList rest
  | c :: rest => c :: unescapeList rest
  | [] => []

/-- A text whose newlines were written as a backslash and an n. -/
def unescapeNewlines (text : String) : String := String.ofList (unescapeList text.toList)

end Config
end Gatehouse
