import Gatehouse.Text.Printable

/-!
# Quoted texts for readers

A value that is reported to a person stands in double quotes, with a backslash
before quotes and backslashes, short escapes for the common controls, and the code
point in braces for every other character without a glyph of its own.
-/

namespace Gatehouse
namespace Text

/-- The hexadecimal digits of a number, most significant first. -/
def hexList (n : Nat) : List Char :=
  if n < 16 then [hexChar n] else hexList (n / 16) ++ [hexChar (n % 16)]
termination_by n

/-- A character as it stands in a quoted text. -/
def quotedChar (c : Char) : List Char :=
  if c = '"' then ['\\', '"']
  else if c = '\\' then ['\\', '\\']
  else if c = '\n' then ['\\', 'n']
  else if c = '\r' then ['\\', 'r']
  else if c = '\t' then ['\\', 't']
  else if c.toNat = 0 then ['\\', '0']
  else if isPrintable c then [c]
  else ['\\', 'u', '\x7b'] ++ hexList c.toNat ++ ['\x7d']

/-- A text in double quotes, as it is reported. -/
def quoted (s : String) : String :=
  String.ofList ('"' :: s.toList.flatMap quotedChar ++ ['"'])

end Text
end Gatehouse
