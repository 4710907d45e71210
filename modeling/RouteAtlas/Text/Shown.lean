/-
Module: RouteAtlas.Text.Shown
Purpose: The quoted form in which messages show a text.
Main exports: Text.shown
-/
import RouteAtlas.Text.Unprinted

namespace RouteAtlas.Text

/-- A character by its code point in lowercase hexadecimal, without padding. -/
def codePointEscape (c : Char) : List Char :=
  "\\u\x7b".toList ++ Nat.toDigits 16 c.toNat ++ ['\x7d']

/-- One character of a shown text.  A quote and a backslash are escaped, the
usual controls have letters, and what is not printed is given by its code
point. -/
def shownChar (c : Char) : List Char :=
  if c = '"' then ['\\', '"']
  else if c = '\\' then ['\\', '\\']
  else if c = '\n' then ['\\', 'n']
  else if c = '\r' then ['\\', 'r']
  else if c = '\t' then ['\\', 't']
  else if c.toNat = 0 then ['\\', '0']
  else if c.toNat < 0x20 then codePointEscape c
  else if c.toNat < 0x7F then [c]
  else if isUnprinted c then codePointEscape c
  else [c]

/-- A text in double quotes, on one line and with every character visible. -/
def shown (s : String) : String :=
  String.ofList ('"' :: s.toList.flatMap shownChar ++ ['"'])

end RouteAtlas.Text
