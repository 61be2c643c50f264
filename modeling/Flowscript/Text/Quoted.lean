import Flowscript.Text.Printable

/-!
# Quoted text in messages

Messages show a piece of text between double quotes on one line: quotes and backslashes are
escaped, the common controls have letters, and every other character without a visible form of
its own is written as its code point in braces.
-/

namespace Flowscript.Text

/-- A number in hexadecimal, in lower case and without leading zeros. -/
def hex (n : Nat) : List Char :=
  Nat.toDigits 16 n

/-- A character as it stands inside quotes in a message. -/
def shownChar (c : Char) : List Char :=
  if c.toNat = 0 then ['\\', '0']
  else if c = '\t' then ['\\', 't']
  else if c = '\r' then ['\\', 'r']
  else if c = '\n' then ['\\', 'n']
  else if c = '\\' then ['\\', '\\']
  else if c = '"' then ['\\', '"']
  else if extendsGrapheme c || !isPrintable c then ['\\', 'u', '{'] ++ hex c.toNat ++ ['}']
  else [c]

/-- Text between double quotes, as a message shows it. -/
def shown (cs : List Char) : List Char :=
  '"' :: cs.flatMap shownChar ++ ['"']

end Flowscript.Text
