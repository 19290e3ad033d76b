import Custodian.Text.Unprintable

/-!
# Quoted texts

A quoted text stands between quotation marks and shows every character it holds: quotation marks,
backslashes, line ends, tabs and the null character by an escape of one letter, and characters that
cannot be seen by their code points in hexadecimal digits.
-/

namespace Custodian.Text

/-- The hexadecimal digits of a code point, in braces. -/
def codePointEscape (c : Char) : Text :=
  ['\\', 'u', '\x7b'] ++ Nat.toDigits 16 c.toNat ++ ['\x7d']

/-- The form of a character in a quoted text. -/
def quotedChar (c : Char) : Text :=
  if c = '\x00' then ['\\', '0']
  else if c = '\t' then ['\\', 't']
  else if c = '\r' then ['\\', 'r']
  else if c = '\n' then ['\\', 'n']
  else if c = '"' then ['\\', '"']
  else if c = '\\' then ['\\', '\\']
  else if isExtending c || isUnprintable c then codePointEscape c
  else [c]

def quoted (t : Text) : Text :=
  '"' :: t.flatMap quotedChar ++ ['"']

end Custodian.Text
