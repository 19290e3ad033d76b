import Custodian.Text.Utf8

/-!
# Quoted paths

A quoted path can stand in a URL. Slashes stay, a space becomes a plus sign, letters, digits and
`-_.~` stand for themselves, and every byte of any other character is a percent sign with two
hexadecimal digits.
-/

namespace Custodian.Url

/-- Whether a character stands for itself in every part of a URL. -/
def isUnreserved (c : Char) : Bool :=
  c.isAlphanum || c = '-' || c = '_' || c = '.' || c = '~'

def hexDigit (n : Nat) : Char :=
  (Nat.digitChar n).toUpper

/-- A percent sign and the two hexadecimal digits of a byte. -/
def escapeByte (b : UInt8) : Text :=
  ['%', hexDigit (b.toNat / 16), hexDigit (b.toNat % 16)]

/-- The quoted form of a character. -/
def quoteChar (c : Char) : Text :=
  if c = '/' then ['/']
  else if c = ' ' then ['+']
  else if isUnreserved c then [c]
  else (Utf8.encodeChar c).flatMap escapeByte

/-- The quoted form of a path. -/
def quote (path : Text) : Text :=
  path.flatMap quoteChar

end Custodian.Url
