import Custodian.Text.Basic

/-!
# Characters of XML

The classes of characters that XML 1.0 names.
-/

namespace Custodian.Xml

def isSpace (c : Char) : Bool :=
  c = ' ' || c = '\t' || c = '\n' || c = '\r'

/-- Whether a character may stand in a document. -/
def isAllowed (c : Char) : Bool :=
  if c.toNat < 0x20 then isSpace c else c.toNat ≠ 0xFFFE && c.toNat ≠ 0xFFFF

/-- The characters beyond ASCII that a name may begin with. -/
def nameStartRanges : List (Nat × Nat) :=
  [(0xC0, 0xD6), (0xD8, 0xF6), (0xF8, 0x2FF), (0x370, 0x37D), (0x37F, 0x1FFF), (0x200C, 0x200D),
    (0x2070, 0x218F), (0x2C00, 0x2FEF), (0x3001, 0xD7FF), (0xF900, 0xFDCF), (0xFDF0, 0xFFFD),
    (0x10000, 0xEFFFF)]

/-- The further characters beyond ASCII that may stand in a name. -/
def nameRestRanges : List (Nat × Nat) :=
  [(0xB7, 0xB7), (0x300, 0x36F), (0x203F, 0x2040)]

/-- Whether a name may begin with a character. -/
def isNameStart (c : Char) : Bool :=
  c.isAlpha || c = ':' || c = '_' || Text.isInRanges nameStartRanges c

/-- Whether a character may stand in a name. -/
def isNameChar (c : Char) : Bool :=
  isNameStart c || c.isDigit || c = '-' || c = '.' || Text.isInRanges nameRestRanges c

end Custodian.Xml
