import Custodian.Text.Basic

/-!
# Blank characters

The class of blanks is the property `White_Space` of Unicode. Trimming without further
qualification drops these.
-/

namespace Custodian.Text

/-- The characters with the property `White_Space`. -/
def isBlank (c : Char) : Bool :=
  let n := c.toNat
  (0x09 ≤ n && n ≤ 0x0D) || n == 0x20 || n == 0x85 || n == 0xA0 || n == 0x1680 ||
    (0x2000 ≤ n && n ≤ 0x200A) || n == 0x2028 || n == 0x2029 || n == 0x202F || n == 0x205F ||
    n == 0x3000

def trimBlanks (t : Text) : Text :=
  trim isBlank t

def trimBlanksStart (t : Text) : Text :=
  trimStart isBlank t

/-- Cuts at the first blank, which neither part keeps. -/
def cutAtBlank? : Text → Option (Text × Text)
  | [] => none
  | c :: t => if isBlank c then some ([], t) else (cutAtBlank? t).map fun (a, b) => (c :: a, b)

end Custodian.Text
