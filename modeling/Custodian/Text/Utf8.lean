import Custodian.Text.Basic

/-!
# UTF-8

A text is encoded character by character. Bytes are decoded by a machine that reads one byte at a
time and knows which bytes may come next. A sequence that breaks off is one ill-formed part, and
the byte that broke it is read anew; so each ill-formed part is the longest beginning of a
character that stands there, or a single byte.

Strict decoding refuses ill-formed parts, forgiving decoding writes U+FFFD for each.
-/

namespace Custodian

abbrev Bytes := List UInt8

namespace Utf8

def encodeChar (c : Char) : Bytes :=
  let n := c.toNat
  if n < 0x80 then [n.toUInt8]
  else if n < 0x800 then [(0xC0 + n / 64).toUInt8, (0x80 + n % 64).toUInt8]
  else if n < 0x10000 then
    [(0xE0 + n / 4096).toUInt8, (0x80 + n / 64 % 64).toUInt8, (0x80 + n % 64).toUInt8]
  else
    [(0xF0 + n / 262144).toUInt8, (0x80 + n / 4096 % 64).toUInt8, (0x80 + n / 64 % 64).toUInt8,
      (0x80 + n % 64).toUInt8]

def encode (t : Text) : Bytes :=
  t.flatMap encodeChar

/-- How many bytes a text takes. -/
def size (t : Text) : Nat :=
  (encode t).length

/-! ### Decoding -/

/-- A character of which some bytes have been read. -/
structure Pending where
  /-- The bits read so far. -/
  value : Nat
  /-- How many bytes are still to come, less one. -/
  left : Nat
  /-- The least byte that may come next. -/
  least : Nat
  /-- The greatest byte that may come next. -/
  greatest : Nat

/-- What a decoder has read: a character, or `none` for an ill-formed part. -/
abbrev Item := Option Char

/-- Reads the first byte of a character. -/
def start (b : UInt8) : List Item × Option Pending :=
  let n := b.toNat
  if n < 0x80 then ([some (Char.ofNat n)], none)
  else if 0xC2 ≤ n ∧ n ≤ 0xDF then ([], some ⟨n - 0xC0, 0, 0x80, 0xBF⟩)
  else if n = 0xE0 then ([], some ⟨0, 1, 0xA0, 0xBF⟩)
  else if n = 0xED then ([], some ⟨0xD, 1, 0x80, 0x9F⟩)
  else if 0xE1 ≤ n ∧ n ≤ 0xEF then ([], some ⟨n - 0xE0, 1, 0x80, 0xBF⟩)
  else if n = 0xF0 then ([], some ⟨0, 2, 0x90, 0xBF⟩)
  else if 0xF1 ≤ n ∧ n ≤ 0xF3 then ([], some ⟨n - 0xF0, 2, 0x80, 0xBF⟩)
  else if n = 0xF4 then ([], some ⟨4, 2, 0x80, 0x8F⟩)
  else ([none], none)

def step : Option Pending → UInt8 → List Item × Option Pending
  | none, b => start b
  | some p, b =>
    let n := b.toNat
    if p.least ≤ n ∧ n ≤ p.greatest then
      let value := p.value * 64 + n % 64
      match p.left with
      | 0 => ([some (Char.ofNat value)], none)
      | left + 1 => ([], some ⟨value, left, 0x80, 0xBF⟩)
    else
      let (items, next) := start b
      (none :: items, next)

/-- Reads bytes from a state on; a character that the end breaks off is ill-formed. -/
def items : Option Pending → Bytes → List Item
  | none, [] => []
  | some _, [] => [none]
  | state, b :: bytes =>
    let (read, next) := step state b
    read ++ items next bytes

/-- The text that the bytes encode, if they are well-formed. -/
def decode? (bytes : Bytes) : Option Text :=
  (items none bytes).mapM id

/-- The text that the bytes encode, with U+FFFD for each ill-formed part. -/
def decodeForgiving (bytes : Bytes) : Text :=
  (items none bytes).map (·.getD '\uFFFD')

end Utf8

end Custodian
