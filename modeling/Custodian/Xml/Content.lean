import Custodian.Xml.Token

/-!
# What texts in XML mean

In text and in attributes, an ampersand begins a reference to a character, by its number or by one of
five names. In text, a line end of any spelling means a line feed; characters that are referred to
are taken as they are, and so is the one character written right after such a reference.
In attributes, blanks of any kind mean a space.
-/

namespace Custodian.Xml

/-- A character of a text: written as itself, or referred to. -/
inductive Chunk where
  | written (c : Char)
  | referred (c : Char)

namespace Chunk

/-! ### References -/

/-- The characters that have a name of their own. -/
def named? (name : Text) : Option Char :=
  if name = "quot" then some '"'
  else if name = "amp" then some '&'
  else if name = "apos" then some '\''
  else if name = "lt" then some '<'
  else if name = "gt" then some '>'
  else none

/-- The character of a code point; U+FFFD for a number that is none. -/
def ofCodePoint (n : Nat) : Char :=
  if n.isValidChar then Char.ofNat n else '\uFFFD'

/-- The character that a number in digits of a base refers to. -/
def numbered? (base : Nat) (digits : Text) : Option Char := do
  let n ← Text.toNat? base digits
  let c := ofCodePoint n
  if n < Nat.pow 2 32 && isAllowed c then some c else none

/-- The character that the text between `&` and `;` refers to. -/
def target? (reference : Text) : Option Char :=
  match reference with
  | '#' :: 'x' :: digits => numbered? 16 digits
  | '#' :: digits => numbered? 10 digits
  | name => named? name

/-- The characters of a text. `pending` is what has been read of a reference, in reverse. -/
def scan? (pending : Option Text) : Text → Option (List Chunk)
  | [] => if pending.isSome then none else some []
  | c :: t =>
    match pending with
    | none =>
      if c = '&' then scan? (some []) t else (scan? none t).map (.written c :: ·)
    | some name =>
      if c = ';' then do
        let target ← target? name.reverse
        let chunks ← scan? none t
        return .referred target :: chunks
      else scan? (some (c :: name)) t

def ofText? (t : Text) : Option (List Chunk) :=
  scan? none t

end Chunk

/-! ### Line ends -/

/-- Adds a written character to what is there, in reverse. A carriage return becomes a line feed as soon
as another written character or the end follows, and swallows one line feed. -/
def addWritten (done : Text) (c : Char) (atEnd : Bool) : Text :=
  match done with
  | '\r' :: before =>
    if atEnd && c = '\r' then '\n' :: '\n' :: before
    else if c = '\n' then '\n' :: before
    else c :: '\n' :: before
  | _ => if atEnd && c = '\r' then '\n' :: done else c :: done

/-- The meaning of the characters of a text. `verbatim` tells whether a reference came just before. -/
def settle (done : Text) (verbatim : Bool) : List Chunk → Text
  | [] => done.reverse
  | .referred c :: chunks => settle (c :: done) true chunks
  | .written c :: chunks =>
    if verbatim then settle (c :: done) false chunks
    else settle (addWritten done c chunks.isEmpty) false chunks

/-- The meaning of a stretch of text. -/
def content? (t : Text) : Option Text :=
  (Chunk.ofText? t).map (settle [] false)

/-- The meaning of character data, in which nothing is a reference. -/
def dataContent (t : Text) : Text :=
  settle [] false (t.map .written)

/-- The meaning of the characters of an attribute. -/
def settleAttribute : List Chunk → Text
  | [] => []
  | .referred c :: chunks => c :: settleAttribute chunks
  | .written c :: chunks =>
    match c, chunks with
    | '\r', .written '\n' :: _ => settleAttribute chunks
    | _, _ => (if isSpace c then ' ' else c) :: settleAttribute chunks

/-- The meaning of the value of an attribute. -/
def attributeContent? (t : Text) : Option Text :=
  (Chunk.ofText? t).map settleAttribute

end Custodian.Xml
