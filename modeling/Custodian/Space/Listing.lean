import Custodian.Json.Value
import Custodian.Text.Blank

/-!
# Listings

A listing names what a directory holds: its subdirectories, all its entries, and the sizes of those
that are files. A listing is also read from the lines a remote lister prints, one entry a line:
mode, size, date, time and name, with blanks between them. Lines of another form are noise and
hidden entries are left out.
-/

namespace Custodian

/-- What a directory holds. -/
structure Listing where
  /-- The names of the subdirectories, in order. -/
  directories : List Text
  /-- All names, in order. -/
  entries : List Text
  /-- The sizes of the files. -/
  sizes : Table Nat
deriving DecidableEq

namespace Listing

def empty : Listing := ⟨[], [], []⟩

open Json (Value)

def sizeName : Text := "size"

def toJson (l : Listing) : Value :=
  .object [
    ("directories", .array (l.directories.map .string)),
    ("entries", .array (l.entries.map .string)),
    ("properties", .object (l.sizes.map fun (n, size) =>
      (n, .object [(sizeName, .ofNat size)])))]

/-! ### Printed lines -/

/-- An entry of a printed listing. -/
structure Line where
  mode : Text
  size : Text
  name : Text
deriving DecidableEq

/-- Cuts off one field and the blanks after it. -/
def field? (line : Text) : Option (Text × Text) :=
  (Text.cutAtBlank? line).map fun (head, rest) => (head, Text.trimBlanksStart rest)

/-- Reads a line; the name is all that follows the fourth field. -/
def Line.ofText? (line : Text) : Option Line := do
  let (mode, rest) ← field? (Text.trimBlanksStart line)
  let (size, rest) ← field? rest
  let (_date, rest) ← field? rest
  let (_time, name) ← field? rest
  if name.isEmpty then none else return ⟨mode, size, name⟩

namespace Line

def isHidden (l : Line) : Bool :=
  l.name.head? = some '.'

/-- Whether the entry is a directory. -/
def isDirectory (l : Line) : Bool :=
  l.mode.head? = some 'd'

def sizeLimit : Nat := Nat.pow 2 64

/-- The size, written in digits with commas anywhere between them and perhaps a plus sign. -/
def size? (l : Line) : Option Nat :=
  let digits := l.size.filter (· ≠ ',')
  let digits := match digits with
    | '+' :: rest => rest
    | digits => digits
  (Text.toNat? 10 digits).filter (· < sizeLimit)

end Line

/-- The entries that a printed listing shows. -/
def printedLines (output : Text) : List Line :=
  ((Text.lines output).filterMap Line.ofText?).filter (!·.isHidden)

def ofLines (lines : List Line) : Listing where
  directories := Text.sort ((lines.filter (·.isDirectory)).map (·.name))
  entries := Text.sort (lines.map (·.name))
  sizes := Table.ofList <| (lines.filter (!·.isDirectory)).filterMap fun l =>
    l.size?.map fun size => (l.name, size)

/-- The listing that a lister has printed. -/
def ofPrinted (output : Text) : Listing :=
  ofLines (printedLines output)

end Listing

end Custodian
