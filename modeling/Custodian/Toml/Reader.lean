import Custodian.Toml.Scalar

/-!
# Reading TOML

A document is a sequence of lines: pairs of a key and a value, headers, comments and empty lines. A
value may span lines. Arrays and inline tables are nested no deeper than a fixed depth, and keys have
no more parts than that.
-/

namespace Custodian.Toml

/-! ### Keys -/

/-- How deep values may be nested, and how many parts a key may have. -/
def greatestDepth : Nat := 79

/-- Whether a character may stand in a key without quotes. -/
def isBare (c : Char) : Bool :=
  c.isAlphanum || c = '-' || c = '_'

/-- Reads one part of a key. -/
def keyPart? (t : Text) : Option (Text × Text) :=
  match t with
  | '"' :: t => basic? t
  | '\'' :: t => literal? t
  | t =>
    let part := t.takeWhile isBare
    if part.isEmpty then none else some (part, t.dropWhile isBare)

/-- Reads the parts of a key, blanks around each. -/
def keyParts? (t : Text) : Option (List Text × Text) := do
  let (part, rest) ← keyPart? (t.dropWhile isWhite)
  match rest.dropWhile isWhite with
  | '.' :: rest =>
    if _h : rest.length < t.length then
      let (parts, rest) ← keyParts? rest
      return (part :: parts, rest)
    else none
  | rest => return ([part], rest)
termination_by t.length

def key? (t : Text) : Option (List Text × Text) :=
  (keyParts? t).filter fun (parts, _) => parts.length ≤ greatestDepth

/-! ### Values -/

def skipComment (t : Text) : Text :=
  t.dropWhile isPlain

/-- What follows the blanks, comments and line ends at the beginning. -/
def skipGap (t : Text) : Text :=
  match skipLines t with
  | '#' :: rest =>
    let next := skipComment rest
    if _h : next.length < t.length then skipGap next else next
  | rest => rest
termination_by t.length

/-- Reads the items of an array after its opening bracket or a comma. -/
def items? (value? : Text → Option (Item × Text)) (t : Text) : Option (List Item × Text) :=
  match skipGap t with
  | ']' :: rest => some ([], rest)
  | start => do
    let (item, rest) ← value? start
    match skipGap rest with
    | ']' :: rest => return ([item], rest)
    | ',' :: rest =>
      if _h : rest.length < t.length then
        let (items, rest) ← items? value? rest
        return (item :: items, rest)
      else none
    | _ => none
termination_by t.length

/-- Reads a key, the equals sign and a value. -/
def pair? (value? : Text → Option (Item × Text)) (t : Text) :
    Option ((List Text × Item) × Text) := do
  let (key, rest) ← key? t
  let rest ← Text.after? ['='] rest
  let (value, rest) ← value? (rest.dropWhile isWhite)
  return ((key, value), rest.dropWhile isWhite)

/-- Reads the pairs of an inline table, at least one. -/
def pairs? (value? : Text → Option (Item × Text)) (t : Text) :
    Option (List (List Text × Item) × Text) := do
  let (pair, rest) ← pair? value? t
  match rest with
  | '}' :: rest => return ([pair], rest)
  | ',' :: rest =>
    if _h : rest.length < t.length then
      let (pairs, rest) ← pairs? value? rest
      return (pair :: pairs, rest)
    else none
  | _ => none
termination_by t.length

/-- Reads an inline table after its opening brace. -/
def inlineTable? (value? : Text → Option (Item × Text)) (t : Text) : Option (Item × Text) :=
  match t.dropWhile isWhite with
  | '}' :: rest => some (.table .inline [], rest)
  | _ => do
    let (pairs, rest) ← pairs? value? t
    return (← Item.ofPairs? pairs, rest)

/-- Reads a value that is neither an array nor an inline table. -/
def scalar? (t : Text) : Option (Item × Text) :=
  ((string? t).map fun (s, rest) => (.string s, rest)) <|>
    ((Text.after? "true" t).map fun rest => (.bool true, rest)) <|>
    ((Text.after? "false" t).map fun rest => (.bool false, rest)) <|>
    ((time? t).map fun rest => (.time, rest)) <|>
    ((float? t <|> integer? t).map fun rest => (.number, rest))

/-- Reads a value in which arrays and inline tables are nested at most `depth` deep. -/
def value? : (depth : Nat) → Text → Option (Item × Text)
  | depth + 1, '[' :: t => (items? (value? depth) t).map fun (items, rest) => (.array items, rest)
  | depth + 1, '{' :: t => inlineTable? (value? depth) t
  | _, t => scalar? t

/-! ### Lines -/

/-- A line that says something. -/
inductive Line where
  | pair (key : List Text) (value : Item)
  | header (path : List Text) (repeated : Bool)

/-- What follows the rest of a line: blanks, perhaps a comment, and a line end or the end. -/
def restOfLine? (t : Text) : Option Text :=
  let rest := match t.dropWhile isWhite with
    | '#' :: rest => skipComment rest
    | rest => rest
  if rest.isEmpty then some [] else lineEnd? rest

/-- Reads a line that begins neither a comment nor a new line. -/
def line? (t : Text) : Option (Line × Text) :=
  match t with
  | '[' :: '[' :: t => do
    let (path, rest) ← key? t
    return (.header path true, ← restOfLine? (← Text.after? [']', ']'] rest))
  | '[' :: t => do
    let (path, rest) ← key? t
    return (.header path false, ← restOfLine? (← Text.after? [']'] rest))
  | t => do
    let ((key, value), rest) ← pair? (value? greatestDepth) t
    return (.pair key value, ← restOfLine? rest)

/-- The lines of a document that say something. -/
def lines? (t : Text) : Option (List Line) :=
  match t with
  | [] => some []
  | t =>
    match restOfLine? t with
    | some rest => if _h : rest.length < t.length then lines? rest else none
    | none => do
      let (line, rest) ← line? (t.dropWhile isWhite)
      if _h : rest.length < t.length then
        let lines ← lines? rest
        return line :: lines
      else none
termination_by t.length

/-! ### Documents -/

/-- The sections of some lines; the first pairs stand under the header that is given. -/
def sections (path : List Text) (repeated : Bool) (pairs : List (List Text × Item)) :
    List Line → List Item.Section
  | [] => [⟨path, repeated, pairs⟩]
  | .pair key value :: lines => sections path repeated (pairs ++ [(key, value)]) lines
  | .header next nextRepeated :: lines =>
    ⟨path, repeated, pairs⟩ :: sections next nextRepeated [] lines

/-- The table that a document writes; a mark of the byte order may stand in front of it. -/
def read? (t : Text) : Option Item := do
  let t := if t.head? = some '\uFEFF' then t.drop 1 else t
  let lines ← lines? t
  let root ← (sections [] false [] lines).foldlM Item.addSection? []
  return .table .header root

end Custodian.Toml
