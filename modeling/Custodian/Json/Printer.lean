import Custodian.Json.Value

/-!
# Writing JSON

One printer serves both layouts. The compact one writes nothing between the tokens; the wide one
starts a line for every item, indented by two blanks a level. An empty array or object is written
without a line of its own in both.
-/

namespace Custodian.Json

/-! ### Strings -/

/-- The escape of a character of a string: quotes, backslashes and the characters below U+0020
have one, all others stand for themselves. -/
def escapeChar (c : Char) : Text :=
  if c = '"' then ['\\', '"']
  else if c = '\\' then ['\\', '\\']
  else if c = '\x08' then ['\\', 'b']
  else if c = '\t' then ['\\', 't']
  else if c = '\n' then ['\\', 'n']
  else if c = '\x0c' then ['\\', 'f']
  else if c = '\r' then ['\\', 'r']
  else if c.toNat < 0x20 then
    ['\\', 'u', '0', '0', Nat.digitChar (c.toNat / 16), Nat.digitChar (c.toNat % 16)]
  else [c]

def quote (t : Text) : Text :=
  '"' :: t.flatMap escapeChar ++ ['"']

/-! ### Values -/

/-- What stands between tokens. -/
structure Layout where
  /-- What stands before an item, or before the closing bracket, at a depth of nesting. -/
  lineBreak : Nat → Text
  /-- What stands between a name and its value. -/
  colon : Text

def Layout.compact : Layout where
  lineBreak _ := []
  colon := [':']

/-- Each item on a line of its own, indented by two blanks a level. -/
def Layout.wide : Layout where
  lineBreak depth := '\n' :: List.replicate (2 * depth) ' '
  colon := [':', ' ']

mutual

/-- The text of a value at a depth of nesting. -/
def write (layout : Layout) (depth : Nat) : Value → Text
  | .null => ['n', 'u', 'l', 'l']
  | .bool true => ['t', 'r', 'u', 'e']
  | .bool false => ['f', 'a', 'l', 's', 'e']
  | .number n => n.write
  | .string t => quote t
  | .array [] => ['[', ']']
  | .array (item :: items) =>
    '[' :: layout.lineBreak (depth + 1) ++ write layout (depth + 1) item ++
      writeItems layout (depth + 1) items ++ layout.lineBreak depth ++ [']']
  | .object [] => ['{', '}']
  | .object ((name, value) :: members) =>
    '{' :: layout.lineBreak (depth + 1) ++ quote name ++ layout.colon ++
      write layout (depth + 1) value ++ writeMembers layout (depth + 1) members ++
      layout.lineBreak depth ++ ['}']

/-- The text of the items after the first one. -/
def writeItems (layout : Layout) (depth : Nat) : List Value → Text
  | [] => []
  | item :: items =>
    ',' :: layout.lineBreak depth ++ write layout depth item ++ writeItems layout depth items

/-- The text of the members after the first one. -/
def writeMembers (layout : Layout) (depth : Nat) : List (Text × Value) → Text
  | [] => []
  | (name, value) :: members =>
    ',' :: layout.lineBreak depth ++ quote name ++ layout.colon ++ write layout depth value ++
      writeMembers layout depth members

end

/-- The text of a value without blanks. -/
def Value.compact (v : Value) : Text :=
  write .compact 0 v

/-- The text of a value, an item a line. -/
def Value.wide (v : Value) : Text :=
  write .wide 0 v

end Custodian.Json
