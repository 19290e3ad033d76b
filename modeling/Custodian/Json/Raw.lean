import Custodian.Json.Token
import Custodian.Json.Value

/-!
# JSON texts as written

`Raw` is a value before anything about it is decided: objects keep repeated names, numerals are not
yet numbers, and strings may be without a text. Tokens are read by a machine with a stack of the
arrays and objects that are still open, so no depth of nesting is too great for it.

A raw value becomes a `Value` by `Raw.value?`, which refuses strings without a text, numbers
out of range and too much nesting, and settles repeated names.
-/

namespace Custodian.Json

/-- A value as it is written. -/
inductive Raw where
  | null
  | bool (b : Bool)
  | numeral (n : Numeral)
  | string (t : Option Text)
  | array (items : List Raw)
  | object (members : List (Option Text × Raw))

namespace Raw

/-! ### Reading -/

/-- An array or object that is still open, what it holds so far in reverse. -/
inductive Frame where
  | array (items : List Raw)
  | object (members : List (Option Text × Raw))
  | member (members : List (Option Text × Raw)) (name : Option Text)

/-- What may come next. -/
inductive Phase where
  /-- A value. -/
  | value
  /-- A value, or the end of an array that is empty so far. -/
  | firstItem
  /-- A name, or the end of an object that is empty so far. -/
  | firstName
  /-- A name. -/
  | name
  /-- The colon after a name. -/
  | colon
  /-- A comma, or the end of what is open. -/
  | between
  /-- Nothing: the value is complete. -/
  | finished (v : Raw)

/-- The machine: what is open, the innermost first, and what may come next. -/
abbrev State := List Frame × Phase

/-- Puts a complete value where it belongs. -/
def deliver (v : Raw) : List Frame → State
  | [] => ([], .finished v)
  | .array items :: frames => (.array (v :: items) :: frames, .between)
  | .member members name :: frames => (.object ((name, v) :: members) :: frames, .between)
  | .object members :: frames => (.object members :: frames, .between)

/-- Reads the first token of a value. -/
def begin? (frames : List Frame) : Token → Option State
  | .null => some (deliver .null frames)
  | .bool b => some (deliver (.bool b) frames)
  | .numeral n => some (deliver (.numeral n) frames)
  | .string t => some (deliver (.string t) frames)
  | .openArray => some (.array [] :: frames, .firstItem)
  | .openObject => some (.object [] :: frames, .firstName)
  | _ => none

def step? : State → Token → Option State
  | (frames, .value), token => begin? frames token
  | (.array items :: frames, .firstItem), .closeArray =>
    some (deliver (.array items.reverse) frames)
  | (frames, .firstItem), token => begin? frames token
  | (.object members :: frames, .firstName), .closeObject =>
    some (deliver (.object members.reverse) frames)
  | (.object members :: frames, .firstName), .string t
  | (.object members :: frames, .name), .string t => some (.member members t :: frames, .colon)
  | (frames, .colon), .colon => some (frames, .value)
  | (.array items :: frames, .between), .comma => some (.array items :: frames, .value)
  | (.array items :: frames, .between), .closeArray =>
    some (deliver (.array items.reverse) frames)
  | (.object members :: frames, .between), .comma => some (.object members :: frames, .name)
  | (.object members :: frames, .between), .closeObject =>
    some (deliver (.object members.reverse) frames)
  | _, _ => none

def ofTokens? (tokens : List Token) : Option Raw :=
  match tokens.foldlM step? ([], .value) with
  | some ([], .finished v) => some v
  | _ => none

/-- The value that a text writes. -/
def read? (t : Text) : Option Raw :=
  (Token.all? t).bind ofTokens?

/-! ### Settling -/

/-- How deep arrays and objects may be nested. -/
def greatestDepth : Nat := 127

mutual

/-- The value, if it is nested no deeper than `depth`, every string has a text and every number is in
range. -/
def value? (depth : Nat) : Raw → Option Value
  | .null => some .null
  | .bool b => some (.bool b)
  | .numeral n => (Number.ofNumeral? n).map .number
  | .string t => t.map .string
  | .array items =>
    if depth = 0 then none else (values? (depth - 1) items).map .array
  | .object members =>
    if depth = 0 then none
    else (namedValues? (depth - 1) members).map fun ms => .object (Table.ofList ms)

def values? (depth : Nat) : List Raw → Option (List Value)
  | [] => some []
  | r :: rs =>
    match value? depth r, values? depth rs with
    | some v, some vs => some (v :: vs)
    | _, _ => none

/-- The values of a list of members. -/
def namedValues? (depth : Nat) : List (Option Text × Raw) → Option Members
  | [] => some []
  | (name, r) :: rs =>
    match name, value? depth r, namedValues? depth rs with
    | some n, some v, some vs => some ((n, v) :: vs)
    | _, _, _ => none

end

def text? : Raw → Option Text
  | .string t => t
  | _ => none

end Raw

/-- The value that a text writes. -/
def Value.read? (t : Text) : Option Value :=
  (Raw.read? t).bind (Raw.value? Raw.greatestDepth)

end Custodian.Json
