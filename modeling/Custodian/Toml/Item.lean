import Custodian.Table

/-!
# TOML items

The tables of a document come about in four ways, and which way decides how they may be extended
later: by a header, by the header of a table inside them, by a key with dots, or inline. A document
is the table that its sections build, one after the other.

Numbers and times are read but their values are not kept.
-/

namespace Custodian.Toml

/-- How a table has come about. -/
inductive Origin where
  /-- By a header of its own. -/
  | header
  /-- By the header of a table inside it. -/
  | implied
  /-- By a key with dots. -/
  | dotted
  /-- As a value in braces. -/
  | inline
deriving DecidableEq

/-- What a key stands for. -/
inductive Item where
  | string (t : Text)
  | bool (b : Bool)
  | number
  | time
  | array (items : List Item)
  | table (origin : Origin) (entries : List (Text × Item))
  /-- The tables of headers in double brackets. -/
  | tables (tables : List (List (Text × Item)))

abbrev Entries := Custodian.Table Item

instance : Inhabited Item := ⟨.number⟩

namespace Item

/-! ### Building tables -/

/-- Whether a path may go through a table: the path of a key with dots only through tables that have no
definition of their own, the path of a header through all but inline ones. -/
def isOpen (byKey : Bool) : Origin → Bool
  | .header => !byKey
  | .implied => true
  | .dotted => true
  | .inline => false

/-- Changes the table at the end of a path. Tables that are missing on the way are made, and of several
tables the last one is meant. -/
def changeAt? (byKey : Bool) (change : Origin → Entries → Option Entries) :
    List Text → Origin → Entries → Option Entries
  | [], origin, entries => change origin entries
  | key :: path, _, entries =>
    match entries.get? key with
    | none => do
      let made : Origin := if byKey then .dotted else .implied
      let inner ← changeAt? byKey change path made []
      return entries.insert key (.table made inner)
    | some (.table origin inner) =>
      if isOpen byKey origin then do
        let inner ← changeAt? byKey change path origin inner
        return entries.insert key (.table origin inner)
      else none
    | some (.tables ts) => do
      let last ← ts.getLast?
      let last ← changeAt? byKey change path .header last
      return entries.insert key (.tables (ts.dropLast ++ [last]))
    | some _ => none

/-- Adds a value under a key, whose last part must be new. A key with dots ends in a table that keys
with dots have made; a key without them adds to the table at hand. -/
def addPair? (origin : Origin) (entries : Entries) : (key : List Text) → Item → Option Entries
  | [], _ => none
  | key@(first :: rest), value =>
    let path := key.dropLast
    let name := rest.getLastD first
    let add := fun (last : Origin) (es : Entries) =>
      if (last == .dotted) == path.isEmpty || (es.get? name).isSome then none
      else some (es.insert name value)
    changeAt? true add path origin entries

def addPairs? (origin : Origin) (entries : Entries) (pairs : List (List Text × Item)) :
    Option Entries :=
  pairs.foldlM (fun es pair => addPair? origin es pair.1 pair.2) entries

/-- A header with the pairs under it. -/
structure Section where
  path : List Text
  /-- Whether the header stands in double brackets. -/
  repeated : Bool
  pairs : List (List Text × Item)

/-- Adds the table of a section. A table may have one header, and only if nothing but headers inside it
has made it before; headers in double brackets add a table each. -/
def addSection? (root : Entries) (s : Section) : Option Entries :=
  match s.path.getLast? with
  | none => addPairs? .header root s.pairs
  | some name =>
    let add := fun (_ : Origin) (parent : Entries) =>
      match parent.get? name, s.repeated with
      | none, true => do
        return parent.insert name (.tables [← addPairs? .header [] s.pairs])
      | some (.tables ts), true => do
        return parent.insert name (.tables (ts ++ [← addPairs? .header [] s.pairs]))
      | none, false => do
        return parent.insert name (.table .header (← addPairs? .header [] s.pairs))
      | some (.table .implied entries), false => do
        return parent.insert name (.table .header (← addPairs? .header entries s.pairs))
      | _, _ => none
    changeAt? false add s.path.dropLast .header root

/-- The table of a value in braces. -/
def ofPairs? (pairs : List (List Text × Item)) : Option Item :=
  (addPairs? .inline [] pairs).map (.table .inline)

/-! ### Reading records -/

def text? : Item → Option Text
  | .string t => some t
  | _ => none

def bool? : Item → Option Bool
  | .bool b => some b
  | _ => none

def items? : Item → Option (List Item)
  | .array items => some items
  | .tables ts => some (ts.map (.table .header))
  | _ => none

/-- The fields of a record: of a table by their names, of an array by their order. A time is a record
without any of the fields. -/
def fields? (names : List Text) (item : Item) : Option (List (Option Item)) :=
  match item with
  | .table _ entries => some (names.map fun name => Table.get? name entries)
  | .time => some (names.map fun _ => none)
  | item => item.items?.map fun items =>
    (items.map some ++ List.replicate names.length none).take names.length

end Item

end Custodian.Toml
