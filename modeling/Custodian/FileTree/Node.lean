import Custodian.Table
import Custodian.Text.Utf8

/-!
# Nodes of a file tree

A node is a file, a symbolic link or a directory with named nodes. The place of a node is the list of
names on the way to it. Looking at a place and changing what is there does not follow links. Names and the
targets of links are texts; there are no others.
-/

namespace Custodian

/-- A file, a symbolic link or a directory. -/
inductive Node where
  | file (content : Bytes)
  | link (target : Text)
  | directory (entries : List (Text × Node))

/-- The names on the way to a node. -/
abbrev Place := List Text

namespace Node

def empty : Node := .directory []

def isDirectory : Node → Bool
  | .directory _ => true
  | _ => false

def isFile : Node → Bool
  | .file _ => true
  | _ => false

/-- The size of a file or link in bytes. -/
def size : Node → Nat
  | .file content => content.length
  | .link target => Utf8.size target
  | .directory _ => 0

/-- What a directory holds; other nodes hold nothing. -/
def entries : Node → Table Node
  | .directory es => es
  | _ => []

def get? : Place → Node → Option Node
  | [], node => some node
  | name :: place, .directory es =>
    match Table.get? name es with
    | none => none
    | some child => get? place child
  | _ :: _, _ => none

/-- Puts a node at a place, whose directory must be there. -/
def put? (new : Node) : Place → Node → Option Node
  | [], _ => some new
  | name :: place, .directory es =>
    match place with
    | [] => some (.directory (Table.insert name new es))
    | _ :: _ =>
      match Table.get? name es with
      | none => none
      | some child => (put? new place child).map fun child => .directory (Table.insert name child es)
  | _ :: _, _ => none

/-- The tree without the node at a place. -/
def erase : Place → Node → Node
  | [], node => node
  | name :: place, .directory es =>
    match place with
    | [] => .directory (Table.erase name es)
    | _ :: _ =>
      match Table.get? name es with
      | none => .directory es
      | some child => .directory (Table.insert name (erase place child) es)
  | _ :: _, node => node

/-! ### Walking -/

mutual

/-- The places of all nodes below a node. -/
def places : Node → List (Place × Node)
  | .directory es => placesOf es
  | _ => []

/-- The places of the nodes of some entries and of all nodes below them. -/
def placesOf : List (Text × Node) → List (Place × Node)
  | [] => []
  | (name, node) :: es =>
    ([name], node) :: (places node).map (fun (place, below) => (name :: place, below)) ++ placesOf es

end

mutual

/-- The first file below a directory, its own files before those of its subdirectories. -/
def firstFile? : Node → Option Place
  | .directory es =>
    match es.find? fun e => e.2.isFile with
    | some (name, _) => some [name]
    | none => firstBelow? es
  | _ => none

/-- The first file below the directories among some entries. -/
def firstBelow? : List (Text × Node) → Option Place
  | [] => none
  | (name, node) :: es =>
    match firstFile? node with
    | some place => some (name :: place)
    | none => firstBelow? es

end

end Node

end Custodian
