import Custodian.FileTree.Node
import Custodian.Path.Basic

/-!
# What a path names

A path is followed part by part from the root or from the working directory. A link on the way is
replaced by the parts of its target; only so many links are followed. A part of a path is limited in
length, and so is a path.
-/

namespace Custodian

/-- The files of a machine. -/
structure FileTree where
  root : Node
  /-- The place of the directory where relative paths begin. -/
  working : Place

/-- Why something could not be done with files. -/
inductive Fault where
  | missing
  | exists
  | notDirectory
  | isDirectory
  | notEmpty
  | insideItself
  | tooManyLinks
  | nameTooLong
  | badName
  | busy
deriving DecidableEq

/-- What a path names. -/
inductive Target where
  | found (place : Place) (node : Node)
  /-- Nothing, but the directory is there. A path with a slash at its end asks for a directory. -/
  | absent (place : Place) (asDirectory : Bool)

namespace FileTree

/-- The greatest length of a name in bytes. -/
def longestName : Nat := 255

/-- The greatest length of a path in bytes. -/
def longestPath : Nat := 4095

def mostLinks : Nat := 40

/-- The parts of a path and the place where it begins. -/
def origin (here : Place) (path : Text) : Place × List Text :=
  match path with
  | '/' :: rest => ([], Text.splitOn '/' rest)
  | path => (here, Text.splitOn '/' path)

/-- Follows parts from a directory. A link is left to `follow`, unless it is the end of a path that means
the link itself. -/
def walk (root : Node) (throughLast : Bool) (follow : Place → List Text → Except Fault Target) :
    Place → List Text → Except Fault Target
  | here, [] =>
    match root.get? here with
    | some node => .ok (.found here node)
    | none => .error .missing
  | here, part :: parts =>
    if Path.isIdle part then walk root throughLast follow here parts
    else if part = ['.', '.'] then walk root throughLast follow here.dropLast parts
    else if longestName < Utf8.size part then .error .nameTooLong
    else
      match root.get? (here ++ [part]) with
      | none =>
        if parts.all (·.isEmpty) then .ok (.absent (here ++ [part]) (!parts.isEmpty))
        else .error .missing
      | some (.directory _) => walk root throughLast follow (here ++ [part]) parts
      | some (.file content) =>
        if parts.isEmpty then .ok (.found (here ++ [part]) (.file content))
        else .error .notDirectory
      | some (.link target) =>
        if parts.isEmpty && !throughLast then .ok (.found (here ++ [part]) (.link target))
        else
          let (start, first) := origin here target
          follow start (first ++ parts)

/-- Follows parts from a directory, through so many links less one. -/
def walkThrough (root : Node) (throughLast : Bool) : Nat → Place → List Text → Except Fault Target
  | 0 => fun _ _ => .error .tooManyLinks
  | links + 1 => walk root throughLast (walkThrough root throughLast links)

/-- Whether a path can be asked for at all. -/
def checkPath (path : Text) : Except Fault Unit :=
  if path.contains '\x00' then .error .badName
  else if path.isEmpty then .error .missing
  else if longestPath < Utf8.size path then .error .nameTooLong
  else .ok ()

/-- What a path names, links followed to their ends. -/
def resolve (t : FileTree) (path : Text) : Except Fault Target := do
  checkPath path
  let (start, parts) := origin t.working path
  walkThrough t.root true (mostLinks + 1) start parts

/-- The last part of a path as a name in a directory. -/
structure Entry where
  directory : Place
  name : Text
  /-- Whether a slash follows, so that a directory is meant. -/
  asDirectory : Bool

def Entry.place (e : Entry) : Place :=
  e.directory ++ [e.name]

/-- The entry that a path means, its last part not followed. The root and the dots are no entries. -/
def entry (t : FileTree) (path : Text) : Except Fault Entry := do
  checkPath path
  let (start, parts) := origin t.working path
  let named := (parts.reverse.dropWhile (·.isEmpty)).reverse
  match named.getLast? with
  | none => .error .busy
  | some name =>
    match ← walkThrough t.root true (mostLinks + 1) start (named.dropLast ++ [[]]) with
    | .absent .. => .error .missing
    | .found place _ =>
      if name = ['.'] ∨ name = ['.', '.'] then .error .busy
      else if longestName < Utf8.size name then .error .nameTooLong
      else return ⟨place, name, named.length < parts.length⟩

end FileTree

end Custodian
