import Custodian.FileTree.Resolve

/-!
# Calls on a file tree

Reading and listing, making directories, writing files and renaming. A call that fails leaves the tree
as it was; only making several directories may stop half-way.
-/

namespace Custodian.FileTree

/-! ### Looking -/

def readFile (t : FileTree) (path : Text) : Except Fault Bytes := do
  match ← t.resolve path with
  | .found _ (.file content) => return content
  | .found .. => .error .isDirectory
  | .absent .. => .error .missing

/-- The directory that a path names. -/
def directory (t : FileTree) (path : Text) : Except Fault Node := do
  match ← t.resolve path with
  | .found _ (.directory es) => return .directory es
  | .found .. => .error .notDirectory
  | .absent .. => .error .missing

/-- Whether a path names a directory. -/
def isDirectory (t : FileTree) (path : Text) : Bool :=
  match t.directory path with
  | .ok _ => true
  | .error _ => false

/-! ### Changing -/

/-- Puts a node at a place. -/
def put (t : FileTree) (place : Place) (node : Node) : Except Fault FileTree :=
  match Node.put? node place t.root with
  | some root => .ok { t with root }
  | none => .error .missing

def makeDirectory (t : FileTree) (path : Text) : Except Fault FileTree :=
  match t.entry path with
  | .error .busy => .error .exists
  | .error fault => .error fault
  | .ok e =>
    if (t.root.get? e.place).isSome then .error .exists else t.put e.place .empty

/-- A path and the paths of the directories around it, the innermost first. The number bounds how
many there are. -/
def ancestors : Nat → Text → List Text
  | 0, _ => []
  | steps + 1, path =>
    path :: match Path.parent? path with
      | some parent => if parent.isEmpty then [] else ancestors steps parent
      | none => []

/-- What came of one directory among several to be made. -/
inductive Made where
  | made (t : FileTree)
  | present
  | missing
  | failed (fault : Fault)

/-- Makes a directory, unless it is there. -/
def makeIfMissing (t : FileTree) (path : Text) : Made :=
  match t.makeDirectory path with
  | .ok t => .made t
  | .error fault =>
    if fault = .missing then .missing
    else if t.isDirectory path then .present else .failed fault

/-- Looks for the innermost directory that is there or can be made; the others are still to be made,
the outermost first. -/
def makeOutermost (t : FileTree) : (todo : List Text) → List Text → Except Fault (FileTree × List Text)
  | todo, [] => .ok (t, todo)
  | todo, path :: paths =>
    match t.makeIfMissing path with
    | .made t => .ok (t, todo)
    | .present => .ok (t, todo)
    | .missing => makeOutermost t (path :: todo) paths
    | .failed fault => .error fault

/-- Makes directories one after the other, as far as it goes. -/
def makeEach (t : FileTree) : List Text → Except Fault Unit × FileTree
  | [] => (.ok (), t)
  | path :: paths =>
    match t.makeIfMissing path with
    | .made t => makeEach t paths
    | .present => makeEach t paths
    | .missing => if t.isDirectory path then makeEach t paths else (.error .missing, t)
    | .failed fault => (.error fault, t)

/-- Makes a directory and all those around it that are missing. -/
def makeDirectories (t : FileTree) (path : Text) : Except Fault Unit × FileTree :=
  if path.isEmpty || (Path.components path) = [.root] then (.ok (), t)
  else
    match t.makeOutermost [] (ancestors path.length path) with
    | .error fault => (.error fault, t)
    | .ok (t, todo) => t.makeEach todo

/-- Writes a file, which is made if it is missing. A link is written through. -/
def writeFile (t : FileTree) (path : Text) (content : Bytes) : Except Fault FileTree := do
  match ← t.resolve path with
  | .found place (.file _) => t.put place (.file content)
  | .found .. => .error .isDirectory
  | .absent place asDirectory =>
    if asDirectory then .error .isDirectory else t.put place (.file content)

/-- Whether a node may be renamed to a place where `old` is: a directory only to an empty directory,
anything else only to what is no directory. -/
def mayReplace (node : Node) : (old : Option Node) → Except Fault Unit
  | none => .ok ()
  | some old =>
    match node.isDirectory, old.isDirectory with
    | true, true => if old.entries.isEmpty then .ok () else .error .notEmpty
    | true, false => .error .notDirectory
    | false, true => .error .isDirectory
    | false, false => .ok ()

/-- Gives a node another name or place. Renaming to the same place changes nothing. -/
def rename (t : FileTree) (source target : Text) : Except Fault FileTree := do
  let source ← t.entry source
  let target ← t.entry target
  match t.root.get? source.place with
  | none => .error .missing
  | some node =>
    if !node.isDirectory && (source.asDirectory || target.asDirectory) then .error .notDirectory
    else if source.place = target.place then return t
    else if node.isDirectory && source.place.isPrefixOf target.place then .error .insideItself
    else
      mayReplace node (t.root.get? target.place)
      FileTree.put { t with root := t.root.erase source.place } target.place node

end Custodian.FileTree
