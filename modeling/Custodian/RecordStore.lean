import Custodian.FileTree.Calls
import Custodian.Package.Json
import Custodian.Text.Quoted

/-!
# The store of package records

Each package has a record of its own, a file named for its uuid in one directory. A record is
written to a temporary file first, which then takes its name; so a record is at all times either the
old one or the new one.
-/

namespace Custodian.RecordStore

/-- Why a record could not be read or written. -/
inductive Error where
  | badUuid (uuid : Text)
  | notFound (uuid path : Text)
  | malformed (path : Text)
  | directoryNotMade (path : Text)
  | notWritten
  | notRenamed
deriving DecidableEq

def Error.message : Error → Text
  | .badUuid uuid => "Invalid package uuid: " ++ Text.quoted uuid
  | .notFound uuid path => "Package " ++ uuid ++ " not found at " ++ path
  | .malformed path => "Failed to parse " ++ path
  | .directoryNotMade path => "Failed to create " ++ path
  | .notWritten => "Failed to write temp file"
  | .notRenamed => "Atomic rename failed"

/-! ### Names -/

/-- Whether a uuid can name a file in the directory that is not hidden. -/
def isAcceptable (uuid : Text) : Bool :=
  !uuid.isEmpty && !uuid.contains '/' && !uuid.contains '\\' && uuid.head? ≠ some '.'

def recordEnding : Text := ".json"
def temporaryExtension : Text := "json.tmp"

def recordPath (directory uuid : Text) : Except Error Text :=
  if isAcceptable uuid then .ok (Path.join directory (uuid ++ recordEnding))
  else .error (.badUuid uuid)

/-- The path of the temporary file of a record. -/
def temporaryPath (recordPath : Text) : Text :=
  Path.withExtension recordPath temporaryExtension

/-! ### Records -/

def content (p : Package) : Bytes :=
  Utf8.encode p.toJson.wide

def ofContent? (bytes : Bytes) : Option Package :=
  (Utf8.decode? bytes).bind Package.read?

/-- Reads the record of a uuid. -/
def load (directory uuid : Text) (files : FileTree) : Except Error Package := do
  let path ← recordPath directory uuid
  match files.readFile path with
  | .error _ => .error (.notFound uuid path)
  | .ok bytes =>
    match Utf8.decode? bytes with
    | none => .error (.notFound uuid path)
    | some text =>
      match Package.read? text with
      | none => .error (.malformed path)
      | some p => .ok p

/-- Writes the record of a package. -/
def save (directory : Text) (p : Package) (files : FileTree) : Except Error Unit × FileTree :=
  match recordPath directory p.uuid with
  | .error e => (.error e, files)
  | .ok path =>
    match files.makeDirectories directory with
    | (.error _, files) => (.error (.directoryNotMade directory), files)
    | (.ok (), files) =>
      match files.writeFile (temporaryPath path) (content p) with
      | .error _ => (.error .notWritten, files)
      | .ok files =>
        match files.rename (temporaryPath path) path with
        | .error _ => (.error .notRenamed, files)
        | .ok files => (.ok (), files)

end Custodian.RecordStore
