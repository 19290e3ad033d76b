import Custodian.Agent.Replication
import Custodian.Notice
import Custodian.Url.Quote

/-!
# Whether a package is at hand

The appliance may have moved a package out of its cache. For a compressed package its state tells;
for a file in a bag there is a question of its own. The state of a bag may leave it open, and then the
first file of the bag stands for all of it.
-/

namespace Custodian.Agent

open Appliance
open Json (Value)

variable {σ : Type}

/-- Reads an answer as a record. -/
def decode {α : Type} (read : Value → Option α) (subject : Subject) (v : Value) : Except Error α :=
  match read v with
  | some a => .ok a
  | none => .error (.format subject)

/-- The URL that tells about a file in a package. -/
def fileUrl (s : Surroundings σ) (p : Package) (path : Text) : Text :=
  s.endpoints.fileInfo
    (Url.quote (Endpoints.innerPath p.location p.currentPath (Text.trimStart (· == '/') path)))

/-- Asks about a file in the package. -/
def askFile (s : Surroundings σ) (path : Text) : Job σ Package Error FileInfo := do
  let p ← Job.held
  let v ← ask s (fileUrl s p path) .file
  Job.ofExcept (decode FileInfo.ofJson? .file v)

/-- The path of the first file below a directory, as seen from there. -/
def firstFile (files : FileTree) (directory : Text) : Except Error Text :=
  match (files.directory directory).toOption.bind Node.firstFile? with
  | some place => .ok (Path.joinParts place)
  | none => .error (.noFiles directory)

/-- What is known about the package or the file in it that is asked for, and which file it is about. -/
def consult (s : Surroundings σ) (path : Option Text) : Job σ Package Error (FileInfo × Option Text) := do
  let p ← Job.held
  match p.shape, path with
  | .compressed _, path =>
    let v ← fetchStatus s
    let status ← Job.ofExcept (decode FileRelease.ofJson? .package v)
    match status.fileInformation with
    | some info => return (info, path)
    | none => throw .noFileInformation
  | .uncompressed, some path => return (← askFile s path, some path)
  | .uncompressed, none =>
    let v ← fetchStatus s
    let status ← Job.ofExcept (decode Manifest.ofJson? .package v)
    match status.isLocal with
    | some _ => return (status.fileInfo, none)
    | none =>
      let files ← Job.files s
      let p ← Job.held
      let sample ← Job.ofExcept (firstFile files (p.fullPath s.spaceRoot))
      return (← askFile s sample, some sample)

/-- Tells the superusers, if there are any, that the package or a file in it is not at hand. Whether the
mail is sent makes no difference. -/
def notify (s : Surroundings σ) (path id : Option Text) : Job σ Package Error Unit := do
  let p ← Job.held
  if s.superusers.isEmpty then return ()
  else
    let mail := Notice.mail s.superusers p path id
    let _ ← Job.act (s.send mail) (.sent mail)
    return ()

/-- Whether the package, or a file in it, is at hand. If not, the superusers are told on request. -/
def locality (s : Surroundings σ) (path : Option Text) (tell : Bool) : Job σ Package Error Bool := do
  let (info, about) ← consult s path
  if info.isLocal = some true then return true
  else
    if tell then notify s about (info.id.bind idText?)
    return false

end Custodian.Agent
