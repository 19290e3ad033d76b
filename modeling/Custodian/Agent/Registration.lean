import Custodian.Agent.Surroundings
import Custodian.Appliance.Payload

/-!
# Registration

A package that has landed in the space is registered at the appliance: a compressed package with the
fixity record of its pointer file, a bag with its path. The identifier in the answer is kept in the
package, which is then saved.
-/

namespace Custodian.Agent

open Appliance
open Json (Value)

variable {σ : Type}

/-! ### The request -/

/-- The compression that the extension of a path stands for, the dot included; empty without one. -/
def compression (path : Text) : Text :=
  match Path.extension? path with
  | some extension => '.' :: extension
  | none => []

/-- The fixity record of the pointer file at a path. -/
def pointerFixity (files : FileTree) (path : Text) : Except Error Pointer.Fixity :=
  match (files.readFile path).toOption.bind Utf8.decode? with
  | none => .error (.pointer (.unreadable path))
  | some content => (Pointer.read path content).mapError .pointer

/-- What is sent about a compressed package. -/
def releaseContent (p : Package) (fixity : Pointer.Fixity) : Value :=
  .object <| Table.ofList [
    ("size", .ofText? fixity.size),
    ("checksum", .ofText? fixity.checksum),
    ("checksumAlgorithm", .ofText? fixity.algorithm),
    ("compressionAlgorithm", .string (compression p.currentPath))]

/-- What is sent about a bag: its path, which begins with one slash, and a file that is empty. -/
def manifestContent (relativePath : Text) : List Part :=
  [⟨"bagitPath", none, '/' :: Text.trimStart (· == '/') relativePath⟩, ⟨[], some [], []⟩]

/-- The request that registers a package at a destination. -/
def registrationRequest (s : Surroundings σ) (files : FileTree) (p : Package) (destination : Text) :
    Except Error Request :=
  let path := Path.relative s.spaceRoot destination
  match p.shape with
  | .compressed pointerFile => do
    let fixity ← pointerFixity files pointerFile
    return ⟨.post, s.endpoints.fileRelease path, .json (releaseContent p fixity)⟩
  | .uncompressed => .ok ⟨.post, s.endpoints.manifestRelease, .form (manifestContent path)⟩

/-! ### The answer -/

/-- Whether a status means that the package is registered. -/
def isAccepted (status : Nat) : Bool :=
  status = 200 || status = 202

def idName : Text := "id"

/-- The identifier in the body of an answer. -/
def registeredId (body : Text) : Except Error Text :=
  match Value.read? body with
  | none => .error (.format .registration)
  | some v =>
    match (v.get? idName).bind idText? with
    | none => .error (.noRequestId body)
    | some id => .ok id

/-- The identifier that came of a registration request. -/
def registrationAnswer (request : Request) : Exchange → Except Error Text
  | .answered status bytes =>
    let body := Utf8.decodeForgiving bytes
    if isAccepted status then registeredId body else .error (.protocol request.url status body)
  | .unreachable => .error (.transport request.method request.url)
  | .closed => .error (.transport request.method request.url)
  | .truncated _ => .error (.transport request.method request.url)

/-! ### The job -/

/-- Registers the package that is held, which lies at a destination, and saves it. -/
def register (s : Surroundings σ) (destination : Text) : Job σ Package Error Text := do
  let p ← Job.held
  let files ← Job.files s
  let request ← Job.ofExcept (registrationRequest s files p destination)
  let exchange ← Job.exchange s request
  let id ← Job.ofExcept (registrationAnswer request exchange)
  Job.change (Package.setIdentifier id)
  Job.save s
  return id

end Custodian.Agent
