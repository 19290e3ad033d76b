import Custodian.Agent.Fixity
import Custodian.Agent.Transfer

/-!
# Operations

What the host may ask of the agent about one package and its space. Questions about a package do not
fail: what goes wrong becomes part of the answer.
-/

namespace Custodian.Agent

open Appliance

variable {σ : Type}

/-! ### Questions -/

/-- How far the replication of the package has come. -/
def updateStatus (s : Surroundings σ) (scene : Scene σ Package) : StatusUpdate × Scene σ Package :=
  match reconcile s scene with
  | (.ok update, scene) => (update, scene)
  | (.error e, scene) => (⟨none, e.message⟩, scene)

/-- Whether the package, or a file in it, is at hand; `none` if that cannot be told. -/
def isFileLocal (s : Surroundings σ) (path : Option Text) (tell : Bool) (scene : Scene σ Package) :
    Option Bool × Scene σ Package :=
  match locality s path tell scene with
  | (.ok found, scene) => (some found, scene)
  | (.error _, scene) => (none, scene)

/-- The last fixity check of the package. Only a question that makes no sense is an error. -/
def checkFixity (s : Surroundings σ) (scene : Scene σ Package) :
    Except Text FixityReport × Scene σ Package :=
  match fixity s scene with
  | (.ok report, scene) => (.ok report, scene)
  | (.error .unsupported, scene) => (.error Error.unsupported.message, scene)
  | (.error e, scene) => (.ok (.failed e.message), scene)

/-! ### Runs -/

/-- An operation with its arguments. -/
inductive Operation where
  | announce (destination : Text)
  | updateStatus
  | isFileLocal (path : Option Text) (tell : Bool)
  | checkFixity
  | browse (path : Text)
  | deletePath (path : Text)
  | fetch (source target : Text)
  | deposit (source target : Text)

/-- What came of an operation. -/
inductive Answer where
  | done (r : Except TransferError Unit)
  | status (u : StatusUpdate)
  | local? (found : Option Bool)
  | fixity (r : Except Text FixityReport)
  | listing (r : Except TransferError Listing)

def Operation.perform (s : Surroundings σ) (op : Operation) (scene : Scene σ Package) :
    Answer × Scene σ Package :=
  match op with
  | .announce destination =>
    let (r, scene) := Agent.announce s destination scene
    (.done r, scene)
  | .updateStatus =>
    let (u, scene) := Agent.updateStatus s scene
    (.status u, scene)
  | .isFileLocal path tell =>
    let (found, scene) := Agent.isFileLocal s path tell scene
    (.local? found, scene)
  | .checkFixity =>
    let (r, scene) := Agent.checkFixity s scene
    (.fixity r, scene)
  | .browse path =>
    let (r, scene) := Agent.browse s path scene
    (.listing r, scene)
  | .deletePath path =>
    let (r, scene) := Agent.deletePath s path scene
    (.done r, scene)
  | .fetch source target =>
    let (r, scene) := Agent.fetch s source target scene
    (.done r, scene)
  | .deposit source target =>
    let (r, scene) := Agent.deposit s source target scene
    (.done r, scene)

/-- Performs operations one after the other; their answers in order. -/
def performAll (s : Surroundings σ) : List Operation → Scene σ Package → List Answer × Scene σ Package
  | [], scene => ([], scene)
  | op :: ops, scene =>
    let (answer, scene) := op.perform s scene
    let (answers, scene) := performAll s ops scene
    (answer :: answers, scene)

end Custodian.Agent
