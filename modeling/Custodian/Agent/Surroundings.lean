import Custodian.Appliance.Endpoint
import Custodian.Appliance.Error
import Custodian.Config
import Custodian.FileTree.Calls
import Custodian.Mail
import Custodian.Package.Basic
import Custodian.Space.Listing

/-!
# What the agent works with

The agent asks the appliance, saves packages, sends mail, moves files in the space and reads files. All
of these stand in `Surroundings`, which may answer in any way and depend on a state of any type, so
whatever holds for all surroundings holds for every appliance, store, space and mailer.

A `Job` runs in a scene: the state of the surroundings, what the job holds (a package, or nothing), and
the events so far, each with its outcome. A job that fails keeps the scene it has reached.
-/

namespace Custodian.Agent

open Appliance

/-- Whatever is around the agent; `σ` is its state. -/
structure Surroundings (σ : Type) where
  appliance : ApplianceConfig
  /-- The root of the space. -/
  spaceRoot : Text
  /-- The files that can be read. -/
  files : σ → FileTree
  exchange : Request → σ → Exchange × σ
  save : Package → σ → Except Text Unit × σ
  /-- The addresses of the active superusers. They are the same whenever they are asked for. -/
  superusers : List Text
  send : Mail → σ → Except Text Unit × σ
  createLocalDirectory : Text → σ → Except Text Unit × σ
  createRemoteDirectory : Text → Remote → σ → Except Text Unit × σ
  move : (source target : Text) → (tryRename : Bool) → σ → Except Text Unit × σ
  browseLocal : Text → σ → Except Text Listing × σ
  browseRemote : Text → σ → Except Text Listing × σ

namespace Surroundings

variable {σ : Type}

def endpoints (s : Surroundings σ) : Endpoints :=
  .ofBase s.appliance.baseUrl

/-- The remote machine, if there is one. -/
def remote? (s : Surroundings σ) : Option Remote :=
  s.appliance.remote?

end Surroundings

/-- Something the agent has done to its surroundings, with its outcome. -/
inductive Event where
  | exchanged (request : Request) (exchange : Exchange)
  | saved (package : Package) (outcome : Except Text Unit)
  | sent (mail : Mail) (outcome : Except Text Unit)
  | createdLocally (path : Text) (outcome : Except Text Unit)
  | createdRemotely (path : Text) (remote : Remote) (outcome : Except Text Unit)
  | moved (source target : Text) (tryRename : Bool) (outcome : Except Text Unit)
  | browsedLocally (path : Text) (outcome : Except Text Listing)
  | browsedRemotely (target : Text) (outcome : Except Text Listing)

/-- Where a job stands. -/
structure Scene (σ π : Type) where
  world : σ
  held : π
  events : List Event

/-- A job that may fail with an `ε`. -/
abbrev Job (σ π ε α : Type) :=
  ExceptT ε (StateM (Scene σ π)) α

namespace Job

variable {σ π ε α β : Type}

/-- Does something to the surroundings and records it. -/
def act (call : σ → β × σ) (event : β → Event) : Job σ π ε β :=
  fun scene =>
    let (outcome, world) := call scene.world
    (.ok outcome, { scene with world, events := scene.events ++ [event outcome] })

def held : Job σ π ε π :=
  fun scene => (.ok scene.held, scene)

def change (f : π → π) : Job σ π ε Unit :=
  fun scene => (.ok (), { scene with held := f scene.held })

def files (s : Surroundings σ) : Job σ π ε FileTree :=
  fun scene => (.ok (s.files scene.world), scene)

/-- A result that is already there. -/
def ofExcept (r : Except ε α) : Job σ π ε α :=
  fun scene => (r, scene)

/-- The outcome of a job, failure included; it cannot fail itself. -/
def outcome {δ : Type} (job : Job σ π ε α) : Job σ π δ (Except ε α) :=
  fun scene =>
    let (r, scene) := job scene
    (.ok r, scene)

/-- The job with its errors changed. -/
def mapError {δ : Type} (f : ε → δ) (job : Job σ π ε α) : Job σ π δ α :=
  fun scene =>
    let (r, scene) := job scene
    (r.mapError f, scene)

/-! ### Calls -/

def exchange (s : Surroundings σ) (request : Request) : Job σ π ε Exchange :=
  act (s.exchange request) (.exchanged request)

/-- Saves the package that is held. -/
def save (s : Surroundings σ) : Job σ Package Error Unit := do
  let p ← held
  match ← act (s.save p) (.saved p) with
  | .ok () => return ()
  | .error reason => throw (.store p.uuid reason)

end Job

end Custodian.Agent
