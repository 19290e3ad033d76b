import Custodian.Agent.Operation
import Custodian.CommandLine.Command
import Custodian.Mailer
import Custodian.RecordStore
import Custodian.Space.Local

/-!
# Executing commands

A command runs on a machine and against an appliance. The configuration is read from the files of the
machine; the store of records, the mailer and the space are those of the machine. What is printed is one
JSON value, an item a line.
-/

namespace Custodian.CommandLine

open Appliance Agent
open Json (Value)

/-- A machine and the appliance it talks to. -/
structure World where
  machine : Machine
  /-- What comes of a request, after the requests before it. -/
  exchange : List Request → Request → Exchange
  /-- The requests so far, with what came of them. -/
  requests : List (Request × Exchange)

namespace World

def send (request : Request) (w : World) : Exchange × World :=
  let outcome := w.exchange (w.requests.map (·.1)) request
  (outcome, { w with requests := w.requests ++ [(request, outcome)] })

/-- Does something on the machine, errors told as texts. -/
def onMachine {ε α : Type} (message : ε → Text) (call : Machine → Except ε α × Machine) (w : World) :
    Except Text α × World :=
  let (r, machine) := call w.machine
  (r.mapError message, { w with machine })

/-- Saves a package in the store of records. -/
def save (directory : Text) (p : Package) (m : Machine) : Except RecordStore.Error Unit × Machine :=
  let (r, files) := RecordStore.save directory p m.files
  (r, { m with files })

/-- The surroundings that a configuration describes. -/
def surroundings (c : Config) : Surroundings World where
  appliance := c.appliance
  spaceRoot := c.spacePath
  files w := w.machine.files
  exchange := send
  save p := onMachine RecordStore.Error.message (save c.storePath p)
  superusers := c.mail.activeSuperusers
  send mail := onMachine Mailer.Error.message (Mailer.send c.mail mail)
  createLocalDirectory path := onMachine Space.Error.message (Space.createLocalDirectory path)
  createRemoteDirectory path remote :=
    onMachine Space.Error.message (Space.createRemoteDirectory path remote)
  move source target tryRename :=
    onMachine Space.Error.message (Space.move source target tryRename)
  browseLocal path := onMachine Space.Error.message (Space.browseLocal path)
  browseRemote target := onMachine Space.Error.message (Space.browseRemote target)

end World

/-- Why a command failed. -/
inductive Failure where
  | usage (e : UsageError)
  | config (e : Config.Error)
  | store (e : RecordStore.Error)
  | transfer (e : TransferError)
  | unsupported (message : Text)
deriving DecidableEq

def Failure.message : Failure → Text
  | .usage e => e.message
  | .config e => e.message
  | .store e => e.message
  | .transfer e => e.message
  | .unsupported message => message

/-- The outcome of a command: a value to be printed. -/
abbrev Outcome := Except Failure Value

/-! ### Commands -/

/-- How a command is carried out: alone, or with the package of a uuid. -/
inductive Task where
  | alone (run : World → Outcome × World)
  | withPackage (uuid : Text) (run : Scene World Package → Outcome × Scene World Package)

/-- Runs a job that holds nothing. -/
def runAlone {α : Type} (job : Job World Unit TransferError α) (value : α → Value) (w : World) :
    Outcome × World :=
  let (r, scene) := job ⟨w, (), []⟩
  ((r.mapError .transfer).map value, scene.world)

/-- Announces the package that is held, and shows it. -/
def announceThen (s : Surroundings World) (destination : Text) (value : Package → Value)
    (scene : Scene World Package) : Outcome × Scene World Package :=
  match announce s destination scene with
  | (.ok (), scene) => (.ok (value scene.held), scene)
  | (.error e, scene) => (.error (.transfer e), scene)

/-- Moves a source to where the package that is held belongs, announces the package and shows it. -/
def depositThen (s : Surroundings World) (source destination : Text) (value : Package → Value)
    (scene : Scene World Package) : Outcome × Scene World Package :=
  match deposit s source destination scene with
  | (.error e, scene) => (.error (.transfer e), scene)
  | (.ok (), scene) => announceThen s destination value scene

/-- How a command is carried out under a configuration. -/
def Task.ofCommand (c : Config) (command : Command) : Task :=
  let s := World.surroundings c
  match command with
  | .register uuid =>
    .withPackage uuid fun scene =>
      announceThen s (scene.held.fullPath c.spacePath) (.object ·.attributes) scene
  | .status uuid =>
    .withPackage uuid fun scene =>
      let (update, scene) := updateStatus s scene
      (.ok update.toJson, scene)
  | .locality uuid path tell =>
    .withPackage uuid fun scene =>
      let (found, scene) := isFileLocal s path tell scene
      (.ok (.object [("local", .ofBool? found)]), scene)
  | .fixity uuid =>
    .withPackage uuid fun scene =>
      let (r, scene) := checkFixity s scene
      ((r.mapError .unsupported).map FixityReport.toJson, scene)
  | .delete path => .alone (runAlone (deletePath s path) fun () => .object [("deleted", .string path)])
  | .store uuid source =>
    .withPackage uuid fun scene =>
      depositThen s source (scene.held.fullPath c.spacePath) Package.toJson scene
  | .fetch source target =>
    .alone (runAlone (fetch s source target) fun () => .object [("fetched", .string target)])
  | .browse path => .alone (runAlone (browse s path) Listing.toJson)

/-- Runs a task. A package is read afresh from the store of records, and nothing has happened to it
yet. -/
def Task.run (c : Config) (task : Task) (w : World) : Outcome × World :=
  match task with
  | .alone run => run w
  | .withPackage uuid run =>
    match RecordStore.load c.storePath uuid w.machine.files with
    | .error e => (.error (.store e), w)
    | .ok p =>
      let (r, scene) := run ⟨w, p, []⟩
      (r, scene.world)

/-- Runs a command under a configuration. -/
def runCommand (c : Config) (command : Command) (w : World) : Outcome × World :=
  (Task.ofCommand c command).run c w

/-- Reads the configuration at a path. -/
def loadConfig (path : Text) (files : FileTree) : Except Config.Error Config :=
  Config.load path (files.readFile path).toOption

def execute (words : List Text) (w : World) : Outcome × World :=
  match Invocation.read words with
  | .error e => (.error (.usage e), w)
  | .ok invocation =>
    match loadConfig invocation.config w.machine.files with
    | .error e => (.error (.config e), w)
    | .ok c => runCommand c invocation.command w

/-- What is printed for a value. -/
def printed (v : Value) : Text :=
  v.wide ++ ['\n']

end Custodian.CommandLine
