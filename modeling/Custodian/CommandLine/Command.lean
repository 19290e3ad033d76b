import Custodian.CommandLine.Scan
import Custodian.Table

/-!
# Commands

The command line names a command with its arguments; before it stands the path of the configuration, if
it is not the usual one.
-/

namespace Custodian.CommandLine

/-- What the program is asked to do. -/
inductive Command where
  /-- Register a package at the appliance. -/
  | register (uuid : Text)
  /-- Ask how far the replication of a package has come. -/
  | status (uuid : Text)
  /-- Ask whether a package, or a file in it, is at hand. -/
  | locality (uuid : Text) (path : Option Text) (tell : Bool)
  /-- Ask for the last fixity check of a package. -/
  | fixity (uuid : Text)
  /-- Delete a path. -/
  | delete (path : Text)
  /-- Move a package into the space and register it. -/
  | store (uuid source : Text)
  /-- Copy a path out of the space. -/
  | fetch (source target : Text)
  /-- List a directory of the space. -/
  | browse (path : Text)
deriving DecidableEq

/-- A command with the configuration it runs under. -/
structure Invocation where
  config : Text
  command : Command
deriving DecidableEq

namespace Command

def pathSwitch : Text := "path"
def tellSwitch : Text := "email"

/-- The commands with their plain arguments and switches. -/
def forms : List (Text × Form) :=
  let plain := fun (kinds : List ValueKind) => (⟨[], kinds, []⟩ : Form)
  [("register", plain [.text]),
    ("status", plain [.text]),
    ("local", ⟨[⟨pathSwitch, some .text⟩, ⟨tellSwitch, none⟩], [.text], []⟩),
    ("fixity", plain [.text]),
    ("delete", plain [.text]),
    ("store", plain [.text, .path]),
    ("fetch", plain [.text, .path]),
    ("browse", plain [.text])]

/-- The command of a name with what was scanned for it. -/
def ofScanned? (name : Text) (scanned : Scanned) : Option Command :=
  match String.ofList name, scanned.arguments with
  | "register", [uuid] => some (.register uuid)
  | "status", [uuid] => some (.status uuid)
  | "local", [uuid] =>
    some (.locality uuid (Table.get? pathSwitch scanned.switches)
      (scanned.switches.any (·.1 == tellSwitch)))
  | "fixity", [uuid] => some (.fixity uuid)
  | "delete", [path] => some (.delete path)
  | "store", [uuid, source] => some (.store uuid source)
  | "fetch", [source, target] => some (.fetch source target)
  | "browse", [path] => some (.browse path)
  | _, _ => none

/-- Reads the words after the name of a command. -/
def read (name : Text) (words : List Text) : Except UsageError Command := do
  match forms.find? fun f => f.1 = name with
  | none => .error .unknownCommand
  | some (_, form) =>
    let (scan, _) ← Scan.initial.readWords form words
    let scan ← scan.settle
    match ofScanned? name scan.settled with
    | some command => return command
    | none => .error .missingArgument

end Command

namespace Invocation

def configSwitch : Text := "config"

/-- The configuration that is used unless another one is named. -/
def usualConfig : Text := "agent.toml"

def form : Form where
  switches := [⟨configSwitch, some .path⟩]
  arguments := []
  commands := Scan.helpName :: Command.forms.map (·.1)

/-- Shows the help about the commands that are named, of which there may be one. -/
def helpAbout : List Text → UsageError
  | [] => .help
  | [name] => if form.commands.contains name then .help else .unknownCommand
  | _ => .unknownCommand

/-- Reads a command line. A command is read before the last switch in front of it is settled, so what is
wrong with the command is reported first. -/
def read (words : List Text) : Except UsageError Invocation := do
  let (scan, command) ← Scan.initial.readWords form words
  match command with
  | some (name, words) =>
    if name = Scan.helpName then .error (helpAbout words)
    else
      let command ← Command.read name words
      let scan ← scan.settle
      return ⟨(Table.get? configSwitch scan.settled.switches).getD usualConfig, command⟩
  | none =>
    let scan ← scan.settle
    .error (if scan.settled.switches.isEmpty then .helpForNothing else .noCommand)

end Invocation

end Custodian.CommandLine
