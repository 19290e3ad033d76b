import Custodian.FileTree.Calls
import Custodian.Text.Blank

/-!
# Machines

A machine has files and two programs, one that copies files and one that sends mail. What a program
answers may depend on everything that was run before. Every run is recorded.

Of a program, only how it ends and what it prints is seen. The files that rsync copies, and the sources
that it removes when it is asked to, do not show in the files of the machine, so these are what the agent
itself has made of them. A program is taken to end with a code: that a signal ends it is left out.
-/

namespace Custodian

/-- The programs that the agent runs. -/
inductive Program where
  | rsync
  | sendmail
deriving DecidableEq

/-- The name under which a program is looked for. -/
def Program.name : Program → Text
  | .rsync => "rsync"
  | .sendmail => "sendmail"

/-- A run of a program. -/
structure Run where
  program : Program
  arguments : List Text
  input : Text
  /-- The directories below the scratch directory that the run copies from, if it copies from one. -/
  scratch : Option (List Text)
deriving DecidableEq

/-- How a program ended that was not ended by a signal. -/
structure Ending where
  code : Nat
  output : Bytes
  errors : Bytes
deriving DecidableEq

namespace Ending

def isSuccess (e : Ending) : Bool :=
  e.code = 0

/-- What is said about a program that failed. -/
def describe (program : Program) (e : Ending) : Text :=
  program.name ++ " exited with exit status: " ++ Text.ofNat e.code ++ ": " ++
    Text.trimBlanks (Utf8.decodeForgiving e.errors)

end Ending

/-- Files, programs and what was run. -/
structure Machine where
  files : FileTree
  /-- The places of the programs that are there. -/
  programs : List (Place × Program)
  /-- The directories in which programs are looked for. -/
  searchPath : List Text
  /-- How a run ends, after the runs before it. -/
  ending : List Run → Run → Ending
  /-- What was run so far. -/
  runs : List Run

namespace Machine

def programAt? (m : Machine) (path : Text) : Option Program :=
  match m.files.resolve path with
  | .ok (.found place (.file _)) => (m.programs.find? fun p => p.1 = place).map (·.2)
  | _ => none

/-- The program that a command means: a path if it has a slash, else a name to look for. -/
def program? (m : Machine) (command : Text) : Option Program :=
  if command.contains '/' then m.programAt? command
  else if command.isEmpty then none
  else m.searchPath.findSome? fun directory => m.programAt? (Path.join directory command)

/-- Runs a command; `none` if it cannot be started. The files stay as they are, also if the run is to move
some of them. -/
def run (command : Text) (arguments : List Text) (input : Text) (scratch : Option (List Text))
    (m : Machine) : Option Ending × Machine :=
  match m.program? command with
  | none => (none, m)
  | some program =>
    if arguments.any (·.contains '\x00') then (none, m)
    else
      let r : Run := ⟨program, arguments, input, scratch⟩
      (some (m.ending m.runs r), { m with runs := m.runs ++ [r] })

end Machine

end Custodian
