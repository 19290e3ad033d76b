import Custodian.Machine
import Custodian.Space.Listing
import Custodian.Space.Remote

/-!
# Spaces

A space is reached from the machine that has it mounted. Files are moved by renaming them or with
rsync, which also reaches remote machines.

What the system says about a failed call is left out of the messages here.
-/

namespace Custodian.Space

/-- Why something could not be done in a space. -/
inductive Error where
  | directoryNotMade (path : Text)
  | scratchNotMade
  | rsyncNotStarted
  | rsyncFailed (ending : Ending)
  | directoryNotRead (path : Text)
deriving DecidableEq

def Error.message : Error → Text
  | .directoryNotMade path => "Failed to create directory " ++ path
  | .scratchNotMade => "Failed to create scratch directory tree"
  | .rsyncNotStarted => "Failed to run rsync"
  | .rsyncFailed ending => ending.describe .rsync
  | .directoryNotRead path => "Failed to read directory " ++ path

/-- Runs rsync, whose output is the result. -/
def runRsync (arguments : List Text) (scratch : Option (List Text)) (m : Machine) :
    Except Error Text × Machine :=
  match m.run Program.rsync.name arguments [] scratch with
  | (none, m) => (.error .rsyncNotStarted, m)
  | (some ending, m) =>
    if ending.isSuccess then (.ok (Utf8.decodeForgiving ending.output), m)
    else (.error (.rsyncFailed ending), m)

/-- Makes the directories around a path. -/
def createLocalDirectory (path : Text) (m : Machine) : Except Error Unit × Machine :=
  match Path.parent? path with
  | none => (.ok (), m)
  | some parent =>
    match m.files.makeDirectories parent with
    | (.ok (), files) => (.ok (), { m with files })
    | (.error _, files) => (.error (.directoryNotMade parent), { m with files })

/-! ### Scratch directories

There is always a scratch directory to be had: a new and empty one, in a tree of its own, whose path stands
for any other. It is gone once it has been copied, and so is all that was made around it. If a path leads out
of it by two dots, the directories that are made elsewhere do not show in the files of the machine. -/

/-- Where the scratch directory lies in a tree of its own. -/
def scratchPlace : Place := ["tmp", "scratch"]

/-- The path of the scratch directory. -/
def scratchPath : Text :=
  '/' :: Path.joinParts scratchPlace

/-- A tree with nothing but an empty scratch directory. -/
def freshScratch : FileTree where
  root := .directory [("tmp", .directory [("scratch", .empty)])]
  working := []

/-- The path without the slashes and idle parts it begins with, if it begins at the root. -/
def belowRoot (path : Text) : Text :=
  (Path.inside? ['/'] path).getD path

/-- The directories below a scratch directory in which a path was made, in order. -/
def scratchDirectories (path : Text) : Except Fault (List Text) :=
  let full := Path.join scratchPath (belowRoot path)
  match freshScratch.makeDirectories full with
  | (.error fault, _) => .error fault
  | (.ok (), files) =>
    .ok (Text.sort (((files.root.get? scratchPlace).getD .empty).places.map fun below =>
      Path.joinParts below.1))

/-- Makes the directories around a path on a remote machine, all at once: they are made in an empty
scratch directory, which is then copied onto the remote root. -/
def createRemoteDirectory (path : Text) (remote : Remote) (m : Machine) :
    Except Error Unit × Machine :=
  match Path.parent? path with
  | none => (.ok (), m)
  | some parent =>
    match scratchDirectories parent with
    | .error _ => (.error .scratchNotMade, m)
    | .ok directories =>
      let arguments : List Text :=
        ["-vv", "--protect-args", "--chmod=ug=rwx,o=rx", "--recursive", scratchPath ++ ['/'],
          remote.target ['/']]
      match runRsync arguments (some directories) m with
      | (.ok _, m) => (.ok (), m)
      | (.error e, m) => (.error e, m)

/-! ### Moving -/

/-- The source as rsync is given it: a directory gets exactly one trailing slash, so that what it holds is
copied. -/
def rsyncSource (files : FileTree) (source : Text) : Text :=
  if files.isDirectory source then Text.trimEnd (· == '/') source ++ ['/'] else source

/-- Moves a source to a target with rsync. -/
def moveWithRsync (source target : Text) (m : Machine) : Except Error Unit × Machine :=
  let arguments : List Text :=
    ["-t", "-O", "--protect-args", "-vv", "--chmod=Fug+rw,o-rwx,Dug+rwx,o-rwx", "-r",
      "--remove-source-files", rsyncSource m.files source, target]
  match runRsync arguments none m with
  | (.ok _, m) => (.ok (), m)
  | (.error e, m) => (.error e, m)

/-- Moves a source to a target. If `tryRename`, it is first tried to rename it. -/
def move (source target : Text) (tryRename : Bool) (m : Machine) : Except Error Unit × Machine :=
  if tryRename then
    match m.files.rename source target with
    | .ok files => (.ok (), { m with files })
    | .error _ => moveWithRsync source target m
  else moveWithRsync source target m

/-! ### Listing -/

/-- The listing of the entries of a directory, in the order of their names; hidden ones are left out. -/
def listingOf (entries : Table Node) : Listing :=
  let shown := (entries.filter fun e => e.1.head? ≠ some '.').mergeSort fun a b => !decide (b.1 < a.1)
  { directories := Table.names (shown.filter (·.2.isDirectory))
    entries := Table.names shown
    sizes := Table.ofList ((shown.filter (!·.2.isDirectory)).map fun (name, node) => (name, node.size)) }

/-- Lists a directory of this machine. -/
def browseLocal (path : Text) (m : Machine) : Except Error Listing × Machine :=
  match m.files.directory path with
  | .ok node => (.ok (listingOf node.entries), m)
  | .error _ => (.error (.directoryNotRead path), m)

def browseRemote (target : Text) (m : Machine) : Except Error Listing × Machine :=
  match runRsync ["--protect-args", "--list-only", "--exclude=.*", target] none m with
  | (.ok output, m) => (.ok (Listing.ofPrinted output), m)
  | (.error e, m) => (.error e, m)

end Custodian.Space
