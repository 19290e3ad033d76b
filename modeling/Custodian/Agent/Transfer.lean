import Custodian.Agent.Registration

/-!
# Moving files in and out of the space

With a remote machine, files are moved and listed there; otherwise on this machine. What is deleted is
deleted by the appliance, and what has landed in the space is announced to it.
-/

namespace Custodian.Agent

open Appliance

variable {σ π : Type}

/-- Why a transfer failed. -/
inductive TransferError where
  | space (reason : Text)
  | deletionNotSent (url : Text)
  | notDeleted (path : Text)
  | notAnnounced (name : Text) (cause : Error)
deriving DecidableEq

def TransferError.message : TransferError → Text
  | .space reason => reason
  | .deletionNotSent url => "Error in connection for DELETE to " ++ url
  | .notDeleted path => "Unable to delete " ++ path
  | .notAnnounced name _ => "Unable to notify Arkivum of " ++ name

def inSpace {α : Type} (r : Except Text α) : Job σ π TransferError α :=
  Job.ofExcept (r.mapError .space)

/-- Lists a directory of the space. -/
def browse (s : Surroundings σ) (path : Text) : Job σ π TransferError Listing := do
  match s.remote? with
  | some remote =>
    let target := remote.target (Text.trimEnd (· == '/') path ++ ['/'])
    inSpace (← Job.act (s.browseRemote target) (.browsedRemotely target))
  | none => inSpace (← Job.act (s.browseLocal path) (.browsedLocally path))

def deletionAnswer (url path : Text) : Exchange → Except TransferError Unit
  | .unreachable => .error (.deletionNotSent url)
  | .closed => .error (.deletionNotSent url)
  | .truncated status => if status = 204 then .ok () else .error (.notDeleted path)
  | .answered status _ => if status = 204 then .ok () else .error (.notDeleted path)

def deletePath (s : Surroundings σ) (path : Text) : Job σ π TransferError Unit := do
  let url := s.endpoints.delete path
  let exchange ← Job.exchange s ⟨.delete, url, .nothing⟩
  Job.ofExcept (deletionAnswer url path exchange)

/-- Makes the directories around a path on this machine. -/
def createLocally (s : Surroundings σ) (path : Text) : Job σ π TransferError Unit := do
  inSpace (← Job.act (s.createLocalDirectory path) (.createdLocally path))

/-- Makes the directories around a path on a remote machine. -/
def createRemotely (s : Surroundings σ) (path : Text) (remote : Remote) :
    Job σ π TransferError Unit := do
  inSpace (← Job.act (s.createRemoteDirectory path remote) (.createdRemotely path remote))

/-- Moves a source to a target. -/
def move (s : Surroundings σ) (source target : Text) (tryRename : Bool) :
    Job σ π TransferError Unit := do
  inSpace (← Job.act (s.move source target tryRename) (.moved source target tryRename))

/-- Fetches a path of the space to a place on this machine. -/
def fetch (s : Surroundings σ) (source target : Text) : Job σ π TransferError Unit := do
  let origin := match s.remote? with
    | some remote => remote.target source
    | none => source
  createLocally s target
  move s origin target false

/-- Moves what lies on this machine to a path in the space. -/
def deposit (s : Surroundings σ) (source target : Text) : Job σ π TransferError Unit := do
  match s.remote? with
  | some remote =>
    createRemotely s target remote
    move s source (remote.target target) false
  | none =>
    createLocally s target
    move s source target true

/-- Registers the package that has landed at a destination, unless it has an identifier. -/
def announce (s : Surroundings σ) (destination : Text) : Job σ Package TransferError Unit := do
  let p ← Job.held
  match p.identifier? with
  | some _ => return ()
  | none =>
    let _ ← Job.mapError (.notAnnounced p.display) (register s destination)
    return ()

end Custodian.Agent
