import Custodian.Appliance.Exchange
import Custodian.Pointer

/-!
# What can go wrong with the appliance
-/

namespace Custodian.Appliance

/-- What an answer should be about. -/
inductive Subject where
  | registration
  | package
  | file
deriving DecidableEq

/-- How a subject is named in messages. -/
def Subject.name : Subject → Text
  | .registration => "registration response"
  | .package => "package info"
  | .file => "file info"

/-- Why a question to the appliance has no answer. -/
inductive Error where
  /-- The exchange broke off. -/
  | transport (method : Method) (url : Text)
  /-- The answer has a status that means failure. -/
  | protocol (url : Text) (status : Nat) (body : Text)
  /-- The body is not what it should be. -/
  | format (subject : Subject)
  | noRequestId (body : Text)
  | noFileInformation
  | noFailures (status : Option Text)
  | noFiles (directory : Text)
  /-- The question makes no sense for compressed packages. -/
  | unsupported
  /-- There is no identifier to ask for. -/
  | notRegistered
  | pointer (e : Pointer.Error)
  /-- The package was not saved. -/
  | store (uuid reason : Text)
deriving DecidableEq

def Error.message : Error → Text
  | .transport method url => "Error in connection for " ++ method.name ++ " to " ++ url
  | .protocol _ status _ => "Response from Arkivum server was " ++ statusLine status
  | .format subject => "JSON could not be parsed from " ++ subject.name
  | .noRequestId body => "Could not get request ID from Arkivum's response " ++ body
  | .noFileInformation => "Arkivum response has no fileInformation"
  | .noFailures status =>
    "Arkivum reported fixity status " ++ status.getD "(none)" ++ " without any failures"
  | .noFiles directory => "No files found in " ++ directory
  | .unsupported => "Arkivum does not implement fixity for compressed packages"
  | .notRegistered => "Unable to contact Arkivum"
  | .pointer e => e.message
  | .store uuid reason => "Failed to save package " ++ uuid ++ ": " ++ reason

end Custodian.Appliance
