import Custodian.Text.Basic

/-!
# Addresses at the appliance

Every question to the appliance has a URL of its own under the base URL. The base is kept without
trailing slashes, and paths are put in without leading ones.
-/

namespace Custodian.Appliance

/-- Where an appliance is reached. -/
structure Endpoints where
  base : Text
deriving DecidableEq

namespace Endpoints

def isSlash (c : Char) : Bool :=
  c = '/'

/-- The endpoints under a base URL. -/
def ofBase (url : Text) : Endpoints :=
  ⟨Text.trimEnd isSlash url⟩

/-- The URL of a path under the base. -/
def under (e : Endpoints) (route path : Text) : Text :=
  e.base ++ route ++ path

/-- The URL at which a path is deleted. -/
def delete (e : Endpoints) (path : Text) : Text :=
  e.under "/files/" (Text.trimStart isSlash path)

/-- The URL at which a single file is registered. -/
def fileRelease (e : Endpoints) (relativePath : Text) : Text :=
  e.under "/api/2/files/release/" (Text.trimStart isSlash relativePath)

/-- The URL at which a bag is registered. -/
def manifestRelease (e : Endpoints) : Text :=
  e.under "/api/3/ingest-manifest/release" []

/-- The URL that tells the state of a registered file. -/
def fileReleaseStatus (e : Endpoints) (id : Text) : Text :=
  e.under "/api/2/files/release/" id

/-- The URL that tells the state of a registered bag. -/
def manifestStatus (e : Endpoints) (id : Text) : Text :=
  e.under "/api/3/ingest-manifest/status/" id

/-- The URL that tells about one file. The path is put in as it is, so it has to be quoted already. -/
def fileInfo (e : Endpoints) (path : Text) : Text :=
  e.under "/api/2/files/fileInfo/" (Text.trimStart isSlash path)

/-- The name of the tag file of a bag. -/
def tagFile : Text := "bag-info.txt"

/-- The path of a file in a package: location, path and file name, a slash between each two. -/
def innerPath (location currentPath file : Text) : Text :=
  Text.trim isSlash location ++ '/' :: Text.trim isSlash currentPath ++ '/' :: file

/-- The URL that tells about the tag file of a bag. -/
def bagInfo (e : Endpoints) (location currentPath : Text) : Text :=
  e.fileInfo (innerPath location currentPath tagFile)

end Endpoints

end Custodian.Appliance
