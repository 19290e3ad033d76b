import Custodian.Json.Printer
import Custodian.Path.Basic

/-!
# Packages

A package is one archived object: a compressed file with a pointer file beside it, or a bag, which
is a directory. Its attributes are free-form; one of them holds the identifier under which the
appliance knows the package.
-/

namespace Custodian

/-- How a package is laid out. -/
inductive Shape where
  /-- One file, described by a pointer file. -/
  | compressed (pointerFile : Text)
  /-- A bag: a directory. -/
  | uncompressed
deriving DecidableEq

/-- Where a package stands. -/
inductive Status where
  | pending
  | staging
  | uploaded
  | verified
  | deletionRequested
  | deleted
  | recoveryRequested
  | moving
  | failed
  | finalized
deriving DecidableEq

namespace Status

def all : List Status :=
  [.pending, .staging, .uploaded, .verified, .deletionRequested, .deleted, .recoveryRequested,
    .moving, .failed, .finalized]

def name : Status → Text
  | .pending => "PENDING"
  | .staging => "STAGING"
  | .uploaded => "UPLOADED"
  | .verified => "VERIFIED"
  | .deletionRequested => "DEL_REQ"
  | .deleted => "DELETED"
  | .recoveryRequested => "RECOVER_REQ"
  | .moving => "MOVING"
  | .failed => "FAIL"
  | .finalized => "FINALIZED"

def ofName? (name : Text) : Option Status :=
  all.find? (·.name == name)

end Status

/-- An archived object. -/
structure Package where
  uuid : Text
  /-- The path of the package in its location. -/
  currentPath : Text
  /-- The path of the location in the space. -/
  location : Text
  shape : Shape
  status : Status
  /-- Free-form attributes, in order of their names. -/
  attributes : Json.Members
deriving DecidableEq

namespace Package

/-- The attribute that holds the identifier at the appliance. -/
def identifierName : Text := "arkivum_identifier"

def isCompressed (p : Package) : Bool :=
  match p.shape with
  | .compressed _ => true
  | .uncompressed => false

/-- The path without its leading slashes. -/
def withoutLead (path : Text) : Text :=
  Text.trimStart (· == '/') path

/-- Where the package lies, given the root of the space. -/
def fullPath (spaceRoot : Text) (p : Package) : Text :=
  Path.join (Path.join spaceRoot (withoutLead p.location)) (withoutLead p.currentPath)

/-- The identifier at the appliance. A string is taken verbatim, any other value but `null` is
written out. -/
def identifier? (p : Package) : Option Text :=
  match Table.get? identifierName p.attributes with
  | none | some .null => none
  | some (.string t) => some t
  | some v => some v.compact

def setIdentifier (id : Text) (p : Package) : Package :=
  { p with attributes := Table.insert identifierName (.string id) p.attributes }

/-- An identifier is read back as it was set. -/
@[simp]
theorem identifier?_setIdentifier (id : Text) (p : Package) :
    (p.setIdentifier id).identifier? = some id := by
  simp [setIdentifier, identifier?]

/-- How the package is named to people. -/
def display (p : Package) : Text :=
  p.uuid ++ ':' :: ' ' :: p.currentPath

end Package

end Custodian
