import Custodian.Text.Blank
import Custodian.Xml.Node

/-!
# Pointer files

A pointer file describes a compressed package in XML. What matters is its first fixity record, in
document order: the algorithm and value of a checksum, and the size of the file. The size stands
in the record or beside it.
-/

namespace Custodian.Pointer

open Xml (Name)

/-- The fixity record of a pointer file; what it does not state is `none`. -/
structure Fixity where
  algorithm : Option Text
  checksum : Option Text
  size : Option Text
deriving DecidableEq

/-- Why a pointer file is of no use. -/
inductive Error where
  | unreadable (path : Text)
  | malformed (path : Text)
  | noRecord (path : Text)
deriving DecidableEq

def Error.message : Error → Text
  | .unreadable path => "Failed to read pointer file " ++ path
  | .malformed path => "Failed to parse pointer file " ++ path
  | .noRecord path => "No premis:fixity element in pointer file " ++ path

/-! ### The record -/

def namespaces : List Text :=
  ["http://www.loc.gov/premis/v3", "info:lc/xmlns/premis-v2"]

/-- Whether a name belongs to fixity records and is `base`. -/
def isTerm (base : Text) (name : Name) : Bool :=
  name.base = base && match name.space with
    | some space => namespaces.contains space
    | none => false

/-- The text of the first of some nodes that has a name, without outer blanks. -/
def textOf? (base : Text) (nodes : List Xml.Node) : Option Text :=
  ((nodes.find? (·.hasName (isTerm base))).bind Xml.Node.leadingText?).map Text.trimBlanks

/-- The record of an element with its children, among its siblings. -/
def record (siblings children : List Xml.Node) : Fixity where
  algorithm := textOf? "messageDigestAlgorithm" children
  checksum := textOf? "messageDigest" children
  size := textOf? "size" children <|> textOf? "size" siblings

mutual

/-- The first record in a node that stands among `siblings`. -/
def first? (siblings : List Xml.Node) : Xml.Node → Option Fixity
  | .element name children =>
    if isTerm "fixity" name then some (record siblings children)
    else firstAmong? children children
  | _ => none

/-- The first record in some of the children of an element. -/
def firstAmong? (siblings : List Xml.Node) : List Xml.Node → Option Fixity
  | [] => none
  | node :: nodes => first? siblings node <|> firstAmong? siblings nodes

end

/-- The record of a pointer file. -/
def read (path content : Text) : Except Error Fixity :=
  match Xml.Node.read? content with
  | none => .error (.malformed path)
  | some root =>
    match first? [] root with
    | none => .error (.noRecord path)
    | some fixity => .ok fixity

end Custodian.Pointer
