import Custodian.Json.Fields
import Custodian.Package.Basic

/-!
# Packages as JSON

A package is written as an object with its fields in the order of the record. It is read as a
record: an object, or an array of the fields; only the attributes may be missing.
-/

namespace Custodian

open Json (Value Raw)

namespace Shape

def tagName : Text := "shape"
def compressedTag : Text := "compressed"
def uncompressedTag : Text := "uncompressed"
def pointerFileName : Text := "pointer_file"

/-- A shape is an object whose field `shape` names the kind. -/
def toJson : Shape → Value
  | .compressed pointerFile =>
    .object [(tagName, .string compressedTag), (pointerFileName, .string pointerFile)]
  | .uncompressed => .object [(tagName, .string uncompressedTag)]

/-- The shape of a kind; the pointer file is read only where the kind has one. -/
def ofTag? (tag : Text) (pointerFile : Option (Option Raw)) : Option Shape :=
  if tag = compressedTag then do
    let field ← pointerFile
    let path ← field.bind Raw.text?
    return .compressed path
  else if tag = uncompressedTag then some .uncompressed
  else none

/-- Reads a shape. All that is in it must be a value, also what is skipped. As an array, the kind
comes first and then just the fields of the kind. -/
def ofJson? (depth : Nat) (r : Raw) : Option Shape := do
  let _ ← r.value? depth
  match r with
  | .object members =>
    let members ← members.mapM fun (name, r) => name.map fun n => (n, r)
    let tag ← Raw.unique? members tagName
    let tag ← tag.bind Raw.text?
    ofTag? tag (Raw.unique? members pointerFileName)
  | .array [tag] => do ofTag? (← tag.text?) (some none)
  | .array [tag, pointerFile] => do
    let shape ← ofTag? (← tag.text?) (some (some pointerFile))
    if shape = .uncompressed then none else return shape
  | _ => none

end Shape

namespace Status

/-- A status is written as its name, or as an object that gives its name the value `null`. -/
def ofJson? : Raw → Option Status
  | .string t => t.bind ofName?
  | .object [(name, .null)] => name.bind ofName?
  | _ => none

end Status

namespace Package

/-- The names of the fields, in order. -/
def fieldNames : List Text :=
  ["uuid", "current_path", "location", "shape", "status", "misc_attributes"]

def toJson (p : Package) : Value :=
  .object <| fieldNames.zip
    [.string p.uuid, .string p.currentPath, .string p.location, p.shape.toJson,
      .string p.status.name, .object p.attributes]

/-- Attributes are an object; none are given where the field is missing. -/
def attributesOfJson? (depth : Nat) : Option Raw → Option Json.Members
  | none => some []
  | some r =>
    match r.value? depth with
    | some (.object members) => some members
    | _ => none

def ofRaw? (r : Raw) : Option Package := do
  let inner := Raw.greatestDepth - 1
  match ← r.fields? fieldNames with
  | [some uuid, some currentPath, some location, some shape, some status, attributes] =>
    return {
      uuid := ← uuid.text?
      currentPath := ← currentPath.text?
      location := ← location.text?
      shape := ← Shape.ofJson? inner shape
      status := ← Status.ofJson? status
      attributes := ← attributesOfJson? inner attributes }
  | _ => none

/-- Reads a package from a text. -/
def read? (t : Text) : Option Package :=
  (Raw.read? t).bind ofRaw?

end Package

end Custodian
