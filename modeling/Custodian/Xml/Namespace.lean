import Custodian.Xml.Content

/-!
# Namespaces

A tag declares namespaces by the attributes `xmlns` and `xmlns:p`. A declaration holds inside the
element, unless an inner one of the same prefix hides it. The name of an element or attribute is
then its namespace and what stands after the colon.
-/

namespace Custodian.Xml

/-- A name with its namespace. -/
structure Name where
  space : Option Text
  base : Text
deriving DecidableEq

/-- The namespaces in force: what stands for each, `none` being the one for names without a colon.
The first entry of equals counts. -/
abbrev Scope := List (Option Text × Text)

namespace Scope

def xmlLead : Text := "xml"
def declarationLead : Text := "xmlns"

/-- The namespace of the attributes that XML itself defines. -/
def xmlSpace : Text := "http://www.w3.org/XML/1998/namespace"

def declarationSpace : Text := "http://www.w3.org/2000/xmlns/"

/-- The namespace that is in force for a lead. -/
def spaceOf? (scope : Scope) (lead : Option Text) : Option Text :=
  (List.find? (fun entry => entry.1 = lead) scope).map (·.2)

/-- The lead of a name, as it is declared. -/
def leadOf (name : QualifiedName) : Option Text :=
  if name.lead.isEmpty then none else some name.lead

/-- Adds the declarations among the attributes of one tag. The two namespaces of XML itself cannot be
declared anew, and a lead cannot be declared twice. -/
def declare? : (own : Scope) → List (QualifiedName × Text) → Option Scope
  | own, [] => some own
  | own, (name, value) :: attributes =>
    if name.lead = declarationLead then
      if value = declarationSpace || decide (name.base = xmlLead) != decide (value = xmlSpace) ||
          own.any (fun entry => entry.1 = some name.base) then none
      else if value = xmlSpace then declare? own attributes
      else declare? (own ++ [(some name.base, value)]) attributes
    else if name.base = declarationLead then
      if value = xmlSpace || value = declarationSpace then none
      else declare? (own ++ [(none, value)]) attributes
    else declare? own attributes

def elementName? (scope : Scope) (name : QualifiedName) : Option Name :=
  match scope.spaceOf? (leadOf name) with
  | some space => some ⟨some space, name.base⟩
  | none => if name.lead.isEmpty then some ⟨none, name.base⟩ else none

/-- The name of an attribute; one without a colon is in no namespace. -/
def attributeName? (scope : Scope) (name : QualifiedName) : Option Name :=
  if name.lead = xmlLead then some ⟨some xmlSpace, name.base⟩
  else if name.lead.isEmpty then some ⟨none, name.base⟩
  else (scope.spaceOf? (leadOf name)).map fun space => ⟨some space, name.base⟩

/-- Whether an attribute declares a namespace. -/
def isDeclaration (name : QualifiedName) : Bool :=
  name.lead = declarationLead || name.base = declarationLead

/-- The name of an element and the namespaces inside it, if its tag is in order: all leads are
declared, and no attribute is given twice. -/
def enter? (outer : Scope) (name : QualifiedName) (attributes : List Attribute) :
    Option (Name × Scope) := do
  if name.lead = declarationLead then none
  else
    let attributes ← attributes.mapM fun a => (attributeContent? a.value).map fun v => (a.name, v)
    let own ← declare? [] attributes
    let scope := own ++ outer
    let plain := (attributes.map (·.1)).filter (!isDeclaration ·)
    let names ← plain.mapM (attributeName? scope)
    if decide names.Nodup then return (← elementName? scope name, scope) else none

end Scope

end Custodian.Xml
