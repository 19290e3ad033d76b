import Custodian.Xml.Namespace

/-!
# XML documents

A document is one element, with comments and processing instructions around it. The tree of a
document is built by a machine with a stack of the elements that are still open. Adjacent stretches of
text make one node.
-/

namespace Custodian.Xml

/-- A node of a document. -/
inductive Node where
  | element (name : Name) (children : List Node)
  | text (t : Text)
  /-- A comment or a processing instruction. -/
  | aside

namespace Node

/-- Whether a node is an element whose name satisfies `p`. -/
def hasName (p : Name → Bool) : Node → Bool
  | .element name _ => p name
  | _ => false

/-- The text that an element begins with. -/
def leadingText? : Node → Option Text
  | .element _ (.text t :: _) => some t
  | _ => none

/-! ### Building -/

/-- An element that is still open. -/
structure Frame where
  written : QualifiedName
  name : Name
  scope : Scope
  /-- The children so far, in reverse. -/
  children : List Node

/-- The machine: the open elements, the innermost first, and the element of the document once it is
complete. -/
structure Builder where
  frames : List Frame
  done : Option Node

namespace Builder

def initial : Builder := ⟨[], none⟩

/-- Adds a child; text joins the text before it. -/
def addChild (child : Node) : List Node → List Node
  | .text before :: children =>
    match child with
    | .text t => .text (before ++ t) :: children
    | child => child :: .text before :: children
  | children => child :: children

/-- Puts a node into the innermost open element. -/
def addInside? (child : Node) (b : Builder) : Option Builder :=
  match b.frames with
  | [] => none
  | frame :: frames =>
    some { b with frames := { frame with children := addChild child frame.children } :: frames }

/-- Puts a complete element where it belongs: the document has room for one. -/
def addElement? (element : Node) (b : Builder) : Option Builder :=
  match b.frames, b.done with
  | [], none => some { b with done := some element }
  | [], some _ => none
  | _ :: _, _ => addInside? element b

def step? (b : Builder) : Token → Option Builder
  | .openTag written attributes closed => do
    let outer : Scope := (b.frames.head?.map (·.scope)).getD []
    let (name, scope) ← outer.enter? written attributes
    if closed then addElement? (.element name []) b
    else if b.frames.isEmpty && b.done.isSome then none
    else return { b with frames := ⟨written, name, scope, []⟩ :: b.frames }
  | .closeTag written =>
    match b.frames with
    | [] => none
    | frame :: frames =>
      if frame.written = written then
        addElement? (.element frame.name frame.children.reverse) { b with frames := frames }
      else none
  | .text t =>
    if b.frames.isEmpty then if t.all isSpace then some b else none
    else do addInside? (.text (← content? t)) b
  | .characterData t => addInside? (.text (dataContent t)) b
  | .aside => if b.frames.isEmpty then some b else addInside? .aside b

end Builder

def read? (t : Text) : Option Node := do
  let tokens ← Token.ofDocument? t
  let b ← tokens.foldlM Builder.step? .initial
  if b.frames.isEmpty then b.done else none

end Node

end Custodian.Xml
