import Custodian.Proofs.Xml.Document
import Custodian.Proofs.Xml.Namespace
import Custodian.Xml.Node
import Mathlib.Data.List.Chain

/-!
# How trees are spelled

The content of an element is spelled by tokens: text, comments, and elements with content of their own (`Content`).
A document is one element, with blanks, comments and instructions around it (`Node.Spells`). However a tree is
spelled, it is read (`read?_eq`).
-/

namespace Custodian.Xml

/-! ### Content -/

/-- Puts text before some nodes; it joins the text that they begin with. -/
def joinText (t : Text) : List Node → List Node
  | .text u :: nodes => .text (t ++ u) :: nodes
  | nodes => .text t :: nodes

/-- How nodes are spelled where some namespaces are in force. -/
inductive Content : Scope → List Token → List Node → Prop
  | nil {scope : Scope} : Content scope [] []
  | text {scope : Scope} {written t : Text} {tokens : List Token} {nodes : List Node}
      (means : content? written = some t) (more : Content scope tokens nodes) :
      Content scope (.text written :: tokens) (joinText t nodes)
  | data {scope : Scope} {written : Text} {tokens : List Token} {nodes : List Node}
      (more : Content scope tokens nodes) :
      Content scope (.characterData written :: tokens) (joinText (dataContent written) nodes)
  | aside {scope : Scope} {tokens : List Token} {nodes : List Node} (more : Content scope tokens nodes) :
      Content scope (.aside :: tokens) (.aside :: nodes)
  | closed {scope inner : Scope} {written : QualifiedName} {attributes : List Attribute} {name : Name}
      {tokens : List Token} {nodes : List Node} (enters : scope.Enters written attributes name inner)
      (more : Content scope tokens nodes) :
      Content scope (.openTag written attributes true :: tokens) (.element name [] :: nodes)
  | element {scope inner : Scope} {written : QualifiedName} {attributes : List Attribute} {name : Name}
      {within tokens : List Token} {children nodes : List Node}
      (enters : scope.Enters written attributes name inner) (inside : Content inner within children)
      (more : Content scope tokens nodes) :
      Content scope (.openTag written attributes false :: (within ++ .closeTag written :: tokens))
        (.element name children :: nodes)

/-! ### Texts are joined -/

def Node.isText : Node → Bool
  | .text _ => true
  | _ => false

/-- No two texts stand side by side. -/
def Joined (nodes : List Node) : Prop :=
  nodes.IsChain fun a b => a.isText = true → b.isText = false

lemma joined_joinText {nodes : List Node} (h : Joined nodes) (t : Text) : Joined (joinText t nodes) := by
  rcases nodes with _ | ⟨node, nodes⟩
  · exact .singleton _
  · cases node with
    | text u =>
      cases nodes with
      | nil => exact .singleton _
      | cons next nodes =>
        rw [Joined, List.isChain_cons_cons] at h
        exact .cons_cons (fun _ => h.1 rfl) h.2
    | _ => exact .cons_cons (fun _ => rfl) h

lemma Joined.cons {node : Node} {nodes : List Node} (h : Joined nodes) (noText : node.isText = false) :
    Joined (node :: nodes) := by
  cases nodes with
  | nil => exact .singleton _
  | cons next nodes =>
    refine .cons_cons (fun htext => ?_) h
    rw [noText] at htext
    cases htext

lemma Content.joined {scope : Scope} {tokens : List Token} {nodes : List Node} (h : Content scope tokens nodes) :
    Joined nodes := by
  induction h with
  | nil => exact .nil
  | text _ _ ih => exact joined_joinText ih _
  | data _ ih => exact joined_joinText ih _
  | aside _ ih => exact ih.cons rfl
  | closed _ _ ih => exact ih.cons rfl
  | element _ _ _ _ ih => exact ih.cons rfl

/-! ### The machine -/

namespace Node.Builder

/-- The children of an element after some more nodes, in reverse. -/
def addAll (nodes children : List Node) : List Node :=
  nodes.foldl (fun children node => addChild node children) children

lemma addAll_joinText (t : Text) (nodes children : List Node) :
    addAll (joinText t nodes) children = addAll nodes (addChild (.text t) children) := by
  have hjoin : ∀ u : Text,
      addChild (.text (t ++ u)) children = addChild (.text u) (addChild (.text t) children) := by
    intro u
    rcases children with _ | ⟨⟨_, _⟩ | before | _, children⟩ <;> simp [addChild]
  rcases nodes with _ | ⟨⟨_, _⟩ | u | _, nodes⟩
  · rfl
  · rfl
  · exact congrArg (addAll nodes) (hjoin u)
  · rfl

lemma addChild_of_apart {node : Node} {children : List Node}
    (apart : ∀ last ∈ children.head?, last.isText = true → node.isText = false) :
    addChild node children = node :: children := by
  rcases children with _ | ⟨⟨_, _⟩ | before | _, children⟩
  · rfl
  · rfl
  · have hnode := apart _ rfl rfl
    cases node with
    | text t => cases hnode
    | _ => rfl
  · rfl

/-- Nodes whose texts are joined are added as they are. -/
lemma addAll_of_joined {nodes : List Node} (h : Joined nodes) {children : List Node}
    (apart : ∀ last ∈ children.head?, ∀ first ∈ nodes.head?, last.isText = true → first.isText = false) :
    addAll nodes children = nodes.reverse ++ children := by
  induction nodes generalizing children with
  | nil => rfl
  | cons node nodes ih =>
    have hfirst := addChild_of_apart fun last hlast => apart last hlast node rfl
    have hrest : ∀ last ∈ (node :: children).head?, ∀ first ∈ nodes.head?,
        last.isText = true → first.isText = false := by
      rintro _ ⟨⟩ first hfirst
      obtain ⟨more, rfl⟩ : ∃ more, nodes = first :: more := by
        cases nodes with
        | nil => cases hfirst
        | cons _ more => exact ⟨more, by rw [Option.some.inj hfirst]⟩
      exact (List.isChain_cons_cons.1 h).1
    rw [addAll, List.foldl_cons, hfirst, ← addAll, ih h.of_cons hrest, List.reverse_cons, List.append_assoc,
      List.singleton_append]

lemma reverse_addAll {nodes : List Node} (h : Joined nodes) : (addAll nodes []).reverse = nodes := by
  have happend : addAll nodes [] = nodes.reverse ++ [] := by
    apply addAll_of_joined h
    simp
  rw [happend, List.append_nil, List.reverse_reverse]

/-- An open element with one more node. -/
def addTo (frame : Frame) (node : Node) : Frame :=
  { frame with children := addChild node frame.children }

lemma addElement?_cons (element : Node) (frame : Frame) (frames : List Frame) (done : Option Node) :
    addElement? element ⟨frame :: frames, done⟩ = some ⟨addTo frame element :: frames, done⟩ := rfl

lemma step?_text {written t : Text} (means : content? written = some t) (frame : Frame) (frames : List Frame)
    (done : Option Node) :
    step? ⟨frame :: frames, done⟩ (.text written) = some ⟨addTo frame (.text t) :: frames, done⟩ := by
  simp [step?, means, addInside?, addTo]

lemma step?_openTag {frame : Frame} {written : QualifiedName} {attributes : List Attribute} {name : Name}
    {inner : Scope} (enters : frame.scope.Enters written attributes name inner) (closed : Bool)
    (frames : List Frame) (done : Option Node) :
    step? ⟨frame :: frames, done⟩ (.openTag written attributes closed) =
      some ⟨if closed then addTo frame (.element name []) :: frames
        else ⟨written, name, inner, []⟩ :: frame :: frames, done⟩ := by
  have henter := Scope.enter?_eq enters
  cases closed <;> simp [step?, henter, addElement?_cons]

lemma step?_closeTag {outer frame : Frame} (frames : List Frame) (done : Option Node) :
    step? ⟨frame :: outer :: frames, done⟩ (.closeTag frame.written) =
      some ⟨addTo outer (.element frame.name frame.children.reverse) :: frames, done⟩ := by
  simp [step?, addElement?_cons]

/-- **Content is added to the element that is open**, and nothing else changes. -/
theorem foldlM_content {scope : Scope} {tokens : List Token} {nodes : List Node} (h : Content scope tokens nodes)
    (frame : Frame) (inForce : frame.scope = scope) (frames : List Frame) (done : Option Node) :
    tokens.foldlM step? ⟨frame :: frames, done⟩ =
      some ⟨{ frame with children := addAll nodes frame.children } :: frames, done⟩ := by
  induction h generalizing frame frames with
  | nil => rfl
  | @text scope written t tokens nodes means _ ih =>
    rw [List.foldlM_cons, step?_text means, addAll_joinText]
    exact ih (addTo frame (.text t)) inForce frames
  | @data scope written tokens nodes _ ih =>
    rw [List.foldlM_cons, addAll_joinText]
    exact ih (addTo frame (.text (dataContent written))) inForce frames
  | aside _ ih =>
    rw [List.foldlM_cons]
    exact ih (addTo frame .aside) inForce frames
  | @closed scope inner written attributes name tokens nodes enters _ ih =>
    rw [← inForce] at enters
    rw [List.foldlM_cons, step?_openTag enters]
    exact ih (addTo frame (.element name [])) inForce frames
  | @element scope inner written attributes name within tokens children nodes enters inside _ ihInside ih =>
    rw [← inForce] at enters
    -- what is inside is added to a frame of its own, above the one that is open
    have hinside := ihInside ⟨written, name, inner, []⟩ rfl (frame :: frames)
    rw [List.foldlM_cons, step?_openTag enters, Option.bind_eq_bind, Option.bind_some, List.foldlM_append,
      if_neg Bool.false_ne_true, hinside, Option.bind_eq_bind, Option.bind_some, List.foldlM_cons,
      step?_closeTag, reverse_addAll inside.joined]
    exact ih (addTo frame (.element name children)) inForce frames

end Node.Builder

/-! ### Documents -/

/-- What may stand around the element of a document. -/
inductive IsOutside : Token → Prop
  | blanks {t : Text} (spaces : AreSpaces t) : IsOutside (.text t)
  | aside : IsOutside .aside

/-- How a document is spelled. -/
inductive Node.Spells : Node → Text → Prop
  | intro {doc : Text} {before within after : List Token} {name : Name} {children : List Node}
      (spelled : DocumentSpells (before ++ within ++ after) doc)
      (outsideBefore : ∀ token ∈ before, IsOutside token) (outsideAfter : ∀ token ∈ after, IsOutside token)
      (content : Content [] within [.element name children]) :
      Node.Spells (.element name children) doc

/-- What text is put before begins with text. -/
lemma ne_joinText {others : List Node} (h : ∀ first ∈ others.head?, first.isText = false) (t : Text)
    (nodes : List Node) : others ≠ joinText t nodes := by
  rintro rfl
  have hhead : ∃ u rest, joinText t nodes = .text u :: rest := by
    rcases nodes with _ | ⟨⟨_, _⟩ | u | _, nodes⟩
    · exact ⟨t, [], rfl⟩
    · exact ⟨t, _, rfl⟩
    · exact ⟨t ++ u, nodes, rfl⟩
    · exact ⟨t, _, rfl⟩
  obtain ⟨u, rest, hjoin⟩ := hhead
  rw [hjoin] at h
  cases h _ rfl

lemma Content.eq_nil {scope : Scope} {tokens : List Token} (h : Content scope tokens []) : tokens = [] := by
  have hnone : ∀ first ∈ ([] : List Node).head?, first.isText = false := by simp
  generalize hnodes : ([] : List Node) = nodes at h
  cases h with
  | nil => rfl
  | text => exact absurd hnodes (ne_joinText hnone _ _)
  | data => exact absurd hnodes (ne_joinText hnone _ _)
  | _ => cases hnodes

namespace Node.Builder

lemma foldlM_outside {tokens : List Token} (h : ∀ token ∈ tokens, IsOutside token) (done : Option Node) :
    tokens.foldlM step? ⟨[], done⟩ = some ⟨[], done⟩ := by
  induction tokens with
  | nil => rfl
  | cons token tokens ih =>
    have hstep : step? ⟨[], done⟩ token = some ⟨[], done⟩ := by
      cases h token List.mem_cons_self with
      | @blanks t spaces => simp [step?, show t.all isSpace = true from List.all_eq_true.2 spaces]
      | aside => rfl
    rw [List.foldlM_cons, hstep, Option.bind_eq_bind, Option.bind_some,
      ih fun other hother => h other (List.mem_cons_of_mem _ hother)]

/-- The element of a document completes it. -/
lemma foldlM_root {tokens : List Token} {name : Name} {children : List Node}
    (h : Content [] tokens [.element name children]) :
    tokens.foldlM step? ⟨[], none⟩ = some ⟨[], some (.element name children)⟩ := by
  have hfirst : ∀ first ∈ [Node.element name children].head?, first.isText = false := by
    rintro _ ⟨⟩
    rfl
  generalize hnodes : [Node.element name children] = nodes at h
  cases h with
  | nil => cases hnodes
  | text => exact absurd hnodes (ne_joinText hfirst _ _)
  | data => exact absurd hnodes (ne_joinText hfirst _ _)
  | aside => cases hnodes
  | @closed _ inner written attributes _ tokens nodes enters more =>
    obtain ⟨hroot, rfl⟩ := List.cons.inj hnodes
    obtain ⟨rfl, rfl⟩ := Node.element.inj hroot
    have hstep : step? ⟨[], none⟩ (.openTag written attributes true) = some ⟨[], some (.element name [])⟩ := by
      simp [step?, Scope.enter?_eq enters, addElement?]
    rw [more.eq_nil, List.foldlM_cons, hstep]
    rfl
  | @element _ inner written attributes _ within tokens _ nodes enters inside more =>
    obtain ⟨hroot, rfl⟩ := List.cons.inj hnodes
    obtain ⟨rfl, rfl⟩ := Node.element.inj hroot
    have hopen : step? ⟨[], none⟩ (.openTag written attributes false) =
        some ⟨[⟨written, name, inner, []⟩], none⟩ := by
      simp [step?, Scope.enter?_eq enters]
    have hinside := foldlM_content inside ⟨written, name, inner, []⟩ rfl [] none
    have hclose : step? ⟨[⟨written, name, inner, addAll children []⟩], none⟩ (.closeTag written) =
        some ⟨[], some (.element name children)⟩ := by
      simp [step?, addElement?, reverse_addAll inside.joined]
    rw [more.eq_nil, List.foldlM_cons, hopen, Option.bind_eq_bind, Option.bind_some, List.foldlM_append, hinside,
      Option.bind_eq_bind, Option.bind_some, List.foldlM_cons, hclose]
    rfl

end Node.Builder

/-- **However a tree is spelled, it is read.** -/
theorem read?_eq {root : Node} {doc : Text} (h : root.Spells doc) : Node.read? doc = some root := by
  cases h with
  | @intro _ before within after name children spelled outsideBefore outsideAfter content =>
    have htokens := ofDocument?_eq spelled
    have hbefore := Node.Builder.foldlM_outside outsideBefore none
    have hroot := Node.Builder.foldlM_root content
    have hafter := Node.Builder.foldlM_outside outsideAfter (some (.element name children))
    rw [Node.read?, htokens]
    simp [List.foldlM_append, Node.Builder.initial, hbefore, hroot, hafter]

end Custodian.Xml
