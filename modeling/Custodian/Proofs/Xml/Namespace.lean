import Custodian.Proofs.Sequence
import Custodian.Xml.Namespace

/-!
# Tags and their namespaces

A tag declares namespaces by some of its attributes (`Declares`), and these hold in the element before those that
hold around it. The element is in the namespace of its lead, or in that of names without one (`Enters`).
-/

namespace Custodian.Xml.Scope

/-- The namespaces that the attributes of a tag declare, with their values. -/
inductive Declares : List (QualifiedName × Text) → Scope → Prop
  | nil : Declares [] []
  | other {name : QualifiedName} {value : Text} {attributes : List (QualifiedName × Text)} {own : Scope}
      (plain : isDeclaration name = false) (more : Declares attributes own) :
      Declares ((name, value) :: attributes) own
  | lead {base value : Text} {attributes : List (QualifiedName × Text)} {own : Scope}
      (notXml : base ≠ xmlLead) (notXmlSpace : value ≠ xmlSpace) (notReserved : value ≠ declarationSpace)
      (once : ∀ entry ∈ own, entry.1 ≠ some base) (more : Declares attributes own) :
      Declares ((⟨declarationLead, base⟩, value) :: attributes) ((some base, value) :: own)
  /-- The namespace of XML itself may be declared as what it is. -/
  | xml {attributes : List (QualifiedName × Text)} {own : Scope} (more : Declares attributes own) :
      Declares ((⟨declarationLead, xmlLead⟩, xmlSpace) :: attributes) own
  /-- The namespace of names without a lead. -/
  | unled {lead value : Text} {attributes : List (QualifiedName × Text)} {own : Scope}
      (notLead : lead ≠ declarationLead) (notXmlSpace : value ≠ xmlSpace)
      (notReserved : value ≠ declarationSpace) (more : Declares attributes own) :
      Declares ((⟨lead, declarationLead⟩, value) :: attributes) ((none, value) :: own)

/-- A tag is entered: its name and the namespaces inside it. -/
inductive Enters (outer : Scope) (name : QualifiedName) (attributes : List Attribute) : Name → Scope → Prop
  | intro {values : List (QualifiedName × Text)} {own : Scope} {names : List Name}
      (notReserved : name.lead ≠ declarationLead)
      (means : List.Forall₂
        (fun a (v : QualifiedName × Text) => v.1 = a.name ∧ attributeContent? a.value = some v.2) attributes values)
      (declares : Declares values own)
      (declared : name.lead = [] ∨ ∃ space, (own ++ outer).spaceOf? (leadOf name) = some space)
      (plain : List.Forall₂ (fun a resolved => (own ++ outer).attributeName? a = some resolved)
        ((values.map (·.1)).filter (!isDeclaration ·)) names)
      (once : names.Nodup) :
      Enters outer name attributes ⟨(own ++ outer).spaceOf? (leadOf name), name.base⟩ (own ++ outer)

lemma any_eq_false_of_absent {scope : Scope} {lead : Option Text} (h : ∀ entry ∈ scope, entry.1 ≠ lead) :
    (scope.any fun entry => entry.1 = lead) = false := by
  rw [List.any_eq_false]
  intro entry hentry heq
  exact h entry hentry (of_decide_eq_true heq)

/-- What a tag declares is added to what it has declared before. -/
lemma declare?_eq {attributes : List (QualifiedName × Text)} {own : Scope} (h : Declares attributes own)
    {before : Scope} (notXml : ∀ earlier ∈ before, earlier.1 ≠ some xmlLead)
    (once : ∀ entry ∈ own, entry.1 ≠ none → ∀ earlier ∈ before, earlier.1 ≠ entry.1) :
    declare? before attributes = some (before ++ own) := by
  induction h generalizing before with
  | nil => rw [declare?, List.append_nil]
  | @other name value attributes own plain _ ih =>
    rw [isDeclaration, Bool.or_eq_false_iff, decide_eq_false_iff_not, decide_eq_false_iff_not] at plain
    rw [declare?, if_neg plain.1, if_neg plain.2, ih notXml once]
  | @lead base value attributes own notXmlBase notXmlSpace notReserved fresh _ ih =>
    have hnew := any_eq_false_of_absent (once _ List.mem_cons_self nofun)
    have hxml : ∀ earlier ∈ before ++ [(some base, value)], earlier.1 ≠ some xmlLead :=
      List.forall_mem_append.2 ⟨notXml, List.forall_mem_singleton.2 fun h => notXmlBase (Option.some.inj h)⟩
    have honce : ∀ entry ∈ own, entry.1 ≠ none →
        ∀ earlier ∈ before ++ [(some base, value)], earlier.1 ≠ entry.1 := fun entry hentry hne =>
      List.forall_mem_append.2 ⟨once entry (List.mem_cons_of_mem _ hentry) hne,
        List.forall_mem_singleton.2 (fresh entry hentry).symm⟩
    rw [declare?, if_pos rfl, decide_eq_false notReserved, decide_eq_false notXmlBase, decide_eq_false notXmlSpace,
      hnew, if_neg (by decide), if_neg notXmlSpace, ih hxml honce, List.append_assoc, List.singleton_append]
  | @xml attributes own _ ih =>
    have hreserved : decide (xmlSpace = declarationSpace) = false := by decide
    rw [declare?, if_pos rfl, hreserved, decide_eq_true (rfl : xmlLead = xmlLead),
      decide_eq_true (rfl : xmlSpace = xmlSpace), any_eq_false_of_absent notXml, if_neg (by decide), if_pos rfl,
      ih notXml once]
  | @unled lead value attributes own notLead notXmlSpace notReserved _ ih =>
    have hxml : ∀ earlier ∈ before ++ [(none, value)], earlier.1 ≠ some xmlLead :=
      List.forall_mem_append.2 ⟨notXml, List.forall_mem_singleton.2 nofun⟩
    have honce : ∀ entry ∈ own, entry.1 ≠ none →
        ∀ earlier ∈ before ++ [(none, value)], earlier.1 ≠ entry.1 := fun entry hentry hne =>
      List.forall_mem_append.2 ⟨once entry (List.mem_cons_of_mem _ hentry) hne,
        List.forall_mem_singleton.2 hne.symm⟩
    rw [declare?, if_neg notLead, if_pos rfl, decide_eq_false notXmlSpace, decide_eq_false notReserved,
      if_neg (by decide), ih hxml honce, List.append_assoc, List.singleton_append]

/-- **A tag is entered as its declarations say.** -/
theorem enter?_eq {outer inner : Scope} {name : QualifiedName} {attributes : List Attribute} {resolved : Name}
    (h : Enters outer name attributes resolved inner) : outer.enter? name attributes = some (resolved, inner) := by
  cases h with
  | @intro values own names notReserved means declares declared plain once =>
    have hvalues : attributes.mapM (fun a => (attributeContent? a.value).map fun v => (a.name, v)) =
        some values := by
      apply mapM_eq_some_iff.2
      apply means.imp
      rintro a ⟨_, value⟩ ⟨rfl, hvalue⟩
      rw [hvalue]
      rfl
    have hown : declare? [] values = some own := declare?_eq declares nofun nofun
    have hnames := mapM_eq_some_iff.2 plain
    have hname : (own ++ outer).elementName? name = some ⟨(own ++ outer).spaceOf? (leadOf name), name.base⟩ := by
      unfold elementName?
      cases hspace : (own ++ outer).spaceOf? (leadOf name) with
      | some space => rfl
      | none =>
        rcases declared with unled | ⟨space, hsome⟩
        · rw [unled]
          rfl
        · rw [hspace] at hsome
          cases hsome
    rw [enter?, if_neg notReserved]
    simp only [Option.bind_eq_bind, hvalues, Option.bind_some, hown, hnames, decide_eq_true once, if_true, hname,
      Option.pure_def]

end Custodian.Xml.Scope
