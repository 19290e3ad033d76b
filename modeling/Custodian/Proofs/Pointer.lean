import Custodian.Pointer
import Custodian.Proofs.Xml.Meaning
import Custodian.Proofs.Xml.Tree

/-!
# The first record of a pointer file

The elements of a document have an order: an element comes before what is in it, and that before what follows it
(`inOrder`). The record of a pointer file is the first one in this order that is a record of fixity, in either of
the namespaces of such records (`IsFirstRecord`). What the file says of the package is said in it, or beside it.
-/

namespace Custodian.Pointer

open Xml (Name)

/-! ### The order of a document -/

/-- An element of a document, and the nodes among which it stands. -/
structure Element where
  siblings : List Xml.Node
  name : Name
  children : List Xml.Node

mutual

/-- The elements of a node, in the order of the document. -/
def inOrder (siblings : List Xml.Node) : Xml.Node → List Element
  | .element name children => ⟨siblings, name, children⟩ :: inOrderAmong children children
  | .text _ => []
  | .aside => []

def inOrderAmong (siblings : List Xml.Node) : List Xml.Node → List Element
  | [] => []
  | node :: nodes => inOrder siblings node ++ inOrderAmong siblings nodes

end

/-- A name in one of the namespaces of fixity records. -/
def IsNamed (base : Text) (name : Name) : Prop :=
  name.base = base ∧ ∃ space ∈ namespaces, name.space = some space

lemma isTerm_iff {base : Text} {name : Name} : isTerm base name = true ↔ IsNamed base name := by
  unfold isTerm IsNamed
  rw [Bool.and_eq_true, decide_eq_true_eq]
  refine and_congr_right fun _ => ?_
  cases name.space with
  | none => simp
  | some own =>
    constructor
    · exact fun h => ⟨own, List.contains_iff_mem.1 h, rfl⟩
    · rintro ⟨space, hspace, heq⟩
      rw [Option.some.inj heq]
      exact List.contains_iff_mem.2 hspace

/-- The first record of fixity in a document. -/
inductive IsFirstRecord (root : Xml.Node) (e : Element) : Prop
  | intro {earlier later : List Element} (order : inOrder [] root = earlier ++ e :: later)
      (first : ∀ other ∈ earlier, ¬IsNamed "fixity" other.name) (named : IsNamed "fixity" e.name) :
      IsFirstRecord root e

/-- Whether an element is a record, as it is decided. -/
def isRecord (e : Element) : Bool :=
  isTerm "fixity" e.name

mutual

/-- The search finds the first record in the order of the document. -/
lemma first?_eq (siblings : List Xml.Node) : ∀ node : Xml.Node, first? siblings node =
    ((inOrder siblings node).find? isRecord).map fun e => record e.siblings e.children
  | .element name children => by
    rw [first?, inOrder, List.find?_cons]
    have hamong := firstAmong?_eq children children
    by_cases h : isTerm "fixity" name = true
    · rw [if_pos h, isRecord, h]
      rfl
    · rw [if_neg h, hamong, isRecord, eq_false_of_ne_true h]
  | .text _ => rfl
  | .aside => rfl

lemma firstAmong?_eq (siblings : List Xml.Node) : ∀ nodes : List Xml.Node, firstAmong? siblings nodes =
    ((inOrderAmong siblings nodes).find? isRecord).map fun e => record e.siblings e.children
  | [] => rfl
  | node :: nodes => by
    rw [firstAmong?, inOrderAmong, List.find?_append, first?_eq siblings node, firstAmong?_eq siblings nodes]
    cases (inOrder siblings node).find? isRecord <;> rfl

end

lemma first?_of_isFirstRecord {root : Xml.Node} {e : Element} (h : IsFirstRecord root e) :
    first? [] root = some (record e.siblings e.children) := by
  obtain ⟨order, first, named⟩ := h
  have hfind : (inOrder [] root).find? isRecord = some e := by
    rw [List.find?_eq_some_iff_append]
    refine ⟨isTerm_iff.2 named, _, _, order, fun other hother => ?_⟩
    rw [Bool.not_eq_true', ← Bool.not_eq_true]
    exact fun h => first other hother (isTerm_iff.1 h)
  rw [first?_eq, hfind]
  rfl

lemma first?_eq_none_iff {root : Xml.Node} :
    first? [] root = none ↔ ∀ e ∈ inOrder [] root, ¬IsNamed "fixity" e.name := by
  simp [first?_eq, isRecord, isTerm_iff]

/-! ### What a record states -/

/-- No element among some nodes has a name. -/
def IsAbsent (base : Text) (nodes : List Xml.Node) : Prop :=
  ∀ name children, .element name children ∈ nodes → ¬IsNamed base name

/-- The children of the first of some nodes that is an element with a name. -/
inductive IsFirst (base : Text) (nodes children : List Xml.Node) : Prop
  | intro {before after : List Xml.Node} {name : Name} (split : nodes = before ++ .element name children :: after)
      (first : IsAbsent base before) (named : IsNamed base name) : IsFirst base nodes children

/-- What some nodes state by the first of their elements with a name: the text that it begins with. -/
inductive States (base : Text) (nodes : List Xml.Node) : Option Text → Prop
  | missing (absent : IsAbsent base nodes) : States base nodes none
  | silent {children : List Xml.Node} (first : IsFirst base nodes children)
      (noText : ∀ t, children.head? ≠ some (.text t)) : States base nodes none
  | stated {t : Text} {children : List Xml.Node} (first : IsFirst base nodes (.text t :: children)) :
      States base nodes (some t)

lemma hasName_iff {base : Text} {node : Xml.Node} : node.hasName (isTerm base) = true ↔
    ∃ name children, node = .element name children ∧ IsNamed base name := by
  cases node with
  | element name children =>
    constructor
    · exact fun h => ⟨name, children, rfl, isTerm_iff.1 h⟩
    · rintro ⟨_, _, heq, h⟩
      obtain ⟨rfl, rfl⟩ := Xml.Node.element.inj heq
      exact isTerm_iff.2 h
  | _ => exact ⟨nofun, nofun⟩

lemma hasName_of_isAbsent {base : Text} {nodes : List Xml.Node} (h : IsAbsent base nodes) :
    ∀ node ∈ nodes, ¬node.hasName (isTerm base) = true := by
  intro node hnode hname
  obtain ⟨name, children, rfl, named⟩ := hasName_iff.1 hname
  exact h name children hnode named

lemma find?_of_isFirst {base : Text} {nodes children : List Xml.Node} (h : IsFirst base nodes children) :
    ∃ name, nodes.find? (·.hasName (isTerm base)) = some (.element name children) := by
  obtain ⟨split, first, named⟩ := h
  refine ⟨_, List.find?_eq_some_iff_append.2 ⟨isTerm_iff.2 named, _, _, split, fun node hnode => ?_⟩⟩
  rw [Bool.not_eq_true', ← Bool.not_eq_true]
  exact hasName_of_isAbsent first node hnode

lemma textOf?_of_states {base : Text} {nodes : List Xml.Node} {t : Option Text} (h : States base nodes t) :
    textOf? base nodes = t.map Text.trimBlanks := by
  unfold textOf?
  cases h with
  | missing absent => rw [List.find?_eq_none.2 (hasName_of_isAbsent absent), Option.bind_none]
  | @silent children first noText =>
    obtain ⟨name, hfind⟩ := find?_of_isFirst first
    have hleading : Xml.Node.leadingText? (.element name children) = none := by
      rcases children with _ | ⟨⟨_, _⟩ | t | _, children⟩
      · rfl
      · rfl
      · exact absurd rfl (noText t)
      · rfl
    rw [hfind, Option.bind_some, hleading]
  | stated first =>
    obtain ⟨name, hfind⟩ := find?_of_isFirst first
    rw [hfind]
    rfl

/-- Whatever the nodes are, there is something that they state, or they state nothing. -/
lemma exists_states (base : Text) (nodes : List Xml.Node) : ∃ t, States base nodes t := by
  cases hfind : nodes.find? (·.hasName (isTerm base)) with
  | none =>
    refine ⟨none, .missing fun name children hmem named => ?_⟩
    exact List.find?_eq_none.1 hfind _ hmem (isTerm_iff.2 named)
  | some node =>
    obtain ⟨hname, before, after, split, hbefore⟩ := List.find?_eq_some_iff_append.1 hfind
    obtain ⟨name, children, rfl, named⟩ := hasName_iff.1 hname
    have hfirst : IsAbsent base before := by
      intro name children hmem named
      have hnode := hbefore _ hmem
      rw [Xml.Node.hasName, isTerm_iff.2 named] at hnode
      cases hnode
    have first : IsFirst base nodes children := ⟨split, hfirst, named⟩
    rcases children with _ | ⟨⟨_, _⟩ | t | _, children⟩
    · exact ⟨none, .silent first (by simp)⟩
    · exact ⟨none, .silent first (by simp)⟩
    · exact ⟨some t, .stated first⟩
    · exact ⟨none, .silent first (by simp)⟩

/-- What a record yields: the algorithm and the checksum in it, and the size in it or else beside it. -/
inductive Yields (e : Element) : Fixity → Prop
  | intro {algorithm checksum inside beside : Option Text}
      (algorithm_states : States "messageDigestAlgorithm" e.children algorithm)
      (checksum_states : States "messageDigest" e.children checksum)
      (inside_states : States "size" e.children inside) (beside_states : States "size" e.siblings beside) :
      Yields e ⟨algorithm.map Text.trimBlanks, checksum.map Text.trimBlanks,
        (inside.or beside).map Text.trimBlanks⟩

lemma yields_iff {e : Element} {fixity : Fixity} : Yields e fixity ↔ record e.siblings e.children = fixity := by
  have hrecord : ∀ {fixity}, Yields e fixity → record e.siblings e.children = fixity := by
    rintro _ ⟨algorithm, checksum, inside, beside⟩
    rw [record, textOf?_of_states algorithm, textOf?_of_states checksum, textOf?_of_states inside,
      textOf?_of_states beside]
    congr 1
    rename_i inside _ _
    cases inside <;> rfl
  refine ⟨hrecord, ?_⟩
  rintro rfl
  obtain ⟨algorithm, halgorithm⟩ := exists_states "messageDigestAlgorithm" e.children
  obtain ⟨checksum, hchecksum⟩ := exists_states "messageDigest" e.children
  obtain ⟨inside, hinside⟩ := exists_states "size" e.children
  obtain ⟨beside, hbeside⟩ := exists_states "size" e.siblings
  have yields : Yields e _ := ⟨halgorithm, hchecksum, hinside, hbeside⟩
  rw [hrecord yields]
  exact yields

/-- **Only the first record of a pointer file counts.** Every text can be escaped, and where it stands escaped it
is read as this text. A document that is spelled is read as its tree. From a tree comes what its first record
yields, if it has one. -/
theorem first_record_read :
    (∀ {t : Text}, (∀ c ∈ t, Xml.isAllowed c = true) → '\r' ∉ t →
      Xml.Escapes t (Xml.escape t) ∧ ¬Xml.Token.dataEnd <:+: Xml.escape t) ∧
    (∀ {t written : Text}, t ≠ [] → Xml.Escapes t written → ¬Xml.Token.dataEnd <:+: written →
      (Xml.Token.text written).Spells written ∧ Xml.content? written = some t) ∧
    (∀ {root : Xml.Node} {doc : Text}, root.Spells doc → Xml.Node.read? doc = some root) ∧
    ∀ {root : Xml.Node} {doc : Text} (path : Text), Xml.Node.read? doc = some root →
      (read path doc = .error (.noRecord path) ↔ ∀ e ∈ inOrder [] root, ¬IsNamed "fixity" e.name) ∧
      ∀ {e : Element} {fixity : Fixity}, IsFirstRecord root e →
        (read path doc = .ok fixity ↔ Yields e fixity) := by
  refine ⟨Xml.escapes_escape, Xml.spells_of_escapes, Xml.read?_eq, fun path accepted => ⟨?_, fun first => ?_⟩⟩
  · rw [← first?_eq_none_iff, read, accepted]
    dsimp only
    split <;> simp [*]
  · rw [yields_iff, read, accepted]
    dsimp only
    rw [first?_of_isFirstRecord first]
    exact ⟨fun h => Except.ok.inj h, fun h => congrArg _ h⟩

/-- A record with a checksum, a size beside it, and a later record with an algorithm. -/
def twoRecords : Text :=
  ("<m:mets xmlns:m=\"http://www.loc.gov/METS/\" xmlns=\"info:lc/xmlns/premis-v2\"><size>7</size>" : Text) ++
    "<fixity><messageDigest> a&lt;b</messageDigest></fixity>" ++
    "<fixity><messageDigestAlgorithm>md5</messageDigestAlgorithm></fixity></m:mets>"

/-- A name that `twoRecords` writes without a lead. -/
def unledName (base : Text) : Name :=
  ⟨some ("info:lc/xmlns/premis-v2" : Text), base⟩

def leaf (base t : Text) : Xml.Node :=
  .element (unledName base) [.text t]

def twoRecordsNodes : List Xml.Node :=
  [leaf "size" "7", .element (unledName "fixity") [leaf "messageDigest" " a<b"],
    .element (unledName "fixity") [leaf "messageDigestAlgorithm" "md5"]]

def twoRecordsRoot : Xml.Node :=
  .element ⟨some ("http://www.loc.gov/METS/" : Text), "mets"⟩ twoRecordsNodes

/-- An element that has nothing but a text in it, as it is spelled before others. -/
lemma tokensSpell_leaf {name : Xml.QualifiedName} (proper : name.IsProper) {written : Text}
    (spelled : (Xml.Token.text written).Spells written) {tokens : List Xml.Token} {t : Text}
    (more : Xml.TokensSpell tokens t) :
    Xml.TokensSpell (.openTag name [] false :: .text written :: .closeTag name :: tokens)
      ('<' :: name.text ++ [] ++ [] ++ Xml.tagEnd false ++
        (written ++ ('<' :: '/' :: name.text ++ [] ++ ['>'] ++ t))) := by
  refine .cons (.openTag proper .nil nofun) (.cons spelled (.cons (.closeTag proper nofun) more nofun) ?_) nofun
  rintro _ _ _ ⟨⟩
  rfl

/-- What is in force in `twoRecords`. -/
def twoRecordsScope : Xml.Scope :=
  [(some ("m" : Text), "http://www.loc.gov/METS/"), (none, "info:lc/xmlns/premis-v2")]

lemma enters_unled (base : Text) : twoRecordsScope.Enters ⟨[], base⟩ [] (unledName base) twoRecordsScope := by
  have hlead : ([] : Text) ≠ Xml.Scope.declarationLead := by decide
  exact .intro hlead .nil .nil (.inl rfl) .nil .nil

/-- An element without attributes that has nothing but a text in it. -/
lemma content_leaf (base : Text) {written t : Text} (means : Xml.content? written = some t)
    {tokens : List Xml.Token} {nodes : List Xml.Node} (more : Xml.Content twoRecordsScope tokens nodes) :
    Xml.Content twoRecordsScope
      (.openTag ⟨[], base⟩ [] false :: .text written :: .closeTag ⟨[], base⟩ :: tokens) (leaf base t :: nodes) :=
  .element (enters_unled base) (.text means .nil) more

lemma enters_mets : Xml.Scope.Enters [] ⟨"m", "mets"⟩
    [⟨⟨"xmlns", "m"⟩, "http://www.loc.gov/METS/"⟩, ⟨⟨[], "xmlns"⟩, "info:lc/xmlns/premis-v2"⟩]
    ⟨some ("http://www.loc.gov/METS/" : Text), "mets"⟩ twoRecordsScope := by
  have hdeclares : Xml.Scope.Declares [(⟨"xmlns", "m"⟩, "http://www.loc.gov/METS/"),
      (⟨[], "xmlns"⟩, "info:lc/xmlns/premis-v2")] twoRecordsScope :=
    .lead (by decide) (by decide +kernel) (by decide +kernel) (by simp)
      (.unled (by decide) (by decide +kernel) (by decide +kernel) .nil)
  exact .intro (by decide) (.cons ⟨rfl, by decide +kernel⟩ (.cons ⟨rfl, by decide +kernel⟩ .nil)) hdeclares
    (.inr ⟨_, rfl⟩) .nil .nil

lemma quotable_of_checks {value : Text}
    (h : (value.all fun c => Xml.isAllowed c && !decide (c = '"') && !decide (c = '<')) = true) :
    Xml.IsQuotable '"' value := by
  have hchars : ∀ c ∈ value, Xml.isAllowed c = true ∧ c ≠ '"' ∧ c ≠ '<' := by
    intro c hc
    simpa [and_assoc] using List.all_eq_true.1 h c hc
  exact ⟨fun c hc => (hchars c hc).1, fun hc => (hchars _ hc).2.1 rfl, fun hc => (hchars _ hc).2.2 rfl⟩

lemma twoRecords_spells
    (texts : ∀ t ∈ [("7" : Text), " a<b", "md5"],
      (Xml.Token.text (Xml.escape t)).Spells (Xml.escape t) ∧ Xml.content? (Xml.escape t) = some t) :
    twoRecordsRoot.Spells twoRecords := by
  have hfixity : Xml.QualifiedName.IsProper ⟨[], "fixity"⟩ := by decide +kernel
  have hsizeName : Xml.QualifiedName.IsProper ⟨[], "size"⟩ := by decide +kernel
  have hdigestName : Xml.QualifiedName.IsProper ⟨[], "messageDigest"⟩ := by decide +kernel
  have halgorithmName : Xml.QualifiedName.IsProper ⟨[], "messageDigestAlgorithm"⟩ := by decide +kernel
  have hsize := texts "7" (by decide)
  have hdigest := texts " a<b" (by decide)
  have halgorithm := texts "md5" (by decide)
  have hmets : Xml.QualifiedName.IsProper ⟨"m", "mets"⟩ := by decide +kernel
  have hled := @Xml.Attribute.Spells.intro ⟨"xmlns", "m"⟩ "http://www.loc.gov/METS/" [] [] '"' (by decide +kernel)
    nofun nofun (.inl rfl) (quotable_of_checks (by decide +kernel))
  have hunled := @Xml.Attribute.Spells.intro ⟨[], "xmlns"⟩ "info:lc/xmlns/premis-v2" [] [] '"'
    (by decide +kernel) nofun nofun (.inl rfl) (quotable_of_checks (by decide +kernel))
  have hspace : Xml.AreSpaces [' '] := List.forall_mem_singleton.2 rfl
  have hattributes := Xml.AttributesSpell.cons hspace nofun hled (.cons hspace nofun hunled .nil)
  have hbody : Xml.TokensSpell _ _ :=
    .cons (@Xml.Token.Spells.openTag _ _ false _ [] hmets hattributes nofun)
      (tokensSpell_leaf hsizeName hsize.1
        (.cons (@Xml.Token.Spells.openTag _ _ false _ [] hfixity .nil nofun)
          (tokensSpell_leaf hdigestName hdigest.1
            (.cons (@Xml.Token.Spells.closeTag _ [] hfixity nofun)
              (.cons (@Xml.Token.Spells.openTag _ _ false _ [] hfixity .nil nofun)
                (tokensSpell_leaf halgorithmName halgorithm.1
                  (.cons (@Xml.Token.Spells.closeTag _ [] hfixity nofun)
                    (.cons (@Xml.Token.Spells.closeTag _ [] hmets nofun) .nil nofun) nofun)) nofun) nofun))
          nofun)) nofun
  have hdocument := @Xml.DocumentSpells.intro [] [] _ _ (.inl rfl) (.inl rfl) hbody (by rintro _ ⟨⟩; decide)
  have hinside : Xml.Content twoRecordsScope _ _ :=
    content_leaf "size" hsize.2
      (.element (enters_unled "fixity") (content_leaf "messageDigest" hdigest.2 .nil)
        (.element (enters_unled "fixity") (content_leaf "messageDigestAlgorithm" halgorithm.2 .nil) .nil))
  have hcontent := Xml.Content.element enters_mets hinside .nil
  have hspells := @Xml.Node.Spells.intro _ [] _ [] _ _ hdocument nofun nofun hcontent
  refine (congrArg twoRecordsRoot.Spells ?_).mpr hspells
  decide +kernel

/-- The checksum of `twoRecords` is read with the size beside its record, and the algorithm of the later record is
not taken. -/
theorem first_record_read_beside :
    read "pointer.xml" twoRecords = .ok ⟨none, some ("a<b" : Text), some ("7" : Text)⟩ := by
  obtain ⟨escaping, spelling, documents, records⟩ := first_record_read
  have escaped : ∀ {t : Text}, t ≠ [] → (t.all fun c => Xml.isAllowed c && !decide (c = '\r')) = true →
      (Xml.Token.text (Xml.escape t)).Spells (Xml.escape t) ∧ Xml.content? (Xml.escape t) = some t := by
    intro t ne_nil h
    have hchars : ∀ c ∈ t, Xml.isAllowed c = true ∧ c ≠ '\r' := by
      intro c hc
      simpa using List.all_eq_true.1 h c hc
    have hescapes := escaping (fun c hc => (hchars c hc).1) fun hc => (hchars _ hc).2 rfl
    exact spelling ne_nil hescapes.1 hescapes.2
  have texts : ∀ t ∈ [("7" : Text), " a<b", "md5"],
      (Xml.Token.text (Xml.escape t)).Spells (Xml.escape t) ∧ Xml.content? (Xml.escape t) = some t :=
    List.forall_mem_cons.2 ⟨escaped (by decide) (by decide), List.forall_mem_cons.2
      ⟨escaped (by decide) (by decide), List.forall_mem_singleton.2 (escaped (by decide) (by decide))⟩⟩
  have accepted := documents (twoRecords_spells texts)
  have named : ∀ base, IsNamed base (unledName base) := fun base => ⟨rfl, _, by decide +kernel, rfl⟩
  have other : ∀ {base base' : Text}, base ≠ base' → ¬IsNamed base (unledName base') :=
    fun hne named => hne named.1.symm
  have first : IsFirstRecord twoRecordsRoot
      ⟨twoRecordsNodes, unledName "fixity", [leaf "messageDigest" " a<b"]⟩ := by
    refine @IsFirstRecord.intro _ _ [⟨[], ⟨some ("http://www.loc.gov/METS/" : Text), "mets"⟩, twoRecordsNodes⟩,
      ⟨twoRecordsNodes, unledName "size", [.text "7"]⟩] _ rfl ?_ (named _)
    intro e he
    rcases List.mem_cons.1 he with rfl | he
    · exact fun h => absurd h.1 (by decide)
    · rw [List.mem_singleton.1 he]
      exact other (by decide)
  have absent : ∀ {base : Text}, base ≠ "messageDigest" → States base [leaf "messageDigest" " a<b"] none := by
    intro base hbase
    refine .missing fun name children hmem hname => other hbase ?_
    obtain ⟨rfl, -⟩ := Xml.Node.element.inj (List.mem_singleton.1 hmem)
    exact hname
  have checksum : States "messageDigest" [leaf "messageDigest" " a<b"] (some (" a<b" : Text)) :=
    .stated (@IsFirst.intro _ _ _ [] [] _ rfl nofun (named _))
  have beside : States "size" twoRecordsNodes (some ("7" : Text)) :=
    .stated (@IsFirst.intro _ _ _ [] _ _ rfl nofun (named _))
  have yields := Yields.intro (e := ⟨twoRecordsNodes, unledName "fixity", _⟩) (absent (by decide)) checksum
    (absent (by decide)) beside
  exact ((records "pointer.xml" accepted).2 first).2 yields

end Custodian.Pointer
