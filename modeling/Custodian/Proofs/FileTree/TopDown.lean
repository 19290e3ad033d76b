import Custodian.Proofs.FileTree.FirstFile
import Custodian.Proofs.FileTree.Ordered
import Custodian.Proofs.Text.Utf8

/-!
# The first file of a walk from the top

A file is the first one below a directory if it has the smallest name among the files beside it, no directory
around its own has a file in it, and no directory with a smaller name than one on the way has a file below it;
names are compared by their bytes. There is but one such file (`IsFirstFile.unique`), and in a tree in order
it is the one that is found (`firstFile?_eq_some_iff`).

It is also the first file that is met on a walk through the tree in which the entries of each directory are
sorted, directories last and otherwise by name, and what is below a directory comes right after it
(`firstListed?_topDown`).
-/

namespace Custodian

namespace Node

/-! ### Which file is the first one -/

/-- The first file below a node. -/
structure IsFirstFile (root : Node) (place : Place) : Prop where
  isFile : ∃ content, root.get? place = some (.file content)
  /-- No other file in its directory has a smaller name. -/
  least : ∀ above name, place = above ++ [name] → ∀ other content,
    root.get? (above ++ [other]) = some (.file content) → ¬Utf8.encode other < Utf8.encode name
  /-- No directory around that one has a file in it. -/
  bare : ∀ above next below, place = above ++ next :: below → below ≠ [] → ∀ name content,
    root.get? (above ++ [name]) ≠ some (.file content)
  /-- No directory with a smaller name than one on the way has a file below it. -/
  earlier : ∀ above next below, place = above ++ next :: below → below ≠ [] → ∀ other,
    Utf8.encode other < Utf8.encode next → ∀ more content,
      root.get? (above ++ other :: more) ≠ some (.file content)

section Directory

variable {es : List (Text × Node)} {name : Text} {below : Place}

/-- A file in a directory is the first one exactly if no file there has a smaller name. -/
lemma isFirstFile_singleton_iff : IsFirstFile (.directory es) [name] ↔
    (∃ content, Table.get? name es = some (.file content)) ∧
      ∀ other content, Table.get? other es = some (.file content) →
        ¬Utf8.encode other < Utf8.encode name := by
  have hget : ∀ other, (Node.directory es).get? [other] = Table.get? other es := by
    intro other
    rw [get?_cons]
    cases Table.get? other es <;> simp
  constructor
  · intro h
    obtain ⟨content, hfile⟩ := h.isFile
    refine ⟨⟨content, (hget name).symm.trans hfile⟩, ?_⟩
    intro other content hother
    exact h.least [] name rfl other content ((hget other).trans hother)
  · rintro ⟨⟨content, hfile⟩, hleast⟩
    refine ⟨⟨content, (hget name).trans hfile⟩, ?_, ?_, ?_⟩
    · intro above last hplace other content hother
      obtain ⟨rfl, rfl⟩ : above = [] ∧ name = last := by
        cases above <;> simp_all
      exact hleast other content ((hget other).symm.trans hother)
    · intro above next below hplace hbelow
      cases above <;> simp_all
    · intro above next below hplace hbelow
      cases above <;> simp_all

/-- A file deeper down is the first one exactly if it is the first one of its subdirectory, and there is
neither a file beside that subdirectory nor one below an earlier one. -/
lemma isFirstFile_cons_iff (hbelow : below ≠ []) : IsFirstFile (.directory es) (name :: below) ↔
    (∃ child, Table.get? name es = some child ∧ IsFirstFile child below) ∧
      (∀ other content, Table.get? other es ≠ some (.file content)) ∧
      ∀ other, Utf8.encode other < Utf8.encode name → ∀ child, Table.get? other es = some child →
        ∀ more content, child.get? more ≠ some (.file content) := by
  have hget : ∀ {other child}, Table.get? other es = some child → ∀ more,
      (Node.directory es).get? (other :: more) = child.get? more := by
    intro other child hchild more
    rw [get?_cons, hchild, Option.bind_some]
  constructor
  · intro h
    obtain ⟨content, hfile⟩ := h.isFile
    rw [get?_cons] at hfile
    obtain ⟨child, hchild, hfile⟩ := Option.bind_eq_some_iff.1 hfile
    have hdeeper : ∀ {above more}, below = above ++ more → name :: below = (name :: above) ++ more :=
      fun heq => congrArg (name :: ·) heq
    refine ⟨⟨child, hchild, ⟨content, hfile⟩, ?_, ?_, ?_⟩, ?_, ?_⟩
    · intro above last hplace other content hother
      exact h.least _ last (hdeeper hplace) other content ((hget hchild _).trans hother)
    · intro above next rest hplace hrest other content hother
      exact h.bare _ next rest (hdeeper hplace) hrest other content ((hget hchild _).trans hother)
    · intro above next rest hplace hrest other hlt more content hother
      exact h.earlier _ next rest (hdeeper hplace) hrest other hlt more content ((hget hchild _).trans hother)
    · intro other content hother
      exact h.bare [] name below rfl hbelow other content ((hget hother []).trans (get?_nil _))
    · intro other hlt child hchild more content hmore
      exact h.earlier [] name below rfl hbelow other hlt more content ((hget hchild more).trans hmore)
  · rintro ⟨⟨child, hchild, first⟩, bare, earlier⟩
    obtain ⟨content, hfile⟩ := first.isFile
    refine ⟨⟨content, (hget hchild below).trans hfile⟩, ?_, ?_, ?_⟩
    · intro above last hplace other content hother
      cases above with
      | nil => exact absurd (List.cons.inj hplace).2 hbelow
      | cons head above =>
        obtain ⟨rfl, hbelow⟩ := List.cons.inj hplace
        exact first.least above last hbelow other content ((hget hchild _).symm.trans hother)
    · intro above next rest hplace hrest other content hother
      cases above with
      | nil =>
        rw [List.nil_append, get?_cons] at hother
        obtain ⟨node, hnode, hother⟩ := Option.bind_eq_some_iff.1 hother
        rw [get?_nil] at hother
        exact bare other content (hother ▸ hnode)
      | cons head above =>
        obtain ⟨rfl, hbelow⟩ := List.cons.inj hplace
        exact first.bare above next rest hbelow hrest other content ((hget hchild _).symm.trans hother)
    · intro above next rest hplace hrest other hlt more content hother
      cases above with
      | nil =>
        obtain ⟨rfl, -⟩ := List.cons.inj hplace
        rw [List.nil_append, get?_cons] at hother
        obtain ⟨node, hnode, hother⟩ := Option.bind_eq_some_iff.1 hother
        exact earlier other hlt node hnode more content hother
      | cons head above =>
        obtain ⟨rfl, hbelow⟩ := List.cons.inj hplace
        exact first.earlier above next rest hbelow hrest other hlt more content ((hget hchild _).symm.trans hother)

end Directory

/-! ### The first file -/

/-- Whatever is below a node, if it is a file, the node holds a file. -/
lemma holdsFile_of_get? {root : Node} {name : Text} {place : Place} {content : Bytes}
    (h : root.get? (name :: place) = some (.file content)) : root.holdsFile = true := by
  induction place generalizing root name with
  | nil =>
    cases root with
    | file c => cases h
    | link target => cases h
    | directory es =>
      rw [get?_cons] at h
      obtain ⟨node, hnode, hfile⟩ := Option.bind_eq_some_iff.1 h
      rw [get?_nil] at hfile
      obtain rfl := Option.some.inj hfile
      have hany : es.any (·.2.isFile) = true :=
        List.any_eq_true.2 ⟨_, Table.mem_of_get? hnode, rfl⟩
      rw [holdsFile, places, any_isFile_placesOf, hany, Bool.true_or]
  | cons next place ih =>
    cases root with
    | file c => cases h
    | link target => cases h
    | directory es =>
      rw [get?_cons] at h
      obtain ⟨node, hnode, hfile⟩ := Option.bind_eq_some_iff.1 h
      have hany : es.any (·.2.holdsFile) = true :=
        List.any_eq_true.2 ⟨_, Table.mem_of_get? hnode, ih hfile⟩
      rw [holdsFile, places, any_isFile_placesOf, hany, Bool.or_true]

lemma holdsFile_of_file_below {es : List (Text × Node)} {place : Place} {content : Bytes}
    (h : (Node.directory es).get? place = some (.file content)) : (Node.directory es).holdsFile = true := by
  cases place with
  | nil =>
    rw [get?_nil] at h
    cases h
  | cons name place => exact holdsFile_of_get? h

/-- The first file below some subdirectories is the first one of the first of them that has one. -/
lemma exists_of_firstBelow? {es : List (Text × Node)} {place : Place} (h : firstBelow? es = some place) :
    ∃ before name node after below, es = before ++ (name, node) :: after ∧ place = name :: below ∧
      node.firstFile? = some below ∧ ∀ e ∈ before, e.2.holdsFile = false := by
  induction es with
  | nil => cases h
  | cons e es ih =>
    obtain ⟨name, node⟩ := e
    rw [firstBelow?] at h
    rcases hfirst : node.firstFile? with _ | below <;> rw [hfirst] at h
    · obtain ⟨before, other, child, after, below, rfl, hplace, hchild, hbefore⟩ := ih h
      refine ⟨(name, node) :: before, other, child, after, below, rfl, hplace, hchild, ?_⟩
      have hnone : node.holdsFile = false := by
        rw [← isSome_firstFile?, hfirst]
        rfl
      exact List.forall_mem_cons.2 ⟨hnone, hbefore⟩
    · exact ⟨[], name, node, es, below, rfl, (Option.some.inj h).symm, hfirst, by simp⟩

mutual

/-- What is found is the first file. -/
lemma isFirstFile_of_firstFile? : ∀ {node : Node}, node.IsOrdered → ∀ {place}, node.firstFile? = some place →
    place ≠ [] ∧ node.IsFirstFile place
  | .directory es, ordered, place, h => by
    obtain ⟨ascending, ordered⟩ := ordered
    rw [firstFile?] at h
    split at h
    · next name file hfind =>
      obtain rfl := Option.some.inj h
      obtain ⟨hfile, before, after, rfl, hbefore⟩ := List.find?_eq_some_iff_append.1 hfind
      have hget := ascending.get?_of_mem (List.mem_append_right before List.mem_cons_self)
      refine ⟨List.cons_ne_nil _ _, isFirstFile_singleton_iff.2 ⟨?_, ?_⟩⟩
      · cases file with
        | file content => exact ⟨content, hget⟩
        | link target => cases hfile
        | directory es => cases hfile
      · intro other content hother hlt
        -- no file is before the one that is found, and all names after it are greater
        have hno := hbefore _ (ascending.mem_of_lt (Table.mem_of_get? hother) (Utf8.encode_lt_iff.1 hlt))
        cases hno
    · next hfind =>
      obtain ⟨before, name, node, after, below, rfl, rfl, hfirst, hbefore⟩ := exists_of_firstBelow? h
      have hmem : (name, node) ∈ before ++ (name, node) :: after :=
        List.mem_append_right before List.mem_cons_self
      obtain ⟨hbelow, first⟩ := areFirstFiles_of_firstFile? ordered _ hmem hfirst
      refine ⟨List.cons_ne_nil _ _, (isFirstFile_cons_iff hbelow).2
        ⟨⟨node, ascending.get?_of_mem hmem, first⟩, ?_, ?_⟩⟩
      · intro other content hother
        have hno := List.find?_eq_none.1 hfind _ (Table.mem_of_get? hother)
        exact hno rfl
      · intro other hlt child hchild more content hmore
        have hbare : child.holdsFile = false :=
          hbefore _ (ascending.mem_of_lt (Table.mem_of_get? hchild) (Utf8.encode_lt_iff.1 hlt))
        cases more with
        | nil =>
          have hno := List.find?_eq_none.1 hfind _ (Table.mem_of_get? hchild)
          rw [get?_nil] at hmore
          obtain rfl := Option.some.inj hmore
          exact hno rfl
        | cons next more =>
          rw [holdsFile_of_get? hmore] at hbare
          cases hbare

lemma areFirstFiles_of_firstFile? : ∀ {es : List (Text × Node)}, AreOrdered es → ∀ e ∈ es, ∀ {place},
    e.2.firstFile? = some place → place ≠ [] ∧ e.2.IsFirstFile place
  | (name, node) :: es, ordered, e, he, place, h => by
    rcases List.mem_cons.1 he with rfl | he
    · exact isFirstFile_of_firstFile? ordered.1 h
    · exact areFirstFiles_of_firstFile? ordered.2 e he h

end

lemma IsFirstFile.exists_cons {es : List (Text × Node)} {place : Place}
    (h : IsFirstFile (.directory es) place) : ∃ name below, place = name :: below := by
  obtain ⟨content, hfile⟩ := h.isFile
  cases place with
  | nil =>
    rw [get?_nil] at hfile
    cases hfile
  | cons name below => exact ⟨name, below, rfl⟩

/-- Names of which neither is smaller are the same. -/
lemma eq_of_not_lt {a b : Text} (hab : ¬Utf8.encode a < Utf8.encode b) (hba : ¬Utf8.encode b < Utf8.encode a) :
    a = b := by
  rw [Utf8.encode_lt_iff] at hab hba
  exact List.le_antisymm (List.not_lt.1 hba) (List.not_lt.1 hab)

/-- There is but one first file. -/
lemma IsFirstFile.unique {es : List (Text × Node)} {place place' : Place}
    (h : IsFirstFile (.directory es) place) (h' : IsFirstFile (.directory es) place') : place = place' := by
  induction place generalizing es place' with
  | nil =>
    obtain ⟨name, below, heq⟩ := h.exists_cons
    cases heq
  | cons name below ih =>
    obtain ⟨name', below', rfl⟩ := h'.exists_cons
    by_cases hbelow : below = []
    · subst hbelow
      obtain ⟨⟨content, hfile⟩, hleast⟩ := isFirstFile_singleton_iff.1 h
      by_cases hbelow' : below' = []
      · subst hbelow'
        obtain ⟨⟨content', hfile'⟩, hleast'⟩ := isFirstFile_singleton_iff.1 h'
        rw [eq_of_not_lt (hleast' name content hfile) (hleast name' content' hfile')]
      · exact absurd hfile (((isFirstFile_cons_iff hbelow').1 h').2.1 name content)
    · obtain ⟨⟨child, hchild, first⟩, hbare, hearlier⟩ := (isFirstFile_cons_iff hbelow).1 h
      by_cases hbelow' : below' = []
      · subst hbelow'
        obtain ⟨⟨content', hfile'⟩, -⟩ := isFirstFile_singleton_iff.1 h'
        exact absurd hfile' (hbare name' content')
      · obtain ⟨⟨child', hchild', first'⟩, -, hearlier'⟩ := (isFirstFile_cons_iff hbelow').1 h'
        obtain ⟨content, hfile⟩ := first.isFile
        obtain ⟨content', hfile'⟩ := first'.isFile
        -- neither of two different subdirectories could be taken, since each has a file below it
        obtain rfl : name = name' := eq_of_not_lt
          (fun hlt => hearlier' name hlt child hchild below content hfile)
          (fun hlt => hearlier name' hlt child' hchild' below' content' hfile')
        obtain rfl : child = child' := Option.some.inj (hchild.symm.trans hchild')
        obtain ⟨next, rest, rfl⟩ := List.exists_cons_of_ne_nil hbelow
        cases child with
        | file c => cases hfile
        | link target => cases hfile
        | directory es => rw [ih first first']

/-- **The first file of a directory in order.** -/
theorem firstFile?_eq_some_iff {es : List (Text × Node)} (ordered : IsOrdered (.directory es)) {place : Place} :
    firstFile? (.directory es) = some place ↔ IsFirstFile (.directory es) place := by
  refine ⟨fun h => (isFirstFile_of_firstFile? ordered h).2, ?_⟩
  intro h
  obtain ⟨content, hfile⟩ := h.isFile
  have hholds := holdsFile_of_file_below hfile
  rw [← isSome_firstFile?] at hholds
  obtain ⟨found, hfound⟩ := Option.isSome_iff_exists.1 hholds
  rw [hfound, (isFirstFile_of_firstFile? ordered hfound).2.unique h]

/-! ### The walk from the top -/

def comesFirst (a b : Text × Node) : Bool :=
  if a.2.isDirectory = b.2.isDirectory then !decide (Utf8.encode b.1 < Utf8.encode a.1)
  else b.2.isDirectory

mutual

/-- A tree with the entries of each directory in the order of the walk. -/
def arranged : Node → Node
  | .directory es => .directory ((arrangedAll es).mergeSort comesFirst)
  | node => node

/-- Some entries with their nodes in the order of the walk. -/
def arrangedAll : List (Text × Node) → List (Text × Node)
  | [] => []
  | (name, node) :: es => (name, arranged node) :: arrangedAll es

end

/-- What stands below a directory, from the top: every directory comes after the files beside it, and
right after it comes what stands below it. -/
def topDown (root : Node) : List (Place × Node) :=
  root.arranged.places

/-- The place of the first file among some places. -/
def firstListed? (listed : List (Place × Node)) : Option Place :=
  (listed.find? (·.2.isFile)).map Prod.fst

lemma firstListed?_cons (place : Place) (node : Node) (listed : List (Place × Node)) :
    firstListed? ((place, node) :: listed) = if node.isFile then some place else firstListed? listed := by
  unfold firstListed?
  cases h : node.isFile <;> simp [h]

lemma firstListed?_append (listed more : List (Place × Node)) :
    firstListed? (listed ++ more) = (firstListed? listed).or (firstListed? more) := by
  rw [firstListed?, List.find?_append]
  cases h : listed.find? (·.2.isFile) <;> simp [firstListed?, h]

lemma firstListed?_below (name : Text) (listed : List (Place × Node)) :
    firstListed? (listed.map fun (place, below) => (name :: place, below)) =
      (firstListed? listed).map (name :: ·) := by
  unfold firstListed?
  rw [List.find?_map, Option.map_map, Option.map_map]
  rfl

lemma comesFirst_iff (a b : Text × Node) : comesFirst a b = true ↔
    (a.2.isDirectory = false ∧ b.2.isDirectory = true) ∨
      (a.2.isDirectory = b.2.isDirectory ∧ ¬b.1 < a.1) := by
  unfold comesFirst
  cases a.2.isDirectory <;> cases b.2.isDirectory <;> simp [Utf8.encode_lt_iff]

lemma comesFirst_trans (a b c : Text × Node) (hab : comesFirst a b = true) (hbc : comesFirst b c = true) :
    comesFirst a c = true := by
  rw [comesFirst_iff] at *
  rcases hab with ⟨ha, hb⟩ | ⟨hab, hle⟩ <;> rcases hbc with ⟨hb', hc⟩ | ⟨hbc, hle'⟩
  · rw [hb] at hb'
    cases hb'
  · exact .inl ⟨ha, hbc ▸ hb⟩
  · exact .inl ⟨hab.trans hb', hc⟩
  · exact .inr ⟨hab.trans hbc, List.not_lt.2 (List.le_trans (List.not_lt.1 hle) (List.not_lt.1 hle'))⟩

lemma comesFirst_total (a b : Text × Node) : (comesFirst a b || comesFirst b a) = true := by
  rw [Bool.or_eq_true, comesFirst_iff, comesFirst_iff]
  have hnames : ¬b.1 < a.1 ∨ ¬a.1 < b.1 := (List.le_total a.1 b.1).imp List.not_lt.2 List.not_lt.2
  rcases ha : a.2.isDirectory <;> rcases hb : b.2.isDirectory <;> simp_all

/-- Entries that come first of each other have one name. -/
lemma name_eq_of_comesFirst {a b : Text × Node} (hab : comesFirst a b = true) (hba : comesFirst b a = true) :
    a.1 = b.1 := by
  rw [comesFirst_iff] at hab hba
  rcases hab with ⟨h1, h2⟩ | ⟨h1, hle⟩ <;> rcases hba with ⟨h3, h4⟩ | ⟨h3, hle'⟩
  · exact absurd (h1.symm.trans h4) (by simp)
  · exact absurd (h1.symm.trans (h3.symm.trans h2)) (by simp)
  · exact absurd (h3.symm.trans (h1.symm.trans h4)) (by simp)
  · exact List.le_antisymm (List.not_lt.1 hle) (List.not_lt.1 hle')

/-- The entries of a directory in order, those that are directories last, are in the order of the walk. -/
lemma pairwise_comesFirst {es : List (Text × Node)} (ascending : Table.IsAscending es) :
    (es.filter (!·.2.isDirectory) ++ es.filter (·.2.isDirectory)).Pairwise fun a b => comesFirst a b = true := by
  have hnames : ∀ p : Text × Node → Bool, (es.filter p).Pairwise fun a b => ¬b.1 < a.1 :=
    fun p => (ascending.filter p).imp List.lt_asymm
  refine List.pairwise_append.2 ⟨?_, ?_, ?_⟩
  · refine (hnames _).imp_of_mem ?_
    intro a b ha hb hab
    have ha := (List.mem_filter.1 ha).2
    have hb := (List.mem_filter.1 hb).2
    exact (comesFirst_iff a b).2 (.inr ⟨by simp_all, hab⟩)
  · refine (hnames _).imp_of_mem ?_
    intro a b ha hb hab
    have ha := (List.mem_filter.1 ha).2
    have hb := (List.mem_filter.1 hb).2
    exact (comesFirst_iff a b).2 (.inr ⟨by simp_all, hab⟩)
  · intro a ha b hb
    have ha := (List.mem_filter.1 ha).2
    have hb := (List.mem_filter.1 hb).2
    exact (comesFirst_iff a b).2 (.inl ⟨by simpa using ha, hb⟩)

/-- The entries of a directory in order, as the walk has them. -/
lemma mergeSort_comesFirst {es : List (Text × Node)} (ascending : Table.IsAscending es) :
    es.mergeSort comesFirst = es.filter (!·.2.isDirectory) ++ es.filter (·.2.isDirectory) := by
  have hperm : (es.filter (!·.2.isDirectory) ++ es.filter (·.2.isDirectory)).Perm es := by
    simpa using List.filter_append_perm (fun e : Text × Node => !e.2.isDirectory) es
  have antisymm : ∀ a b : Text × Node, a ∈ es.mergeSort comesFirst →
      b ∈ es.filter (!·.2.isDirectory) ++ es.filter (·.2.isDirectory) →
      comesFirst a b = true → comesFirst b a = true → a = b := by
    rintro ⟨name, node⟩ ⟨name', node'⟩ ha hb hab hba
    have ha : (name, node) ∈ es := (List.mergeSort_perm es comesFirst).mem_iff.1 ha
    have hb : (name', node') ∈ es := hperm.mem_iff.1 hb
    obtain rfl : name = name' := name_eq_of_comesFirst hab hba
    have hsame := (ascending.get?_of_mem ha).symm.trans (ascending.get?_of_mem hb)
    rw [Option.some.inj hsame]
  exact ((List.mergeSort_perm es comesFirst).trans hperm.symm).eq_of_pairwise antisymm
    (List.pairwise_mergeSort comesFirst_trans comesFirst_total es) (pairwise_comesFirst ascending)

lemma isDirectory_arranged (node : Node) : node.arranged.isDirectory = node.isDirectory := by
  cases node <;> rfl

lemma isFile_arranged (node : Node) : node.arranged.isFile = node.isFile := by
  cases node <;> rfl

lemma names_arrangedAll (es : List (Text × Node)) : Table.names (arrangedAll es) = Table.names es := by
  induction es with
  | nil => rfl
  | cons e es ih =>
    rw [arrangedAll, Table.names, List.map_cons]
    exact congrArg _ ih

lemma placesOf_append (es more : List (Text × Node)) :
    placesOf (es ++ more) = placesOf es ++ placesOf more := by
  induction es with
  | nil => rfl
  | cons e es ih =>
    obtain ⟨name, node⟩ := e
    rw [List.cons_append, placesOf, placesOf, ih]
    simp

/-- Among what comes before the subdirectories, the first file is the first one of the directory. -/
lemma firstListed?_beside (es : List (Text × Node)) :
    firstListed? (placesOf ((arrangedAll es).filter (!·.2.isDirectory))) =
      (es.find? (·.2.isFile)).map fun e => [e.1] := by
  induction es with
  | nil => rfl
  | cons e es ih =>
    obtain ⟨name, node⟩ := e
    rw [arrangedAll, List.filter_cons, List.find?_cons]
    dsimp only
    rw [isDirectory_arranged]
    cases node with
    | file content =>
      have hbeside : (!(file content).isDirectory) = true := rfl
      rw [if_pos hbeside, placesOf, List.cons_append, firstListed?_cons]
      rfl
    | link target =>
      have hbeside : (!(link target).isDirectory) = true := rfl
      rw [if_pos hbeside, placesOf, List.cons_append, firstListed?_cons]
      exact ih
    | directory inner => exact ih

mutual

/-- **The first file is the first one of the walk.** -/
theorem firstListed?_topDown : ∀ {node : Node}, node.IsOrdered → firstListed? node.topDown = node.firstFile?
  | .file _, _ => rfl
  | .link _, _ => rfl
  | .directory es, ⟨ascending, ordered⟩ => by
    have ascending : Table.IsAscending (arrangedAll es) := ascending.of_names (names_arrangedAll es)
    rw [topDown, arranged, places, mergeSort_comesFirst ascending, placesOf_append, firstListed?_append,
      firstListed?_beside, firstListed?_below_directories ordered, firstFile?]
    cases es.find? (·.2.isFile) <;> rfl

/-- Among the subdirectories, the first file is the first one below them. -/
lemma firstListed?_below_directories : ∀ {es : List (Text × Node)}, AreOrdered es →
    firstListed? (placesOf ((arrangedAll es).filter (·.2.isDirectory))) = firstBelow? es
  | [], _ => rfl
  | (name, node) :: es, ⟨ordered, rest⟩ => by
    have hnode := firstListed?_topDown ordered
    have hrest := firstListed?_below_directories rest
    rw [topDown] at hnode
    rw [arrangedAll, List.filter_cons]
    dsimp only
    rw [isDirectory_arranged, firstBelow?, ← hnode, ← hrest]
    cases node with
    | file content => rfl
    | link target => rfl
    | directory inner =>
      have hdirectory : (directory inner).isDirectory = true := rfl
      have hfile : (directory inner).isFile ≠ true := Bool.false_ne_true
      rw [if_pos hdirectory, placesOf, List.cons_append, firstListed?_cons, isFile_arranged, if_neg hfile,
        firstListed?_append, firstListed?_below]
      cases firstListed? (directory inner).arranged.places <;> rfl

end

end Node
end Custodian
