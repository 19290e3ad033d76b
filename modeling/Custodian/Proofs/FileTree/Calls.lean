import Custodian.FileTree.Calls
import Custodian.Proofs.FileTree.Name

/-!
# What calls on a file tree change

* Making directories adds directories, and changes nothing else (`makeDirectories_grows`).
* Writing a file puts it there.
* Renaming takes a node away from one place and puts it at another one (`rename_cases`); elsewhere
  nothing changes.
-/

namespace Custodian.FileTree

variable {t t' t'' : FileTree}

lemma put_eq_ok_iff {place : Place} {node : Node} :
    t.put place node = .ok t' ↔ Node.put? node place t.root = some t'.root ∧ t'.working = t.working := by
  unfold put
  rcases t' with ⟨root, working⟩
  cases Node.put? node place t.root <;> simp [eq_comm]

/-! ### Making directories -/

/-- A tree has the nodes of another one, and beside these only directories. -/
structure Grows (t t' : FileTree) : Prop where
  working : t'.working = t.working
  kept : ∀ place node, t.root.kindAt? place = some node → t'.root.kindAt? place = some node
  new : ∀ place, t.root.kindAt? place = none →
    t'.root.kindAt? place = none ∨ t'.root.kindAt? place = some .empty

namespace Grows

lemma refl (t : FileTree) : Grows t t :=
  ⟨rfl, fun _ _ h => h, fun _ h => .inl h⟩

lemma trans (h : Grows t t') (h' : Grows t' t'') : Grows t t'' where
  working := h'.working.trans h.working
  kept place node hnode := h'.kept place node (h.kept place node hnode)
  new place hnone := by
    rcases h.new place hnone with hnone' | hempty
    · exact h'.new place hnone'
    · exact .inr (h'.kept place .empty hempty)

lemma keepsWays (h : Grows t t') : KeepsWays t.root t'.root :=
  fun place node hnode _ => h.kept place node hnode

lemma kindAt?_iff (h : Grows t t') (place : Place) {kind : Node} (hkind : kind ≠ .empty) :
    t'.root.kindAt? place = some kind ↔ t.root.kindAt? place = some kind := by
  constructor
  · intro hnew
    cases hold : t.root.kindAt? place with
    | some node => exact (h.kept place node hold).symm.trans hnew
    | none =>
      rcases h.new place hold with hnone | hempty
      · rw [hnone] at hnew
        cases hnew
      · exact absurd (Option.some.inj (hnew.symm.trans hempty)) hkind
  · exact h.kept place kind

lemma file_iff (h : Grows t t') (place : Place) (content : Bytes) :
    t'.root.get? place = some (.file content) ↔ t.root.get? place = some (.file content) := by
  rw [← Node.kindAt?_eq_file, ← Node.kindAt?_eq_file]
  exact h.kindAt?_iff place (by simp [Node.empty])

lemma link_iff (h : Grows t t') (place : Place) (target : Text) :
    t'.root.get? place = some (.link target) ↔ t.root.get? place = some (.link target) := by
  rw [← Node.kindAt?_eq_link, ← Node.kindAt?_eq_link]
  exact h.kindAt?_iff place (by simp [Node.empty])

lemma of_put {place : Place} (absent : t.root.get? place = none) (h : t.put place .empty = .ok t') :
    Grows t t' := by
  obtain ⟨hput, hworking⟩ := put_eq_ok_iff.1 h
  have hbelow : ∀ more, t.root.kindAt? (place ++ more) = none := by
    intro more
    rw [Node.kindAt?_eq_none, Node.get?_append, absent, Option.bind_none]
  refine ⟨hworking, ?_, ?_⟩
  · intro other node hnode
    have hother : ¬place <+: other := by
      rintro ⟨more, rfl⟩
      rw [hbelow more] at hnode
      cases hnode
    rw [Node.kindAt?_of_put? hput hother, hnode]
  · intro other hnone
    by_cases hother : place <+: other
    · obtain ⟨more, rfl⟩ := hother
      rw [Node.kindAt?, Node.get?_of_put? hput]
      cases more with
      | nil => exact .inr rfl
      | cons name more => exact .inl rfl
    · exact .inl ((Node.kindAt?_of_put? hput hother).trans hnone)

end Grows

lemma makeDirectory_grows {path : Text} (h : t.makeDirectory path = .ok t') : Grows t t' := by
  unfold makeDirectory at h
  split at h
  · cases h
  · cases h
  · next e he =>
    split at h
    · cases h
    · next habsent => exact .of_put (by simpa using habsent) h

lemma makeIfMissing_grows {path : Text} (h : t.makeIfMissing path = .made t') : Grows t t' := by
  unfold makeIfMissing at h
  split at h
  · next hmade =>
    cases h
    exact makeDirectory_grows hmade
  · split at h
    · cases h
    · split at h <;> cases h

lemma makeOutermost_grows {todo rest paths : List Text}
    (h : t.makeOutermost todo paths = .ok (t', rest)) : Grows t t' := by
  induction paths generalizing todo with
  | nil =>
    cases h
    exact .refl t
  | cons path paths ih =>
    unfold makeOutermost at h
    split at h
    · next hmade =>
      cases h
      exact makeIfMissing_grows hmade
    · cases h
      exact .refl t
    · exact ih h
    · cases h

lemma makeEach_grows (t : FileTree) (paths : List Text) : Grows t (t.makeEach paths).2 := by
  induction paths generalizing t with
  | nil => exact .refl t
  | cons path paths ih =>
    unfold makeEach
    split
    · next made hmade => exact (makeIfMissing_grows hmade).trans (ih made)
    · exact ih t
    · split
      · exact ih t
      · exact .refl t
    · exact .refl t

/-- **Making directories** only adds directories, however far it goes. -/
theorem makeDirectories_grows (t : FileTree) (path : Text) : Grows t (t.makeDirectories path).2 := by
  unfold makeDirectories
  split
  · exact .refl t
  · split
    · exact .refl t
    · next made todo h => exact (makeOutermost_grows h).trans (makeEach_grows made todo)

/-! ### Writing and renaming -/

/-- A file is written where there is a file or nothing. -/
lemma writeFile_cases {path : Text} {content : Bytes} (h : t.writeFile path content = .ok t') :
    ∃ place, t.put place (.file content) = .ok t' ∧
      ((∃ old, t.resolve path = .ok (.found place (.file old))) ∨
        t.resolve path = .ok (.absent place false)) := by
  unfold writeFile at h
  cases hresolve : t.resolve path with
  | error fault =>
    rw [hresolve] at h
    cases h
  | ok target =>
    rw [hresolve] at h
    rcases target with ⟨place, old | _ | _⟩ | ⟨place, asDirectory⟩
    · exact ⟨place, h, .inl ⟨old, rfl⟩⟩
    · cases h
    · cases h
    · cases asDirectory with
      | true => cases h
      | false => exact ⟨place, h, .inr rfl⟩

/-- A node is renamed to where it is, or to where there is no directory with anything in it. -/
lemma rename_cases {source target : Text} (h : t.rename source target = .ok t') :
    ∃ a b node, t.entry source = .ok a ∧ t.entry target = .ok b ∧
      t.root.get? a.place = some node ∧
      (a.place = b.place ∧ t' = t ∨ mayReplace node (t.root.get? b.place) = .ok () ∧
        FileTree.put { t with root := t.root.erase a.place } b.place node = .ok t') := by
  unfold rename at h
  rcases hsource : t.entry source with fault | a <;> rw [hsource] at h
  · cases h
  rcases htarget : t.entry target with fault | b <;> rw [htarget] at h
  · cases h
  dsimp only [bind, Except.bind] at h
  split at h
  · cases h
  · next node hnode =>
    refine ⟨a, b, node, rfl, rfl, hnode, ?_⟩
    split at h
    · cases h
    split at h
    · next hsame =>
      cases h
      exact .inl ⟨hsame, rfl⟩
    split at h
    · cases h
    rcases hreplace : mayReplace node (t.root.get? b.place) with fault | ⟨⟩ <;> rw [hreplace] at h
    · cases h
    · exact .inr ⟨rfl, h⟩

/-- A file is renamed to another place by taking it away and putting it there. -/
lemma rename_of_entries {source target : Text} {a b : Entry} {content : Bytes}
    (ha : t.entry source = .ok a) (hb : t.entry target = .ok b) (hsource : a.asDirectory = false)
    (htarget : b.asDirectory = false) (hfile : t.root.get? a.place = some (.file content))
    (hne : a.place ≠ b.place) (hreplace : mayReplace (.file content) (t.root.get? b.place) = .ok ()) :
    t.rename source target =
      FileTree.put { t with root := t.root.erase a.place } b.place (.file content) := by
  unfold rename
  rw [ha, hb]
  dsimp only [bind, Except.bind]
  rw [hfile]
  dsimp only
  rw [if_neg (by simp [hsource, htarget]), if_neg hne, if_neg (by simp [Node.isDirectory]), hreplace]

/-- Neither a directory nor a link is at a place. -/
def IsFree (root : Node) (place : Place) : Prop :=
  ∀ node, root.kindAt? place = some node → node.isFile = true

section Free

variable {place a b : Place} {node : Node}

lemma isFree_of_file {root : Node} {content : Bytes} (h : root.get? place = some (.file content)) :
    IsFree root place := by
  intro kind hkind
  rw [Node.kindAt?_eq_file.2 h] at hkind
  cases hkind
  rfl

lemma isFree_of_none {root : Node} (h : root.get? place = none) : IsFree root place := by
  intro kind hkind
  rw [Node.kindAt?_eq_none.2 h] at hkind
  cases hkind

lemma IsFree.not_prefix {root : Node} (h : IsFree root place) {other : Place}
    (hother : root.kindAt? other = some node) (hnode : node.isFile = false) : ¬place <+: other := by
  rintro ⟨more, rfl⟩
  cases more with
  | nil =>
    rw [List.append_nil] at hother
    exact Bool.false_ne_true (hnode.symm.trans (h node hother))
  | cons name more =>
    obtain ⟨below, hbelow, -⟩ := Option.map_eq_some_iff.1 hother
    have hdirectory := Node.kindAt?_eq_directory.2 (Node.exists_directory_of_get? hbelow)
    cases h _ hdirectory

lemma IsFree.keepsWays_put (free : IsFree t.root place) (h : t.put place node = .ok t') :
    KeepsWays t.root t'.root := by
  intro other kind hkind hway
  rw [Node.kindAt?_of_put? (put_eq_ok_iff.1 h).1 (free.not_prefix hkind hway), hkind]

/-- Renaming changes nothing that is neither at the two places nor below them. -/
lemma kindAt?_of_renamed (h : FileTree.put { t with root := t.root.erase a } b node = .ok t')
    {other : Place} (ha : ¬a <+: other) (hb : ¬b <+: other) :
    t'.root.kindAt? other = t.root.kindAt? other := by
  rw [Node.kindAt?_of_put? (put_eq_ok_iff.1 h).1 hb, Node.kindAt?_erase ha]

lemma IsFree.keepsWays_rename (source : IsFree t.root a) (target : IsFree t.root b)
    (h : FileTree.put { t with root := t.root.erase a } b node = .ok t') :
    KeepsWays t.root t'.root := by
  intro other kind hkind hway
  rw [kindAt?_of_renamed h (source.not_prefix hkind hway) (target.not_prefix hkind hway), hkind]

end Free

lemma not_directory_of_mayReplace {content : Bytes} {old : Option Node}
    (h : mayReplace (.file content) old = .ok ()) (es : List (Text × Node)) :
    old ≠ some (.directory es) := by
  rintro rfl
  cases h

/-- What lies at two places, and below them, is neither in the directory that a path names nor on the way
to it: the path names the directory also without that. -/
structure Spares (t : FileTree) (path : Text) (place a b : Place) : Prop where
  names : Names { t with root := (t.root.erase a).erase b } path place
  source_outside : ¬place <+: a
  target_outside : ¬place <+: b

section Renamed

variable {path : Text} {place a b : Place} {node : Node}

lemma kindAt?_erase_below {root : Node} {other : Place} (ha : a ≠ []) (hother : a <+: other) :
    (root.erase a).kindAt? other = none := by
  obtain ⟨more, rfl⟩ := hother
  rw [Node.kindAt?_eq_none, Node.get?_erase_self ha]

/-- What is there without the nodes at two places is neither at these places nor below them. -/
lemma not_prefix_of_kindAt?_erase (ha : a ≠ []) (hb : b ≠ []) {other : Place} {root kind : Node}
    (h : ((root.erase a).erase b).kindAt? other = some kind) : ¬a <+: other ∧ ¬b <+: other := by
  have hnotb : ¬b <+: other := by
    intro hother
    rw [kindAt?_erase_below hb hother] at h
    cases h
  have hnota : ¬a <+: other := by
    intro hother
    rw [Node.kindAt?_erase hnotb, kindAt?_erase_below ha hother] at h
    cases h
  exact ⟨hnota, hnotb⟩

variable (spares : t.Spares path place a b) (ha : a ≠ []) (hb : b ≠ [])
  (h : FileTree.put { t with root := t.root.erase a } b node = .ok t')

include spares ha hb h

/-- A path names the directory also after a renaming that spares it. -/
theorem Spares.names_of_renamed : t'.Names path place := by
  have keeps : KeepsWays ((t.root.erase a).erase b) t'.root := by
    intro other kind hkind _
    obtain ⟨hnota, hnotb⟩ := not_prefix_of_kindAt?_erase ha hb hkind
    rw [Node.kindAt?_erase hnotb, Node.kindAt?_erase hnota] at hkind
    rw [kindAt?_of_renamed h hnota hnotb, hkind]
  exact spares.names.keep keeps (put_eq_ok_iff.1 h).2

/-- A renaming that spares a directory changes none of its files. -/
theorem Spares.kindAt?_of_renamed (name : Text) :
    t'.root.kindAt? (place ++ [name]) = t.root.kindAt? (place ++ [name]) := by
  obtain ⟨es, hes⟩ := spares.names.isDirectory
  obtain ⟨hnota, hnotb⟩ := not_prefix_of_kindAt?_erase ha hb (Node.kindAt?_eq_directory.2 ⟨es, hes⟩)
  refine FileTree.kindAt?_of_renamed h ?_ ?_
  · intro hprefix
    rcases List.prefix_concat_iff.1 hprefix with rfl | hprefix
    · exact spares.source_outside (List.prefix_append place [name])
    · exact hnota hprefix
  · intro hprefix
    rcases List.prefix_concat_iff.1 hprefix with rfl | hprefix
    · exact spares.target_outside (List.prefix_append place [name])
    · exact hnotb hprefix

end Renamed

end Custodian.FileTree
