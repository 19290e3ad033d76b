import Custodian.Proofs.Package.RoundTrip

/-!
# How a package advances

A command does two things to its package at most: it gives it an identifier if it has none, and it marks it
as uploaded (`Advances`). Nothing else about the package changes, in particular none of its doubles. So
whether the package is read back from its record depends on the doubles that it was read with
(`Advances.read?_wide_iff`).
-/

namespace Custodian.Package

open Json

/-- A package is another one, but for an identifier where there was none and for its mark as uploaded. -/
structure Advances (p q : Package) : Prop where
  attributes : q.attributes = p.attributes ∨
    p.identifier? = none ∧ ∃ id, q.attributes = Table.insert identifierName (.string id) p.attributes
  status : q.status = p.status ∨ q.status = .uploaded
  rest : q = { p with attributes := q.attributes, status := q.status }

namespace Advances

variable {p q : Package} {name id : Text}

lemma refl (p : Package) : Advances p p :=
  ⟨.inl rfl, .inl rfl, rfl⟩

lemma uuid (h : Advances p q) : q.uuid = p.uuid := by
  rw [h.rest]

/-- A package gets no identifier but its first one. -/
lemma setIdentifier (h : Advances p q) (absent : q.identifier? = none) (id : Text) :
    Advances p (q.setIdentifier id) where
  attributes := by
    rcases h.attributes with hsame | ⟨-, first, hset⟩
    · have absent' : p.identifier? = none := by
        rw [identifier?, ← hsame]
        exact absent
      refine .inr ⟨absent', id, ?_⟩
      rw [Package.setIdentifier, hsame]
    · have present : q.identifier? = some first := by
        rw [identifier?, hset, Table.get?_insert_self]
      rw [present] at absent
      cases absent
  status := h.status
  rest := by
    have hrest := h.rest
    rw [Package.setIdentifier, hrest]

lemma upload (h : Advances p q) : Advances p { q with status := .uploaded } where
  attributes := h.attributes
  status := .inr rfl
  rest := by
    have hrest := h.rest
    rw [hrest]

/-- No other attribute changes. -/
lemma get?_of_ne (h : Advances p q) (hname : name ≠ identifierName) :
    Table.get? name q.attributes = Table.get? name p.attributes := by
  rcases h.attributes with hsame | ⟨-, id, hset⟩
  · rw [hsame]
  · rw [hset, Table.get?_insert_of_ne hname]

lemma isPlain (h : Advances p q) (plain : p.IsPlain) : q.IsPlain := by
  rcases h.attributes with hsame | ⟨-, id, hset⟩
  · rw [IsPlain, hsame]
    exact plain
  · rw [IsPlain, hset]
    exact IsPlain.setIdentifier plain id

lemma mem_doubles (h : Advances p q) {x : Binary64} (hx : x ∈ p.doubles) : x ∈ q.doubles := by
  rcases h.attributes with hsame | ⟨absent, id, hset⟩
  · rw [doubles, hsame]
    exact hx
  · rw [doubles, hset]
    exact mem_doubles_setIdentifier absent id hx

/-- **A package that has advanced is read back** from its text just if the doubles are with which it was
read. -/
theorem read?_wide_iff (h : Advances p q) {t : Text} (read : read? t = some p) :
    read? q.toJson.wide = some q ↔ ∀ x ∈ p.doubles, x.ReadsBack := by
  constructor
  · intro hread x hx
    exact readsBack_of_read?_wide hread x (h.mem_doubles hx)
  · intro readsBack
    exact Package.read?_wide (h.isPlain (isPlain_of_readsBack read readsBack))

end Advances

end Custodian.Package
