import Custodian.Package.Json
import Custodian.Proofs.Json.RoundTrip

/-!
# Packages read back as they were written

A package whose attributes are plain is read back from its own text (`read?_wide`). Attributes that were
read are plain if their doubles are read back (`isPlain_of_readsBack`), and they stay so when an identifier
is set. No other packages are read back (`readsBack_of_read?_wide`).
-/

namespace Custodian

open Json

namespace Shape

/-- How deep a field of a record may be nested. -/
abbrev innerDepth : Nat := Raw.greatestDepth - 1

lemma ofJson?_raw (s : Shape) : ofJson? innerDepth s.toJson.raw = some s := by
  cases s <;> rfl

end Shape

lemma Status.ofJson?_raw (s : Status) : ofJson? (Value.string s.name).raw = some s := by
  cases s <;> rfl

namespace Package

/-- The attributes of a package are read back as they are written. -/
def IsPlain (p : Package) : Prop :=
  (Value.object p.attributes).IsPlain (Raw.greatestDepth - 1)

lemma IsPlain.setIdentifier {p : Package} (h : p.IsPlain) (id : Text) : (p.setIdentifier id).IsPlain :=
  Value.IsPlain.insert h identifierName trivial

lemma hasIntegers_setIdentifier {p : Package} (h : (Value.object p.attributes).hasIntegers = true)
    (id : Text) : (Value.object (p.setIdentifier id).attributes).hasIntegers = true := by
  refine Value.membersHaveIntegers_iff.2 ?_
  intro m hm
  rcases Table.mem_insert hm with rfl | hm
  · rfl
  · exact Value.membersHaveIntegers_iff.1 h m hm

lemma fields?_raw (p : Package) : p.toJson.raw.fields? fieldNames =
    some [some (.string (some p.uuid)), some (.string (some p.currentPath)),
      some (.string (some p.location)), some p.shape.toJson.raw,
      some (.string (some p.status.name)), some (Value.object p.attributes).raw] :=
  rfl

lemma ofRaw?_raw {p : Package} (h : p.IsPlain) : ofRaw? p.toJson.raw = some p := by
  have hattributes : attributesOfJson? Shape.innerDepth (some (Value.object p.attributes).raw) =
      some p.attributes := by
    rw [attributesOfJson?, Raw.value?_raw h]
  have hstatus : Status.ofJson? (.string (some p.status.name)) = some p.status :=
    Status.ofJson?_raw p.status
  simp only [ofRaw?, fields?_raw, Option.bind_eq_bind, Option.bind_some, Raw.text?,
    Shape.ofJson?_raw, hstatus, hattributes]
  rfl

/-- **A package is read back** from its text. -/
theorem read?_wide {p : Package} (h : p.IsPlain) : read? p.toJson.wide = some p := by
  rw [read?, Value.wide, Raw.read?_write Layout.wide_hasBlankGaps p.toJson,
    Option.bind_some, ofRaw?_raw h]

lemma attributes_of_ofRaw? {r : Raw} {p : Package} (h : ofRaw? r = some p) :
    ∃ attributes, attributesOfJson? Shape.innerDepth attributes = some p.attributes := by
  obtain ⟨fields, -, h⟩ := Option.bind_eq_some_iff.1 h
  split at h
  · next attributes =>
    simp only [Option.bind_eq_bind, Option.bind_eq_some_iff] at h
    obtain ⟨_, -, _, -, _, -, _, -, _, -, members, hmembers, hp⟩ := h
    cases hp
    exact ⟨attributes, hmembers⟩
  · cases h

/-- The doubles among the attributes. -/
def doubles (p : Package) : List Binary64 :=
  (Value.object p.attributes).doubles

/-- **A package that was read is plain**, if the doubles among its attributes are read back. -/
theorem isPlain_of_readsBack {t : Text} {p : Package} (h : read? t = some p)
    (readsBack : ∀ x ∈ p.doubles, x.ReadsBack) : p.IsPlain := by
  obtain ⟨r, -, hr⟩ := Option.bind_eq_some_iff.1 h
  obtain ⟨attributes, hattributes⟩ := attributes_of_ofRaw? hr
  unfold attributesOfJson? at hattributes
  split at hattributes
  · rw [IsPlain, ← Option.some.inj hattributes]
    exact ⟨by decide, Table.isAscending_nil, trivial⟩
  · split at hattributes
    · next members hmembers =>
      rw [Option.some.inj hattributes] at hmembers
      exact Raw.isPlain_of_value? hmembers readsBack
    · cases hattributes

lemma isPlain_of_read? {t : Text} {p : Package} (h : read? t = some p)
    (integers : (Value.object p.attributes).hasIntegers = true) : p.IsPlain := by
  apply isPlain_of_readsBack h
  intro x hx
  rw [doubles, Value.doubles_eq_nil integers] at hx
  cases hx

/-- A package that is read back holds doubles that are. -/
theorem readsBack_of_read?_wide {p : Package} (h : read? p.toJson.wide = some p) :
    ∀ x ∈ p.doubles, x.ReadsBack := by
  rw [read?, Value.wide, Raw.read?_write Layout.wide_hasBlankGaps p.toJson, Option.bind_some] at h
  have hattributes : attributesOfJson? Shape.innerDepth (some (Value.object p.attributes).raw) =
      some p.attributes := by
    simp only [ofRaw?, fields?_raw, Option.bind_eq_bind, Option.bind_some, Option.bind_eq_some_iff,
      Raw.text?] at h
    obtain ⟨_, -, _, -, members, hmembers, hp⟩ := h
    have hsame : members = p.attributes := congrArg attributes (Option.some.inj hp)
    exact hsame ▸ hmembers
  unfold attributesOfJson? at hattributes
  dsimp only at hattributes
  split at hattributes
  · next members hmembers =>
    rw [Option.some.inj hattributes] at hmembers
    exact Raw.readsBack_of_value?_raw hmembers
  · cases hattributes

/-- An identifier takes the place of no double where there was none. -/
lemma mem_doubles_setIdentifier {p : Package} (h : p.identifier? = none) (id : Text) {x : Binary64}
    (hx : x ∈ p.doubles) : x ∈ (p.setIdentifier id).doubles := by
  obtain ⟨m, hm, hx⟩ := Value.mem_memberDoubles.1 hx
  rcases Table.mem_insert_of_mem identifierName (.string id) hm with hkept | hreplaced
  · exact Value.mem_memberDoubles.2 ⟨m, hkept, hx⟩
  · have hnull : m.2 = .null := by
      rw [identifier?, hreplaced] at h
      split at h
      · next heq => cases heq
      · next heq => exact Option.some.inj heq
      · cases h
      · cases h
    rw [hnull] at hx
    cases hx

end Package

end Custodian
