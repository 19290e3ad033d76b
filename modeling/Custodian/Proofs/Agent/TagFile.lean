import Custodian.Proofs.Agent.Place
import Custodian.Url.Wire
import Mathlib.Data.List.TakeWhile

/-!
# The two questions about a tag file

The tag file of a bag is asked about where the state of the bag leaves its replication out, and it can be
looked up as any other file in the bag. Both questions are about the same path. But only the second one has
it quoted.

* `tagFile_asked_alike_iff`: the two questions are the same exactly if quoting keeps every character of the
  location and the path of the bag.
* `tagFile_asked_elsewhere`: a bag for which they are not.
-/

namespace Custodian.Agent

open Appliance
open Json (Value)

variable {σ : Type}

/-! ### The path of the tag file -/

section Paths

variable {p : Char → Bool} {q : Char → Prop} (trimmed : ∀ c, p c = true → q c)

include trimmed

lemma forall_mem_trimStart_iff (t : Text) : (∀ c ∈ Text.trimStart p t, q c) ↔ ∀ c ∈ t, q c := by
  have hlead : ∀ c ∈ t.takeWhile p, q c := fun c hc => trimmed c (List.mem_takeWhile_imp hc)
  have hwhole : t.takeWhile p ++ t.dropWhile p = t := List.takeWhile_append_dropWhile
  have hsplit : (∀ c ∈ t, q c) ↔ ∀ c ∈ t.takeWhile p ++ t.dropWhile p, q c := by rw [hwhole]
  rw [hsplit, List.forall_mem_append, and_iff_right hlead]
  rfl

/-- A text all of which is of a class is so exactly if it is so when trimmed, if what is trimmed off is. -/
lemma forall_mem_trim_iff (t : Text) : (∀ c ∈ Text.trim p t, q c) ↔ ∀ c ∈ t, q c := by
  have hend : ∀ t : Text, (∀ c ∈ Text.trimEnd p t, q c) ↔ ∀ c ∈ t, q c := by
    intro t
    have hreverse := forall_mem_trimStart_iff trimmed t.reverse
    simpa [Text.trimStart, Text.trimEnd] using hreverse
  rw [Text.trim, hend, forall_mem_trimStart_iff trimmed]

end Paths

lemma isKept_of_isSlash (c : Char) (h : Endpoints.isSlash c = true) : Url.isKept c = true := by
  rw [(isSlash_iff c).1 h]
  rfl

/-- Quoting keeps the path of the tag file exactly if it keeps the location and the path of the bag. -/
lemma quote_tagFile_iff (location currentPath : Text) :
    Url.quote (Endpoints.innerPath location currentPath Endpoints.tagFile) =
        Endpoints.innerPath location currentPath Endpoints.tagFile ↔
      ∀ c ∈ location ++ currentPath, Url.isKept c = true := by
  have htrim := forall_mem_trim_iff isKept_of_isSlash
  have hslash : Url.isKept '/' = true := rfl
  have hfile : ∀ c ∈ Endpoints.tagFile, Url.isKept c = true := List.all_eq_true.1 (by decide)
  rw [Url.quote_eq_self_iff, Endpoints.innerPath, List.forall_mem_append, List.forall_mem_append,
    List.forall_mem_cons, List.forall_mem_cons, htrim, htrim, List.forall_mem_append]
  exact ⟨fun h => ⟨h.1.1, h.1.2.2⟩, fun h => ⟨⟨h.1, hslash, h.2⟩, hslash, hfile⟩⟩

/-! ### The two questions -/

/-- The URLs of a path and of its quoted form are the same exactly if quoting keeps the path: leading
slashes, which URLs leave out, stay leading slashes. -/
lemma fileInfo_quote_iff (e : Endpoints) (path : Text) :
    e.fileInfo path = e.fileInfo (Url.quote path) ↔ Url.quote path = path := by
  rw [Endpoints.fileInfo, Endpoints.fileInfo, Endpoints.under, Endpoints.under, List.append_cancel_left_eq,
    Url.trimStart_quote isSlash_iff, eq_comm, Url.quote_eq_self_iff, Url.quote_eq_self_iff,
    forall_mem_trimStart_iff isKept_of_isSlash]

/-- **The two questions about the tag file of a bag.** Where the state of a bag leaves its replication out,
the tag file is asked about at its path as it is. Where the tag file is looked up, it is asked about at its
path quoted, as the endpoint wants it. These are the same request exactly if quoting keeps every character
of the location and of the path of the bag. -/
theorem tagFile_asked_alike_iff (s : Surroundings σ) (scene : Scene σ Package)
    (bag : scene.held.shape = .uncompressed) (tell : Bool) (state : Value)
    (told : stateTold? s scene.held (scene.since (reconcile s scene).2) = some state)
    (silent : Replication.report? state = none) :
    let p := scene.held
    let path := Endpoints.innerPath p.location p.currentPath Endpoints.tagFile
    let reconciled := scene.since (reconcile s scene).2
    let located := scene.since (locality s (some Endpoints.tagFile) tell scene).2
    requests reconciled = polling s p reconciled (s.files scene.world) ++
        [question (s.endpoints.fileInfo path)] ∧
      requests located = [question (s.endpoints.fileInfo (Url.quote path))] ∧
      (question (s.endpoints.fileInfo path) = question (s.endpoints.fileInfo (Url.quote path)) ↔
        ∀ c ∈ p.location ++ p.currentPath, Url.isKept c = true) := by
  intro p path reconciled located
  refine ⟨?_, ?_, ?_⟩
  · have hreconciled : requests reconciled = polling s p reconciled (s.files scene.world) ++
        askingTagFile s p (stateTold? s p reconciled) := reconcile_requests s scene
    rw [hreconciled, told, askingTagFile_of_silent bag silent]
    rfl
  · have hlocated := locality_requests s (some Endpoints.tagFile) tell scene
    rw [bag] at hlocated
    exact hlocated
  · have hquestion : ∀ url url', question url = question url' ↔ url = url' :=
      fun url url' => ⟨congrArg Request.url, congrArg question⟩
    rw [hquestion, fileInfo_quote_iff]
    exact quote_tagFile_iff p.location p.currentPath

/-! ### Bags with and without blanks -/

/-- An appliance that answers everything and tells nothing. -/
def silentAppliance : Surroundings Nat :=
  { greenAppliance with
    exchange := fun _ failures => (.answered 200 (Utf8.encode (Value.object []).compact), failures) }

/-- A bag whose name has a blank. -/
def blankBag : Package :=
  { stagedBag with currentPath := "my bag" }

theorem tagFile_asked_alike_staged :
    let path := Endpoints.innerPath stagedBag.location stagedBag.currentPath Endpoints.tagFile
    question (silentAppliance.endpoints.fileInfo path) =
      question (silentAppliance.endpoints.fileInfo (Url.quote path)) := by
  have asked := tagFile_asked_alike_iff silentAppliance ⟨0, stagedBag, []⟩ rfl false (.object [])
    (by decide +kernel) (by decide +kernel)
  exact asked.2.2.2 (List.all_eq_true.1 (by decide))

/-- **The tag file of a bag may be asked about at two places.** If the name of a bag has a blank, a
reconciliation asks about its tag file with the blank as it is, and a look-up with a plus sign in its place.
These are different targets at the appliance. -/
theorem tagFile_asked_elsewhere :
    let e := greenAppliance.endpoints
    let asked := e.bagInfo blankBag.location blankBag.currentPath
    let located := fileUrl greenAppliance blankBag Endpoints.tagFile
    asked = "http://appliance/api/2/files/fileInfo/aips/my bag/bag-info.txt" ∧
      located = "http://appliance/api/2/files/fileInfo/aips/my+bag/bag-info.txt" ∧
      (Url.wire? asked).map Url.Wire.target =
        some "/api/2/files/fileInfo/aips/my%20bag/bag-info.txt" ∧
      (Url.wire? located).map Url.Wire.target =
        some "/api/2/files/fileInfo/aips/my+bag/bag-info.txt" := by
  decide +kernel

end Custodian.Agent
