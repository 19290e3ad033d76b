import Custodian.Proofs.Agent.Persistence
import Custodian.Proofs.Agent.Requests
import Custodian.Proofs.Path.Segments
import Custodian.Proofs.Url.Quote

/-!
# The place of a package

The place of a package in its space is given by its location and its path, as a list of segments. However
the slashes are written, the package is stored, registered and looked up at this one place.

* `Package.relative_fullPath`: the place where a package is stored, relative to the root of the space.
* `one_place`: the paths that the agent sends have the same segments.
-/

namespace Custodian

namespace Package

/-- The segments of the place of a package in its space. -/
def segments (p : Package) : List Text :=
  Path.segments p.location ++ Path.segments p.currentPath

lemma isAbsolute_withoutLead (path : Text) : Path.isAbsolute (withoutLead path) = false := by
  have hhead := List.head?_dropWhile_not (· == '/') path
  unfold withoutLead Text.trimStart Path.isAbsolute
  rcases hpath : path.dropWhile (· == '/') with _ | ⟨c, rest⟩
  · rfl
  · rw [hpath] at hhead
    simpa using hhead

lemma segments_withoutLead (path : Text) : Path.segments (withoutLead path) = Path.segments path :=
  Path.segments_trimStart (fun _ => eq_of_beq) path

lemma segments_fullPath (root : Text) (p : Package) :
    Path.segments (p.fullPath root) = Path.segments root ++ p.segments := by
  rw [fullPath, Path.segments_join (isAbsolute_withoutLead _), Path.segments_join (isAbsolute_withoutLead _),
    segments_withoutLead, segments_withoutLead, List.append_assoc, segments]

section Root

variable {root : Text} (absolute : Path.isAbsolute root = true) (p : Package)

include absolute

lemma isAbsolute_fullPath : Path.isAbsolute (p.fullPath root) = true :=
  Path.isAbsolute_join (isAbsolute_withoutLead _) (Path.isAbsolute_join (isAbsolute_withoutLead _) absolute)

lemma components_fullPath : Path.components root <+: Path.components (p.fullPath root) := by
  rw [Path.components_of_isAbsolute absolute, Path.components_of_isAbsolute (isAbsolute_fullPath absolute p),
    segments_fullPath, List.map_append]
  exact List.prefix_append _ _

/-- **The place where a package is stored**, relative to the root of the space, is the one that its
location and its path give. -/
theorem segments_relative_fullPath :
    Path.segments (Path.relative root (p.fullPath root)) = p.segments := by
  have hfull := Path.segments_relative absolute (components_fullPath absolute p)
  rw [segments_fullPath] at hfull
  exact (List.append_cancel_left hfull).symm

end Root

end Package

namespace Agent

open Appliance
open Json (Value)

variable {σ : Type}

/-! ### Paths in requests -/

lemma isSlash_iff (c : Char) : Endpoints.isSlash c = true ↔ c = '/' := by
  simp [Endpoints.isSlash]

lemma segments_trimStart (path : Text) :
    Path.segments (Text.trimStart Endpoints.isSlash path) = Path.segments path :=
  Path.segments_trimStart (fun c => (isSlash_iff c).1) path

lemma segments_innerPath (location currentPath file : Text) :
    Path.segments (Endpoints.innerPath location currentPath file) =
      Path.segments location ++ Path.segments currentPath ++ Path.segments file := by
  have htrim := Path.segments_trim fun c => (isSlash_iff c).1
  rw [Endpoints.innerPath, Path.segments_append_slash, Path.segments_append_slash, htrim, htrim]

lemma segments_tagFile : Path.segments Endpoints.tagFile = [Endpoints.tagFile] := by
  decide

variable (s : Surroundings σ)

/-- A file in a package is asked about by its whole path, quoted. -/
lemma fileUrl_eq (p : Package) (sub : Text) : ∃ path,
    Path.segments path = p.segments ++ Path.segments sub ∧
      fileUrl s p sub = s.endpoints.under "/api/2/files/fileInfo/" (Url.quote path) := by
  refine ⟨Text.trimStart Endpoints.isSlash (Endpoints.innerPath p.location p.currentPath
    (Text.trimStart (· == '/') sub)), ?_, ?_⟩
  · rw [segments_trimStart, segments_innerPath, Path.segments_trimStart (fun _ => eq_of_beq),
      Package.segments]
  · rw [fileUrl, Endpoints.fileInfo, Url.trimStart_quote isSlash_iff]

/-- The tag file of a package is asked about by its whole path, as it is. -/
lemma bagInfo_eq (p : Package) : ∃ path, Path.segments path = p.segments ++ [Endpoints.tagFile] ∧
    s.endpoints.bagInfo p.location p.currentPath =
      s.endpoints.under "/api/2/files/fileInfo/" path := by
  refine ⟨_, ?_, rfl⟩
  rw [segments_trimStart, segments_innerPath, segments_tagFile, Package.segments]

/-! ### Registration at the place -/

section Registration

variable {s} (absolute : Path.isAbsolute s.spaceRoot = true) {scene : Scene σ Package}

include absolute

/-- A bag is registered with its place. -/
lemma register_requests_of_bag (bag : scene.held.shape = .uncompressed) :
    ∃ path, Path.segments path = scene.held.segments ∧
      requests (scene.since (register s (scene.held.fullPath s.spaceRoot) scene).2) =
        [⟨.post, s.endpoints.manifestRelease, .form [⟨"bagitPath", none, path⟩, ⟨[], some [], []⟩]⟩] := by
  refine ⟨'/' :: Text.trimStart (· == '/') (Path.relative s.spaceRoot (scene.held.fullPath s.spaceRoot)),
    ?_, ?_⟩
  · rw [Path.segments_cons_slash, Path.segments_trimStart (fun _ => eq_of_beq),
      Package.segments_relative_fullPath absolute]
  · rw [register_requests, registrationRequest, bag]
    rfl

/-- A compressed package is registered at its place. -/
lemma register_requests_of_compressed {pointerFile : Text} {fixity : Pointer.Fixity}
    (shape : scene.held.shape = .compressed pointerFile)
    (pointed : pointerFixity (s.files scene.world) pointerFile = .ok fixity) :
    ∃ path, Path.segments path = scene.held.segments ∧
      requests (scene.since (register s (scene.held.fullPath s.spaceRoot) scene).2) =
        [⟨.post, s.endpoints.under "/api/2/files/release/" path,
          .json (releaseContent scene.held fixity)⟩] := by
  refine ⟨Text.trimStart Endpoints.isSlash
    (Path.relative s.spaceRoot (scene.held.fullPath s.spaceRoot)), ?_, ?_⟩
  · rw [segments_trimStart, Package.segments_relative_fullPath absolute]
  · rw [register_requests, registrationRequest, shape]
    dsimp only
    rw [pointed]
    rfl

end Registration

/-- **A package has one place.** The path relative to the root at which it is stored, the paths that it is
registered with, and the paths under which the files in it are looked up have the segments of its location
and of its path, and nothing else before those of the file. Whatever lies in the space is found again at
its path relative to the root. -/
theorem one_place (absolute : Path.isAbsolute s.spaceRoot = true) (scene : Scene σ Package) :
    let p := scene.held
    let stored := p.fullPath s.spaceRoot
    Path.segments (Path.relative s.spaceRoot stored) = p.segments ∧
    (p.shape = .uncompressed → ∃ path, Path.segments path = p.segments ∧
      requests (scene.since (register s stored scene).2) =
        [⟨.post, s.endpoints.manifestRelease,
          .form [⟨"bagitPath", none, path⟩, ⟨[], some [], []⟩]⟩]) ∧
    (∀ pointerFile fixity, p.shape = .compressed pointerFile →
      pointerFixity (s.files scene.world) pointerFile = .ok fixity →
      ∃ path, Path.segments path = p.segments ∧
        requests (scene.since (register s stored scene).2) =
          [⟨.post, s.endpoints.under "/api/2/files/release/" path, .json (releaseContent p fixity)⟩]) ∧
    (∀ sub, ∃ path, Path.segments path = p.segments ++ Path.segments sub ∧
      fileUrl s p sub = s.endpoints.under "/api/2/files/fileInfo/" (Url.quote path) ∧
      (p.shape = .uncompressed → ∀ tell,
        requests (scene.since (locality s (some sub) tell scene).2) = [question (fileUrl s p sub)])) ∧
    (∃ path, Path.segments path = p.segments ++ [Endpoints.tagFile] ∧
      ∀ state, p.shape = .uncompressed → Replication.report? state = none →
        requests (scene.since (replicationReport s state scene).2) =
          [question (s.endpoints.under "/api/2/files/fileInfo/" path)]) ∧
    ∀ dest, Path.components s.spaceRoot <+: Path.components dest →
      Path.components (Path.join s.spaceRoot (Path.relative s.spaceRoot dest)) =
        Path.components dest := by
  intro p stored
  refine ⟨Package.segments_relative_fullPath absolute p, register_requests_of_bag absolute, ?_, ?_, ?_,
    fun dest below => Path.components_join_relative absolute below⟩
  · intro pointerFile fixity shape pointed
    exact register_requests_of_compressed absolute shape pointed
  · intro sub
    obtain ⟨path, hpath, hurl⟩ := fileUrl_eq s p sub
    refine ⟨path, hpath, hurl, ?_⟩
    intro bag tell
    rw [locality_requests, bag]
  · obtain ⟨path, hpath, hurl⟩ := bagInfo_eq s p
    refine ⟨path, hpath, ?_⟩
    intro state bag silent
    rw [replicationReport_requests, askingTagFile_of_silent bag silent, hurl]

/-- A bag whose location and path are written with more slashes and dots than they need. -/
def slashedBag : Package :=
  { stagedBag with location := "/aips//2024/", currentPath := "//./bag/" }

theorem one_place_slashed : Path.isAbsolute greenAppliance.spaceRoot = true ∧
    Path.segments (Path.relative greenAppliance.spaceRoot
      (slashedBag.fullPath greenAppliance.spaceRoot)) = ["aips", "2024", "bag"] :=
  ⟨by decide, (one_place greenAppliance (by decide) ⟨0, slashedBag, []⟩).1.trans (by decide)⟩

end Agent

end Custodian
