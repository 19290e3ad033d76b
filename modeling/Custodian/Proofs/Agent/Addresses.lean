import Custodian.Proofs.Agent.Persistence
import Custodian.Proofs.Agent.Requests
import Custodian.Proofs.Url.Plain

/-!
# What a request addresses

A path that is deleted, a path that is registered and an identifier that is asked about stand at the end of
a URL as they are. So they are addressed exactly as far as they are plain.

* `addressed_iff_plain`: a plain text is addressed, any other one is not, and different plain texts lead to
  different targets.
* `marked_paths_collide`: two paths of which one is not plain may lead to the same target.
-/

namespace Custodian.Agent

open Appliance
open Url (IsPlain Addresses Apart)

variable {σ : Type}

/-- The URLs of a family, which are made of texts, address these texts exactly as far as they are plain. -/
structure AddressesPlain (names : List Text) (url text : Text → Text) : Prop where
  addresses_iff : ∀ t, Addresses names (url t) (text t) ↔ IsPlain (text t)
  apart : ∀ t t', IsPlain (text t) → IsPlain (text t') → text t ≠ text t' → Apart names (url t) (url t')

lemma addressesPlain_of_eq {base : Text} (hbase : Url.IsBase base) {names : List Text}
    (hnames : Url.AreNames names) {url text : Text → Text}
    (heq : ∀ t, url t = base ++ Url.route names ++ text t) : AddressesPlain names url text where
  addresses_iff t := by
    rw [heq]
    exact Url.addresses_iff hbase hnames (text t)
  apart t t' plain plain' hne := by
    rw [heq, heq]
    exact (plain.addresses hbase hnames).apart (plain'.addresses hbase hnames) hne

/-- The route along which the state of a package is asked for. -/
def statusRoute (p : Package) : List Text :=
  match p.shape with
  | .compressed _ => ["api", "2", "files", "release"]
  | .uncompressed => ["api", "3", "ingest-manifest", "status"]

lemma areNames_statusRoute (p : Package) : Url.AreNames (statusRoute p) := by
  unfold statusRoute
  rcases p.shape with pointerFile | _
  · exact (by decide : Url.AreNames ["api", "2", "files", "release"])
  · exact (by decide : Url.AreNames ["api", "3", "ingest-manifest", "status"])

lemma statusUrl_eq (s : Surroundings σ) (p : Package) (id : Text) :
    statusUrl s p id = s.endpoints.base ++ Url.route (statusRoute p) ++ id := by
  unfold statusUrl statusRoute
  rcases p.shape with pointerFile | _ <;> rfl

lemma isWeb_of_flaw? {config : Config} (accepted : config.flaw? = none) :
    Url.IsWeb config.appliance.scheme := by
  unfold Config.flaw? at accepted
  split_ifs at accepted with _ hscheme
  rw [not_and_or, not_not, not_not] at hscheme
  exact hscheme.symm

/-- An accepted configuration with a plain host that can be reached has a base for URLs. -/
lemma isBase_of_flaw? {config : Config} (accepted : config.flaw? = none)
    (host : Url.IsAuthority (Text.trimEnd (· == '/') config.appliance.host))
    (reachable : (Url.wire? config.appliance.baseUrl).isSome) :
    Url.IsBase (Endpoints.ofBase config.appliance.baseUrl).base := by
  obtain ⟨init, last, hlast⟩ := (List.eq_nil_or_concat _).resolve_left host.ne_nil
  have hends := host.whole last (by rw [hlast]; simp)
  have hslash : Endpoints.isSlash last = false := by
    by_contra h
    have hsame : last = '/' := by simpa [Endpoints.isSlash] using h
    rw [hsame] at hends
    cases hends
  have hbase : (Endpoints.ofBase config.appliance.baseUrl).base = config.appliance.baseUrl := by
    rw [Endpoints.ofBase, ApplianceConfig.baseUrl, hlast, List.concat_eq_append, ← List.append_assoc]
    exact Url.trimEnd_append hslash _ []
  rw [hbase]
  exact ⟨⟨_, _, isWeb_of_flaw? accepted, host, rfl⟩, reachable⟩

/-! ### What is sent -/

/-- A compressed package is registered at the URL of its relative path. -/
lemma url_of_mem_register {s : Surroundings σ} {scene : Scene σ Package} (h : scene.held.isCompressed = true)
    {destination : Text} {request : Request}
    (hrequest : request ∈ requests (scene.since (register s destination scene).2)) :
    request.url = s.endpoints.fileRelease (Path.relative s.spaceRoot destination) := by
  rw [register_requests] at hrequest
  unfold registrationRequest at hrequest
  unfold Package.isCompressed at h
  rcases hshape : scene.held.shape with pointerFile | _ <;> rw [hshape] at h hrequest
  · dsimp only at hrequest
    rcases hfixity : pointerFixity (s.files scene.world) pointerFile with e | fixity <;>
      rw [hfixity] at hrequest
    · cases hrequest
    · obtain rfl := List.mem_singleton.1 hrequest
      rfl
  · cases h

/-- A package with an identifier is asked about at the URL of its identifier. -/
lemma fetchStatus_requests_of_identifier (s : Surroundings σ) {scene : Scene σ Package} {id : Text}
    (h : scene.held.identifier? = some id) :
    requests (scene.since (fetchStatus s scene).2) = [question (statusUrl s scene.held id)] := by
  rw [fetchStatus_requests, polling, registering_of_identifier h, List.nil_append, askingState,
    identifierAfter, h]

/-- **Deleting, registering and asking for the state address plain texts, and only these.** In an accepted
configuration with a plain host, the request that is sent for a path or an identifier leads along its route
to just that text if the text is plain, and not to it otherwise. Different plain texts lead to different
targets. -/
theorem addressed_iff_plain {config : Config} (accepted : config.flaw? = none)
    (host : Url.IsAuthority (Text.trimEnd (· == '/') config.appliance.host))
    (reachable : (Url.wire? config.appliance.baseUrl).isSome)
    (s : Surroundings σ) (configured : s.appliance = config.appliance) :
    ((∀ path (scene : Scene σ Package), requests (scene.since (deletePath s path scene).2) =
          [⟨.delete, s.endpoints.delete path, .nothing⟩]) ∧
        AddressesPlain ["files"] s.endpoints.delete (Text.trimStart Endpoints.isSlash)) ∧
      ((∀ scene : Scene σ Package, scene.held.isCompressed = true → ∀ destination,
          ∀ request ∈ requests (scene.since (register s destination scene).2),
            request.url = s.endpoints.fileRelease (Path.relative s.spaceRoot destination)) ∧
        AddressesPlain ["api", "2", "files", "release"] s.endpoints.fileRelease
          (Text.trimStart Endpoints.isSlash)) ∧
      ((∀ (scene : Scene σ Package) (id : Text), scene.held.identifier? = some id →
          requests (scene.since (fetchStatus s scene).2) = [question (statusUrl s scene.held id)]) ∧
        ∀ p, AddressesPlain (statusRoute p) (statusUrl s p) id) := by
  have hbase : Url.IsBase s.endpoints.base := by
    rw [Surroundings.endpoints, configured]
    exact isBase_of_flaw? accepted host reachable
  refine ⟨⟨deletePath_requests s, ?_⟩, ⟨?_, ?_⟩, ⟨?_, ?_⟩⟩
  · exact addressesPlain_of_eq hbase (by decide) fun _ => rfl
  · intro scene compressed destination request hrequest
    exact url_of_mem_register compressed hrequest
  · exact addressesPlain_of_eq hbase (by decide) fun _ => rfl
  · intro scene id present
    exact fetchStatus_requests_of_identifier s present
  · intro p
    exact addressesPlain_of_eq hbase (areNames_statusRoute p) (statusUrl_eq s p)

/-- A configuration with an appliance that can be reached. -/
def plainConfig : Config where
  storePath := "/var/lib/aipstore"
  spacePath := "/space"
  appliance := greenAppliance.appliance
  mail := Config.defaultMail

theorem addressed_iff_plain_bag :
    Addresses ["files"] (greenAppliance.endpoints.delete "/aips/bag.7z") "aips/bag.7z" :=
  have accepted : plainConfig.flaw? = none := by decide
  have plain : IsPlain (Text.trimStart Endpoints.isSlash "/aips/bag.7z") := by decide
  have addressed := addressed_iff_plain accepted (by decide) (by decide)
    greenAppliance rfl
  (addressed.1.2.addresses_iff "/aips/bag.7z").2 plain

/-- **A request need not address what it is made for.** A path with a number sign is deleted and registered
at the target of another path, and its like for an identifier. A path with dots leaves the route. -/
theorem marked_paths_collide :
    let e := greenAppliance.endpoints
    (Url.wire? (e.delete "aip")).isSome ∧
      Url.wire? (e.delete "aip#2") = Url.wire? (e.delete "aip") ∧
      Url.wire? (e.fileRelease "aip#2") = Url.wire? (e.fileRelease "aip") ∧
      Url.wire? (e.fileReleaseStatus "7#2") = Url.wire? (e.fileReleaseStatus "7") ∧
      Url.wire? (e.manifestStatus "7#2") = Url.wire? (e.manifestStatus "7") ∧
      (Url.wire? (e.delete "aip/../../x")).map Url.Wire.target = some "/x" := by
  decide +kernel

end Custodian.Agent
