import Custodian.Proofs.Agent.Place
import Custodian.Proofs.Url.Quoted

/-!
# The path of a file in a question

A file in a bag is asked about at its path, which is quoted. The quoted path is all that is sent of it, and it
is read back as the path.

* `quoted_path_arrives`: quoting loses nothing, and what is quoted is sent as it is.
-/

namespace Custodian.Agent

open Appliance

variable {σ : Type}

/-! ### The path that is asked about -/

/-- The path of a file in a package, as it is asked about: location, path and file, with no slashes around
any of them but at the end of the last. -/
def filePath (p : Package) (sub : Text) : Text :=
  Text.trimStart Endpoints.isSlash
    (Endpoints.innerPath p.location p.currentPath (Text.trimStart (· == '/') sub))

/-- Below the base, the path of a file is quoted, and so can be the last name of the route. -/
lemma fileUrl_eq_quote (s : Surroundings σ) (p : Package) (sub : Text) : fileUrl s p sub =
    s.endpoints.base ++ Url.route ["api", "2", "files"] ++ Url.quote ("fileInfo/" ++ filePath p sub) := by
  have hname : Url.quote "fileInfo/" = "fileInfo/" := by decide
  have hroute : ("/api/2/files/fileInfo/" : Text) = Url.route ["api", "2", "files"] ++ "fileInfo/" := by decide
  rw [fileUrl, Endpoints.fileInfo, Url.trimStart_quote isSlash_iff, Endpoints.under, Url.quote_append, hname,
    hroute, filePath]
  simp only [List.append_assoc]

lemma isUndotted_filePath {p : Package} {sub : Text} (location : Url.IsUndotted p.location)
    (currentPath : Url.IsUndotted p.currentPath) (hsub : Url.IsUndotted sub) :
    Url.IsUndotted ("fileInfo/" ++ filePath p sub) := by
  have hslash : ∀ c, Endpoints.isSlash c = true → c = '/' := fun c => (isSlash_iff c).1
  have hinner : Url.IsUndotted (Endpoints.innerPath p.location p.currentPath (Text.trimStart (· == '/') sub)) := by
    rw [Endpoints.innerPath, Url.IsUndotted.append_slash_iff, Url.IsUndotted.append_slash_iff]
    exact ⟨⟨location.trim hslash, currentPath.trim hslash⟩, hsub.trimStart fun _ => eq_of_beq⟩
  exact (Url.IsUndotted.append_slash_iff "fileInfo" _).2 ⟨by decide, hinner.trimStart hslash⟩

/-- Unless the location says nothing, there are no slashes before it to be left out. -/
lemma filePath_of_location {p : Package} (named : Text.trim Endpoints.isSlash p.location ≠ []) (sub : Text) :
    filePath p sub = Endpoints.innerPath p.location p.currentPath (Text.trimStart (· == '/') sub) := by
  obtain ⟨c, rest, htrim⟩ := List.exists_cons_of_ne_nil named
  have hc : Endpoints.isSlash c = false := by
    obtain ⟨more, hmore⟩ := List.rdropWhile_prefix Endpoints.isSlash (p.location.dropWhile Endpoints.isSlash)
    have hdrop : p.location.dropWhile Endpoints.isSlash = c :: (rest ++ more) := by
      rw [← hmore]
      exact congrArg (· ++ more) htrim
    have hhead := List.head?_dropWhile_not Endpoints.isSlash p.location
    rwa [hdrop] at hhead
  rw [filePath, Endpoints.innerPath, htrim]
  exact Url.trimStart_of_not hc _

/-- **A quoted path arrives.** A path is quoted with unreserved characters, plus signs, slashes and escapes
only, segment by segment, and read back as the path that it was; so different paths are quoted differently.

Below a base that is a scheme and a host, the URL of a file in a package passes unchanged, unless the path of
the file has segments of dots: what is sent is the route and then something that is read back as location,
path and file, with a slash between each two and none before the first. This URL is what is asked about the
file in a bag. -/
theorem quoted_path_arrives :
    (∀ path : Text, Url.isQuoted (Url.quote path) = true ∧
      Url.quote path = Text.join ['/']
        ((Text.splitOn '/' path).map fun part => Url.plusForSpaces (Url.percentEncode part)) ∧
      (Text.splitOn '/' (Url.quote path)).length = (Text.splitOn '/' path).length ∧
      Url.unquote? (Url.quote path) = some path) ∧
    Function.Injective Url.quote ∧
    ∀ {σ : Type} (s : Surroundings σ) (p : Package) (sub : Text), Url.IsBase s.endpoints.base →
      Url.IsUndotted p.location → Url.IsUndotted p.currentPath → Url.IsUndotted sub →
      (∃ w rest, Url.wire? (fileUrl s p sub) = some w ∧ w.query = none ∧
        fileUrl s p sub = s.endpoints.base ++ w.path ∧ w.path = "/api/2/files/fileInfo/" ++ rest ∧
        Url.unquote? rest = some (filePath p sub)) ∧
      (Text.trim Endpoints.isSlash p.location ≠ [] → filePath p sub =
        Endpoints.innerPath p.location p.currentPath (Text.trimStart (· == '/') sub)) ∧
      ∀ (scene : Scene σ Package) (tell : Bool), scene.held = p → p.shape = .uncompressed →
        requests (scene.since (locality s (some sub) tell scene).2) = [question (fileUrl s p sub)] := by
  refine ⟨?_, Url.quote_injective, ?_⟩
  · intro path
    refine ⟨Url.isQuoted_quote path, Url.quote_eq_staged path, ?_, Url.unquote?_quote path⟩
    rw [Url.splitOn_quote, List.length_map]
  intro σ s p sub base location currentPath hsub
  refine ⟨?_, fun named => filePath_of_location named sub, ?_⟩
  · have hnames : Url.AreNames ["api", "2", "files"] := by decide
    have hroute : Url.route ["api", "2", "files"] ++ Url.quote ("fileInfo/" ++ filePath p sub) =
        "/api/2/files/fileInfo/" ++ Url.quote (filePath p sub) := rfl
    obtain ⟨w, hwire, hquery, hpath⟩ :=
      Url.wire?_quote base hnames (isUndotted_filePath location currentPath hsub)
    rw [← fileUrl_eq_quote] at hwire
    refine ⟨w, Url.quote (filePath p sub), hwire, hquery, ?_, hpath.trans hroute, Url.unquote?_quote _⟩
    rw [hpath, fileUrl_eq_quote, List.append_assoc]
  · rintro scene tell rfl bag
    rw [locality_requests, bag]

theorem quoted_path_arrives_blank :
    let p : Package := { stagedBag with currentPath := "/my bag/" }
    ∃ w, Url.wire? (fileUrl greenAppliance p "data/100%20 ñ+1.txt") = some w ∧
      w.path = "/api/2/files/fileInfo/aips/my+bag/data/100%2520+%C3%B1%2B1.txt" ∧
      ∃ rest, w.path = "/api/2/files/fileInfo/" ++ rest ∧
        Url.unquote? rest = some ("aips/my bag/data/100%20 ñ+1.txt" : Text) := by
  intro p
  have base : Url.IsBase greenAppliance.endpoints.base :=
    Url.isBase_of_host (.inl rfl) (show ("appliance" : Text) ≠ [] by decide) (List.all_eq_true.1 (by decide))
      .usual
  obtain ⟨⟨w, rest, hwire, -, hurl, hpath, hrest⟩, -⟩ := quoted_path_arrives.2.2 greenAppliance p
    "data/100%20 ñ+1.txt" base (by decide) (by decide) (by decide)
  have hquoted : fileUrl greenAppliance p "data/100%20 ñ+1.txt" = greenAppliance.endpoints.base ++
      "/api/2/files/fileInfo/aips/my+bag/data/100%2520+%C3%B1%2B1.txt" := by decide +kernel
  have hread : filePath p "data/100%20 ñ+1.txt" = "aips/my bag/data/100%20 ñ+1.txt" := by decide +kernel
  exact ⟨w, hwire, List.append_cancel_left (hurl.symm.trans hquoted), rest, hpath, hread ▸ hrest⟩

end Custodian.Agent
