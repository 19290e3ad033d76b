import Custodian.Agent.Registration
import Custodian.Proofs.Path.Extension

/-!
# The compression of a package

The appliance is told the compression of a package by the extension of its path. That extension is read from
the last part of the path that says something: slashes and single dots behind it, and whatever stands before it,
have no influence.

* `compression_eq_extension`: the compression of a path that ends in a stem, a dot and an extension, and the
  paths that have none.
-/

namespace Custodian.Agent

open FileTree (IsName)
open Custodian.Path (EndsOpen segments)

variable {path path' stem extension : Text}

/-! ### The last part of a path -/

lemma compression_of_name (h : Path.fileName? path = some (stem ++ '.' :: extension)) (stemmed : stem ≠ [])
    (undotted : '.' ∉ extension) : compression path = '.' :: extension := by
  rw [compression, Path.extension?_of_name h stemmed undotted]

lemma compression_congr (h : Path.fileName? path = Path.fileName? path') :
    compression path = compression path' := by
  rw [compression, compression, Path.extension?, Path.extension?, h]

/-- Only a name with a dot behind its first character tells a compression. -/
lemma compression_eq_nil_iff :
    compression path = [] ↔ ∀ part ∈ (segments path).getLast?, part = ['.', '.'] ∨ '.' ∉ part.tail := by
  have hnone : compression path = [] ↔ Path.extension? path = none := by
    rw [compression]
    split <;> simp [*]
  rw [hnone, Path.extension?_eq_none_iff, Path.fileName?_eq]
  rcases (segments path).getLast? with _ | part
  · simp
  · by_cases hpart : part = ['.', '.'] <;> simp [hpart, Option.filter]

/-- A directory in front of a path that has a segment has no influence. -/
lemma compression_append_slash (directory : Text) (h : segments path ≠ []) :
    compression (directory ++ '/' :: path) = compression path := by
  apply compression_congr
  rw [Path.fileName?_eq, Path.fileName?_eq, Path.segments_append_slash,
    List.getLast?_append_of_ne_nil _ h]

/-! ### Stem and extension -/

lemma isName_of_stem (stemmed : stem ≠ []) (whole : '/' ∉ stem) (undivided : '/' ∉ extension)
    (named : stem ++ '.' :: extension ≠ ['.', '.']) : IsName (stem ++ '.' :: extension) where
  busy := by
    obtain ⟨c, stem, rfl⟩ := List.exists_cons_of_ne_nil stemmed
    simp [Path.isIdle]
  named := named
  whole := by simp [whole, undivided]

/-- **The compression of a path** is the extension of its last part that says something. Take a path that ends
in a stem, a dot and an extension, behind a directory or not, and perhaps with more slashes and single dots at
its end: its compression is the dot and the extension. A path has no compression if and only if none of its
parts says something, or the last one that does leads up or has no dot behind its first character. What stands
before that part, dots included, makes no difference. -/
theorem compression_eq_extension :
    (∀ (before stem extension : Text) (idle : List Text), EndsOpen before → stem ≠ [] → '/' ∉ stem →
      '.' ∉ extension → '/' ∉ extension → stem ++ '.' :: extension ≠ ['.', '.'] →
      (∀ part ∈ idle, Path.isIdle part = true) →
      compression (before ++ (stem ++ '.' :: extension) ++ idle.flatMap ('/' :: ·)) = '.' :: extension) ∧
    (∀ path, compression path = [] ↔
      ∀ part ∈ (segments path).getLast?, part = ['.', '.'] ∨ '.' ∉ part.tail) ∧
    ∀ directory path, segments path ≠ [] → compression (directory ++ '/' :: path) = compression path := by
  refine ⟨?_, fun _ => compression_eq_nil_iff, fun directory _ => compression_append_slash directory⟩
  intro before stem extension idle hopen stemmed whole undotted undivided named hidle
  have hname := isName_of_stem stemmed whole undivided named
  refine compression_of_name ?_ stemmed undotted
  rw [Path.fileName?_eq, Path.segments_append_idle hidle, hopen.segments_append hname, List.getLast?_concat]
  simp [Option.filter, named]

theorem compression_eq_extension_archive :
    compression "aips.old/./pkg-0d4e.tar.gz//./" = ".gz" ∧ compression "v1.2/.7z" = [] ∧
      compression "v1.2/pkg.7z" = compression "pkg.7z" := by
  obtain ⟨hextension, hnone, hdirectory⟩ := compression_eq_extension
  refine ⟨?_, ?_, ?_⟩
  · exact hextension "aips.old/./" "pkg-0d4e.tar" "gz" [[], ['.'], []] (.inr rfl) (by decide) (by decide)
      (by decide) (by decide) (by decide) (by decide)
  · exact (hnone "v1.2/.7z").2 (by decide)
  · exact hdirectory "v1.2" "pkg.7z" (by decide)

end Custodian.Agent
