import Custodian.Path.Basic
import Custodian.Proofs.Text.Split
import Mathlib.Data.List.DropRight
import Mathlib.Data.List.Infix

/-!
# The segments of a path

The segments of a path are its parts that say something. Everything about them follows from one equation:
a slash parts the segments before it from those after it (`segments_append_slash`). So slashes at either
end do not matter, and joining paths appends their segments.

* `fileName?_eq`: the name of a path is its last segment, unless that leads up.
* `segments_relative`: relative to a root, a path inside it has the segments that follow those of the root.
* `components_join_relative`: joined with the root again, it has the components that it had.
-/

namespace Custodian.Path

/-- The parts of a path that say something. -/
def segments (path : Text) : List Text :=
  (Text.splitOn '/' path).filter (!isIdle ·)

@[simp]
lemma segments_nil : segments [] = [] := rfl

/-- A slash parts the segments before it from those after it. -/
lemma segments_append_slash (a b : Text) : segments (a ++ '/' :: b) = segments a ++ segments b := by
  rw [segments, Text.splitOn_append, List.filter_append, segments, segments]

@[simp]
lemma segments_cons_slash (path : Text) : segments ('/' :: path) = segments path :=
  segments_append_slash [] path

@[simp]
lemma segments_concat_slash (path : Text) : segments (path ++ ['/']) = segments path := by
  rw [segments_append_slash, segments_nil, List.append_nil]

lemma segments_of_not_mem {part : Text} (whole : '/' ∉ part) :
    segments part = [part].filter (!isIdle ·) := by
  rw [segments, Text.splitOn_of_not_mem whole]

/-! ### Parts at the end that say nothing -/

lemma segments_of_isIdle {part : Text} (h : isIdle part = true) : segments part = [] := by
  rcases (by simpa [isIdle] using h : part = [] ∨ part = ['.']) with rfl | rfl <;> rfl

lemma segments_append_idle {idle : List Text} (h : ∀ part ∈ idle, isIdle part = true) (path : Text) :
    segments (path ++ idle.flatMap ('/' :: ·)) = segments path := by
  induction idle generalizing path with
  | nil => rw [List.flatMap_nil, List.append_nil]
  | cons part idle ih =>
    rw [List.flatMap_cons, ← List.append_assoc, ih fun p hp => h p (List.mem_cons_of_mem _ hp),
      segments_append_slash, segments_of_isIdle (h part List.mem_cons_self), List.append_nil]

/-! ### Slashes at the ends -/

section Trim

variable {p : Char → Bool} (slash : ∀ c, p c = true → c = '/')

include slash

lemma segments_trimStart (path : Text) : segments (Text.trimStart p path) = segments path := by
  unfold Text.trimStart
  induction path with
  | nil => rfl
  | cons c path ih =>
    by_cases hc : p c = true
    · rw [List.dropWhile_cons_of_pos hc, ih, slash c hc, segments_cons_slash]
    · rw [List.dropWhile_cons_of_neg hc]

lemma segments_trimEnd (path : Text) : segments (Text.trimEnd p path) = segments path := by
  induction path using List.reverseRecOn with
  | nil => rfl
  | append_singleton path c ih =>
    by_cases hc : p c = true
    · have htrim : Text.trimEnd p (path ++ [c]) = Text.trimEnd p path := by
        simp [Text.trimEnd, hc]
      rw [htrim, ih, slash c hc, segments_concat_slash]
    · have htrim : Text.trimEnd p (path ++ [c]) = path ++ [c] := by
        simp [Text.trimEnd, hc]
      rw [htrim]

lemma segments_trim (path : Text) : segments (Text.trim p path) = segments path := by
  rw [Text.trim, segments_trimEnd slash, segments_trimStart slash]

end Trim

/-! ### Joining -/

lemma exists_of_isAbsolute {path : Text} (h : isAbsolute path = true) : ∃ rest, path = '/' :: rest := by
  cases path with
  | nil => cases h
  | cons c rest => exact ⟨rest, by simpa [isAbsolute] using h⟩

lemma segments_join {base path : Text} (inner : isAbsolute path = false) :
    segments (join base path) = segments base ++ segments path := by
  rw [join, inner]
  by_cases hend : base = [] ∨ base.getLast? = some '/'
  · rw [if_neg Bool.false_ne_true, if_pos (by simpa using hend)]
    rcases hend with rfl | hend
    · rfl
    · obtain ⟨base, rfl⟩ := List.getLast?_eq_some_iff.1 hend
      rw [List.append_assoc, List.singleton_append, segments_append_slash, segments_concat_slash]
  · rw [if_neg Bool.false_ne_true, if_neg (by simpa using hend), segments_append_slash]

lemma isAbsolute_join {base path : Text} (inner : isAbsolute path = false)
    (absolute : isAbsolute base = true) : isAbsolute (join base path) = true := by
  obtain ⟨rest, rfl⟩ := exists_of_isAbsolute absolute
  rw [join, inner, if_neg Bool.false_ne_true]
  split <;> rfl

lemma segments_joinParts {parts : List Text} (whole : ∀ part ∈ parts, '/' ∉ part) :
    segments (joinParts parts) = parts.filter (!isIdle ·) := by
  induction parts with
  | nil => rfl
  | cons part parts ih =>
    have hpart := segments_of_not_mem (whole part List.mem_cons_self)
    cases parts with
    | nil => simpa [joinParts, Text.join, List.intercalate] using hpart
    | cons next parts =>
      have hjoin : joinParts (part :: next :: parts) = part ++ '/' :: joinParts (next :: parts) := by
        simp [joinParts, Text.join, List.intercalate]
      rw [hjoin, segments_append_slash, hpart, ih fun p hp => whole p (List.mem_cons_of_mem _ hp),
        ← List.filter_append, List.singleton_append]

/-! ### Components -/

lemma Component.ofPart_injective : Function.Injective Component.ofPart := by
  intro a b h
  unfold ofPart at h
  split at h <;> split at h
  · next ha hb => rw [ha, hb]
  · cases h
  · cases h
  · cases h
    rfl

lemma components_of_isAbsolute {path : Text} (h : isAbsolute path = true) :
    components path = .root :: (segments path).map .ofPart := by
  obtain ⟨rest, rfl⟩ := exists_of_isAbsolute h
  rw [segments_cons_slash]
  rfl

lemma Component.ofPart_ne_root (part : Text) : Component.ofPart part ≠ .root := by
  unfold ofPart
  split <;> nofun

lemma isAbsolute_of_lead {path : Text} : (split path).1 = .root → isAbsolute path = true := by
  fun_cases split path with
  | case1 rest => exact fun _ => rfl
  | _ => nofun

/-- Only an absolute path has the root among its components. -/
lemma isAbsolute_of_root_mem {path : Text} (h : .root ∈ components path) : isAbsolute path = true := by
  rcases List.mem_append.1 h with hlead | hpart
  · apply isAbsolute_of_lead
    have hroot : .root ∈ (split path).1.components := hlead
    rcases hsplit : (split path).1 <;> simp_all [Lead.components]
  · obtain ⟨part, -, hpart⟩ := List.mem_map.1 hpart
    exact absurd hpart (Component.ofPart_ne_root part)

lemma filter_split (path : Text) : (split path).2.filter (!isIdle ·) = segments path := by
  fun_cases split path with
  | case1 rest => exact (segments_cons_slash rest).symm
  | _ => rfl

/-- The components of a path are its segments behind how it begins. -/
lemma components_eq (path : Text) :
    components path = (split path).1.components ++ (segments path).map .ofPart := by
  rw [← filter_split]
  rfl

/-- The name of a path is its last segment, unless that leads up. -/
lemma fileName?_eq (path : Text) :
    fileName? path = (segments path).getLast?.filter (· ≠ ['.', '.']) := by
  rw [fileName?, components_eq]
  rcases List.eq_nil_or_concat (segments path) with hnil | ⟨parts, part, hconcat⟩
  · rw [hnil]
    rcases (split path).1 <;> rfl
  · rw [List.concat_eq_append] at hconcat
    rw [hconcat, List.map_append, ← List.append_assoc, List.map_singleton, List.getLast?_concat,
      List.getLast?_concat, Component.ofPart]
    by_cases hpart : part = ['.', '.'] <;> simp [hpart, Option.filter]

/-! ### Inside a directory -/

lemma afterComponents?_eq_some_iff {base path rest : List Component} :
    afterComponents? base path = some rest ↔ path = base ++ rest := by
  induction base generalizing path with
  | nil => simp [afterComponents?]
  | cons a base ih =>
    cases path with
    | nil => simp [afterComponents?]
    | cons b path => by_cases h : a = b <;> simp [afterComponents?, h, ih, eq_comm]

lemma filter_dropIdleEnd (parts : List Text) :
    (dropIdleEnd parts).filter (!isIdle ·) = parts.filter (!isIdle ·) := by
  induction parts using List.reverseRecOn with
  | nil => rfl
  | append_singleton parts part ih =>
    by_cases hpart : isIdle part = true
    · have hdrop : dropIdleEnd (parts ++ [part]) = dropIdleEnd parts := by simp [dropIdleEnd, hpart]
      rw [hdrop, ih]
      simp [hpart]
    · have hdrop : dropIdleEnd (parts ++ [part]) = parts ++ [part] := by simp [dropIdleEnd, hpart]
      rw [hdrop]

lemma filter_dropParts (count : Nat) (parts : List Text) :
    (dropParts count parts).filter (!isIdle ·) = (parts.filter (!isIdle ·)).drop count := by
  fun_induction dropParts count parts with
  | case1 count => simp
  | case2 part parts hidle ih => simp [hidle, ih]
  | case3 part parts hidle => rfl
  | case4 count part parts hidle ih => simp [hidle, ih]
  | case5 count part parts hidle ih => simp [hidle, ih]

lemma dropIdleEnd_isPrefix (parts : List Text) : dropIdleEnd parts <+: parts :=
  List.rdropWhile_prefix isIdle parts

lemma dropParts_suffix (count : Nat) (parts : List Text) : dropParts count parts <:+ parts := by
  fun_induction dropParts count parts with
  | case1 count => exact List.suffix_rfl
  | case2 part parts hidle ih => exact ih.trans (List.suffix_cons _ _)
  | case3 part parts hidle => exact List.suffix_rfl
  | case4 count part parts hidle ih => exact ih.trans (List.suffix_cons _ _)
  | case5 count part parts hidle ih => exact ih.trans (List.suffix_cons _ _)

lemma busy_of_head?_dropParts {count : Nat} {parts : List Text} {part : Text} :
    (dropParts count parts).head? = some part → isIdle part = false := by
  fun_induction dropParts count parts with
  | case1 count => nofun
  | case2 first parts hidle ih => exact ih
  | case3 first parts hidle =>
    rintro ⟨⟩
    simpa using hidle
  | case4 count first parts hidle ih => exact ih
  | case5 count first parts hidle ih => exact ih

/-- A path whose first part says something begins with no slash. -/
lemma isAbsolute_joinParts {parts : List Text} (whole : ∀ part ∈ parts, '/' ∉ part)
    (busy : ∀ part, parts.head? = some part → isIdle part = false) :
    isAbsolute (joinParts parts) = false := by
  rcases parts with _ | ⟨_ | ⟨c, part⟩, parts⟩
  · rfl
  · have hidle := busy [] rfl
    cases hidle
  · have hc : c ≠ '/' := by
      rintro rfl
      exact whole _ List.mem_cons_self List.mem_cons_self
    cases parts <;> simp [joinParts, Text.join, List.intercalate, isAbsolute, hc]

section Relative

variable {root path : Text} (absolute : isAbsolute root = true)
  (below : components root <+: components path)

include absolute below

/-- What a path inside a root is relative to it, in terms of its parts. -/
lemma relative_eq : ∃ rest, path = '/' :: rest ∧ segments root <+: segments path ∧
    relative root path =
      joinParts (dropIdleEnd (dropParts (segments root).length (Text.splitOn '/' rest))) := by
  have hroot := components_of_isAbsolute absolute
  have hpath : isAbsolute path = true := by
    apply isAbsolute_of_root_mem
    apply below.subset
    rw [hroot]
    exact List.mem_cons_self
  have hbegins : segments root <+: segments path := by
    rw [hroot, components_of_isAbsolute hpath, List.cons_prefix_cons] at below
    exact (List.prefix_map_iff_of_injective Component.ofPart_injective).1 below.2
  obtain ⟨after, hafter⟩ := below
  have hinside : afterComponents? (components root) (components path) = some after :=
    afterComponents?_eq_some_iff.2 hafter.symm
  obtain ⟨rest, rfl⟩ := exists_of_isAbsolute hpath
  refine ⟨rest, rfl, hbegins, ?_⟩
  unfold relative inside?
  rw [hinside, hroot]
  simp [split, Lead.components]

lemma isAbsolute_relative : isAbsolute (relative root path) = false := by
  obtain ⟨rest, rfl, -, heq⟩ := relative_eq absolute below
  rw [heq]
  have hbegins := dropIdleEnd_isPrefix (dropParts (segments root).length (Text.splitOn '/' rest))
  apply isAbsolute_joinParts
  · intro part hpart
    exact Text.not_mem_of_mem_splitOn ((dropParts_suffix _ _).subset (hbegins.subset hpart))
  · intro part hpart
    obtain ⟨more, hmore⟩ := hbegins
    have hhead : (dropParts (segments root).length (Text.splitOn '/' rest)).head? = some part := by
      rw [← hmore, List.head?_append, hpart, Option.some_or]
    exact busy_of_head?_dropParts hhead

/-- **A path inside a root**, relative to it, has the segments that follow those of the root. -/
theorem segments_relative : segments path = segments root ++ segments (relative root path) := by
  obtain ⟨rest, rfl, ⟨after, hafter⟩, heq⟩ := relative_eq absolute below
  have hwhole : ∀ part ∈ dropIdleEnd (dropParts (segments root).length (Text.splitOn '/' rest)),
      '/' ∉ part := by
    intro part hpart
    apply Text.not_mem_of_mem_splitOn (t := rest)
    exact (dropParts_suffix _ _).subset ((dropIdleEnd_isPrefix _).subset hpart)
  have hrest : segments (relative root ('/' :: rest)) = after := by
    have hsegments : (Text.splitOn '/' rest).filter (!isIdle ·) = segments root ++ after := by
      rw [hafter, segments_cons_slash, segments]
    rw [heq, segments_joinParts hwhole, filter_dropIdleEnd, filter_dropParts, hsegments,
      List.drop_left]
  rw [hrest, hafter]

/-- **A path inside a root**, relative to it and joined with it again, has the components that it had. -/
theorem components_join_relative : components (join root (relative root path)) = components path := by
  have hinner := isAbsolute_relative absolute below
  obtain ⟨rest, hpath, -⟩ := relative_eq absolute below
  have hpath : isAbsolute path = true := by rw [hpath]; rfl
  rw [components_of_isAbsolute (isAbsolute_join hinner absolute), segments_join hinner,
    ← segments_relative absolute below, components_of_isAbsolute hpath]

end Relative

end Custodian.Path
