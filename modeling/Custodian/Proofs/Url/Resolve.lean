import Custodian.Proofs.Text.Split
import Custodian.Proofs.Url.Decode

/-!
# Dot segments

Below a route, segments that are no dots are escaped and stay (`resolve_of_undotted`). Each segment of
dots makes the path lose bytes (`weight_resolve`), whatever it takes away with it.
-/

namespace Custodian.Url

/-- The text of a path on the wire. -/
def pathText (parts : List Text) : Text :=
  '/' :: Text.join ['/'] parts

/-- Whether a segment stands for another place than its name. -/
def isDots (part : Text) : Bool :=
  isSingleDot part || isDoubleDot part

lemma join_cons {part : Text} {parts : List Text} (h : parts ≠ []) :
    Text.join ['/'] (part :: parts) = part ++ '/' :: Text.join ['/'] parts := by
  obtain ⟨next, parts, rfl⟩ := List.exists_cons_of_ne_nil h
  simp [Text.join, List.intercalate]

@[simp]
lemma join_singleton (part : Text) : Text.join ['/'] [part] = part := by
  simp [Text.join, List.intercalate]

/-! ### Resolving -/

lemma resolve_ne_nil {parts : List Text} (h : parts ≠ []) (done : List Text) : resolve done parts ≠ [] := by
  fun_induction resolve done parts with
  | case1 => exact absurd rfl h
  | case2 done part hdouble => simp
  | case3 done part hdouble hsingle => simp
  | case4 done part hdouble hsingle => simp
  | case5 done part parts hne hdouble ih => exact ih hne
  | case6 done part parts hne hdouble hsingle ih => exact ih hne
  | case7 done part parts hne hdouble hsingle ih => exact ih hne

/-- Segments that are no dots are escaped, and that is all. -/
lemma resolve_of_undotted {parts : List Text} (h : ∀ part ∈ parts, isDots part = false)
    (done : List Text) : resolve done parts = done ++ parts.map escapePath := by
  have hno : ∀ part ∈ parts, isSingleDot part = false ∧ isDoubleDot part = false := by
    simpa [isDots] using h
  fun_induction resolve done parts with
  | case1 done => simp
  | case2 done part hdouble => simp [hno part] at hdouble
  | case3 done part hdouble hsingle => simp [hno part] at hsingle
  | case4 done part hdouble hsingle => rfl
  | case5 done part parts hne hdouble ih => simp [hno part] at hdouble
  | case6 done part parts hne hdouble hsingle ih => simp [hno part] at hsingle
  | case7 done part parts hne hdouble hsingle ih =>
    have hparts : ∀ next ∈ parts, next ∈ part :: parts := fun _ => List.mem_cons_of_mem _
    rw [ih (fun next hnext => h next (hparts next hnext)) fun next hnext => hno next (hparts next hnext),
      List.append_assoc]
    rfl

/-! ### How much is left -/

/-- How many bytes some segments stand for on the wire, each with a slash. -/
def weight : List Text → Nat
  | [] => 0
  | part :: parts => (unescape part).length + 1 + weight parts

/-- How many bytes some segments have, each with a slash. -/
def size : List Text → Nat
  | [] => 0
  | part :: parts => Utf8.size part + 1 + size parts

@[simp]
lemma weight_nil : weight [] = 0 := rfl

@[simp]
lemma weight_cons (part : Text) (parts : List Text) :
    weight (part :: parts) = (unescape part).length + 1 + weight parts := rfl

@[simp]
lemma weight_append (parts more : List Text) : weight (parts ++ more) = weight parts + weight more := by
  induction parts with
  | nil => simp
  | cons part parts ih => simp [ih, Nat.add_assoc]

lemma weight_dropLast_le (parts : List Text) : weight parts.dropLast ≤ weight parts := by
  rcases List.eq_nil_or_concat parts with rfl | ⟨init, last, rfl⟩
  · exact le_rfl
  · rw [List.concat_eq_append, List.dropLast_concat, weight_append]
    exact Nat.le_add_right _ _

@[simp]
lemma size_nil : size [] = 0 := rfl

@[simp]
lemma size_cons_part (part : Text) (parts : List Text) :
    size (part :: parts) = Utf8.size part + 1 + size parts := rfl

lemma length_unescape_join {parts : List Text} (h : parts ≠ []) :
    (unescape (Text.join ['/'] parts)).length + 1 = weight parts := by
  induction parts with
  | nil => exact absurd rfl h
  | cons part parts ih =>
    rcases parts.eq_nil_or_concat with rfl | ⟨init, last, hparts⟩
    · simp
    · have hne : parts ≠ [] := by simp [hparts]
      have hslash : (Utf8.encodeChar '/').length = 1 := rfl
      rw [join_cons hne, unescape_append_slash, weight_cons, ← ih hne, List.length_append,
        List.length_append, hslash]
      omega

/-- A path stands for as many bytes as its segments, each with a slash. -/
lemma length_unescape_pathText {parts : List Text} (h : parts ≠ []) :
    (unescape (pathText parts)).length = weight parts := by
  have hslash : (Utf8.encodeChar '/').length = 1 := rfl
  rw [pathText, unescape_cons (isEscape_of_ne (by decide) _), List.length_append, hslash,
    ← length_unescape_join h, Nat.add_comm]

lemma size_pos_of_isDots {part : Text} (h : isDots part = true) : 0 < Utf8.size part := by
  rcases part with _ | ⟨c, part⟩
  · cases h
  · have hc := Utf8.length_encodeChar_pos c
    rw [Utf8.size_cons]
    omega

/-- **Segments of dots lose bytes**, at least one each. -/
lemma weight_resolve (done parts : List Text) :
    weight (resolve done parts) + parts.countP isDots ≤ weight done + size parts := by
  fun_induction resolve done parts with
  | case1 done => simp
  | case2 done part hdouble =>
    have hdots : isDots part = true := by simp [isDots, hdouble]
    have hpos := size_pos_of_isDots hdots
    have hdrop := weight_dropLast_le done
    simp only [weight_append, weight_cons, weight_nil, unescape_nil, List.length_nil, size_cons_part,
      size_nil, List.countP_cons_of_pos hdots, List.countP_nil]
    omega
  | case3 done part hdouble hsingle =>
    have hdots : isDots part = true := by simp [isDots, hsingle]
    have hpos := size_pos_of_isDots hdots
    simp only [weight_append, weight_cons, weight_nil, unescape_nil, List.length_nil, size_cons_part,
      size_nil, List.countP_cons_of_pos hdots, List.countP_nil]
    omega
  | case4 done part hdouble hsingle =>
    have hdots : ¬isDots part = true := by simp [isDots, hdouble, hsingle]
    have hle : (unescape (escape isUnsafeInPath part)).length ≤ Utf8.size part :=
      length_unescape_escapePath_le part
    simp only [weight_append, weight_cons, weight_nil, size_cons_part, size_nil,
      List.countP_cons_of_neg hdots, List.countP_nil]
    omega
  | case5 done part parts hne hdouble ih =>
    have hdots : isDots part = true := by simp [isDots, hdouble]
    have hdrop := weight_dropLast_le done
    rw [size_cons_part, List.countP_cons_of_pos hdots]
    omega
  | case6 done part parts hne hdouble hsingle ih =>
    have hdots : isDots part = true := by simp [isDots, hsingle]
    rw [size_cons_part, List.countP_cons_of_pos hdots]
    omega
  | case7 done part parts hne hdouble hsingle ih =>
    have hdots : ¬isDots part = true := by simp [isDots, hdouble, hsingle]
    have hle : (unescape (escape isUnsafeInPath part)).length ≤ Utf8.size part :=
      length_unescape_escapePath_le part
    have hweight : weight (done ++ [escape isUnsafeInPath part]) =
        weight done + ((unescape (escape isUnsafeInPath part)).length + 1) := by simp
    rw [size_cons_part, List.countP_cons_of_neg hdots]
    omega

end Custodian.Url
