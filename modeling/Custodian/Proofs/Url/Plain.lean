import Custodian.Proofs.Text.Utf8
import Custodian.Proofs.Url.Wire

/-!
# Texts that a URL addresses

A URL addresses a text under a route if what is sent for it is the route and then something that stands for
the bytes of the text. A URL that ends in a text as it is addresses it exactly if the text is plain
(`addresses_iff`). Two texts that are addressed have different targets (`Addresses.apart`).
-/

namespace Custodian.Url

open scoped List

/-- A text without anything that a URL gives a meaning to: the marks of a query or fragment, backslashes,
characters that are dropped, escapes and segments of dots. -/
structure IsPlain (t : Text) : Prop where
  unmarked : ∀ c ∈ t, c ≠ '#' ∧ c ≠ '?' ∧ c ≠ '\\' ∧ isDropped c = false
  ended : ∀ c ∈ t.getLast?, isOuter c = false
  literal : hasEscape t = false
  undotted : ∀ part ∈ Text.splitOn '/' t, part ≠ ['.'] ∧ part ≠ ['.', '.']

instance (t : Text) : Decidable (IsPlain t) :=
  decidable_of_iff (t.all (fun c => c ≠ '#' ∧ c ≠ '?' ∧ c ≠ '\\' ∧ isDropped c = false) = true ∧
      t.getLast?.any isOuter = false ∧ hasEscape t = false ∧
      (Text.splitOn '/' t).all (fun part => part ≠ ['.'] ∧ part ≠ ['.', '.']) = true)
    ⟨fun ⟨unmarked, ended, literal, undotted⟩ =>
        ⟨by simpa using unmarked, (Option.any_eq_false _ _).1 ended, literal, by simpa using undotted⟩,
      fun ⟨unmarked, ended, literal, undotted⟩ =>
        ⟨by simpa using unmarked, (Option.any_eq_false _ _).2 ended, literal, by simpa using undotted⟩⟩

/-- What is sent for a URL names a text under a route, and nothing else. -/
def Addresses (names : List Text) (url t : Text) : Prop :=
  ∃ w rest, wire? url = some w ∧ w.query = none ∧ w.target = route names ++ rest ∧
    unescape rest = Utf8.encode t

/-- What is sent for two URLs leads along a route to two different targets. -/
def Apart (names : List Text) (url url' : Text) : Prop :=
  ∃ w w' rest rest', wire? url = some w ∧ wire? url' = some w' ∧ w.target = route names ++ rest ∧
    w'.target = route names ++ rest' ∧ rest ≠ rest'

/-! ### Sizes -/

lemma size_slashed (t : Text) : Utf8.size (slashed t) = Utf8.size t := by
  induction t with
  | nil => rfl
  | cons c t ih =>
    have hc : (Utf8.encodeChar (if c = '\\' then '/' else c)).length = (Utf8.encodeChar c).length := by
      split
      · next h => rw [h]; rfl
      · rfl
    rw [slashed, List.map_cons, Utf8.size_cons, Utf8.size_cons, hc]
    exact congrArg _ ih

lemma size_splitOn (t : Text) : size (Text.splitOn '/' t) = Utf8.size t + 1 := by
  induction t with
  | nil => rfl
  | cons c t ih =>
    rw [Text.splitOn, Utf8.size_cons]
    by_cases hc : c = '/'
    · have hslash : (Utf8.encodeChar '/').length = 1 := rfl
      have hnil : Utf8.size [] = 0 := rfl
      rw [if_pos hc, size_cons_part, ih, hc, hslash, hnil]
      omega
    · obtain ⟨piece, pieces, hs⟩ := List.exists_cons_of_ne_nil (Text.splitOn_ne_nil '/' t)
      rw [hs, size_cons_part] at ih
      rw [if_neg hc, hs]
      dsimp only
      rw [size_cons_part, Utf8.size_cons]
      omega

/-- A part of a text has no more bytes than the text, and as many only if it is all of it. -/
lemma size_le_of_sublist {s t : Text} (h : s <+ t) :
    Utf8.size s ≤ Utf8.size t ∧ (Utf8.size s = Utf8.size t → s = t) := by
  induction h with
  | slnil => exact ⟨le_rfl, fun _ => rfl⟩
  | cons c h ih =>
    have hc := Utf8.length_encodeChar_pos c
    rw [Utf8.size_cons]
    exact ⟨by omega, fun heq => by omega⟩
  | cons_cons c h ih =>
    rw [Utf8.size_cons, Utf8.size_cons]
    exact ⟨by omega, fun heq => by rw [ih.2 (by omega)]⟩

/-! ### What is shown -/

lemma shown_sublist (t : Text) : shown t <+ Text.trimEnd isOuter t :=
  List.filter_sublist

lemma shownPath_sublist_shown (t : Text) : shownPath t <+ shown t :=
  (List.takeWhile_sublist _).trans (List.takeWhile_sublist _)

lemma trimEnd_sublist (p : Char → Bool) (t : Text) : Text.trimEnd p t <+ t :=
  (List.rdropWhile_prefix p t).sublist

lemma shownPath_sublist (t : Text) : shownPath t <+ t :=
  (shownPath_sublist_shown t).trans ((shown_sublist t).trans (trimEnd_sublist _ t))

/-- A text of which everything is shown has no marks and is not cut at its end. -/
lemma of_shownPath_eq {t : Text} (h : shownPath t = t) :
    (∀ c ∈ t, c ≠ '#' ∧ c ≠ '?' ∧ isDropped c = false) ∧ ∀ c ∈ t.getLast?, isOuter c = false := by
  refine ⟨?_, ?_⟩
  · intro c hc
    rw [← h] at hc
    have hquestion := List.mem_takeWhile_imp hc
    have hc := (List.takeWhile_sublist _).subset hc
    have hhash := List.mem_takeWhile_imp hc
    have hdropped := (List.mem_filter.1 ((List.takeWhile_sublist _).subset hc)).2
    simp only [decide_eq_true_eq, Bool.not_eq_true'] at hquestion hhash hdropped
    exact ⟨hhash, hquestion, hdropped⟩
  · have hsub : t <+ Text.trimEnd isOuter t := by
      have hshown := (shownPath_sublist_shown t).trans (shown_sublist t)
      rwa [h] at hshown
    have htrim : Text.trimEnd isOuter t = t := (trimEnd_sublist _ t).antisymm hsub
    intro c hc
    obtain ⟨hne, rfl⟩ := List.mem_getLast?_eq_getLast hc
    have hlast := List.rdropWhile_eq_self_iff.1 htrim hne
    simpa using hlast

/-- A text without marks that is not cut at its end is shown as it is. -/
lemma shownPath_of_unmarked {t : Text} (unmarked : ∀ c ∈ t, c ≠ '#' ∧ c ≠ '?' ∧ isDropped c = false)
    (ended : ∀ c ∈ t.getLast?, isOuter c = false) : shownPath t = t ∧ shownQuery t = none := by
  have htrim : Text.trimEnd isOuter t = t := by
    apply List.rdropWhile_eq_self_iff.2
    intro hne
    have hlast := ended (t.getLast hne) (List.getLast_mem_getLast? hne)
    simp [hlast]
  have hshown : shown t = t := by
    rw [shown, htrim]
    exact List.filter_eq_self.2 fun c hc => by simp [(unmarked c hc).2.2]
  have hhash : (shown t).takeWhile (· ≠ '#') = t := by
    rw [hshown]
    exact List.takeWhile_eq_self_iff.2 fun c hc => by simp [(unmarked c hc).1]
  have hquestion : ∀ c ∈ t, decide (c ≠ '?') = true := fun c hc => by simp [(unmarked c hc).2.1]
  refine ⟨?_, ?_⟩
  · rw [shownPath, hhash]
    exact List.takeWhile_eq_self_iff.2 hquestion
  · rw [shownQuery, hhash, List.dropWhile_eq_nil_iff.2 hquestion]
    rfl

lemma shownPath_of_isPlain {t : Text} (h : IsPlain t) : shownPath t = t ∧ shownQuery t = none :=
  shownPath_of_unmarked (fun c hc => ⟨(h.unmarked c hc).1, (h.unmarked c hc).2.1, (h.unmarked c hc).2.2.2⟩) h.ended

/-! ### Pieces -/

lemma hasEscape_append_slash (s t : Text) :
    hasEscape (s ++ '/' :: t) = (hasEscape s || hasEscape t) := by
  induction s with
  | nil => simp [hasEscape, isEscape_of_ne]
  | cons c s ih =>
    have hc : isEscape (c :: (s ++ '/' :: t)) = isEscape (c :: s) := isEscape_append_slash (c :: s) t
    rw [List.cons_append, hasEscape, hasEscape, hc, ih, Bool.or_assoc]

lemma hasEscape_join {parts : List Text} (h : hasEscape (Text.join ['/'] parts) = false) :
    ∀ part ∈ parts, hasEscape part = false := by
  induction parts with
  | nil => simp
  | cons part parts ih =>
    rcases parts.eq_nil_or_concat with rfl | ⟨init, last, hparts⟩
    · simpa using h
    · rw [join_cons (by simp [hparts]), hasEscape_append_slash, Bool.or_eq_false_iff] at h
      exact List.forall_mem_cons.2 ⟨h.1, ih h.2⟩

lemma hasEscape_of_mem_splitOn {t part : Text} (h : hasEscape t = false)
    (hpart : part ∈ Text.splitOn '/' t) : hasEscape part = false := by
  rw [← Text.join_splitOn '/' t] at h
  exact hasEscape_join h part hpart

lemma escapePath_append_slash (s t : Text) :
    escapePath (s ++ '/' :: t) = escapePath s ++ '/' :: escapePath t := by
  have hslash : isUnsafeInPath '/' = false := by decide
  simp [escapePath, escape, hslash]

lemma join_map_escapePath (parts : List Text) :
    Text.join ['/'] (parts.map escapePath) = escapePath (Text.join ['/'] parts) := by
  induction parts with
  | nil => rfl
  | cons part parts ih =>
    rcases parts.eq_nil_or_concat with rfl | ⟨init, last, hparts⟩
    · simp
    · rw [List.map_cons, join_cons (by simp [hparts]), join_cons (by simp [hparts]), ih,
        escapePath_append_slash]

/-- Under a route, a path without segments of dots is escaped, and that is all. -/
lemma pathText_resolve_of_undotted {t : Text} (h : ∀ part ∈ Text.splitOn '/' t, isDots part = false)
    (names : List Text) :
    pathText (resolve names (Text.splitOn '/' t)) = route names ++ escapePath t := by
  rw [resolve_of_undotted h, pathText_append names (by simp [Text.splitOn_ne_nil]),
    join_map_escapePath, Text.join_splitOn]

/-! ### What takes bytes away -/

/-- If the bytes of a text arrive under a route, all of the text is shown, and there are no segments of
dots in it: either would have cost some of them. -/
lemma undotted_of_resolve {names : List Text} {t rest : Text}
    (hpath : pathText (resolve names (Text.splitOn '/' (slashed (shownPath t)))) = route names ++ rest)
    (hrest : unescape rest = Utf8.encode t) :
    shownPath t = t ∧ ∀ part ∈ Text.splitOn '/' (slashed t), isDots part = false := by
  have hne := Text.splitOn_ne_nil '/' (slashed (shownPath t))
  have hweight : weight (resolve names (Text.splitOn '/' (slashed (shownPath t)))) =
      weight names + (Utf8.size t + 1) := by
    rw [← length_unescape_pathText (resolve_ne_nil hne names), hpath, route_append,
      length_unescape_pathText (by simp), weight_append, weight_cons, weight_nil, hrest, Utf8.size]
  have hlost := weight_resolve names (Text.splitOn '/' (slashed (shownPath t)))
  rw [hweight, size_splitOn, size_slashed] at hlost
  obtain ⟨hle, hall⟩ := size_le_of_sublist (shownPath_sublist t)
  have hshown : shownPath t = t := hall (by omega)
  refine ⟨hshown, ?_⟩
  have hcount : (Text.splitOn '/' (slashed t)).countP isDots = 0 := by
    rw [hshown] at hlost
    omega
  intro part hpart
  simpa using List.countP_eq_zero.1 hcount part hpart

/-- If a path stands for the bytes of a text, there are no backslashes and no escapes in the text. -/
lemma literal_of_unescape {t : Text} (h : unescape (escapePath (slashed t)) = Utf8.encode t) :
    slashed t = t ∧ hasEscape t = false := by
  have hliteral : hasEscape (slashed t) = false := by
    by_contra hescape
    have hlt := length_unescape_escapePath_lt (by simpa using hescape)
    rw [h, size_slashed, Utf8.size] at hlt
    exact lt_irrefl _ hlt
  have hslashed : slashed t = t := by
    apply Utf8.encode_injective
    rw [← unescape_escapePath hliteral, h]
  rw [hslashed] at hliteral
  exact ⟨hslashed, hliteral⟩

lemma ne_backslash_of_slashed_eq {t : Text} (h : slashed t = t) {c : Char} (hc : c ∈ t) : c ≠ '\\' := by
  rw [← h] at hc
  obtain ⟨d, -, rfl⟩ := List.mem_map.1 hc
  split
  · decide
  · next hd => exact hd

/-! ### Plain texts are addressed -/

section Addresses

variable {base : Text} (hbase : IsBase base) {names : List Text} (hnames : AreNames names)

include hbase hnames

lemma IsPlain.addresses {t : Text} (h : IsPlain t) : Addresses names (base ++ route names ++ t) t := by
  obtain ⟨scheme, host, port, hwire⟩ := wire?_under hbase
  obtain ⟨hpath, hquery⟩ := shownPath_of_isPlain h
  have hslashed : slashed t = t := slashed_of_not_mem fun hmem => (h.unmarked _ hmem).2.2.1 rfl
  have hdots : ∀ part ∈ Text.splitOn '/' t, isDots part = false := by
    intro part hpart
    obtain ⟨hsingle, hdouble⟩ := h.undotted part hpart
    by_contra hdots
    rcases (isDots_iff (hasEscape_of_mem_splitOn h.literal hpart)).1 (by simpa using hdots) with hd | hd
    · exact hsingle hd
    · exact hdouble hd
  refine ⟨_, escapePath t, hwire hnames t, hquery, ?_, unescape_escapePath h.literal⟩
  have htarget := pathText_resolve_of_undotted hdots names
  rw [Wire.target, hquery, hpath, hslashed, List.append_nil]
  exact htarget

/-- Nothing but a plain text is addressed. -/
lemma Addresses.isPlain {t : Text} (h : Addresses names (base ++ route names ++ t) t) : IsPlain t := by
  obtain ⟨scheme, host, port, hwire⟩ := wire?_under hbase
  obtain ⟨w, rest, hw, hquery, htarget, hrest⟩ := h
  obtain rfl := Option.some.inj ((hwire hnames t).symm.trans hw)
  have hpath : pathText (resolve names (Text.splitOn '/' (slashed (shownPath t)))) = route names ++ rest := by
    rw [Wire.target, hquery, List.append_nil] at htarget
    exact htarget
  obtain ⟨hshown, hdots⟩ := undotted_of_resolve hpath hrest
  have hescaped : rest = escapePath (slashed t) := by
    rw [hshown, pathText_resolve_of_undotted hdots] at hpath
    exact (List.append_cancel_left hpath).symm
  obtain ⟨hslashed, hliteral⟩ := literal_of_unescape (hescaped ▸ hrest)
  rw [hslashed] at hdots
  obtain ⟨hmarks, hended⟩ := of_shownPath_eq hshown
  refine ⟨?_, hended, hliteral, ?_⟩
  · intro c hc
    obtain ⟨hhash, hquestion, hdropped⟩ := hmarks c hc
    exact ⟨hhash, hquestion, ne_backslash_of_slashed_eq hslashed hc, hdropped⟩
  · intro part hpart
    refine ⟨?_, ?_⟩
    · rintro rfl
      exact absurd (hdots _ hpart) (by decide)
    · rintro rfl
      exact absurd (hdots _ hpart) (by decide)

/-- **A URL that ends in a text** addresses it exactly if the text is plain. -/
theorem addresses_iff (t : Text) : Addresses names (base ++ route names ++ t) t ↔ IsPlain t :=
  ⟨fun h => h.isPlain hbase hnames, fun h => h.addresses hbase hnames⟩

end Addresses

/-- **Two texts that are addressed** have different targets along the route. -/
theorem Addresses.apart {names : List Text} {url url' t t' : Text} (h : Addresses names url t)
    (h' : Addresses names url' t') (hne : t ≠ t') : Apart names url url' := by
  obtain ⟨w, rest, hw, -, htarget, hrest⟩ := h
  obtain ⟨w', rest', hw', -, htarget', hrest'⟩ := h'
  refine ⟨w, w', rest, rest', hw, hw', htarget, htarget', ?_⟩
  intro hsame
  apply hne
  apply Utf8.encode_injective
  rw [← hrest, ← hrest', hsame]

end Custodian.Url
