import Custodian.Proofs.Url.Resolve
import Mathlib.Data.List.DropRight

/-!
# URLs under a base

Below a base that is a scheme and a host, a route leads to a path. What is sent for such a URL is the
route and what is shown of the path (`wire?_under`).
-/

namespace Custodian.Url

/-! ### Routes -/

/-- Whether a character may stand in a name of a route. -/
def isNameChar (c : Char) : Bool :=
  ('a' ≤ c && c ≤ 'z') || ('0' ≤ c && c ≤ '9') || c = '-'

/-- Names that lead along a route. -/
def AreNames (names : List Text) : Prop :=
  ∀ name ∈ names, ∀ c ∈ name, isNameChar c = true

instance (names : List Text) : Decidable (AreNames names) :=
  decidable_of_iff (names.all (·.all isNameChar) = true) (by simp [AreNames])

/-- The text of a route: each name after a slash, and a slash. -/
def route (names : List Text) : Text :=
  names.flatMap ('/' :: ·) ++ ['/']

lemma bounds_of_isNameChar {c : Char} (h : isNameChar c = true) : 0x20 < c.toNat ∧ c.toNat < 0x7F := by
  have bounds : ∀ {first last : Char}, first ≤ c ∧ c ≤ last →
      first.toNat ≤ c.toNat ∧ c.toNat ≤ last.toNat := fun h => h
  simp only [isNameChar, Bool.or_eq_true, Bool.and_eq_true, decide_eq_true_eq] at h
  rcases h with (h | h) | rfl
  · exact ⟨lt_of_lt_of_le (by decide) (bounds h).1, lt_of_le_of_lt (bounds h).2 (by decide)⟩
  · exact ⟨lt_of_lt_of_le (by decide) (bounds h).1, lt_of_le_of_lt (bounds h).2 (by decide)⟩
  · decide

lemma ne_of_isNameChar {c d : Char} (h : isNameChar c = true) (hd : isNameChar d = false) : c ≠ d := by
  rintro rfl
  rw [h] at hd
  cases hd

lemma isUnsafeInPath_of_isNameChar {c : Char} (h : isNameChar c = true) : isUnsafeInPath c = false :=
  isUnsafeInPath_of_class h (bounds_of_isNameChar h) (by decide)

lemma pathText_append (names : List Text) {parts : List Text} (h : parts ≠ []) :
    pathText (names ++ parts) = route names ++ Text.join ['/'] parts := by
  induction names with
  | nil => simp [route, pathText]
  | cons name names ih =>
    have hroute : route (name :: names) = '/' :: name ++ route names := by simp [route]
    have hpath : pathText (name :: names ++ parts) = '/' :: name ++ pathText (names ++ parts) := by
      rw [pathText, List.cons_append, join_cons (by simp [h])]
      rfl
    rw [hpath, ih, hroute, List.append_assoc]

lemma route_append (names : List Text) (t : Text) : route names ++ t = pathText (names ++ [t]) := by
  rw [pathText_append names (List.cons_ne_nil _ _), join_singleton]

lemma mem_route {names : List Text} (h : AreNames names) {c : Char} (hc : c ∈ route names) :
    c = '/' ∨ isNameChar c = true := by
  rw [route, List.mem_append, List.mem_flatMap, List.mem_singleton] at hc
  rcases hc with ⟨name, hname, hc⟩ | hc
  · exact (List.mem_cons.1 hc).imp_right (h name hname c)
  · exact .inl hc

lemma ne_of_mem_route {names : List Text} (h : AreNames names) {c d : Char} (hc : c ∈ route names)
    (slash : d ≠ '/') (other : isNameChar d = false) : c ≠ d := by
  rcases mem_route h hc with rfl | hname
  · exact slash.symm
  · exact ne_of_isNameChar hname other

/-! ### Segments under a route -/

lemma splitOn_join_append {names : List Text} (h : AreNames names) (t : Text) :
    Text.splitOn '/' (Text.join ['/'] (names ++ [t])) = names ++ Text.splitOn '/' t := by
  induction names with
  | nil => simp
  | cons name names ih =>
    have hwhole : '/' ∉ name := by
      intro hslash
      have hname := h name List.mem_cons_self '/' hslash
      revert hname
      decide
    rw [List.cons_append, join_cons (by simp), Text.splitOn_append, Text.splitOn_of_not_mem hwhole,
      ih fun next hnext => h next (List.mem_cons_of_mem _ hnext)]
    rfl

lemma escapePath_of_kept {t : Text} (h : ∀ c ∈ t, isUnsafeInPath c = false) : escapePath t = t := by
  induction t with
  | nil => rfl
  | cons c t ih =>
    rw [escapePath_cons_kept (h c List.mem_cons_self), ih fun d hd => h d (List.mem_cons_of_mem _ hd)]

/-- Without escapes, dots are what they are written as. -/
lemma dotForm_of_hasEscape {t : Text} : hasEscape t = false → dotForm t = t := by
  have hdigit : isHex '2' = true := by decide
  have hsmall : isHex 'e' = true := by decide
  have hcapital : isHex 'E' = true := by decide
  fun_induction dotForm t with
  | case1 rest ih => simp [hasEscape, isEscape, hdigit, hsmall]
  | case2 rest ih => simp [hasEscape, isEscape, hdigit, hcapital]
  | case3 c rest notSmall notCapital ih =>
    intro h
    rw [hasEscape, Bool.or_eq_false_iff] at h
    rw [ih h.2]
  | case4 => exact fun _ => rfl

lemma isDots_iff {t : Text} (h : hasEscape t = false) :
    isDots t = true ↔ t = ['.'] ∨ t = ['.', '.'] := by
  simp [isDots, isSingleDot, isDoubleDot, dotForm_of_hasEscape h]

lemma hasEscape_of_not_mem {t : Text} (h : '%' ∉ t) : hasEscape t = false := by
  induction t with
  | nil => rfl
  | cons c t ih =>
    have hc : c ≠ '%' := by
      rintro rfl
      exact h List.mem_cons_self
    rw [hasEscape, isEscape_of_ne hc, ih fun ht => h (List.mem_cons_of_mem _ ht), Bool.false_or]

lemma resolve_cons {part : Text} (undotted : isDots part = false) {parts : List Text} (h : parts ≠ [])
    (done : List Text) : resolve done (part :: parts) = resolve (done ++ [escapePath part]) parts := by
  obtain ⟨next, parts, rfl⟩ := List.exists_cons_of_ne_nil h
  rw [isDots, Bool.or_eq_false_iff] at undotted
  rw [resolve, undotted.1, undotted.2]
  · rfl
  · exact List.cons_ne_nil _ _

/-- The names of a route stay as they are. -/
lemma resolve_names {names : List Text} (h : AreNames names) {parts : List Text} (hne : parts ≠ [])
    (done : List Text) : resolve done (names ++ parts) = resolve (done ++ names) parts := by
  induction names generalizing done with
  | nil => simp
  | cons name names ih =>
    have hname := h name List.mem_cons_self
    have hmem : ∀ d, isNameChar d = false → d ∉ name := fun d hd hmem => ne_of_isNameChar (hname d hmem) hd rfl
    have hescape : escapePath name = name :=
      escapePath_of_kept fun c hc => isUnsafeInPath_of_isNameChar (hname c hc)
    have hdots : isDots name = false := by
      by_contra hdots
      have hdot := hmem '.' (by decide)
      rcases (isDots_iff (hasEscape_of_not_mem (hmem '%' (by decide)))).1 (by simpa using hdots) with rfl | rfl
      · exact hdot List.mem_cons_self
      · exact hdot List.mem_cons_self
    rw [List.cons_append, resolve_cons hdots (by simp [hne]), hescape,
      ih fun next hnext => h next (List.mem_cons_of_mem _ hnext), List.append_assoc]
    rfl

/-- A path with its backslashes turned. -/
def slashed (t : Text) : Text :=
  t.map fun c => if c = '\\' then '/' else c

@[simp]
lemma slashed_append (s t : Text) : slashed (s ++ t) = slashed s ++ slashed t :=
  List.map_append

lemma slashed_of_not_mem {t : Text} (h : '\\' ∉ t) : slashed t = t := by
  refine (List.map_congr_left ?_).trans (List.map_id t)
  intro c hc
  refine if_neg ?_
  rintro rfl
  exact h hc

/-- Under a route, the segments of a path are resolved after the names of the route. -/
lemma segments_route {names : List Text} (h : AreNames names) (t : Text) :
    segments (route names ++ t) = resolve names (Text.splitOn '/' (slashed t)) := by
  have hroute : slashed (route names) = route names := by
    apply slashed_of_not_mem
    intro hmem
    exact ne_of_mem_route h hmem (by decide) (by decide) rfl
  have hdrop : (slashed (route names ++ t)).drop 1 = Text.join ['/'] (names ++ [slashed t]) := by
    rw [slashed_append, hroute, route_append]
    rfl
  have hresolve := resolve_names h (Text.splitOn_ne_nil '/' (slashed t)) []
  rw [segments]
  change resolve [] (Text.splitOn '/' ((slashed (route names ++ t)).drop 1)) = _
  rw [hdrop, splitOn_join_append h, hresolve, List.nil_append]

/-! ### What is shown of a text at the end of a URL -/

/-- A text without the outer characters at its end and the characters that are dropped. -/
def shown (t : Text) : Text :=
  (Text.trimEnd isOuter t).filter (!isDropped ·)

/-- What is shown of a text before a query or fragment. -/
def shownPath (t : Text) : Text :=
  ((shown t).takeWhile (· ≠ '#')).takeWhile (· ≠ '?')

/-- What is shown of a text as a query. -/
def shownQuery (t : Text) : Option Text :=
  (Text.after? ['?'] (((shown t).takeWhile (· ≠ '#')).dropWhile (· ≠ '?'))).map
    (escape isUnsafeInQuery)

lemma trimEnd_append {p : Char → Bool} {c : Char} (hc : p c = false) (s t : Text) :
    Text.trimEnd p (s ++ c :: t) = s ++ c :: Text.trimEnd p t := by
  have hrdrop : ∀ t : Text, Text.trimEnd p t = t.rdropWhile p := fun _ => rfl
  rw [hrdrop, hrdrop]
  induction t using List.reverseRecOn with
  | nil => simp [List.rdropWhile_concat_neg, hc]
  | append_singleton t d ih =>
    have hassoc : s ++ c :: (t ++ [d]) = (s ++ c :: t) ++ [d] := by simp
    by_cases hd : p d = true
    · rw [hassoc, List.rdropWhile_concat_pos _ _ _ hd, List.rdropWhile_concat_pos _ _ _ hd, ih]
    · rw [hassoc, List.rdropWhile_concat_neg _ _ _ hd, List.rdropWhile_concat_neg _ _ _ hd, hassoc]

/-! ### Bases -/

/-- The schemes of the web, as a base has them. -/
def IsWeb (scheme : Text) : Prop :=
  scheme = "http" ∨ scheme = "https"

/-- Whether a character ends an authority. -/
def endsAuthority (c : Char) : Bool :=
  isSlash c || c = '?' || c = '#'

/-- An authority of visible characters that do not end it. -/
structure IsAuthority (authority : Text) : Prop where
  ne_nil : authority ≠ []
  visible : ∀ c ∈ authority, isOuter c = false
  whole : ∀ c ∈ authority, endsAuthority c = false

instance (authority : Text) : Decidable (IsAuthority authority) :=
  decidable_of_iff (authority ≠ [] ∧ authority.any isOuter = false ∧ authority.any endsAuthority = false)
    ⟨fun ⟨ne_nil, visible, whole⟩ => ⟨ne_nil, by simpa using visible, by simpa using whole⟩,
      fun ⟨ne_nil, visible, whole⟩ => ⟨ne_nil, by simpa using visible, by simpa using whole⟩⟩

section Authority

variable {authority tail : Text} (h : IsAuthority authority)
  (htail : ∀ c ∈ tail.head?, endsAuthority c = true)

include h

lemma dropSlashes_authority :
    (['/', '/'] ++ authority ++ tail).dropWhile isSlash = authority ++ tail := by
  obtain ⟨c, rest, rfl⟩ := List.exists_cons_of_ne_nil h.ne_nil
  have hc := h.whole c List.mem_cons_self
  have hslash : isSlash c = false := by
    rw [endsAuthority, Bool.or_assoc, Bool.or_eq_false_iff] at hc
    exact hc.1
  have hfirst : isSlash '/' = true := by decide
  simp [hslash, hfirst]

include htail

lemma takeWhile_authority : (authority ++ tail).takeWhile (!endsAuthority ·) = authority := by
  rw [List.takeWhile_append_of_pos (fun c hc => by simp [h.whole c hc])]
  rcases tail with _ | ⟨c, tail⟩
  · simp
  · simp [htail c rfl]

lemma dropWhile_authority : (authority ++ tail).dropWhile (!endsAuthority ·) = tail := by
  rw [List.dropWhile_append_of_pos (fun c hc => by simp [h.whole c hc])]
  rcases tail with _ | ⟨c, tail⟩
  · simp
  · simp [htail c rfl]

end Authority

lemma IsWeb.cut {scheme : Text} (web : IsWeb scheme) (rest : Text) :
    Text.toLower ((scheme ++ ':' :: rest).takeWhile (· ≠ ':')) = scheme ∧
      (scheme ++ ':' :: rest).dropWhile (· ≠ ':') = ':' :: rest := by
  rcases web with rfl | rfl
  · exact ⟨by simp [Text.toLower], by simp⟩
  · exact ⟨by simp [Text.toLower], by simp⟩

lemma IsWeb.usual {scheme : Text} (web : IsWeb scheme) :
    ∃ usual, schemes.find? (fun entry => entry.1 = scheme) = some (scheme, usual) := by
  rcases web with rfl | rfl
  · exact ⟨80, by decide⟩
  · exact ⟨443, by decide⟩

/-- The URL at an authority with something after it. -/
lemma wire?_of_clean {url scheme authority tail : Text} {usual : Nat}
    (hclean : clean url = scheme ++ "://" ++ authority ++ tail) (web : IsWeb scheme)
    (husual : schemes.find? (fun entry => entry.1 = scheme) = some (scheme, usual))
    (h : IsAuthority authority) (htail : ∀ c ∈ tail.head?, endsAuthority c = true) :
    wire? url = (host? (withoutUser authority)).bind fun found =>
      (port? found.2).map fun port =>
        ⟨scheme, found.1, if port = some usual then none else port,
          segments ((tail.takeWhile (· ≠ '#')).takeWhile (· ≠ '?')),
          (Text.after? ['?'] ((tail.takeWhile (· ≠ '#')).dropWhile (· ≠ '?'))).map
            (escape isUnsafeInQuery)⟩ := by
  obtain ⟨hscheme, hrest⟩ := web.cut (['/', '/'] ++ authority ++ tail)
  have hurl : clean url = scheme ++ ':' :: (['/', '/'] ++ authority ++ tail) := by
    rw [hclean]
    simp
  unfold wire?
  simp only [hurl, hscheme, hrest, Text.after?, husual, dropSlashes_authority h, Option.bind_eq_bind,
    Option.bind_some, if_true]
  have hhost : (authority ++ tail).takeWhile
      (fun a => !(isSlash a || decide (a = '?') || decide (a = '#'))) = authority :=
    takeWhile_authority h htail
  have htarget : (authority ++ tail).dropWhile
      (fun a => !(isSlash a || decide (a = '?') || decide (a = '#'))) = tail :=
    dropWhile_authority h htail
  simp only [hhost, htarget]
  rcases host? (withoutUser authority) with _ | ⟨host, after⟩
  · rfl
  · simp only [Option.bind_some]
    rcases port? after with _ | port <;> rfl

/-- A base that is a scheme of the web and an authority, and that can be reached. -/
structure IsBase (base : Text) : Prop where
  parts : ∃ scheme authority, IsWeb scheme ∧ IsAuthority authority ∧ base = scheme ++ "://" ++ authority
  reachable : (wire? base).isSome

lemma trimStart_of_not {p : Char → Bool} {c : Char} (hc : p c = false) (t : Text) :
    Text.trimStart p (c :: t) = c :: t := by
  simp [Text.trimStart, hc]

lemma IsWeb.clean {scheme : Text} (web : IsWeb scheme) {middle : Text}
    (hmiddle : ∀ c ∈ middle, isOuter c = false) {last : Char} (hlast : isOuter last = false) (t : Text) :
    Url.clean (scheme ++ middle ++ last :: t) = scheme ++ middle ++ last :: shown t := by
  have hdropped : ∀ c, isOuter c = false → (!isDropped c) = true := by
    intro c hc
    by_contra h
    have hdrop : isDropped c = true := by simpa using h
    simp only [isDropped, Bool.or_eq_true, decide_eq_true_eq] at hdrop
    rcases hdrop with (rfl | rfl) | rfl <;> cases hc
  have hscheme : ∀ c ∈ scheme, isOuter c = false := by
    rcases web with rfl | rfl <;> simp [isOuter]
  have hstart : Text.trimStart isOuter (scheme ++ middle ++ last :: t) = scheme ++ middle ++ last :: t := by
    rcases web with rfl | rfl <;> exact trimStart_of_not (by decide) _
  rw [Url.clean, Text.trim, hstart, trimEnd_append hlast, List.filter_append, List.filter_append,
    List.filter_cons, if_pos (hdropped last hlast),
    List.filter_eq_self.2 fun c hc => hdropped c (hscheme c hc),
    List.filter_eq_self.2 fun c hc => hdropped c (hmiddle c hc)]
  rfl

lemma visible_separator : ∀ c ∈ "://".toList, isOuter c = false := by
  simp [isOuter]

lemma clean_base {scheme authority : Text} (web : IsWeb scheme) (h : IsAuthority authority) :
    clean (scheme ++ "://" ++ authority) = scheme ++ "://" ++ authority := by
  obtain ⟨init, last, rfl⟩ := (List.eq_nil_or_concat authority).resolve_left h.ne_nil
  have hmiddle : ∀ c ∈ "://".toList ++ init, isOuter c = false := by
    intro c hc
    rcases List.mem_append.1 hc with hc | hc
    · exact visible_separator c hc
    · exact h.visible c (by simp [hc])
  have hclean := web.clean hmiddle (h.visible last (by simp)) []
  simpa [shown, Text.trimEnd] using hclean

lemma clean_under {scheme authority : Text} (web : IsWeb scheme) (h : IsAuthority authority)
    {names : List Text} (hnames : AreNames names) (t : Text) :
    clean (scheme ++ "://" ++ authority ++ route names ++ t) =
      scheme ++ "://" ++ authority ++ (route names ++ shown t) := by
  have hmiddle : ∀ c ∈ "://".toList ++ authority ++ names.flatMap ('/' :: ·), isOuter c = false := by
    intro c hc
    rcases List.mem_append.1 hc with hc | hc
    · rcases List.mem_append.1 hc with hc | hc
      · exact visible_separator c hc
      · exact h.visible c hc
    · rcases mem_route hnames (List.mem_append_left _ hc) with rfl | hname
      · decide
      · have hvisible := (bounds_of_isNameChar hname).1
        simpa [isOuter] using hvisible
  have hslash : isOuter '/' = false := by decide
  have hclean := web.clean hmiddle hslash t
  simpa [route] using hclean

/-! ### Plain hosts -/

lemma isUnreserved_ne {c d : Char} (h : isUnreserved c = true) (hd : isUnreserved d = false) : c ≠ d := by
  rintro rfl
  rw [h] at hd
  cases hd

lemma bounds_of_isUnreserved {c : Char} (h : isUnreserved c = true) : 0x20 < c.toNat ∧ c.toNat < 0x7F := by
  have bounds : ∀ first last : Char, 0x20 < first.toNat → last.toNat < 0x7F →
      c.val ≥ first.val ∧ c.val ≤ last.val → 0x20 < c.toNat ∧ c.toNat < 0x7F :=
    fun first last low high h => ⟨lt_of_lt_of_le low h.1, lt_of_le_of_lt h.2 high⟩
  have within : ∀ {p q : Prop} [Decidable p] [Decidable q], (decide p && decide q) = true → p ∧ q := by
    intro p q _ _ h
    simpa using h
  have alphanumeric : c.isAlphanum = true → 0x20 < c.toNat ∧ c.toNat < 0x7F := by
    intro h
    rcases Bool.or_eq_true_iff.1 h with h | digit
    · rcases Bool.or_eq_true_iff.1 h with capital | small
      · exact bounds 'A' 'Z' (by decide) (by decide) (of_decide_eq_true capital)
      · exact bounds 'a' 'z' (by decide) (by decide) (within small)
    · exact bounds '0' '9' (by decide) (by decide) (within digit)
  simp only [isUnreserved, Bool.or_eq_true, decide_eq_true_eq] at h
  rcases h with (((h | rfl) | rfl) | rfl) | rfl
  · exact alphanumeric h
  all_goals decide

/-- A port after a host, or nothing. -/
inductive IsPort : Text → Prop
  | usual : IsPort []
  | number {digits : Text} {n : Nat} (digit : ∀ c ∈ digits, c.isDigit = true)
      (number : Text.toNat? 10 digits = some n) (small : n < Nat.pow 2 16) : IsPort (':' :: digits)

lemma isUnreserved_of_isHostChar {c : Char} (h : isHostChar c = true) : isUnreserved c = true := by
  simp only [isHostChar, isUnreserved, Bool.or_eq_true, decide_eq_true_eq] at h ⊢
  tauto

lemma isUnreserved_of_isDigit {c : Char} (h : c.isDigit = true) : isUnreserved c = true := by
  simp [isUnreserved, Char.isAlphanum, h]

lemma IsPort.chars {port : Text} (h : IsPort port) : ∀ c ∈ port, c = ':' ∨ isUnreserved c = true := by
  cases h with
  | usual => nofun
  | number digit =>
    intro c hc
    exact (List.mem_cons.1 hc).imp_right fun hc => isUnreserved_of_isDigit (digit c hc)

lemma IsPort.isSome_port? {port : Text} (h : IsPort port) : (port? port).isSome := by
  cases h with
  | usual => rfl
  | @number digits n digit number small =>
    cases digits with
    | nil => rfl
    | cons d digits =>
      rw [port?.eq_def]
      simp [number, small]

/-- A plain host ends where its port begins. -/
lemma host?_append {host port : Text} (ne_nil : host ≠ []) (plain : ∀ c ∈ host, isHostChar c = true)
    (hport : IsPort port) : host? (host ++ port) = some (Text.toLower host, port) := by
  have hcut : (host ++ port).takeWhile isHostChar = host ∧ (host ++ port).dropWhile isHostChar = port := by
    rw [List.takeWhile_append_of_pos plain, List.dropWhile_append_of_pos plain]
    cases hport with
    | usual => simp
    | number =>
      have hcolon : isHostChar ':' = false := by decide
      simp [hcolon]
  rw [host?.eq_def]
  split
  · next rest heq =>
    obtain ⟨first, more, rfl⟩ := List.exists_cons_of_ne_nil ne_nil
    have hbracket := plain first List.mem_cons_self
    rw [(List.cons.inj heq).1] at hbracket
    exact absurd hbracket (by decide)
  · rw [hcut.1, hcut.2]
    simp [ne_nil]

/-- **A scheme and a plain host**, with a port or without one, are a base. -/
theorem isBase_of_host {scheme host port : Text} (web : IsWeb scheme) (ne_nil : host ≠ [])
    (plain : ∀ c ∈ host, isHostChar c = true) (hport : IsPort port) :
    IsBase (scheme ++ "://" ++ (host ++ port)) := by
  have hchars : ∀ c ∈ host ++ port, c = ':' ∨ isUnreserved c = true := by
    intro c hc
    rcases List.mem_append.1 hc with hc | hc
    · exact .inr (isUnreserved_of_isHostChar (plain c hc))
    · exact hport.chars c hc
  have hne : ∀ {d : Char}, d ≠ ':' → isUnreserved d = false → ∀ c ∈ host ++ port, c ≠ d := by
    intro d hcolon hd c hc
    rcases hchars c hc with rfl | hunreserved
    · exact hcolon.symm
    · exact isUnreserved_ne hunreserved hd
  have authority : IsAuthority (host ++ port) := by
    refine ⟨by simp [ne_nil], ?_, ?_⟩
    · intro c hc
      rcases hchars c hc with rfl | hunreserved
      · decide
      · simpa [isOuter] using (bounds_of_isUnreserved hunreserved).1
    · intro c hc
      have hslash := hne (d := '/') (by decide) (by decide) c hc
      have hback := hne (d := '\\') (by decide) (by decide) c hc
      have hquestion := hne (d := '?') (by decide) (by decide) c hc
      have hhash := hne (d := '#') (by decide) (by decide) c hc
      simp [endsAuthority, isSlash, hslash, hback, hquestion, hhash]
  have huser : withoutUser (host ++ port) = host ++ port := by
    rw [withoutUser, Text.splitOn_of_not_mem fun hmem => hne (by decide) (by decide) '@' hmem rfl]
    rfl
  refine ⟨⟨scheme, host ++ port, web, authority, rfl⟩, ?_⟩
  obtain ⟨usual, husual⟩ := web.usual
  have hclean := clean_base web authority
  rw [← List.append_nil (host ++ port), ← List.append_assoc] at hclean
  have hwire := wire?_of_clean hclean web husual authority (by simp)
  obtain ⟨number, hnumber⟩ := Option.isSome_iff_exists.1 hport.isSome_port?
  rw [List.append_nil] at hwire
  rw [hwire, huser, host?_append ne_nil plain hport, Option.bind_some, hnumber]
  rfl

/-- **The URL of a path under a route** leads along the route, at one host. -/
theorem wire?_under {base : Text} (h : IsBase base) : ∃ scheme host port,
    ∀ {names : List Text}, AreNames names → ∀ t,
      wire? (base ++ route names ++ t) = some ⟨scheme, host, port,
        resolve names (Text.splitOn '/' (slashed (shownPath t))), shownQuery t⟩ := by
  obtain ⟨scheme, authority, web, hauthority, rfl⟩ := h.parts
  obtain ⟨usual, husual⟩ := web.usual
  have hclean := clean_base web hauthority
  rw [← List.append_nil authority, ← List.append_assoc] at hclean
  have hbase := wire?_of_clean hclean web husual hauthority (by simp)
  rw [List.append_nil] at hbase
  have hreachable := h.reachable
  rw [hbase] at hreachable
  rcases hhost : host? (withoutUser authority) with _ | ⟨host, after⟩ <;> rw [hhost] at hreachable
  · cases hreachable
  rcases hport : port? after with _ | port <;> simp only [Option.bind_some, hport] at hreachable
  · cases hreachable
  refine ⟨scheme, host, if port = some usual then none else port, ?_⟩
  intro names hnames t
  have hhash : ∀ c ∈ route names, decide (c ≠ '#') = true := fun c hc =>
    decide_eq_true (ne_of_mem_route hnames hc (by decide) (by decide))
  have hquestion : ∀ c ∈ route names, decide (c ≠ '?') = true := fun c hc =>
    decide_eq_true (ne_of_mem_route hnames hc (by decide) (by decide))
  have htail : ∀ c ∈ (route names ++ shown t).head?, endsAuthority c = true := by
    intro c hc
    rw [route_append, pathText, List.head?_cons, Option.mem_some_iff] at hc
    rw [← hc]
    decide
  rw [wire?_of_clean (clean_under web hauthority hnames t) web husual hauthority htail, hhost,
    Option.bind_some, hport, Option.map_some, List.takeWhile_append_of_pos hhash,
    List.takeWhile_append_of_pos hquestion, List.dropWhile_append_of_pos hquestion,
    segments_route hnames]
  rfl

end Custodian.Url
