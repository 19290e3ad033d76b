import Custodian.Proofs.Url.Quote
import Custodian.Url.Wire
import Mathlib.Data.List.Infix

/-!
# The bytes that a sent path stands for

In a path on the wire, a percent sign with two hexadecimal digits stands for a byte, and every other
character for its own bytes. A path that has no such sign yet is escaped without loss
(`unescape_escapePath`). If it has one, fewer bytes are left than the path has
(`length_unescape_escapePath_lt`): the receiver cannot tell it from what the sender escapes.
-/

namespace Custodian.Url

def isHex (c : Char) : Bool :=
  (Text.digit? 16 c).isSome

/-- Whether a text begins with a percent sign and two hexadecimal digits. -/
def isEscape : Text → Bool
  | '%' :: a :: b :: _ => isHex a && isHex b
  | _ => false

/-- Whether a percent sign with two hexadecimal digits stands anywhere in a text. -/
def hasEscape : Text → Bool
  | [] => false
  | c :: t => isEscape (c :: t) || hasEscape t

/-- The bytes that a text on the wire stands for. -/
def unescape : Text → Bytes
  | [] => []
  | '%' :: a :: b :: t =>
    match Text.digit? 16 a, Text.digit? 16 b with
    | some high, some low => (high * 16 + low).toUInt8 :: unescape t
    | _, _ => Utf8.encodeChar '%' ++ unescape (a :: b :: t)
  | c :: t => Utf8.encodeChar c ++ unescape t

@[simp]
lemma unescape_nil : unescape [] = [] := rfl

lemma exists_of_isEscape {t : Text} (h : isEscape t = true) :
    ∃ a b rest, t = '%' :: a :: b :: rest ∧ isHex a = true ∧ isHex b = true := by
  unfold isEscape at h
  split at h
  · next a b rest =>
    rw [Bool.and_eq_true] at h
    exact ⟨a, b, rest, rfl, h.1, h.2⟩
  · cases h

/-- A character that begins no escape stands for its own bytes. -/
lemma unescape_cons {c : Char} {t : Text} (h : isEscape (c :: t) = false) :
    unescape (c :: t) = Utf8.encodeChar c ++ unescape t := by
  rw [unescape.eq_def]
  split
  · next heq => cases heq
  · next a b rest heq =>
    obtain ⟨rfl, rfl⟩ := List.cons.inj heq
    rw [isEscape, isHex, isHex] at h
    rcases ha : Text.digit? 16 a with _ | high
    · rfl
    · rcases hb : Text.digit? 16 b with _ | low
      · rfl
      · rw [ha, hb] at h
        cases h
  · next heq =>
    obtain ⟨rfl, rfl⟩ := List.cons.inj heq
    rfl

/-- An escape stands for one byte. -/
lemma unescape_escaped {a b : Char} (ha : isHex a = true) (hb : isHex b = true) :
    ∃ byte, ∀ t, unescape ('%' :: a :: b :: t) = byte :: unescape t := by
  obtain ⟨high, hhigh⟩ := Option.isSome_iff_exists.1 ha
  obtain ⟨low, hlow⟩ := Option.isSome_iff_exists.1 hb
  refine ⟨(high * 16 + low).toUInt8, ?_⟩
  intro t
  rw [unescape, hhigh, hlow]

lemma digit?_hexDigit : ∀ n < 16, Text.digit? 16 (hexDigit n) = some n := by
  decide

lemma unescape_escapeByte (b : UInt8) (t : Text) : unescape (escapeByte b ++ t) = b :: unescape t := by
  have hb : b.toNat < 256 := UInt8.toNat_lt_size b
  have hhigh := digit?_hexDigit (b.toNat / 16) (by omega)
  have hlow := digit?_hexDigit (b.toNat % 16) (by omega)
  have hbyte : (b.toNat / 16 * 16 + b.toNat % 16).toUInt8 = b := by
    rw [Nat.div_add_mod']
    exact UInt8.ofNat_toNat
  rw [escapeByte, List.cons_append, List.cons_append, List.cons_append, List.nil_append, unescape, hhigh,
    hlow]
  dsimp only
  rw [hbyte]

lemma unescape_escapeBytes (bytes : Bytes) (t : Text) :
    unescape (bytes.flatMap escapeByte ++ t) = bytes ++ unescape t := by
  induction bytes with
  | nil => rfl
  | cons b bytes ih =>
    rw [List.flatMap_cons, List.append_assoc, unescape_escapeByte, ih, List.cons_append]

lemma isEscape_append_slash (s t : Text) : isEscape (s ++ '/' :: t) = isEscape s := by
  have hslash : isHex '/' = false := by decide
  rcases s with _ | ⟨c, _ | ⟨a, _ | ⟨b, rest⟩⟩⟩
  · rfl
  all_goals
    by_cases hc : c = '%'
    · subst hc
      cases t <;> simp [isEscape, hslash]
    · simp [isEscape, hc]

/-- What comes before a slash stands for the same bytes whatever comes after it. -/
lemma unescape_append_slash (s t : Text) :
    unescape (s ++ '/' :: t) = unescape s ++ Utf8.encodeChar '/' ++ unescape t := by
  induction hn : s.length using Nat.strong_induction_on generalizing s with
  | _ n ih =>
    rcases s with _ | ⟨c, s⟩
    · exact unescape_cons rfl
    · by_cases h : isEscape (c :: s) = true
      · obtain ⟨a, b, rest, heq, ha, hb⟩ := exists_of_isEscape h
        obtain ⟨byte, hbyte⟩ := unescape_escaped ha hb
        have hrest := ih rest.length (by rw [← hn, heq]; simp +arith) rest rfl
        rw [heq, List.cons_append, List.cons_append, List.cons_append, hbyte, hbyte, hrest]
        rfl
      · have hc : isEscape (c :: s) = false := by simpa using h
        have hcs : isEscape (c :: (s ++ '/' :: t)) = false := (isEscape_append_slash (c :: s) t).trans hc
        have hs := ih s.length (by rw [← hn]; simp) s rfl
        rw [List.cons_append, unescape_cons hcs, unescape_cons hc, hs]
        simp only [List.append_assoc]

/-! ### Escaping a path -/

/-- The escaped form of a path. -/
abbrev escapePath (t : Text) : Text :=
  escape isUnsafeInPath t

lemma escapePath_cons_kept {c : Char} (h : isUnsafeInPath c = false) (t : Text) :
    escapePath (c :: t) = c :: escapePath t := by
  simp [escapePath, escape, h]

lemma escapePath_cons_escaped {c : Char} (h : isUnsafeInPath c = true) (t : Text) :
    escapePath (c :: t) = (Utf8.encodeChar c).flatMap escapeByte ++ escapePath t := by
  simp [escapePath, escape, h]

lemma exists_escapePath_cons_escaped {c : Char} (h : isUnsafeInPath c = true) (t : Text) :
    ∃ rest, escapePath (c :: t) = '%' :: rest := by
  obtain ⟨b, bytes, hbytes⟩ := List.exists_cons_of_ne_nil (Utf8.encodeChar_ne_nil c)
  rw [escapePath_cons_escaped h, hbytes]
  exact ⟨_, rfl⟩

lemma bounds_of_isHex {c : Char} (h : isHex c = true) : 0x20 < c.toNat ∧ c.toNat < 0x7F := by
  have bounds : ∀ {first last : Char}, first ≤ c ∧ c ≤ last →
      first.toNat ≤ c.toNat ∧ c.toNat ≤ last.toNat := fun h => h
  unfold isHex Text.digit? at h
  dsimp only at h
  split_ifs at h with digit small capital
  · exact ⟨lt_of_lt_of_le (by decide) (bounds digit).1, lt_of_le_of_lt (bounds digit).2 (by decide)⟩
  · exact ⟨lt_of_lt_of_le (by decide) (bounds small).1, lt_of_le_of_lt (bounds small).2 (by decide)⟩
  · exact ⟨lt_of_lt_of_le (by decide) (bounds capital).1, lt_of_le_of_lt (bounds capital).2 (by decide)⟩
  · cases h

/-- A class of visible ASCII characters without the eight that are escaped is not escaped. -/
lemma isUnsafeInPath_of_class {p : Char → Bool} {c : Char} (hc : p c = true)
    (bounds : 0x20 < c.toNat ∧ c.toNat < 0x7F)
    (without : ['"', '<', '>', '#', '?', '\x60', '\x7b', '\x7d'].any p = false) :
    isUnsafeInPath c = false := by
  have hne : ∀ d ∈ ['"', '<', '>', '#', '?', '\x60', '\x7b', '\x7d'], c ≠ d := by
    rintro d hd rfl
    exact List.any_eq_false.1 without c hd hc
  obtain ⟨low, high⟩ := bounds
  simp only [List.forall_mem_cons] at hne
  simp [isUnsafeInPath, isUnsafe, low, high, hne]

lemma isUnsafeInPath_of_isHex {c : Char} (h : isHex c = true) : isUnsafeInPath c = false :=
  isUnsafeInPath_of_class h (bounds_of_isHex h) (by decide)

lemma isEscape_percent (t : Text) :
    isEscape ('%' :: t) = (t.head?.any isHex && t.tail.head?.any isHex) := by
  rcases t with _ | ⟨a, _ | ⟨b, rest⟩⟩ <;> simp [isEscape]

lemma any_isHex_head?_escapePath (t : Text) :
    (escapePath t).head?.any isHex = t.head?.any isHex := by
  have hpercent : isHex '%' = false := by decide
  rcases t with _ | ⟨c, t⟩
  · rfl
  · by_cases hc : isUnsafeInPath c = true
    · obtain ⟨rest, hrest⟩ := exists_escapePath_cons_escaped hc t
      have hhex : isHex c = false := by
        by_contra hhex
        rw [isUnsafeInPath_of_isHex (by simpa using hhex)] at hc
        cases hc
      rw [hrest]
      simp [hpercent, hhex]
    · rw [escapePath_cons_kept (by simpa using hc)]
      rfl

/-- Escaping makes no escape of a percent sign that begins none. -/
lemma isEscape_percent_escapePath (t : Text) :
    isEscape ('%' :: escapePath t) = isEscape ('%' :: t) := by
  rw [isEscape_percent, isEscape_percent, any_isHex_head?_escapePath]
  rcases t with _ | ⟨c, t⟩
  · rfl
  · by_cases hc : isHex c = true
    · rw [escapePath_cons_kept (isUnsafeInPath_of_isHex hc), List.tail_cons, List.tail_cons,
        any_isHex_head?_escapePath]
    · simp [hc]

lemma isEscape_of_ne {c : Char} (hc : c ≠ '%') (t : Text) : isEscape (c :: t) = false := by
  simp [isEscape, hc]

/-- A character in an escaped path stands for the bytes that it had, unless it begins an escape. -/
lemma unescape_escapePath_cons {c : Char} {t : Text} (h : isEscape (c :: t) = false) :
    unescape (escapePath (c :: t)) = Utf8.encodeChar c ++ unescape (escapePath t) := by
  by_cases hc : isUnsafeInPath c = true
  · rw [escapePath_cons_escaped hc, unescape_escapeBytes]
  · rw [escapePath_cons_kept (by simpa using hc), unescape_cons]
    by_cases hpercent : c = '%'
    · rw [hpercent] at h ⊢
      rw [isEscape_percent_escapePath, h]
    · exact isEscape_of_ne hpercent _

lemma unescape_escapePath_cases (t : Text) :
    hasEscape t = false ∧ unescape (escapePath t) = Utf8.encode t ∨
      hasEscape t = true ∧ (unescape (escapePath t)).length < Utf8.size t := by
  induction hn : t.length using Nat.strong_induction_on generalizing t with
  | _ n ih =>
    rcases t with _ | ⟨c, t⟩
    · exact .inl ⟨rfl, rfl⟩
    · by_cases h : isEscape (c :: t) = true
      · refine .inr ⟨by simp [hasEscape, h], ?_⟩
        obtain ⟨a, b, rest, heq, ha, hb⟩ := exists_of_isEscape h
        obtain ⟨byte, hbyte⟩ := unescape_escaped ha hb
        have hrest : (unescape (escapePath rest)).length ≤ Utf8.size rest := by
          rcases ih rest.length (by rw [← hn, heq]; simp +arith) rest rfl with ⟨-, hr⟩ | ⟨-, hr⟩
          · rw [hr, Utf8.size]
          · exact hr.le
        have hsize : Utf8.size rest + 3 ≤ Utf8.size ('%' :: a :: b :: rest) := by
          have hp := Utf8.length_encodeChar_pos '%'
          have ha := Utf8.length_encodeChar_pos a
          have hb := Utf8.length_encodeChar_pos b
          rw [Utf8.size_cons, Utf8.size_cons, Utf8.size_cons]
          omega
        rw [heq, escapePath_cons_kept (by decide), escapePath_cons_kept (isUnsafeInPath_of_isHex ha),
          escapePath_cons_kept (isUnsafeInPath_of_isHex hb), hbyte, List.length_cons]
        omega
      · have hc : isEscape (c :: t) = false := by simpa using h
        rw [unescape_escapePath_cons hc, hasEscape, hc, Bool.false_or, Utf8.size_cons, List.length_append]
        rcases ih t.length (by rw [← hn]; simp) t rfl with ⟨hnone, ht⟩ | ⟨hsome, ht⟩
        · exact .inl ⟨hnone, by rw [ht]; rfl⟩
        · exact .inr ⟨hsome, by omega⟩

/-- **A path without escapes** stands for its own bytes when it is escaped. -/
theorem unescape_escapePath {t : Text} (h : hasEscape t = false) :
    unescape (escapePath t) = Utf8.encode t := by
  rcases unescape_escapePath_cases t with ⟨-, ht⟩ | ⟨hsome, -⟩
  · exact ht
  · rw [h] at hsome
    cases hsome

lemma length_unescape_escapePath_le (t : Text) : (unescape (escapePath t)).length ≤ Utf8.size t := by
  rcases unescape_escapePath_cases t with ⟨-, ht⟩ | ⟨-, ht⟩
  · rw [ht, Utf8.size]
  · exact ht.le

/-- **A path with an escape** stands for fewer bytes than it has when it is escaped. -/
theorem length_unescape_escapePath_lt {t : Text} (h : hasEscape t = true) :
    (unescape (escapePath t)).length < Utf8.size t := by
  rcases unescape_escapePath_cases t with ⟨hnone, -⟩ | ⟨-, ht⟩
  · rw [h] at hnone
    cases hnone
  · exact ht

end Custodian.Url
