import Custodian.Json.Token
import Mathlib.Tactic.Common

/-!
# Reading numerals that were written

A numeral is spelt as digits, perhaps with a point and more digits after it, and perhaps with a signed
exponent (`Spelling`). What follows must not go on with it: it begins with no digit, point or exponent
(`EndsNumeral`). Then just this numeral is read, as one token (`Spelling.next?_text`).
-/

namespace Custodian.Json

/-! ### Digits -/

/-- A text of one or more decimal digits. -/
abbrev Digits := { t : Text // t ≠ [] ∧ ∀ c ∈ t, c.isDigit = true }

namespace Digits

/-- The values of the digits. -/
def values (d : Digits) : List Nat :=
  d.1.filterMap (Text.digit? 10)

lemma digit?_of_isDigit {c : Char} (h : c.isDigit = true) :
    Text.digit? 10 c = some (c.toNat - '0'.toNat) := by
  simp only [Char.isDigit, ge_iff_le, Bool.and_eq_true, decide_eq_true_eq] at h
  have low : '0' ≤ c := h.1
  have high : c ≤ '9' := h.2
  have hvalue : c.toNat - '0'.toNat < 10 := by
    have hnine : c.toNat ≤ '9'.toNat := high
    have : '0'.toNat = 48 := rfl
    have : '9'.toNat = 57 := rfl
    omega
  simpa [Text.digit?, low, high] using hvalue

lemma values_eq (d : Digits) : d.values = d.1.map fun c => c.toNat - '0'.toNat := by
  have hall : ∀ t : Text, (∀ c ∈ t, c.isDigit = true) →
      t.filterMap (Text.digit? 10) = t.map fun c => c.toNat - '0'.toNat := by
    intro t
    induction t with
    | nil => intro _; rfl
    | cons c t ih =>
      intro h
      rw [List.filterMap_cons_some (digit?_of_isDigit (h c List.mem_cons_self)), List.map_cons,
        ih fun e he => h e (List.mem_cons_of_mem c he)]
  exact hall d.1 d.2.2

lemma isEmpty_values (d : Digits) : d.values.isEmpty = false := by
  rw [values_eq, List.isEmpty_eq_false_iff]
  simpa using d.2.1

/-- No zero stands in front of other digits. -/
def IsUnpadded (d : Digits) : Prop :=
  d.1.head? = some '0' → d.1.length = 1

lemma IsUnpadded.values {d : Digits} (h : d.IsUnpadded) :
    ¬(d.values.isEmpty = true ∨ d.values.head? = some 0 ∧ 1 < d.values.length) := by
  rw [isEmpty_values, values_eq, List.length_map, List.head?_map]
  rintro (hempty | ⟨hzero, hlong⟩)
  · cases hempty
  obtain ⟨c, t, hd⟩ := List.exists_cons_of_ne_nil d.2.1
  have hc : c = '0' := by
    have hdigit := d.2.2 c (by simp [hd])
    simp only [Char.isDigit, ge_iff_le, Bool.and_eq_true, decide_eq_true_eq] at hdigit
    have low : '0' ≤ c := hdigit.1
    have hvalue : c.toNat - '0'.toNat = 0 := by simpa [hd] using hzero
    have hnat : c.toNat = '0'.toNat := Nat.le_antisymm (Nat.sub_eq_zero_iff_le.1 hvalue) low
    exact Char.toNat_inj.1 hnat
  have hone := h (by simp [hd, hc])
  omega

end Digits

/-! ### What follows -/

/-- Whether a text begins with no digit. -/
def EndsDigits (t : Text) : Prop :=
  ∀ c ∈ t.head?, c.isDigit = false

/-- Whether a text begins with nothing that could belong to a numeral before it. -/
def EndsNumeral (t : Text) : Prop :=
  ∀ c ∈ t.head?, c.isDigit = false ∧ c ≠ '.' ∧ c ≠ 'e' ∧ c ≠ 'E'

section Ends

variable {rest : Text}

lemma endsNumeral_nil : EndsNumeral [] := by
  rintro c ⟨⟩

lemma EndsNumeral.endsDigits (h : EndsNumeral rest) : EndsDigits rest :=
  fun c hc => (h c hc).1

lemma endsDigits_cons {c : Char} (h : c.isDigit = false) (t : Text) : EndsDigits (c :: t) := by
  rintro d ⟨⟩
  exact h

/-- Digits are read up to their end. -/
lemma Digits.digits_append (d : Digits) (h : EndsDigits rest) :
    Token.digits (d.1 ++ rest) = (d.values, rest) := by
  have htake : rest.takeWhile Char.isDigit = [] := by
    cases rest with
    | nil => rfl
    | cons c rest => simp [h c (by simp)]
  have hdrop : rest.dropWhile Char.isDigit = rest := by
    cases rest with
    | nil => rfl
    | cons c rest => simp [h c (by simp)]
  rw [Token.digits, List.takeWhile_append_of_pos d.2.2, List.dropWhile_append_of_pos d.2.2, htake, hdrop,
    List.append_nil]
  rfl

end Ends

/-! ### Spellings -/

/-- The parts of a numeral as they are written; an exponent has a sign. -/
structure Spelling where
  negative : Bool
  whole : Digits
  unpadded : whole.IsUnpadded
  fraction : Option Digits
  exponent : Option (Bool × Digits)

namespace Spelling

/-- A point and the digits after it, if there are any. -/
def fractionText : Option Digits → Text
  | none => []
  | some d => '.' :: d.1

/-- An exponent, if there is one. -/
def exponentText : Option (Bool × Digits) → Text
  | none => []
  | some (negative, d) => 'e' :: (if negative then '-' else '+') :: d.1

def text (s : Spelling) : Text :=
  (if s.negative then ['-'] else []) ++
    (s.whole.1 ++ (fractionText s.fraction ++ exponentText s.exponent))

/-- The numeral that is spelt. -/
def numeral (s : Spelling) : Numeral :=
  ⟨s.negative, s.whole.values, s.fraction.map Digits.values,
    s.exponent.map fun (negative, d) => (negative, d.values)⟩

variable {rest : Text}

lemma exponent?_text (h : EndsNumeral rest) (e : Option (Bool × Digits)) :
    Token.exponent? (exponentText e ++ rest) =
      some (e.map fun (negative, d) => (negative, d.values), rest) := by
  rcases e with _ | ⟨negative, d⟩
  · unfold Token.exponent?
    split
    · next c t heq =>
      have hrest : rest = c :: t := heq
      obtain ⟨-, -, he, hE⟩ := h c (by simp [hrest])
      rw [if_neg (by simp [he, hE])]
      rfl
    · rfl
  · have hempty := d.isEmpty_values
    cases negative <;>
      simp [exponentText, Token.exponent?, Token.sign, Token.minus, d.digits_append h.endsDigits, hempty]

lemma endsDigits_exponentText (h : EndsNumeral rest) (e : Option (Bool × Digits)) :
    EndsDigits (exponentText e ++ rest) := by
  rcases e with _ | ⟨negative, d⟩
  · exact h.endsDigits
  · exact endsDigits_cons (by decide) _

lemma fraction?_text (h : EndsNumeral rest) (f : Option Digits) (e : Option (Bool × Digits)) :
    Token.fraction? (fractionText f ++ (exponentText e ++ rest)) =
      some (f.map Digits.values, exponentText e ++ rest) := by
  rcases f with _ | d
  · have hpoint : ∀ t, exponentText e ++ rest ≠ '.' :: t := by
      intro t heq
      rcases e with _ | ⟨negative, d⟩
      · have hrest : rest = '.' :: t := heq
        exact (h '.' (by simp [hrest])).2.1 rfl
      · cases heq
    unfold Token.fraction?
    split
    · next t heq => exact absurd heq (hpoint t)
    · rfl
  · have hempty := d.isEmpty_values
    simp [fractionText, Token.fraction?, d.digits_append (endsDigits_exponentText h e), hempty]

lemma endsDigits_fractionText (h : EndsNumeral rest) (f : Option Digits) (e : Option (Bool × Digits)) :
    EndsDigits (fractionText f ++ (exponentText e ++ rest)) := by
  rcases f with _ | d
  · exact endsDigits_exponentText h e
  · exact endsDigits_cons (by decide) _

lemma minus_text (s : Spelling) (rest : Text) : Token.minus (s.text ++ rest) =
    (s.negative, s.whole.1 ++ (fractionText s.fraction ++ (exponentText s.exponent ++ rest))) := by
  obtain ⟨c, t, hwhole⟩ := List.exists_cons_of_ne_nil s.whole.2.1
  have hc : c ≠ '-' := by
    rintro rfl
    exact absurd (s.whole.2.2 '-' (by simp [hwhole])) (by decide)
  rcases hs : s.negative with _ | _
  · simp [text, hs, hwhole, Token.minus, hc]
  · simp [text, hs, Token.minus]

/-- **A numeral is read as it is spelt**, if what follows does not go on with it. -/
theorem numeral?_text (s : Spelling) (h : EndsNumeral rest) :
    Token.numeral? (s.text ++ rest) = some (s.numeral, rest) := by
  have hwhole := s.whole.digits_append (endsDigits_fractionText h s.fraction s.exponent)
  simp only [Token.numeral?, minus_text, hwhole]
  rw [if_neg s.unpadded.values, fraction?_text h, Option.bind_eq_bind, Option.bind_some,
    exponent?_text h]
  rfl

/-! ### Tokens -/

/-- Whether a character begins a numeral. -/
def Begins (c : Char) : Prop :=
  c.isDigit = true ∨ c = '-'

lemma Begins.ne {c : Char} (h : Begins c) {d : Char} (hd : d.isDigit = false) (hminus : d ≠ '-') :
    c ≠ d := by
  rintro rfl
  rcases h with h | h
  · exact absurd (hd.symm.trans h) (by decide)
  · exact hminus h

lemma Begins.isBlank {c : Char} (h : Begins c) : Token.isBlank c = false := by
  have hne : ∀ d : Char, d.isDigit = false → d ≠ '-' → c ≠ d := fun _ => h.ne
  simp [Token.isBlank, hne ' ' (by decide) (by decide), hne '\t' (by decide) (by decide),
    hne '\n' (by decide) (by decide), hne '\r' (by decide) (by decide)]

lemma Begins.next? {c : Char} (h : Begins c) (t : Text) :
    Token.next? (c :: t) = (Token.numeral? (c :: t)).map fun (n, rest) => (.numeral n, rest) := by
  have hne : ∀ d : Char, d.isDigit = false → d ≠ '-' → c ≠ d := fun _ => h.ne
  have hword : Token.word? (c :: t) = none := by
    simp [Token.word?, Text.after?, Ne.symm (hne 'n' (by decide) (by decide)),
      Ne.symm (hne 't' (by decide) (by decide)), Ne.symm (hne 'f' (by decide) (by decide))]
  unfold Token.next?
  split
  case h_8 => rw [hword]; rfl
  all_goals
    next heq => exact absurd (List.cons.inj heq).1 (hne _ (by decide) (by decide))

lemma exists_text_eq_cons (s : Spelling) : ∃ c t, s.text = c :: t ∧ Begins c := by
  obtain ⟨c, t, hwhole⟩ := List.exists_cons_of_ne_nil s.whole.2.1
  rcases hs : s.negative with _ | _
  · exact ⟨c, _, by simp [text, hs, hwhole]; rfl, .inl (s.whole.2.2 c (by simp [hwhole]))⟩
  · exact ⟨'-', _, by simp [text, hs]; rfl, .inr rfl⟩

/-- **A numeral is a token.** -/
theorem next?_text (s : Spelling) (h : EndsNumeral rest) :
    Token.next? (s.text ++ rest) = some (.numeral s.numeral, rest) := by
  have hnumeral := s.numeral?_text h
  obtain ⟨c, t, ht, hc⟩ := s.exists_text_eq_cons
  rw [ht, List.cons_append] at hnumeral ⊢
  rw [hc.next?, hnumeral]
  rfl

end Spelling

end Custodian.Json
