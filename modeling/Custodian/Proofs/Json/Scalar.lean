import Custodian.Json.Printer
import Custodian.Proofs.Json.Numeral
import Mathlib.Algebra.Group.Int.Defs
import Mathlib.Tactic.Common

/-!
# Reading numbers and strings that were written

Every number is written as some numeral (`Number.exists_text_eq_write`), an integer without point and
exponent. A string ends at its own closing quote.

* `Number.next?_write`: a number is read as its numeral, if what follows does not go on with it.
* `Number.ofNumeral?_integer`: the numeral of an integer of 64 bits is read as that integer.
* `Token.next?_quote`: a string in quotes is read as that string.
-/

namespace Custodian

namespace Binary64

lemma Interval.digits_ne_zero {i : Interval} {tries : Nat} {k : Int} {d : Decimal}
    (h : i.search tries k = some d) : d.digits ≠ 0 := by
  induction tries generalizing k with
  | zero => cases h
  | succ tries ih =>
    unfold Interval.search at h
    split at h
    · split at h
      · exact ih h
      · next hne =>
        cases h
        exact hne
    · exact ih h

/-- Only zero is written with the digit zero in front. -/
lemma shortest_cases (x : Binary64) : x.shortest.digits ≠ 0 ∨ x.shortest = ⟨0, 0⟩ := by
  unfold shortest
  split
  · exact .inr rfl
  · next h =>
    dsimp only
    cases hsearch : x.interval.search 24
        ((((x.significand.log2 : Int) + x.exponent) + 1) * 30103 / 100000 + 1) with
    | none => exact .inr rfl
    | some d => exact .inl (Interval.digits_ne_zero hsearch)

end Binary64

namespace Json

/-! ### Digits -/

/-- The values of the decimal digits of a natural number. -/
def decimals (n : Nat) : List Nat :=
  (Text.ofNat n).filterMap (Text.digit? 10)

lemma digit?_digitChar : ∀ d < 10, Text.digit? 10 (Nat.digitChar d) = some d := by
  decide

lemma isDigit_of_mem_ofNat {n : Nat} {c : Char} (h : c ∈ Text.ofNat n) : c.isDigit = true :=
  Nat.isDigit_of_mem_toDigits (by decide : 0 < 10) (by decide) h

lemma decimals_of_lt {n : Nat} (h : n < 10) : decimals n = [n] := by
  simp [decimals, Text.ofNat, Nat.toDigits_of_lt_base h, digit?_digitChar n h]

lemma decimals_of_le {n : Nat} (h : 10 ≤ n) : decimals n = decimals (n / 10) ++ [n % 10] := by
  have hlast := digit?_digitChar (n % 10) (Nat.mod_lt n (by decide))
  simp [decimals, Text.ofNat, Nat.toDigits_of_base_le (by decide : 1 < 10) h, hlast]

lemma ofDigits_decimals (n : Nat) : Text.ofDigits 10 (decimals n) = n := by
  induction n using Nat.strongRecOn with
  | ind n ih =>
    rcases Nat.lt_or_ge n 10 with hlt | hge
    · simp [decimals_of_lt hlt, Text.ofDigits]
    · have hrest := ih (n / 10) (by omega)
      rw [Text.ofDigits] at hrest
      rw [decimals_of_le hge, Text.ofDigits, List.foldl_append, hrest]
      simp only [List.foldl_cons, List.foldl_nil]
      omega

lemma mapM_digit?_ofNat (n : Nat) : (Text.ofNat n).mapM (Text.digit? 10) = some (decimals n) := by
  induction n using Nat.strongRecOn with
  | ind n ih =>
    rcases Nat.lt_or_ge n 10 with hlt | hge
    · simp [decimals_of_lt hlt, Text.ofNat, Nat.toDigits_of_lt_base hlt, digit?_digitChar n hlt]
    · have hrest := ih (n / 10) (by omega)
      have hlast := digit?_digitChar (n % 10) (Nat.mod_lt n (by decide))
      rw [Text.ofNat] at hrest
      rw [decimals_of_le hge, Text.ofNat, Nat.toDigits_of_base_le (by decide : 1 < 10) hge, List.mapM_append,
        hrest]
      simp [hlast]

lemma toNat?_ofNat (n : Nat) : Text.toNat? 10 (Text.ofNat n) = some n := by
  have hempty : (Text.ofNat n).isEmpty = false := List.isEmpty_eq_false_iff.2 Nat.toDigits_ne_nil
  rw [Text.toNat?, hempty, mapM_digit?_ofNat, if_neg Bool.false_ne_true, Option.map_some, ofDigits_decimals]

/-- Only zero is written with a zero in front. -/
lemma head?_ofNat {n : Nat} (h : n ≠ 0) : (Text.ofNat n).head? ≠ some '0' := by
  induction n using Nat.strongRecOn with
  | ind n ih =>
    rcases Nat.lt_or_ge n 10 with hlt | hge
    · intro h0
      have hdigit := digit?_digitChar n hlt
      rw [Text.ofNat, Nat.toDigits_of_lt_base hlt, List.head?_cons, Option.some_inj] at h0
      rw [h0] at hdigit
      exact h (Option.some_inj.1 hdigit).symm
    · have hrest := ih (n / 10) (by omega) (by omega)
      rw [Text.ofNat] at hrest ⊢
      rw [Nat.toDigits_of_base_le (by decide : 1 < 10) hge, List.head?_append]
      cases hd : Nat.toDigits 10 (n / 10) with
      | nil => exact absurd hd Nat.toDigits_ne_nil
      | cons c t => simpa [hd] using hrest

namespace Digits

/-- The digits of a natural number. -/
def ofNat (n : Nat) : Digits :=
  ⟨Text.ofNat n, Nat.toDigits_ne_nil, fun _ hc => isDigit_of_mem_ofNat hc⟩

lemma values_ofNat (n : Nat) : (ofNat n).values = decimals n :=
  rfl

lemma isUnpadded_ofNat (n : Nat) : (ofNat n).IsUnpadded := by
  intro hzero
  have hn : n = 0 := by_contra fun hn => head?_ofNat hn hzero
  subst hn
  rfl

lemma isDigit_of_mem_zeros {n : Nat} {c : Char} (h : c ∈ List.replicate n '0') : c.isDigit = true := by
  rw [List.eq_of_mem_replicate h]
  rfl

variable (d : Digits)

/-- The digits with zeros in front. -/
def padded (n : Nat) : Digits :=
  ⟨List.replicate n '0' ++ d.1, List.append_ne_nil_of_right_ne_nil _ d.2.1,
    fun c hc => (List.mem_append.1 hc).elim isDigit_of_mem_zeros (d.2.2 c)⟩

/-- The digits with zeros behind. -/
def shifted (n : Nat) : Digits :=
  ⟨d.1 ++ List.replicate n '0', List.append_ne_nil_of_left_ne_nil d.2.1 _,
    fun c hc => (List.mem_append.1 hc).elim (d.2.2 c) isDigit_of_mem_zeros⟩

/-- The first digits. -/
def take (n : Nat) : Digits :=
  ⟨d.1.take (n + 1), by simpa using d.2.1, fun c hc => d.2.2 c (List.mem_of_mem_take hc)⟩

/-- The digits after the first ones. -/
def drop (n : Nat) (h : n < d.1.length) : Digits :=
  ⟨d.1.drop n, by simpa using h, fun c hc => d.2.2 c (List.mem_of_mem_drop hc)⟩

variable {d}

lemma isUnpadded_shifted (h : d.1.head? ≠ some '0') (n : Nat) : (d.shifted n).IsUnpadded := by
  obtain ⟨c, t, hd⟩ := List.exists_cons_of_ne_nil d.2.1
  intro hzero
  refine absurd ?_ h
  simpa [shifted, hd] using hzero

lemma isUnpadded_take (h : d.1.head? ≠ some '0') (n : Nat) : (d.take n).IsUnpadded := by
  obtain ⟨c, t, hd⟩ := List.exists_cons_of_ne_nil d.2.1
  intro hzero
  refine absurd ?_ h
  simpa [take, hd] using hzero

end Digits

/-! ### Numbers -/

namespace Spelling

/-- How an integer is spelt. -/
def ofInt : Int → Spelling
  | .ofNat n => ⟨false, .ofNat n, Digits.isUnpadded_ofNat n, none, none⟩
  | .negSucc n => ⟨true, .ofNat (n + 1), Digits.isUnpadded_ofNat (n + 1), none, none⟩

lemma text_ofInt (n : Int) : (ofInt n).text = Text.ofInt n := by
  cases n <;> simp [ofInt, text, fractionText, exponentText, Digits.ofNat, Text.ofInt]

variable {d : Digits}

/-- A decimal that does not begin with zero is a numeral without a sign. -/
lemma exists_text_eq_writeDecimal (h : d.1.head? ≠ some '0') (power : Int) :
    ∃ s : Spelling, s.negative = false ∧ s.text = Number.writeDecimal d.1 power := by
  unfold Number.writeDecimal
  split
  · split
    · next n _ =>
      split
      · next hlong =>
        exact ⟨⟨false, d.take n, Digits.isUnpadded_take h n, some (d.drop (n + 1) hlong), none⟩, rfl,
          by simp [text, fractionText, exponentText, Digits.take, Digits.drop]⟩
      · exact ⟨⟨false, d.shifted (n + 1 - d.1.length), Digits.isUnpadded_shifted h _,
          some (.ofNat 0), none⟩, rfl,
          by simp [text, fractionText, exponentText, Digits.shifted, Digits.ofNat, Text.ofNat]⟩
    · next n _ =>
      exact ⟨⟨false, .ofNat 0, Digits.isUnpadded_ofNat 0, some (d.padded n), none⟩, rfl,
        by simp [text, fractionText, exponentText, Digits.padded, Digits.ofNat, Text.ofNat]⟩
  · by_cases hshort : d.1.length ≤ 1
    · exact ⟨⟨false, d.take 0, Digits.isUnpadded_take h 0, none,
        some (decide (power < 0), .ofNat power.natAbs)⟩, rfl,
        by simp [text, fractionText, exponentText, Digits.take, Digits.ofNat, hshort]⟩
    · exact ⟨⟨false, d.take 0, Digits.isUnpadded_take h 0, some (d.drop 1 (by omega)),
        some (decide (power < 0), .ofNat power.natAbs)⟩, rfl,
        by simp [text, fractionText, exponentText, Digits.take, Digits.drop, Digits.ofNat, hshort]⟩

end Spelling

/-- Whether an integer is one of 64 bits, with or without a sign. -/
def IsInteger64 (n : Int) : Prop :=
  -2 ^ 63 ≤ n ∧ n < 2 ^ 64

namespace Number

/-- A double is written as a numeral without a sign, behind its own sign. -/
lemma exists_sign_append (x : Binary64) : ∃ s : Spelling, s.negative = false ∧
    writeDouble x = (if x.negative then ['-'] else []) ++ s.text := by
  have hzero : ∃ s : Spelling, s.negative = false ∧ s.text = ['0', '.', '0'] :=
    ⟨⟨false, .ofNat 0, Digits.isUnpadded_ofNat 0, some (.ofNat 0), none⟩, rfl, rfl⟩
  by_cases hx : x.isZero = true
  · obtain ⟨s, hs, htext⟩ := hzero
    exact ⟨s, hs, by rw [writeDouble, if_pos hx, htext]⟩
  · rw [writeDouble, if_neg hx]
    rcases Binary64.shortest_cases x with hne | hzeros
    · obtain ⟨s, hs, htext⟩ := Spelling.exists_text_eq_writeDecimal
        (d := .ofNat x.shortest.digits) (head?_ofNat hne)
        (x.shortest.exponent + (Text.ofNat x.shortest.digits).length - 1)
      exact ⟨s, hs, by rw [htext]; rfl⟩
    · obtain ⟨s, hs, htext⟩ := hzero
      exact ⟨s, hs, by rw [htext, hzeros]; rfl⟩

/-- **Every number is written as a numeral.** -/
theorem exists_text_eq_write (n : Number) : ∃ s : Spelling, s.text = n.write := by
  cases n with
  | integer n => exact ⟨.ofInt n, Spelling.text_ofInt n⟩
  | double x =>
    obtain ⟨s, hs, htext⟩ := exists_sign_append x
    refine ⟨{ s with negative := x.negative }, ?_⟩
    rw [write, htext]
    simp [Spelling.text, hs]

/-- The numeral that a number is written as. -/
def numeral (n : Number) : Numeral :=
  ((Token.numeral? n.write).map (·.1)).getD ⟨false, [0], none, none⟩

lemma numeral_eq {n : Number} {s : Spelling} (h : s.text = n.write) : n.numeral = s.numeral := by
  have hread := s.numeral?_text endsNumeral_nil
  rw [List.append_nil, h] at hread
  rw [numeral, hread]
  rfl

/-- A number is read as its numeral. -/
theorem next?_write (n : Number) {rest : Text} (h : EndsNumeral rest) :
    Token.next? (n.write ++ rest) = some (.numeral n.numeral, rest) := by
  obtain ⟨s, hs⟩ := n.exists_text_eq_write
  rw [← hs, numeral_eq hs, s.next?_text h]

lemma exists_write_eq_cons (n : Number) : ∃ c t, n.write = c :: t ∧ Spelling.Begins c := by
  obtain ⟨s, hs⟩ := n.exists_text_eq_write
  exact hs ▸ s.exists_text_eq_cons

/-- An integer of 64 bits is read back. -/
theorem ofNumeral?_integer {n : Int} (h : IsInteger64 n) :
    ofNumeral? (integer n).numeral = some (.integer n) := by
  obtain ⟨low, high⟩ := h
  rw [numeral_eq (Spelling.text_ofInt n)]
  have hinteger : (Spelling.ofInt n).numeral.toInteger? = some n := by
    cases n with
    | ofNat n =>
      have hn : n < Numeral.limit := Int.ofNat_lt.1 high
      simp [Spelling.ofInt, Spelling.numeral, Digits.values_ofNat, Numeral.toInteger?, ofDigits_decimals, hn]
    | negSucc n =>
      have hn : n + 1 ≤ Nat.pow 2 63 := by
        have hpow : Nat.pow 2 63 = 2 ^ 63 := rfl
        omega
      simp only [Spelling.ofInt, Spelling.numeral, Digits.values_ofNat, Numeral.toInteger?, ofDigits_decimals]
      rw [if_neg (by simp), if_pos trivial, if_pos ⟨Nat.succ_pos n, hn⟩]
      rfl
  rw [ofNumeral?, hinteger]

end Number

/-! ### Strings -/

namespace Token

variable {rest : Text}

/-- Four hexadecimal digits of a character below U+0020. -/
lemma toNat?_escape : ∀ n < 0x20,
    Text.toNat? 16 ['0', '0', Nat.digitChar (n / 16), Nat.digitChar (n % 16)] = some n := by
  decide

section Pieces

variable {t : Text} {ps : List Piece} (h : pieces? t = some (ps, rest))

include h

lemma pieces?_letter {e c : Char} (hc : escaped? e = some c) (hu : e ≠ 'u') :
    pieces? ('\\' :: e :: t) = some (.char c :: ps, rest) := by
  simp [pieces?, hc, hu, h]

lemma pieces?_unit {a b c d : Char} {n : Nat} (hn : Text.toNat? 16 [a, b, c, d] = some n) :
    pieces? ('\\' :: 'u' :: a :: b :: c :: d :: t) = some (.unit n :: ps, rest) := by
  simp [pieces?, hn, h]

lemma pieces?_plain {c : Char} (quote : c ≠ '"') (backslash : c ≠ '\\') (control : ¬c.toNat < 0x20) :
    pieces? (c :: t) = some (.char c :: ps, rest) := by
  rw [pieces?.eq_def]
  split
  · next heq => cases heq
  · next heq => exact absurd (List.cons.inj heq).1 quote
  · next heq => exact absurd (List.cons.inj heq).1 backslash
  · next heq => exact absurd (List.cons.inj heq).1 backslash
  · next heq =>
    cases heq
    rw [if_neg (by simp [control, backslash]), h]
    rfl

lemma pieces?_escapeChar (c : Char) :
    ∃ piece, pieces? (escapeChar c ++ t) = some (piece :: ps, rest) ∧
      joinPieces? (piece :: ps) = (joinPieces? ps).map (c :: ·) := by
  unfold escapeChar
  iterate 7
    split
    · next hc => exact ⟨.char c, pieces?_letter h (by subst hc; rfl) (by decide), rfl⟩
  split
  · next hcontrol =>
    refine ⟨.unit c.toNat, pieces?_unit h (toNat?_escape _ hcontrol), ?_⟩
    have hhigh : isHigh c.toNat = false := by
      rw [isHigh, decide_eq_false (by omega), Bool.false_and]
    have hlow : isLow c.toNat = false := by
      rw [isLow, decide_eq_false (by omega), Bool.false_and]
    rw [joinPieces?.eq_def]
    simp only [hhigh, hlow, Char.ofNat_toNat]
    rfl
  · next hquote hbackslash _ _ _ _ _ hcontrol =>
    exact ⟨.char c, pieces?_plain h hquote hbackslash hcontrol, rfl⟩

end Pieces

lemma pieces?_escape (t rest : Text) :
    ∃ ps, pieces? (t.flatMap escapeChar ++ '"' :: rest) = some (ps, rest) ∧
      joinPieces? ps = some t := by
  induction t with
  | nil => exact ⟨[], by simp [pieces?], rfl⟩
  | cons c t ih =>
    obtain ⟨ps, hread, hjoin⟩ := ih
    obtain ⟨piece, hpiece, hchar⟩ := pieces?_escapeChar hread c
    refine ⟨piece :: ps, ?_, ?_⟩
    · rw [List.flatMap_cons, List.append_assoc, hpiece]
    · rw [hchar, hjoin]
      rfl

/-- **A string is read** up to its closing quote. -/
theorem next?_quote (t rest : Text) : next? (quote t ++ rest) = some (.string (some t), rest) := by
  obtain ⟨ps, hread, hjoin⟩ := pieces?_escape t rest
  have hquote : quote t ++ rest = '"' :: (t.flatMap escapeChar ++ '"' :: rest) := by
    simp [quote]
  rw [hquote]
  simp only [next?, hread, Option.map_some, hjoin]

end Token

end Json

end Custodian
