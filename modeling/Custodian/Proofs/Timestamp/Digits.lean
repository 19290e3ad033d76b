import Custodian.Proofs.Json.Scalar
import Custodian.Timestamp.Reader
import Mathlib.Data.Nat.Digits.Defs

/-!
# The numbers of a timestamp

A number in a timestamp is written with a fixed number of digits, zeros in front. A reader that takes so many
digits reads it back whatever follows; one that takes any number of digits reads it back if no digit follows.
Digits are no blanks, so blanks that a reader skips make no difference.

* `number?_padNat`, `number?_padNat_open`: numbers are read back.
* `easyNumber?_padNat`: also where fewer digits would do.
-/

namespace Custodian

open Json (EndsDigits)

/-! ### Padded numbers -/

namespace Text

variable {width n : Nat}

lemma isDigit_of_mem_padNat {c : Char} (h : c ∈ padNat width n) : c.isDigit = true := by
  rcases List.mem_append.1 h with zero | digit
  · exact Json.Digits.isDigit_of_mem_zeros zero
  · exact Json.isDigit_of_mem_ofNat digit

lemma le_length_padNat (width n : Nat) : width ≤ (padNat width n).length := by
  simp only [padNat, List.length_append, List.length_replicate]
  omega

lemma length_padNat (positive : 0 < width) (h : n < 10 ^ width) : (padNat width n).length = width := by
  have hlength : (ofNat n).length ≤ width := Nat.toDigits_length 10 n width positive h
  simp only [padNat, List.length_append, List.length_replicate]
  omega

lemma toNat?_zero_cons {t : Text} (h : t ≠ []) : toNat? 10 ('0' :: t) = toNat? 10 t := by
  have hzero : digit? 10 '0' = some 0 := rfl
  have hempty : t.isEmpty = false := List.isEmpty_eq_false_iff.2 h
  rw [toNat?, toNat?, hempty, List.mapM_cons, hzero]
  rcases t.mapM (digit? 10) with _ | ds <;> rfl

lemma toNat?_padNat (width n : Nat) : toNat? 10 (padNat width n) = some n := by
  have hzeros : ∀ k, toNat? 10 (List.replicate k '0' ++ ofNat n) = some n := by
    intro k
    induction k with
    | zero => exact Json.toNat?_ofNat n
    | succ k ih =>
      have hne : List.replicate k '0' ++ ofNat n ≠ [] :=
        fun h => Nat.toDigits_ne_nil (List.append_eq_nil_iff.1 h).2
      rw [List.replicate_succ, List.cons_append, toNat?_zero_cons hne, ih]
  exact hzeros _

/-- A padded number begins with a digit. -/
lemma exists_padNat_eq_cons (positive : 0 < width) (n : Nat) :
    ∃ c t, padNat width n = c :: t ∧ c.isDigit = true := by
  have hlength := le_length_padNat width n
  rcases h : padNat width n with _ | ⟨c, t⟩
  · rw [h] at hlength
    exact absurd positive (Nat.not_lt.2 hlength)
  · exact ⟨c, t, rfl, isDigit_of_mem_padNat (h ▸ List.mem_cons_self)⟩

/-! ### Blanks in front -/

lemma isBlank_of_isDigit {c : Char} (h : c.isDigit = true) : isBlank c = false := by
  simp only [Char.isDigit, ge_iff_le, Bool.and_eq_true, decide_eq_true_eq] at h
  have low : 48 ≤ c.toNat := h.1
  have high : c.toNat ≤ 57 := h.2
  simp only [isBlank, Bool.or_eq_false_iff, Bool.and_eq_false_iff, decide_eq_false_iff_not, beq_eq_false_iff_ne]
  omega

lemma trimBlanksStart_cons {c : Char} (h : isBlank c = false) (t : Text) :
    trimBlanksStart (c :: t) = c :: t :=
  List.dropWhile_cons_of_neg (by simp [h])

lemma trimBlanksStart_padNat (positive : 0 < width) (n : Nat) (rest : Text) :
    trimBlanksStart (padNat width n ++ rest) = padNat width n ++ rest := by
  obtain ⟨c, t, ht, digit⟩ := exists_padNat_eq_cons positive n
  rw [ht, List.cons_append, trimBlanksStart_cons (isBlank_of_isDigit digit)]

end Text

/-! ### Reading digits -/

namespace Timestamp

variable {least most width n : Nat} {rest : Text}

lemma takeWhile_isDigit (ends : EndsDigits rest) : rest.takeWhile Char.isDigit = [] := by
  rcases rest with _ | ⟨c, rest⟩
  · rfl
  · exact List.takeWhile_cons_of_neg (by simp [ends c rfl])

lemma dropWhile_isDigit (ends : EndsDigits rest) : rest.dropWhile Char.isDigit = rest := by
  rcases rest with _ | ⟨c, rest⟩
  · rfl
  · exact List.dropWhile_cons_of_neg (by simp [ends c rfl])

/-- Digits are read up to their end, be it that no more are wanted or that there are no more. -/
lemma digits?_append {ds : Text} (digits : ∀ c ∈ ds, c.isDigit = true) (enough : least ≤ ds.length)
    (ends : ds.length = most ∨ ds.length ≤ most ∧ EndsDigits rest) :
    digits? least most (ds ++ rest) = some (ds, rest) := by
  have hmost : ds.length ≤ most := by
    rcases ends with full | ⟨few, -⟩
    · exact full.le
    · exact few
  have hends : (rest.take (most - ds.length)).takeWhile Char.isDigit = [] := by
    rcases ends with full | ⟨-, stop⟩
    · rw [full, Nat.sub_self, List.take_zero]
      rfl
    · rcases rest with _ | ⟨c, rest⟩
      · simp
      · cases most - ds.length <;> simp [stop c rfl]
  have htaken : ((ds ++ rest).take most).takeWhile Char.isDigit = ds := by
    rw [List.take_append, List.take_of_length_le hmost, List.takeWhile_append_of_pos digits, hends,
      List.append_nil]
  rw [digits?, htaken]
  simp [Nat.not_lt.2 enough]

lemma number?_append {ds : Text} (digits : ∀ c ∈ ds, c.isDigit = true) (value : Text.toNat? 10 ds = some n)
    (enough : least ≤ ds.length) (ends : ds.length = most ∨ ds.length ≤ most ∧ EndsDigits rest) :
    number? least most (ds ++ rest) = some (n, rest) := by
  rw [number?, digits?_append digits enough ends]
  dsimp only [Option.bind_eq_bind, Option.bind_some]
  rw [value]
  rfl

/-- **A number is read back** by a reader of its number of digits. -/
lemma number?_padNat (positive : 0 < width) (h : n < 10 ^ width) (fewer : least ≤ width) (rest : Text) :
    number? least width (Text.padNat width n ++ rest) = some (n, rest) := by
  have hlength := Text.length_padNat positive h
  refine number?_append (fun c => Text.isDigit_of_mem_padNat) (Text.toNat?_padNat width n) ?_ (.inl hlength)
  rw [hlength]
  exact fewer

/-- A number is read back by a reader of any number of digits if no digit follows. -/
lemma number?_padNat_open (positive : 0 < width) (ends : EndsDigits rest) :
    number? 1 (Text.padNat width n ++ rest).length (Text.padNat width n ++ rest) = some (n, rest) := by
  have hlength := Text.le_length_padNat width n
  refine number?_append (fun c => Text.isDigit_of_mem_padNat) (Text.toNat?_padNat width n) (by omega)
    (.inr ⟨?_, ends⟩)
  rw [List.length_append]
  exact Nat.le_add_right _ _

/-- A number of two digits is read back where fewer digits and blanks in front would do. -/
lemma easyNumber?_padNat (h : n < 100) (rest : Text) :
    easyNumber? (Text.padNat 2 n ++ rest) = some (n, rest) := by
  rw [easyNumber?, Text.trimBlanksStart_padNat (by decide)]
  exact number?_padNat (by decide) h (by decide) rest

/-- No number begins with a character that is neither a digit nor blank. -/
lemma number?_cons_of_not_digit {c : Char} (h : c.isDigit = false) (t : Text) (positive : 0 < least) :
    number? least most (c :: t) = none := by
  have hnone : ((c :: t).take most).takeWhile Char.isDigit = [] := by
    cases most <;> simp [h]
  rw [number?, digits?, hnone]
  simp [positive]

end Timestamp

end Custodian
