import Custodian.Text.Utf8
import Mathlib.Tactic.Common

/-!
# Decoding what was encoded

The bytes of a character take the decoder from between two characters back there, and it reads just that
character. So a text is read back as it was encoded (`decode?_encode`). Texts and their bytes have the same
order (`encode_lt_iff`).
-/

namespace Custodian.Utf8

lemma toNat_toUInt8 {n : Nat} (h : n < 256) : n.toUInt8.toNat = n := by
  simpa [Nat.toUInt8] using Nat.mod_eq_of_lt h

/-! ### Sizes -/

lemma encodeChar_ne_nil (c : Char) : encodeChar c ≠ [] := by
  unfold encodeChar
  dsimp only
  split_ifs <;> exact List.cons_ne_nil _ _

lemma length_encodeChar_pos (c : Char) : 0 < (encodeChar c).length :=
  List.length_pos_iff.2 (encodeChar_ne_nil c)

lemma size_append (t u : Text) : size (t ++ u) = size t + size u := by
  rw [size, encode, List.flatMap_append, List.length_append]
  rfl

lemma size_cons (c : Char) (t : Text) : size (c :: t) = (encodeChar c).length + size t := by
  rw [size, encode, List.flatMap_cons, List.length_append]
  rfl

/-! ### Bytes of one character -/

section Bytes

variable {b value left least greatest : Nat} (bytes : Bytes)

lemma items_last (h : b < 256) (low : least ≤ b) (high : b ≤ greatest) :
    items (some ⟨value, 0, least, greatest⟩) (b.toUInt8 :: bytes) =
      some (Char.ofNat (value * 64 + b % 64)) :: items none bytes := by
  simp [items, step, toNat_toUInt8 h, low, high]

/-- A byte of a character after which others follow. -/
lemma items_next (h : b < 256) (low : least ≤ b) (high : b ≤ greatest) :
    items (some ⟨value, left + 1, least, greatest⟩) (b.toUInt8 :: bytes) =
      items (some ⟨value * 64 + b % 64, left, 0x80, 0xBF⟩) bytes := by
  simp [items, step, toNat_toUInt8 h, low, high]

lemma items_single (h : b < 0x80) :
    items none (b.toUInt8 :: bytes) = some (Char.ofNat b) :: items none bytes := by
  simp [items, step, start, toNat_toUInt8 (Nat.lt_trans h (by decide : 0x80 < 256)), h]

lemma items_lead_two (low : 0xC2 ≤ b) (high : b ≤ 0xDF) :
    items none (b.toUInt8 :: bytes) = items (some ⟨b - 0xC0, 0, 0x80, 0xBF⟩) bytes := by
  have hb : b.toUInt8.toNat = b := toNat_toUInt8 (by omega)
  simp only [items, step, start, hb]
  rw [if_neg (by omega), if_pos ⟨low, high⟩]
  rfl

/-- The least byte that may follow the first of three bytes. -/
def leastAfter (lead : Nat) : Nat :=
  if lead = 0xE0 then 0xA0 else if lead = 0xF0 then 0x90 else 0x80

/-- The greatest byte that may follow the first of three or four bytes. -/
def greatestAfter (lead : Nat) : Nat :=
  if lead = 0xED then 0x9F else if lead = 0xF4 then 0x8F else 0xBF

lemma items_lead_three (low : 0xE0 ≤ b) (high : b ≤ 0xEF) :
    items none (b.toUInt8 :: bytes) =
      items (some ⟨b - 0xE0, 1, leastAfter b, greatestAfter b⟩) bytes := by
  have hb : b.toUInt8.toNat = b := toNat_toUInt8 (by omega)
  simp only [items, step, start, hb]
  rw [if_neg (by omega), if_neg (by omega)]
  by_cases hfirst : b = 0xE0
  · subst hfirst
    rfl
  by_cases hsurrogate : b = 0xED
  · subst hsurrogate
    rfl
  rw [if_neg hfirst, if_neg hsurrogate, if_pos (by omega)]
  have hleast : leastAfter b = 0x80 := by
    rw [leastAfter, if_neg hfirst, if_neg (by omega)]
  have hgreatest : greatestAfter b = 0xBF := by
    rw [greatestAfter, if_neg hsurrogate, if_neg (by omega)]
  rw [hleast, hgreatest]
  rfl

lemma items_lead_four (low : 0xF0 ≤ b) (high : b ≤ 0xF4) :
    items none (b.toUInt8 :: bytes) =
      items (some ⟨b - 0xF0, 2, leastAfter b, greatestAfter b⟩) bytes := by
  have hb : b.toUInt8.toNat = b := toNat_toUInt8 (by omega)
  simp only [items, step, start, hb]
  rw [if_neg (by omega), if_neg (by omega), if_neg (by omega), if_neg (by omega), if_neg (by omega)]
  by_cases hfirst : b = 0xF0
  · subst hfirst
    rfl
  by_cases hlast : b = 0xF4
  · subst hlast
    rfl
  rw [if_neg hfirst, if_pos (by omega)]
  have hleast : leastAfter b = 0x80 := by
    rw [leastAfter, if_neg (by omega), if_neg hfirst]
  have hgreatest : greatestAfter b = 0xBF := by
    rw [greatestAfter, if_neg (by omega), if_neg hlast]
  rw [hleast, hgreatest]
  rfl

end Bytes

/-! ### Characters and texts -/

/-- The code points of characters are below the surrogates or between them and the end. -/
lemma toNat_ranges (c : Char) : c.toNat < 0xD800 ∨ 0xE000 ≤ c.toNat ∧ c.toNat < 0x110000 := by
  rcases c.valid with h | ⟨low, high⟩
  · exact .inl h
  · exact .inr ⟨Nat.succ_le_of_lt low, high⟩

/-- A character is read from its bytes, whatever follows them. -/
lemma items_encodeChar (c : Char) (bytes : Bytes) :
    items none (encodeChar c ++ bytes) = some c :: items none bytes := by
  have hranges := toNat_ranges c
  have hc : Char.ofNat c.toNat = c := Char.ofNat_toNat c
  unfold encodeChar
  generalize hn : c.toNat = n at hranges hc
  dsimp only
  split
  · next h => rw [List.singleton_append, items_single _ h, hc]
  split
  · next h0 h =>
    rw [List.cons_append, List.singleton_append, items_lead_two _ (by omega) (by omega),
      items_last _ (by omega) (by omega) (by omega)]
    have hvalue : (0xC0 + n / 64 - 0xC0) * 64 + (0x80 + n % 64) % 64 = n := by omega
    rw [hvalue, hc]
  split
  · next h0 h1 h =>
    have hleast : leastAfter (0xE0 + n / 4096) ≤ 0x80 + n / 64 % 64 := by
      unfold leastAfter
      split
      · omega
      · split <;> omega
    have hgreatest : 0x80 + n / 64 % 64 ≤ greatestAfter (0xE0 + n / 4096) := by
      unfold greatestAfter
      split
      · omega
      · split <;> omega
    rw [List.cons_append, List.cons_append, List.singleton_append,
      items_lead_three _ (by omega) (by omega), items_next _ (by omega) hleast hgreatest,
      items_last _ (by omega) (by omega) (by omega)]
    have hvalue : ((0xE0 + n / 4096 - 0xE0) * 64 + (0x80 + n / 64 % 64) % 64) * 64 +
        (0x80 + n % 64) % 64 = n := by omega
    rw [hvalue, hc]
  · next h0 h1 h2 =>
    have hleast : leastAfter (0xF0 + n / 262144) ≤ 0x80 + n / 4096 % 64 := by
      unfold leastAfter
      split
      · omega
      · split <;> omega
    have hgreatest : 0x80 + n / 4096 % 64 ≤ greatestAfter (0xF0 + n / 262144) := by
      unfold greatestAfter
      split
      · omega
      · split <;> omega
    rw [List.cons_append, List.cons_append, List.cons_append, List.singleton_append,
      items_lead_four _ (by omega) (by omega), items_next _ (by omega) hleast hgreatest,
      items_next _ (by omega) (by omega) (by omega), items_last _ (by omega) (by omega) (by omega)]
    have hvalue : (((0xF0 + n / 262144 - 0xF0) * 64 + (0x80 + n / 4096 % 64) % 64) * 64 +
        (0x80 + n / 64 % 64) % 64) * 64 + (0x80 + n % 64) % 64 = n := by omega
    rw [hvalue, hc]

lemma items_encode (t : Text) : items none (encode t) = t.map some := by
  induction t with
  | nil => rfl
  | cons c t ih =>
    have hencode : encode (c :: t) = encodeChar c ++ encode t := rfl
    rw [hencode, items_encodeChar, ih, List.map_cons]

/-- **A text is read back** from its bytes. -/
theorem decode?_encode (t : Text) : decode? (encode t) = some t := by
  rw [decode?, items_encode]
  induction t with
  | nil => rfl
  | cons c t ih => simp [List.mapM_cons, ih]

lemma decodeForgiving_encode (t : Text) : decodeForgiving (encode t) = t := by
  rw [decodeForgiving, items_encode, List.map_map]
  exact List.map_id t

lemma encode_injective : Function.Injective encode := by
  intro t t' h
  have hdecode := congrArg decode? h
  rw [decode?_encode, decode?_encode] at hdecode
  exact Option.some.inj hdecode

/-! ### Order -/

section Order

variable {m n : Nat} {s t : Bytes}

lemma cons_lt_of_lt (h : m < n) (hn : n < 256) : m.toUInt8 :: s < n.toUInt8 :: t := by
  refine List.cons_lt_cons_iff.2 (.inl ?_)
  rw [UInt8.lt_iff_toNat_lt, toNat_toUInt8 (Nat.lt_trans h hn), toNat_toUInt8 hn]
  exact h

lemma cons_lt_of_eq (h : m = n) (ht : s < t) : m.toUInt8 :: s < n.toUInt8 :: t :=
  List.cons_lt_cons_iff.2 (.inr ⟨congrArg _ h, ht⟩)

/-- The bytes of a smaller character come before those of a greater one, whatever follows them. -/
lemma encodeChar_append_lt {c d : Char} (h : c < d) (s t : Bytes) :
    encodeChar c ++ s < encodeChar d ++ t := by
  have hlt : c.toNat < d.toNat := h
  have hd := toNat_ranges d
  unfold encodeChar
  generalize c.toNat = m at *
  generalize d.toNat = n at *
  dsimp only
  -- the greater character has as many bytes or more; if it has more, its first byte is greater
  split_ifs <;> try omega
  all_goals simp only [List.cons_append, List.nil_append]
  · exact cons_lt_of_lt hlt (by omega)
  · exact cons_lt_of_lt (by omega) (by omega)
  · exact cons_lt_of_lt (by omega) (by omega)
  · exact cons_lt_of_lt (by omega) (by omega)
  · rcases Nat.lt_or_ge (m / 64) (n / 64) with h1 | h1
    · exact cons_lt_of_lt (by omega) (by omega)
    · exact cons_lt_of_eq (by omega) (cons_lt_of_lt (by omega) (by omega))
  · exact cons_lt_of_lt (by omega) (by omega)
  · exact cons_lt_of_lt (by omega) (by omega)
  · rcases Nat.lt_or_ge (m / 4096) (n / 4096) with h1 | h1
    · exact cons_lt_of_lt (by omega) (by omega)
    refine cons_lt_of_eq (by omega) ?_
    rcases Nat.lt_or_ge (m / 64) (n / 64) with h2 | h2
    · exact cons_lt_of_lt (by omega) (by omega)
    · exact cons_lt_of_eq (by omega) (cons_lt_of_lt (by omega) (by omega))
  · exact cons_lt_of_lt (by omega) (by omega)
  · rcases Nat.lt_or_ge (m / 262144) (n / 262144) with h1 | h1
    · exact cons_lt_of_lt (by omega) (by omega)
    refine cons_lt_of_eq (by omega) ?_
    rcases Nat.lt_or_ge (m / 4096) (n / 4096) with h2 | h2
    · exact cons_lt_of_lt (by omega) (by omega)
    refine cons_lt_of_eq (by omega) ?_
    rcases Nat.lt_or_ge (m / 64) (n / 64) with h3 | h3
    · exact cons_lt_of_lt (by omega) (by omega)
    · exact cons_lt_of_eq (by omega) (cons_lt_of_lt (by omega) (by omega))

end Order

lemma append_lt_append_iff (bytes : Bytes) {s t : Bytes} : bytes ++ s < bytes ++ t ↔ s < t := by
  induction bytes with
  | nil => rfl
  | cons b bytes ih =>
    rw [List.cons_append, List.cons_append, List.cons_lt_cons_iff, ih]
    simp

/-- A smaller text has smaller bytes. -/
lemma encode_lt_of_lt {t u : Text} (h : t < u) : encode t < encode u := by
  induction t generalizing u with
  | nil =>
    cases u with
    | nil => cases h
    | cons d u =>
      obtain ⟨b, bytes, hbytes⟩ := List.exists_cons_of_ne_nil (encodeChar_ne_nil d)
      rw [encode, encode, List.flatMap_nil, List.flatMap_cons, hbytes]
      exact List.nil_lt_cons _ _
  | cons c t ih =>
    cases u with
    | nil => cases h
    | cons d u =>
      rw [encode, encode, List.flatMap_cons, List.flatMap_cons]
      rcases List.cons_lt_cons_iff.1 h with hcd | ⟨rfl, htu⟩
      · exact encodeChar_append_lt hcd _ _
      · exact (append_lt_append_iff _).2 (ih htu)

/-- **Texts are ordered as their bytes are.** -/
theorem encode_lt_iff {t u : Text} : encode t < encode u ↔ t < u := by
  refine ⟨?_, encode_lt_of_lt⟩
  intro h
  by_contra hlt
  rcases List.le_iff_lt_or_eq.1 (List.not_lt.1 hlt) with hut | rfl
  · exact List.lt_asymm h (encode_lt_of_lt hut)
  · exact List.lt_irrefl _ h

end Custodian.Utf8
