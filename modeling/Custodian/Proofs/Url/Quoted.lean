import Custodian.Proofs.Url.Plain

/-!
# What becomes of a quoted path

A quoted path can be read back: a plus sign stands for a space and an escape for a byte (`unquote?_quote`).
It is written with unreserved characters, plus signs, slashes and escapes only (`isQuoted_quote`), and its
segments are the quoted segments of the path (`splitOn_quote`). Quoting can be done in stages, segment by
segment and the spaces last; no escape but that of a space is taken for one (`quote_eq_staged`).

Under a route a quoted path without segments of dots is sent as it is (`wire?_quote`).
-/

namespace Custodian.Url

/-! ### Bytes of characters -/

/-- A byte of the ASCII range belongs to the character that it is. -/
lemma toNat_of_mem_encodeChar {c : Char} {b : UInt8} (h : b ∈ Utf8.encodeChar c) (ascii : b.toNat < 0x80) :
    c.toNat = b.toNat := by
  have htail : ∀ {n m : Nat}, 0x80 ≤ n → n < 256 → b = n.toUInt8 → m = b.toNat := by
    rintro n m low high rfl
    rw [Utf8.toNat_toUInt8 high] at ascii
    omega
  have hrange := Utf8.toNat_ranges c
  unfold Utf8.encodeChar at h
  dsimp only at h
  split_ifs at h with one two three
  · obtain rfl := List.mem_singleton.1 h
    exact (Utf8.toNat_toUInt8 (by omega)).symm
  · simp only [List.mem_cons, List.not_mem_nil, or_false] at h
    rcases h with h | h <;> exact htail (by omega) (by omega) h
  · simp only [List.mem_cons, List.not_mem_nil, or_false] at h
    rcases h with h | h | h <;> exact htail (by omega) (by omega) h
  · simp only [List.mem_cons, List.not_mem_nil, or_false] at h
    rcases h with h | h | h | h <;> exact htail (by omega) (by omega) h

lemma ne_of_mem_encodeChar {c d : Char} (hne : c ≠ d) (ascii : d.toNat < 0x80) {b : UInt8}
    (h : b ∈ Utf8.encodeChar c) : b.toNat ≠ d.toNat := by
  intro heq
  apply hne
  have hsame : c.toNat = d.toNat := (toNat_of_mem_encodeChar h (heq ▸ ascii)).trans heq
  exact Char.toNat_inj.1 hsame

/-! ### Writing -/

@[simp]
lemma quote_nil : quote [] = [] := rfl

lemma quote_cons (c : Char) (path : Text) : quote (c :: path) = quoteChar c ++ quote path :=
  List.flatMap_cons

@[simp]
lemma quote_append (path more : Text) : quote (path ++ more) = quote path ++ quote more :=
  List.flatMap_append

lemma escapeByte_eq (b : UInt8) : ∃ high low, high < 16 ∧ low < 16 ∧ b.toNat = high * 16 + low ∧
    escapeByte b = ['%', hexDigit high, hexDigit low] := by
  have hb : b.toNat < 256 := UInt8.toNat_lt_size b
  exact ⟨b.toNat / 16, b.toNat % 16, by omega, by omega, by omega, rfl⟩

/-- A hexadecimal digit as quoting writes it. -/
def isCapitalHex (c : Char) : Bool :=
  c.isDigit || ('A' ≤ c && c ≤ 'F')

/-- Whether a text has nothing but unreserved characters, plus signs, slashes and percent signs with two
hexadecimal digits, capitals among these. -/
def isQuoted : Text → Bool
  | [] => true
  | '%' :: a :: b :: t => isCapitalHex a && isCapitalHex b && isQuoted t
  | c :: t => (isUnreserved c || c = '+' || c = '/') && isQuoted t

lemma isQuoted_cons {c : Char} (hc : c ≠ '%') (t : Text) :
    isQuoted (c :: t) = ((isUnreserved c || c = '+' || c = '/') && isQuoted t) := by
  rw [isQuoted.eq_def]
  split
  · next heq => cases heq
  · next heq => exact absurd (List.cons.inj heq).1 hc
  · next heq =>
    obtain ⟨rfl, rfl⟩ := List.cons.inj heq
    rfl

lemma isCapitalHex_hexDigit : ∀ n < 16, isCapitalHex (hexDigit n) = true := by
  decide

lemma isQuoted_escapeBytes (bytes : Bytes) (t : Text) :
    isQuoted (bytes.flatMap escapeByte ++ t) = isQuoted t := by
  induction bytes with
  | nil => rfl
  | cons b bytes ih =>
    obtain ⟨high, low, hhigh, hlow, -, hescape⟩ := escapeByte_eq b
    rw [List.flatMap_cons, hescape, List.append_assoc, List.cons_append, List.cons_append, List.cons_append,
      List.nil_append, isQuoted, isCapitalHex_hexDigit high hhigh, isCapitalHex_hexDigit low hlow, ih]
    rfl

lemma isQuoted_quoteChar (c : Char) (t : Text) : isQuoted (quoteChar c ++ t) = isQuoted t := by
  unfold quoteChar
  split_ifs with slash space unreserved
  · rfl
  · rfl
  · rw [List.singleton_append, isQuoted_cons (isUnreserved_ne unreserved (by decide)), unreserved]
    rfl
  · exact isQuoted_escapeBytes _ t

/-- A quoted path is written with characters that are safe in a URL. -/
theorem isQuoted_quote (path : Text) : isQuoted (quote path) = true := by
  induction path with
  | nil => rfl
  | cons c path ih => rw [quote_cons, isQuoted_quoteChar, ih]

/-! ### Reading back -/

/-- A text with its plus signs as spaces. -/
def withSpaces (t : Text) : Text :=
  t.map fun c => if c = '+' then ' ' else c

/-- The path that a quoted path stands for: a plus sign stands for a space, an escape for a byte. -/
def unquote? (t : Text) : Option Text :=
  Utf8.decode? (unescape (withSpaces t))

lemma withSpaces_of_not_mem {t : Text} (h : '+' ∉ t) : withSpaces t = t := by
  refine (List.map_congr_left ?_).trans (List.map_id t)
  intro c hc
  refine if_neg ?_
  rintro rfl
  exact h hc

lemma hexDigit_ne : ∀ n < 16, hexDigit n ≠ '+' ∧ hexDigit n ≠ '/' ∧ hexDigit n ≠ '%' ∧ hexDigit n ≠ 'e' := by
  decide

lemma mem_escapeBytes {bytes : Bytes} {c : Char} (h : c ∈ bytes.flatMap escapeByte) :
    c = '%' ∨ ∃ n < 16, c = hexDigit n := by
  obtain ⟨b, -, hc⟩ := List.mem_flatMap.1 h
  obtain ⟨high, low, hhigh, hlow, -, hescape⟩ := escapeByte_eq b
  rw [hescape] at hc
  simp only [List.mem_cons, List.not_mem_nil, or_false] at hc
  rcases hc with hc | hc | hc
  · exact .inl hc
  · exact .inr ⟨high, hhigh, hc⟩
  · exact .inr ⟨low, hlow, hc⟩

lemma unescape_quoteChar (c : Char) (t : Text) :
    unescape (withSpaces (quoteChar c) ++ t) = Utf8.encodeChar c ++ unescape t := by
  unfold quoteChar
  split_ifs with slash space unreserved
  · rw [slash]
    exact unescape_cons (isEscape_of_ne (by decide) _)
  · rw [space]
    exact unescape_cons (isEscape_of_ne (by decide) _)
  · have hplus : '+' ∉ [c] := by
      rw [List.mem_singleton]
      exact (isUnreserved_ne unreserved (by decide)).symm
    rw [withSpaces_of_not_mem hplus]
    exact unescape_cons (isEscape_of_ne (isUnreserved_ne unreserved (by decide)) _)
  · have hplus : '+' ∉ (Utf8.encodeChar c).flatMap escapeByte := by
      intro hmem
      rcases mem_escapeBytes hmem with hpercent | ⟨n, hn, hdigit⟩
      · exact absurd hpercent (by decide)
      · exact (hexDigit_ne n hn).1 hdigit.symm
    rw [withSpaces_of_not_mem hplus, unescape_escapeBytes]

lemma unescape_withSpaces_quote (path : Text) : unescape (withSpaces (quote path)) = Utf8.encode path := by
  induction path with
  | nil => rfl
  | cons c path ih =>
    have hsplit : withSpaces (quote (c :: path)) = withSpaces (quoteChar c) ++ withSpaces (quote path) := by
      rw [quote_cons]
      exact List.map_append
    rw [hsplit, unescape_quoteChar, ih]
    exact List.flatMap_cons.symm

/-- **A quoted path is read back** as the path that it was. -/
theorem unquote?_quote (path : Text) : unquote? (quote path) = some path := by
  rw [unquote?, unescape_withSpaces_quote, Utf8.decode?_encode]

/-- Different paths are quoted differently. -/
theorem quote_injective : Function.Injective quote := by
  intro path other h
  have hread := congrArg unquote? h
  rw [unquote?_quote, unquote?_quote] at hread
  exact Option.some.inj hread

/-! ### Segments -/

lemma not_mem_quoteChar {c : Char} (hc : c ≠ '/') : '/' ∉ quoteChar c := by
  unfold quoteChar
  rw [if_neg hc]
  split_ifs with space unreserved
  · decide
  · rw [List.mem_singleton]
    exact hc.symm
  · intro hmem
    rcases mem_escapeBytes hmem with hpercent | ⟨n, hn, hdigit⟩
    · exact absurd hpercent (by decide)
    · exact (hexDigit_ne n hn).2.1 hdigit.symm

lemma not_mem_quote {part : Text} (whole : '/' ∉ part) : '/' ∉ quote part := by
  intro hmem
  obtain ⟨c, hc, hslash⟩ := List.mem_flatMap.1 hmem
  refine not_mem_quoteChar ?_ hslash
  rintro rfl
  exact whole hc

lemma join_map_quote (parts : List Text) :
    Text.join ['/'] (parts.map quote) = quote (Text.join ['/'] parts) := by
  induction parts with
  | nil => rfl
  | cons part parts ih =>
    rcases parts.eq_nil_or_concat with rfl | ⟨init, last, hparts⟩
    · simp
    · have hslash : quote ('/' :: Text.join ['/'] parts) = '/' :: quote (Text.join ['/'] parts) := rfl
      rw [List.map_cons, join_cons (by simp [hparts]), join_cons (by simp [hparts]), ih, quote_append, hslash]

/-- The segments of a quoted path are the quoted segments of the path. -/
theorem splitOn_quote (path : Text) :
    Text.splitOn '/' (quote path) = (Text.splitOn '/' path).map quote := by
  have hwhole : ∀ part ∈ (Text.splitOn '/' path).map quote, '/' ∉ part := by
    intro part hpart
    obtain ⟨segment, hsegment, rfl⟩ := List.mem_map.1 hpart
    exact not_mem_quote (Text.not_mem_of_mem_splitOn hsegment)
  have hne : (Text.splitOn '/' path).map quote ≠ [] := by simp [Text.splitOn_ne_nil]
  rw [← Text.splitOn_join hne hwhole, join_map_quote, Text.join_splitOn]

/-! ### Quoting in stages -/

/-- A text with the bytes of all but its unreserved characters as escapes. -/
def percentEncode (t : Text) : Text :=
  t.flatMap fun c => if isUnreserved c then [c] else (Utf8.encodeChar c).flatMap escapeByte

lemma percentEncode_cons (c : Char) (t : Text) : percentEncode (c :: t) =
    (if isUnreserved c then [c] else (Utf8.encodeChar c).flatMap escapeByte) ++ percentEncode t :=
  List.flatMap_cons

/-- A text with plus signs for the escapes of spaces. -/
def plusForSpaces : Text → Text
  | '%' :: '2' :: '0' :: t => '+' :: plusForSpaces t
  | c :: t => c :: plusForSpaces t
  | [] => []

lemma plusForSpaces_cons {c : Char} (hc : c ≠ '%') (t : Text) :
    plusForSpaces (c :: t) = c :: plusForSpaces t := by
  rw [plusForSpaces.eq_def]
  split
  · next heq => exact absurd (List.cons.inj heq).1 hc
  · next heq =>
    obtain ⟨rfl, rfl⟩ := List.cons.inj heq
    rfl
  · next heq => cases heq

lemma hexDigit_injOn : ∀ m < 16, ∀ n < 16, hexDigit m = hexDigit n → m = n := by
  decide

/-- Two digits are those of the one byte that they are the escape of. -/
lemma toNat_eq_of_escapeByte {b : UInt8} {m n : Nat} (hm : m < 16) (hn : n < 16)
    (h : escapeByte b = ['%', hexDigit m, hexDigit n]) : b.toNat = m * 16 + n := by
  obtain ⟨high, low, hhigh, hlow, hb, hescape⟩ := escapeByte_eq b
  rw [hescape] at h
  simp only [List.cons.injEq, and_true, true_and] at h
  rw [hb, hexDigit_injOn high hhigh m hm h.1, hexDigit_injOn low hlow n hn h.2]

/-- An escape stays, unless it is that of a space. -/
lemma plusForSpaces_escapeByte {b : UInt8} (hb : b.toNat ≠ ' '.toNat) (t : Text) :
    plusForSpaces (escapeByte b ++ t) = escapeByte b ++ plusForSpaces t := by
  obtain ⟨high, low, hhigh, hlow, -, hescape⟩ := escapeByte_eq b
  rw [hescape, List.cons_append, List.cons_append, List.cons_append, List.nil_append, plusForSpaces.eq_def]
  split
  · next heq =>
    simp only [List.cons.injEq, true_and] at heq
    obtain ⟨htwo, hzero, -⟩ := heq
    rw [htwo, hzero] at hescape
    exact absurd (toNat_eq_of_escapeByte (m := 2) (n := 0) (by decide) (by decide) hescape) hb
  · next heq =>
    obtain ⟨rfl, rfl⟩ := List.cons.inj heq
    rw [plusForSpaces_cons (hexDigit_ne high hhigh).2.2.1, plusForSpaces_cons (hexDigit_ne low hlow).2.2.1]
    rfl
  · next heq => cases heq

lemma plusForSpaces_escapeBytes {bytes : Bytes} (h : ∀ b ∈ bytes, b.toNat ≠ ' '.toNat) (t : Text) :
    plusForSpaces (bytes.flatMap escapeByte ++ t) = bytes.flatMap escapeByte ++ plusForSpaces t := by
  induction bytes with
  | nil => rfl
  | cons b bytes ih =>
    rw [List.flatMap_cons, List.append_assoc, plusForSpaces_escapeByte (h b List.mem_cons_self),
      ih fun d hd => h d (List.mem_cons_of_mem _ hd), List.append_assoc]

/-- A segment is quoted by escaping it and then writing plus signs for the escapes of spaces. -/
lemma plusForSpaces_percentEncode {part : Text} (whole : '/' ∉ part) :
    plusForSpaces (percentEncode part) = quote part := by
  induction part with
  | nil => rfl
  | cons c part ih =>
    have hc : c ≠ '/' := fun heq => whole (heq ▸ List.mem_cons_self)
    have ih := ih fun hmem => whole (List.mem_cons_of_mem _ hmem)
    rw [percentEncode_cons, quote_cons, quoteChar, if_neg hc]
    by_cases space : c = ' '
    · rw [if_pos space, space, ← ih]
      rfl
    rw [if_neg space]
    by_cases unreserved : isUnreserved c = true
    · rw [if_pos unreserved, List.singleton_append,
        plusForSpaces_cons (isUnreserved_ne unreserved (by decide)), ih]
      rfl
    · rw [if_neg unreserved, plusForSpaces_escapeBytes, ih]
      exact fun b hb => ne_of_mem_encodeChar space (by decide) hb

/-- **Quoting in stages**: each segment is escaped, and then plus signs are written for the escapes of
spaces. A percent sign, a plus sign or digits that stand in the path are never taken for one. -/
theorem quote_eq_staged (path : Text) : quote path =
    Text.join ['/'] ((Text.splitOn '/' path).map fun part => plusForSpaces (percentEncode part)) := by
  have hstages : ∀ part ∈ Text.splitOn '/' path, plusForSpaces (percentEncode part) = quote part :=
    fun part hpart => plusForSpaces_percentEncode (Text.not_mem_of_mem_splitOn hpart)
  rw [List.map_congr_left hstages, join_map_quote, Text.join_splitOn]

/-! ### Dots -/

lemma dotForm_cons {c : Char} (hc : c ≠ '%') (t : Text) : dotForm (c :: t) = c :: dotForm t := by
  rw [dotForm.eq_def]
  split
  · next heq => exact absurd (List.cons.inj heq).1 hc
  · next heq => exact absurd (List.cons.inj heq).1 hc
  · next heq =>
    obtain ⟨rfl, rfl⟩ := List.cons.inj heq
    rfl
  · next heq => cases heq

lemma dotForm_escapeByte {b : UInt8} (hb : b.toNat ≠ '.'.toNat) (t : Text) :
    dotForm (escapeByte b ++ t) = escapeByte b ++ dotForm t := by
  obtain ⟨high, low, hhigh, hlow, -, hescape⟩ := escapeByte_eq b
  rw [hescape, List.cons_append, List.cons_append, List.cons_append, List.nil_append, dotForm.eq_def]
  split
  · next heq =>
    simp only [List.cons.injEq, true_and] at heq
    exact absurd heq.2.1 (hexDigit_ne low hlow).2.2.2
  · next heq =>
    simp only [List.cons.injEq, true_and] at heq
    obtain ⟨htwo, hlast, -⟩ := heq
    rw [htwo, hlast] at hescape
    exact absurd (toNat_eq_of_escapeByte (m := 2) (n := 14) (by decide) (by decide) hescape) hb
  · next heq =>
    obtain ⟨rfl, rfl⟩ := List.cons.inj heq
    rw [dotForm_cons (hexDigit_ne high hhigh).2.2.1, dotForm_cons (hexDigit_ne low hlow).2.2.1]
    rfl
  · next heq => cases heq

lemma dotForm_escapeBytes {bytes : Bytes} (h : ∀ b ∈ bytes, b.toNat ≠ '.'.toNat) (t : Text) :
    dotForm (bytes.flatMap escapeByte ++ t) = bytes.flatMap escapeByte ++ dotForm t := by
  induction bytes with
  | nil => rfl
  | cons b bytes ih =>
    rw [List.flatMap_cons, List.append_assoc, dotForm_escapeByte (h b List.mem_cons_self),
      ih fun d hd => h d (List.mem_cons_of_mem _ hd), List.append_assoc]

/-- A dot is quoted as itself, so no escape in a quoted path is that of a dot. -/
lemma dotForm_quote (path : Text) : dotForm (quote path) = quote path := by
  induction path with
  | nil => rfl
  | cons c path ih =>
    rw [quote_cons, quoteChar]
    split_ifs with slash space unreserved
    · exact (dotForm_cons (by decide) _).trans (congrArg _ ih)
    · exact (dotForm_cons (by decide) _).trans (congrArg _ ih)
    · exact (dotForm_cons (isUnreserved_ne unreserved (by decide)) _).trans (congrArg _ ih)
    · have hdot : c ≠ '.' := by
        rintro rfl
        exact unreserved (by decide)
      rw [dotForm_escapeBytes (fun b hb => ne_of_mem_encodeChar hdot (by decide) hb), ih]

/-- A quoted segment stands for dots only if the segment does. -/
lemma isDots_quote {part : Text} (single : part ≠ ['.']) (double : part ≠ ['.', '.']) :
    isDots (quote part) = false := by
  have hdot : quote ['.'] = ['.'] := rfl
  have hdots : quote ['.', '.'] = ['.', '.'] := rfl
  have hsingle : quote part ≠ ['.'] := fun h => single (quote_injective (h.trans hdot.symm))
  have hdouble : quote part ≠ ['.', '.'] := fun h => double (quote_injective (h.trans hdots.symm))
  simp [isDots, isSingleDot, isDoubleDot, dotForm_quote, hsingle, hdouble]

/-- A path without segments of dots. -/
def IsUndotted (path : Text) : Prop :=
  ∀ part ∈ Text.splitOn '/' path, part ≠ ['.'] ∧ part ≠ ['.', '.']

instance (path : Text) : Decidable (IsUndotted path) :=
  inferInstanceAs (Decidable (∀ part ∈ Text.splitOn '/' path, part ≠ ['.'] ∧ part ≠ ['.', '.']))

namespace IsUndotted

lemma nil : IsUndotted [] := by
  decide

lemma append_slash_iff (a b : Text) : IsUndotted (a ++ '/' :: b) ↔ IsUndotted a ∧ IsUndotted b := by
  rw [IsUndotted, Text.splitOn_append, List.forall_mem_append]
  rfl

section Trim

variable {p : Char → Bool} (slash : ∀ c, p c = true → c = '/') {path : Text}

include slash

lemma trimStart (h : IsUndotted path) : IsUndotted (Text.trimStart p path) := by
  unfold Text.trimStart
  induction path with
  | nil => exact h
  | cons c path ih =>
    by_cases hc : p c = true
    · rw [List.dropWhile_cons_of_pos hc]
      rw [slash c hc] at h
      exact ih ((append_slash_iff [] path).1 h).2
    · rw [List.dropWhile_cons_of_neg hc]
      exact h

lemma trimEnd (h : IsUndotted path) : IsUndotted (Text.trimEnd p path) := by
  induction path using List.reverseRecOn with
  | nil => exact h
  | append_singleton path c ih =>
    by_cases hc : p c = true
    · have htrim : Text.trimEnd p (path ++ [c]) = Text.trimEnd p path := by
        simp [Text.trimEnd, hc]
      rw [slash c hc] at h
      rw [htrim]
      exact ih ((append_slash_iff path []).1 h).1
    · have htrim : Text.trimEnd p (path ++ [c]) = path ++ [c] := by
        simp [Text.trimEnd, hc]
      rw [htrim]
      exact h

lemma trim (h : IsUndotted path) : IsUndotted (Text.trim p path) :=
  (h.trimStart slash).trimEnd slash

end Trim

end IsUndotted

/-! ### On the wire -/

/-- Whether a character may stand in a quoted path. -/
def isQuotedChar (c : Char) : Bool :=
  isUnreserved c || c = '/' || c = '+' || c = '%'

lemma isUnreserved_hexDigit : ∀ n < 16, isUnreserved (hexDigit n) = true := by
  decide

lemma isQuotedChar_of_mem_quote {path : Text} {c : Char} (h : c ∈ quote path) : isQuotedChar c = true := by
  obtain ⟨d, -, hc⟩ := List.mem_flatMap.1 h
  unfold quoteChar at hc
  split_ifs at hc with slash space unreserved
  · rw [List.mem_singleton.1 hc]
    rfl
  · rw [List.mem_singleton.1 hc]
    rfl
  · rw [List.mem_singleton.1 hc, isQuotedChar, unreserved]
    rfl
  · rcases mem_escapeBytes hc with rfl | ⟨n, hn, rfl⟩
    · rfl
    · rw [isQuotedChar, isUnreserved_hexDigit n hn]
      rfl

lemma bounds_of_isQuotedChar {c : Char} (h : isQuotedChar c = true) : 0x20 < c.toNat ∧ c.toNat < 0x7F := by
  simp only [isQuotedChar, Bool.or_eq_true, decide_eq_true_eq] at h
  rcases h with ((h | rfl) | rfl) | rfl
  · exact bounds_of_isUnreserved h
  all_goals decide

lemma isQuotedChar_ne {c d : Char} (h : isQuotedChar c = true) (hd : isQuotedChar d = false) : c ≠ d := by
  rintro rfl
  rw [h] at hd
  cases hd

lemma isOuter_of_isQuotedChar {c : Char} (h : isQuotedChar c = true) : isOuter c = false := by
  simpa [isOuter] using (bounds_of_isQuotedChar h).1

lemma isDropped_of_isQuotedChar {c : Char} (h : isQuotedChar c = true) : isDropped c = false := by
  have htab := isQuotedChar_ne h (d := '\t') (by decide)
  have hfeed := isQuotedChar_ne h (d := '\n') (by decide)
  have hreturn := isQuotedChar_ne h (d := '\r') (by decide)
  simp [isDropped, htab, hfeed, hreturn]

/-- A quoted path is shown as it is, has no backslashes and needs no escapes. -/
lemma shownPath_quote (path : Text) : shownPath (quote path) = quote path ∧ shownQuery (quote path) = none := by
  apply shownPath_of_unmarked
  · intro c hc
    have hquoted := isQuotedChar_of_mem_quote hc
    exact ⟨isQuotedChar_ne hquoted (by decide), isQuotedChar_ne hquoted (by decide),
      isDropped_of_isQuotedChar hquoted⟩
  · intro c hc
    exact isOuter_of_isQuotedChar (isQuotedChar_of_mem_quote (List.mem_of_mem_getLast? hc))

lemma slashed_quote (path : Text) : slashed (quote path) = quote path := by
  apply slashed_of_not_mem
  intro hmem
  exact isQuotedChar_ne (isQuotedChar_of_mem_quote hmem) (by decide) rfl

lemma escapePath_quote (path : Text) : escapePath (quote path) = quote path := by
  apply escapePath_of_kept
  intro c hc
  have hquoted := isQuotedChar_of_mem_quote hc
  exact isUnsafeInPath_of_class hquoted (bounds_of_isQuotedChar hquoted) (by decide)

/-- **A quoted path under a route** is sent as it is, unless it has segments of dots. -/
theorem wire?_quote {base : Text} (hbase : IsBase base) {names : List Text} (hnames : AreNames names)
    {path : Text} (undotted : IsUndotted path) : ∃ w, wire? (base ++ route names ++ quote path) = some w ∧
      w.query = none ∧ w.path = route names ++ quote path := by
  obtain ⟨scheme, host, port, hwire⟩ := wire?_under hbase
  obtain ⟨hshown, hquery⟩ := shownPath_quote path
  have hdots : ∀ part ∈ Text.splitOn '/' (quote path), isDots part = false := by
    rw [splitOn_quote]
    intro part hpart
    obtain ⟨segment, hsegment, rfl⟩ := List.mem_map.1 hpart
    obtain ⟨single, double⟩ := undotted segment hsegment
    exact isDots_quote single double
  refine ⟨_, hwire hnames (quote path), hquery, ?_⟩
  have hpath := pathText_resolve_of_undotted hdots names
  rw [escapePath_quote] at hpath
  rw [hshown, slashed_quote]
  exact hpath

end Custodian.Url
