import Custodian.Proofs.Json.Plain

/-!
# Values read back as they were written

A value is written as the tokens of `Value.raw`, with blanks between them. The tokens of a raw value take
the machine that reads them to that value, whatever is open around it (`foldlM_tokens`). So a plain value
is read back as it was written, in every layout whose gaps are blank (`read?_write`), and whatever is read
back has no doubles but those that are (`readsBack_of_value?_raw`).
-/

namespace Custodian.Json

/-! ### What is written -/

mutual

/-- What a value is written as. -/
def Value.raw : Value → Raw
  | .null => .null
  | .bool b => .bool b
  | .number n => .numeral n.numeral
  | .string t => .string (some t)
  | .array items => .array (rawItems items)
  | .object members => .object (rawMembers members)

/-- What the items of an array are written as. -/
def rawItems : List Value → List Raw
  | [] => []
  | v :: vs => v.raw :: rawItems vs

/-- What the members of an object are written as. -/
def rawMembers : List (Text × Value) → List (Option Text × Raw)
  | [] => []
  | (name, v) :: members => (some name, v.raw) :: rawMembers members

end

namespace Raw

mutual

/-- The tokens of a raw value. -/
def tokens : Raw → List Token
  | .null => [.null]
  | .bool b => [.bool b]
  | .numeral n => [.numeral n]
  | .string t => [.string t]
  | .array [] => [.openArray, .closeArray]
  | .array (item :: items) =>
    .openArray :: (tokens item ++ (itemTokens items ++ [.closeArray]))
  | .object [] => [.openObject, .closeObject]
  | .object ((name, r) :: members) =>
    .openObject :: .string name :: .colon :: (tokens r ++ (memberTokens members ++ [.closeObject]))

/-- The tokens of the items after the first one. -/
def itemTokens : List Raw → List Token
  | [] => []
  | item :: items => .comma :: (tokens item ++ itemTokens items)

/-- The tokens of the members after the first one. -/
def memberTokens : List (Option Text × Raw) → List Token
  | [] => []
  | (name, r) :: members => .comma :: .string name :: .colon :: (tokens r ++ memberTokens members)

end

/-! ### Reading tokens -/

lemma step?_firstItem {token : Token} (h : token ≠ .closeArray) (items : List Raw)
    (frames : List Frame) :
    step? (.array items :: frames, .firstItem) token = step? (.array items :: frames, .value) token := by
  cases token <;> first | rfl | exact absurd rfl h

/-- A value does not begin with a closing bracket. -/
lemma exists_tokens_eq_cons (r : Raw) : ∃ token more, r.tokens = token :: more ∧ token ≠ .closeArray := by
  cases r with
  | array items => cases items <;> exact ⟨_, _, rfl, by simp⟩
  | object members => rcases members with _ | ⟨⟨name, r⟩, members⟩ <;> exact ⟨_, _, rfl, by simp⟩
  | _ => exact ⟨_, _, rfl, by simp⟩

lemma foldlM_firstItem (r : Raw) (more : List Token) (items : List Raw) (frames : List Frame) :
    (r.tokens ++ more).foldlM step? (.array items :: frames, .firstItem) =
      (r.tokens ++ more).foldlM step? (.array items :: frames, .value) := by
  obtain ⟨token, left, htokens, hne⟩ := exists_tokens_eq_cons r
  rw [htokens, List.cons_append, List.foldlM_cons, List.foldlM_cons, step?_firstItem hne]

mutual

/-- **The tokens of a value deliver that value** to what is open around it. -/
theorem foldlM_tokens (frames : List Frame) :
    ∀ r : Raw, r.tokens.foldlM step? (frames, .value) = some (deliver r frames)
  | .null => rfl
  | .bool _ => rfl
  | .numeral _ => rfl
  | .string _ => rfl
  | .array [] => rfl
  | .array (item :: items) => by
    have hopen : step? (frames, .value) .openArray = some (.array [] :: frames, .firstItem) := rfl
    have hitem : deliver item (.array [] :: frames) = (.array [item] :: frames, .between) := rfl
    have hclose : step? (.array (items.reverse ++ [item]) :: frames, .between) .closeArray =
        some (deliver (.array (item :: items)) frames) := by
      simp [step?]
    rw [tokens, List.foldlM_cons, hopen, Option.bind_eq_bind, Option.bind_some, foldlM_firstItem,
      List.foldlM_append, foldlM_tokens _ item, hitem, Option.bind_eq_bind, Option.bind_some,
      List.foldlM_append, foldlM_itemTokens frames [item] items, Option.bind_eq_bind,
      Option.bind_some, List.foldlM_cons, hclose]
    rfl
  | .object [] => rfl
  | .object ((name, r) :: members) => by
    have hitem : deliver r (.member [] name :: frames) =
        (.object [(name, r)] :: frames, .between) := rfl
    have hclose : step? (.object (members.reverse ++ [(name, r)]) :: frames, .between) .closeObject =
        some (deliver (.object ((name, r) :: members)) frames) := by
      simp [step?]
    have hopen : (tokens (.object ((name, r) :: members))).foldlM step? (frames, .value) =
        (tokens r ++ (memberTokens members ++ [Token.closeObject])).foldlM step?
          (.member [] name :: frames, .value) := rfl
    rw [hopen, List.foldlM_append, foldlM_tokens _ r, hitem, Option.bind_eq_bind, Option.bind_some,
      List.foldlM_append, foldlM_memberTokens frames [(name, r)] members, Option.bind_eq_bind,
      Option.bind_some, List.foldlM_cons, hclose]
    rfl

theorem foldlM_itemTokens (frames : List Frame) (before : List Raw) :
    ∀ items : List Raw, (itemTokens items).foldlM step? (.array before :: frames, .between) =
      some (.array (items.reverse ++ before) :: frames, .between)
  | [] => rfl
  | item :: items => by
    have hcomma : (itemTokens (item :: items)).foldlM step? (.array before :: frames, .between) =
        (tokens item ++ itemTokens items).foldlM step? (.array before :: frames, .value) := rfl
    have hitem : deliver item (.array before :: frames) =
        (.array (item :: before) :: frames, .between) := rfl
    rw [hcomma, List.foldlM_append, foldlM_tokens _ item, hitem, Option.bind_eq_bind, Option.bind_some,
      foldlM_itemTokens frames (item :: before) items]
    simp

theorem foldlM_memberTokens (frames : List Frame) (before : List (Option Text × Raw)) :
    ∀ members : List (Option Text × Raw),
      (memberTokens members).foldlM step? (.object before :: frames, .between) =
        some (.object (members.reverse ++ before) :: frames, .between)
  | [] => rfl
  | (name, r) :: members => by
    have hcomma : (memberTokens ((name, r) :: members)).foldlM step?
        (.object before :: frames, .between) =
          (tokens r ++ memberTokens members).foldlM step? (.member before name :: frames, .value) := rfl
    have hitem : deliver r (.member before name :: frames) =
        (.object ((name, r) :: before) :: frames, .between) := rfl
    rw [hcomma, List.foldlM_append, foldlM_tokens _ r, hitem, Option.bind_eq_bind, Option.bind_some,
      foldlM_memberTokens frames ((name, r) :: before) members]
    simp

end

lemma ofTokens?_tokens (r : Raw) : ofTokens? r.tokens = some r := by
  rw [ofTokens?, foldlM_tokens]
  rfl

end Raw

/-! ### Reading texts -/

namespace Token

/-- The tokens of a text are those that follow its leading blanks. -/
lemma all?_eq (t : Text) :
    all? t = match t.dropWhile isBlank with
      | [] => some []
      | c :: t =>
        match next? (c :: t) with
        | none => none
        | some (token, rest) => (all? rest).map (token :: ·) := by
  rw [all?]
  split
  · next h => rw [h]
  · next c t h =>
    rw [h]
    dsimp only
    split
    · next h => rw [h]
    · next h => rw [h]

/-- Whether the text `t` gives some tokens and then goes on as `rest`. -/
def Reads (t : Text) (tokens : List Token) (rest : Text) : Prop :=
  all? t = (all? rest).map (tokens ++ ·)

variable {t t' rest : Text} {tokens tokens' : List Token}

lemma Reads.refl (t : Text) : Reads t [] t := by
  simp [Reads]

lemma Reads.trans (h : Reads t tokens t') (h' : Reads t' tokens' rest) :
    Reads t (tokens ++ tokens') rest := by
  rw [Reads, h, h', Option.map_map]
  congr 1
  funext more
  simp

lemma Reads.blanks {gap : Text} (h : ∀ c ∈ gap, isBlank c = true) (rest : Text) :
    Reads (gap ++ rest) [] rest := by
  have hdrop : (gap ++ rest).dropWhile isBlank = rest.dropWhile isBlank :=
    List.dropWhile_append_of_pos h
  rw [Reads, all?_eq, hdrop, ← all?_eq]
  simp

lemma Reads.token {token : Token} (h : next? t = some (token, rest))
    (hblank : ∀ c ∈ t.head?, isBlank c = false) : Reads t [token] rest := by
  cases t with
  | nil => cases h
  | cons c t =>
    have hdrop : (c :: t).dropWhile isBlank = c :: t := by
      simp [hblank c (by simp)]
    rw [Reads, all?_eq, hdrop]
    simp [h]

lemma Reads.mark {c : Char} {token : Token} (h : next? (c :: rest) = some (token, rest))
    (hblank : isBlank c = false) : Reads (c :: rest) [token] rest := by
  apply Reads.token h
  rintro d ⟨⟩
  exact hblank

end Token

/-! ### What ends a numeral -/

section Ends

variable {t : Text}

lemma endsNumeral_cons {c : Char} (h : c.isDigit = false ∧ c ≠ '.' ∧ c ≠ 'e' ∧ c ≠ 'E') (t : Text) :
    EndsNumeral (c :: t) := by
  rintro d ⟨⟩
  exact h

lemma EndsNumeral.blanks {gap : Text} (hgap : ∀ c ∈ gap, Token.isBlank c = true) (h : EndsNumeral t) :
    EndsNumeral (gap ++ t) := by
  cases gap with
  | nil => exact h
  | cons c gap =>
    refine endsNumeral_cons ?_ _
    have hblank : Token.isBlank c = true := hgap c List.mem_cons_self
    simp only [Token.isBlank, Bool.or_eq_true, decide_eq_true_eq] at hblank
    rcases hblank with ((rfl | rfl) | rfl) | rfl <;> decide

lemma EndsNumeral.writeItems (layout : Layout) (depth : Nat) (vs : List Value) (h : EndsNumeral t) :
    EndsNumeral (writeItems layout depth vs ++ t) := by
  cases vs with
  | nil => exact h
  | cons v vs => exact endsNumeral_cons (by decide) _

lemma EndsNumeral.writeMembers (layout : Layout) (depth : Nat) (members : Members)
    (h : EndsNumeral t) : EndsNumeral (writeMembers layout depth members ++ t) := by
  cases members with
  | nil => exact h
  | cons m members => exact endsNumeral_cons (by decide) _

end Ends

/-! ### Reading what was written -/

/-- A layout that puts nothing but blanks between tokens, and the colon. -/
structure Layout.HasBlankGaps (layout : Layout) : Prop where
  lineBreak : ∀ depth, ∀ c ∈ layout.lineBreak depth, Token.isBlank c = true
  colon : ∃ gap, layout.colon = ':' :: gap ∧ ∀ c ∈ gap, Token.isBlank c = true

lemma Layout.wide_hasBlankGaps : Layout.wide.HasBlankGaps where
  lineBreak depth c hc := by
    rcases List.mem_cons.1 hc with rfl | hc
    · rfl
    · rw [List.eq_of_mem_replicate hc]
      rfl
  colon := ⟨[' '], rfl, by simp [Token.isBlank]⟩

lemma Layout.compact_hasBlankGaps : Layout.compact.HasBlankGaps where
  lineBreak _ c hc := by cases hc
  colon := ⟨[], rfl, by simp⟩

open Token

variable {layout : Layout}

lemma reads_quote (t rest : Text) : Reads (quote t ++ rest) [.string (some t)] rest :=
  .token (next?_quote t rest) (by simp [quote, isBlank])

lemma reads_number (n : Number) {rest : Text} (h : EndsNumeral rest) :
    Reads (n.write ++ rest) [.numeral n.numeral] rest := by
  refine .token (n.next?_write h) ?_
  obtain ⟨c, t, hn, hc⟩ := n.exists_write_eq_cons
  rw [hn]
  rintro d ⟨⟩
  exact hc.isBlank

lemma reads_name (hl : layout.HasBlankGaps) (name rest : Text) :
    Reads (quote name ++ (layout.colon ++ rest)) [.string (some name), .colon] rest := by
  obtain ⟨gap, hcolon, hgap⟩ := hl.colon
  have hpoint : Reads (':' :: (gap ++ rest)) [.colon] (gap ++ rest) := .mark rfl rfl
  rw [hcolon]
  exact (reads_quote name _).trans (hpoint.trans (.blanks hgap rest))

/-- A closing bracket on a line of its own. -/
lemma reads_close (hl : layout.HasBlankGaps) (depth : Nat) {c : Char} {token : Token} {rest : Text}
    (h : next? (c :: rest) = some (token, rest)) (hblank : isBlank c = false) :
    Reads (layout.lineBreak depth ++ c :: rest) [token] rest :=
  (Reads.blanks (hl.lineBreak depth) _).trans (.mark h hblank)

/-- What follows the last item of an array or the last member of an object. -/
lemma endsNumeral_close (hl : layout.HasBlankGaps) (depth : Nat) {c : Char}
    (h : c.isDigit = false ∧ c ≠ '.' ∧ c ≠ 'e' ∧ c ≠ 'E') (rest : Text) :
    EndsNumeral (layout.lineBreak depth ++ c :: rest) :=
  .blanks (hl.lineBreak depth) (endsNumeral_cons h rest)

mutual

/-- **A value is read as its tokens.** -/
theorem reads_write (hl : layout.HasBlankGaps) (depth : Nat) {rest : Text} (h : EndsNumeral rest) :
    ∀ v : Value, Reads (write layout depth v ++ rest) v.raw.tokens rest
  | .null => .token rfl (by simp [write, isBlank])
  | .bool true => .token rfl (by simp [write, isBlank])
  | .bool false => .token rfl (by simp [write, isBlank])
  | .number n => reads_number n h
  | .string t => reads_quote t rest
  | .array [] => by
    have hclose : Reads (']' :: rest) [.closeArray] rest := .mark rfl rfl
    have hopen : Reads ('[' :: ']' :: rest) [.openArray] (']' :: rest) := .mark rfl rfl
    exact hopen.trans hclose
  | .array (item :: items) => by
    have hclose : Reads (layout.lineBreak depth ++ ']' :: rest) [.closeArray] rest :=
      reads_close hl depth rfl rfl
    have hend : EndsNumeral (layout.lineBreak depth ++ ']' :: rest) :=
      endsNumeral_close hl depth (by decide) rest
    have hall := (reads_write hl (depth + 1) (hend.writeItems layout (depth + 1) items) item).trans
      ((reads_writeItems hl (depth + 1) hend items).trans hclose)
    have hopen : ∀ t, Reads ('[' :: t) [.openArray] t := fun _ => .mark rfl rfl
    have htext : write layout depth (.array (item :: items)) ++ rest =
        '[' :: (layout.lineBreak (depth + 1) ++ (write layout (depth + 1) item ++
          (writeItems layout (depth + 1) items ++ (layout.lineBreak depth ++ ']' :: rest)))) := by
      simp [write]
    rw [htext]
    exact (hopen _).trans ((Reads.blanks (hl.lineBreak (depth + 1)) _).trans hall)
  | .object [] => by
    have hclose : Reads ('}' :: rest) [.closeObject] rest := .mark rfl rfl
    have hopen : Reads ('{' :: '}' :: rest) [.openObject] ('}' :: rest) := .mark rfl rfl
    exact hopen.trans hclose
  | .object ((name, value) :: members) => by
    have hclose : Reads (layout.lineBreak depth ++ '}' :: rest) [.closeObject] rest :=
      reads_close hl depth rfl rfl
    have hend : EndsNumeral (layout.lineBreak depth ++ '}' :: rest) :=
      endsNumeral_close hl depth (by decide) rest
    have hall := (reads_write hl (depth + 1) (hend.writeMembers layout (depth + 1) members) value).trans
      ((reads_writeMembers hl (depth + 1) hend members).trans hclose)
    have hopen : ∀ t, Reads ('{' :: t) [.openObject] t := fun _ => .mark rfl rfl
    have htext : write layout depth (.object ((name, value) :: members)) ++ rest =
        '{' :: (layout.lineBreak (depth + 1) ++ (quote name ++ (layout.colon ++
          (write layout (depth + 1) value ++ (writeMembers layout (depth + 1) members ++
            (layout.lineBreak depth ++ '}' :: rest)))))) := by
      simp [write]
    rw [htext]
    exact (hopen _).trans ((Reads.blanks (hl.lineBreak (depth + 1)) _).trans
      ((reads_name hl name _).trans hall))

theorem reads_writeItems (hl : layout.HasBlankGaps) (depth : Nat) {rest : Text} (h : EndsNumeral rest) :
    ∀ vs : List Value,
      Reads (writeItems layout depth vs ++ rest) (Raw.itemTokens (rawItems vs)) rest
  | [] => .refl rest
  | item :: items => by
    have hall := (reads_write hl depth (h.writeItems layout depth items) item).trans
      (reads_writeItems hl depth h items)
    have hcomma : ∀ t, Reads (',' :: t) [.comma] t := fun _ => .mark rfl rfl
    have htext : writeItems layout depth (item :: items) ++ rest = ',' :: (layout.lineBreak depth ++
        (write layout depth item ++ (writeItems layout depth items ++ rest))) := by
      simp [writeItems]
    rw [htext]
    exact (hcomma _).trans ((Reads.blanks (hl.lineBreak depth) _).trans hall)

theorem reads_writeMembers (hl : layout.HasBlankGaps) (depth : Nat) {rest : Text}
    (h : EndsNumeral rest) :
    ∀ members : Members,
      Reads (writeMembers layout depth members ++ rest) (Raw.memberTokens (rawMembers members)) rest
  | [] => .refl rest
  | (name, value) :: members => by
    have hall := (reads_write hl depth (h.writeMembers layout depth members) value).trans
      (reads_writeMembers hl depth h members)
    have hcomma : ∀ t, Reads (',' :: t) [.comma] t := fun _ => .mark rfl rfl
    have htext : writeMembers layout depth ((name, value) :: members) ++ rest =
        ',' :: (layout.lineBreak depth ++ (quote name ++ (layout.colon ++
          (write layout depth value ++ (writeMembers layout depth members ++ rest))))) := by
      simp [writeMembers]
    rw [htext]
    exact (hcomma _).trans ((Reads.blanks (hl.lineBreak depth) _).trans
      ((reads_name hl name _).trans hall))

end

theorem Raw.read?_write (hl : layout.HasBlankGaps) (v : Value) :
    Raw.read? (write layout 0 v) = some v.raw := by
  have hreads := reads_write hl 0 endsNumeral_nil v
  rw [List.append_nil] at hreads
  rw [Raw.read?, hreads]
  simpa [all?_eq] using Raw.ofTokens?_tokens v.raw

/-! ### Settling what was read -/

/-- **A double is read back** just if its numeral is read as this double. -/
theorem readsBack_iff {x : Binary64} :
    x.ReadsBack ↔ Number.ofNumeral? (Number.double x).numeral = some (.double x) := by
  have hraw : (Value.number (.double x)).raw = .numeral (Number.double x).numeral := rfl
  rw [Binary64.ReadsBack, Value.read?, Value.compact, Raw.read?_write Layout.compact_hasBlankGaps, hraw,
    Option.bind_some, Raw.value?]
  cases Number.ofNumeral? (Number.double x).numeral <;> simp

instance (x : Binary64) : Decidable x.ReadsBack :=
  decidable_of_iff _ readsBack_iff.symm

-- 1.5 is read back. What 22.155e-25 is read as is written as 2.2155000000000002e-24 and is not.
example : Binary64.ReadsBack ⟨false, 6755399441055744, -52⟩ := by decide +kernel
example : ¬Binary64.ReadsBack ⟨false, 6031164671306714, -131⟩ := by decide +kernel

namespace Raw

mutual

/-- **A plain value comes of what it was written as.** -/
theorem value?_raw {depth : Nat} : ∀ {v : Value}, v.IsPlain depth → v.raw.value? depth = some v
  | .null, _ => rfl
  | .bool _, _ => rfl
  | .string _, _ => rfl
  | .number (.integer n), h => by
    rw [Value.raw, value?, Number.ofNumeral?_integer h]
    rfl
  | .number (.double x), h => by
    rw [Value.raw, value?, readsBack_iff.1 h]
    rfl
  | .array items, ⟨hdepth, hitems⟩ => by
    rw [Value.raw, value?, if_neg (Nat.ne_of_gt hdepth), values?_rawItems hitems]
    rfl
  | .object members, ⟨hdepth, hascending, hmembers⟩ => by
    rw [Value.raw, value?, if_neg (Nat.ne_of_gt hdepth), namedValues?_rawMembers hmembers,
      Option.map_some, Table.ofList_of_isAscending hascending]

theorem values?_rawItems {depth : Nat} :
    ∀ {vs : List Value}, Value.ArePlain depth vs → values? depth (rawItems vs) = some vs
  | [], _ => rfl
  | v :: vs, ⟨hv, hvs⟩ => by
    rw [rawItems, values?, value?_raw hv, values?_rawItems hvs]

theorem namedValues?_rawMembers {depth : Nat} :
    ∀ {members : Members}, Value.MembersArePlain depth members →
      namedValues? depth (rawMembers members) = some members
  | [], _ => rfl
  | (name, v) :: members, ⟨hv, hmembers⟩ => by
    simp only [rawMembers, namedValues?, value?_raw hv, namedValues?_rawMembers hmembers]

end

lemma names_namedValues? {depth : Nat} {members ms : Members}
    (h : namedValues? depth (rawMembers members) = some ms) : Table.names ms = Table.names members := by
  induction members generalizing ms with
  | nil =>
    cases h
    rfl
  | cons m members ih =>
    unfold rawMembers namedValues? at h
    split at h
    · next name v vs hname _ hvs =>
      cases hname
      cases h
      exact congrArg (m.1 :: ·) (ih hvs)
    · cases h

/-- Members that come of what they were written as were in order already, so no table had to be made of
them. -/
lemma eq_of_namedValues?_rawMembers {depth : Nat} {members ms : Members}
    (h : namedValues? depth (rawMembers members) = some ms) (hmade : Table.ofList ms = members) :
    ms = members := by
  have hascending : Table.IsAscending ms := by
    have hlist := Table.isAscending_ofList ms
    rw [hmade] at hlist
    exact hlist.of_names (names_namedValues? h)
  rw [Table.ofList_of_isAscending hascending] at hmade
  exact hmade

mutual

/-- **What comes of what it was written as** holds doubles that are read back. -/
theorem readsBack_of_value?_raw {depth : Nat} :
    ∀ {v : Value}, v.raw.value? depth = some v → ∀ x ∈ v.doubles, x.ReadsBack
  | .number (.double y), h, x, hx => by
    obtain rfl : x = y := List.mem_singleton.1 hx
    obtain ⟨n, hn, hv⟩ := Option.map_eq_some_iff.1 h
    cases hv
    exact readsBack_iff.2 hn
  | .array items, h, x, hx => by
    rw [Value.raw, value?] at h
    split at h
    · cases h
    · obtain ⟨vs, hvs, heq⟩ := Option.map_eq_some_iff.1 h
      cases heq
      exact readsBack_of_values?_rawItems hvs x hx
  | .object members, h, x, hx => by
    rw [Value.raw, value?] at h
    split at h
    · cases h
    · obtain ⟨ms, hms, heq⟩ := Option.map_eq_some_iff.1 h
      have hmade : Table.ofList ms = members := by
        cases heq
        rfl
      obtain rfl := eq_of_namedValues?_rawMembers hms hmade
      exact readsBack_of_namedValues?_rawMembers hms x hx

theorem readsBack_of_values?_rawItems {depth : Nat} :
    ∀ {vs : List Value}, values? depth (rawItems vs) = some vs →
      ∀ x ∈ Value.itemDoubles vs, x.ReadsBack
  | v :: vs, h, x, hx => by
    rw [rawItems, values?] at h
    split at h
    · next w ws hw hws =>
      cases h
      rcases List.mem_append.1 hx with hx | hx
      · exact readsBack_of_value?_raw hw x hx
      · exact readsBack_of_values?_rawItems hws x hx
    · cases h

theorem readsBack_of_namedValues?_rawMembers {depth : Nat} :
    ∀ {members : Members}, namedValues? depth (rawMembers members) = some members →
      ∀ x ∈ Value.memberDoubles members, x.ReadsBack
  | (name, v) :: members, h, x, hx => by
    unfold rawMembers namedValues? at h
    split at h
    · next n w ws hn hw hws =>
      cases h
      rcases List.mem_append.1 hx with hx | hx
      · exact readsBack_of_value?_raw hw x hx
      · exact readsBack_of_namedValues?_rawMembers hws x hx
    · cases h

end

end Raw

/-- **A plain value is read back** from its text. -/
theorem Value.read?_write (hl : layout.HasBlankGaps) {v : Value} (h : v.IsPlain Raw.greatestDepth) :
    Value.read? (write layout 0 v) = some v := by
  rw [Value.read?, Raw.read?_write hl v, Option.bind_some, Raw.value?_raw h]

end Custodian.Json
