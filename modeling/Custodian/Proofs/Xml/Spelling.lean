import Custodian.Proofs.Text.Split
import Custodian.Xml.Token
import Mathlib.Tactic.Common

/-!
# How tokens are spelled

A token can be spelled in many ways: with blanks between the parts of a tag, with either quote around the value
of an attribute, and so on. Each of them is read as this token (`next?_append`), and so is one after the other
(`all?_eq`).
-/

namespace Custodian.Xml

/-! ### Blanks -/

/-- Blanks, or nothing. -/
def AreSpaces (gap : Text) : Prop :=
  ∀ c ∈ gap, isSpace c = true

/-- What is of a class ends where something begins that is not. -/
lemma cut_append {p : Char → Bool} {t rest : Text} (all : ∀ c ∈ t, p c = true)
    (stop : ∀ c ∈ rest.head?, p c = false) :
    (t ++ rest).takeWhile p = t ∧ (t ++ rest).dropWhile p = rest := by
  rw [List.takeWhile_append_of_pos all, List.dropWhile_append_of_pos all]
  rcases rest with _ | ⟨c, rest⟩
  · simp
  · simp [stop c rfl]

lemma skipSpaces_append {gap rest : Text} (spaces : AreSpaces gap)
    (stop : ∀ c ∈ rest.head?, isSpace c = false) : Token.skipSpaces (gap ++ rest) = rest :=
  (cut_append spaces stop).2

lemma head?_append_cons {gap : Text} (spaces : AreSpaces gap) (c : Char) (rest : Text) :
    ∀ d ∈ (gap ++ c :: rest).head?, isSpace d = true ∨ d = c := by
  rcases gap with _ | ⟨first, gap⟩
  · rintro d ⟨⟩
    exact .inr rfl
  · rintro d ⟨⟩
    exact .inl (spaces _ List.mem_cons_self)

/-! ### Names -/

/-- A part of a name: it begins as a name does and has no colon. -/
structure IsPart (t : Text) : Prop where
  start : Token.isNamePart t = true
  chars : ∀ c ∈ t, isNameChar c = true
  whole : ':' ∉ t

namespace QualifiedName

/-- A name as it is spelled. -/
def text (name : QualifiedName) : Text :=
  if name.lead = [] then name.base else name.lead ++ ':' :: name.base

/-- A name with proper parts. -/
structure IsProper (name : QualifiedName) : Prop where
  base : IsPart name.base
  lead : name.lead = [] ∨ IsPart name.lead

end QualifiedName

instance (t : Text) : Decidable (IsPart t) :=
  decidable_of_iff ((Token.isNamePart t && t.all isNameChar && !t.any (· = ':')) = true) <| by
    simp only [Bool.and_eq_true, List.all_eq_true, Bool.not_eq_true', List.any_eq_false, decide_eq_true_eq]
    constructor
    · rintro ⟨⟨start, chars⟩, whole⟩
      exact ⟨start, chars, fun hmem => whole _ hmem rfl⟩
    · rintro ⟨start, chars, whole⟩
      exact ⟨⟨start, chars⟩, fun c hc heq => whole (heq ▸ hc)⟩

instance (name : QualifiedName) : Decidable name.IsProper :=
  decidable_of_iff (IsPart name.base ∧ (name.lead = [] ∨ IsPart name.lead))
    ⟨fun ⟨base, lead⟩ => ⟨base, lead⟩, fun ⟨base, lead⟩ => ⟨base, lead⟩⟩

lemma isNameChar_of_isSpace {c : Char} (h : isSpace c = true) : isNameChar c = false := by
  simp only [isSpace, Bool.or_eq_true, decide_eq_true_eq] at h
  rcases h with ((rfl | rfl) | rfl) | rfl <;> decide

lemma ne_of_isNameChar {c d : Char} (h : isNameChar c = true) (hd : isNameChar d = false) : c ≠ d := by
  rintro rfl
  rw [h] at hd
  cases hd

lemma isSpace_of_isNameChar {c : Char} (h : isNameChar c = true) : isSpace c = false := by
  by_contra hspace
  rw [isNameChar_of_isSpace (by simpa using hspace)] at h
  cases h

namespace QualifiedName

variable {name : QualifiedName}

lemma IsProper.chars (h : name.IsProper) : ∀ c ∈ name.text, isNameChar c = true := by
  unfold text
  split_ifs with unled
  · exact h.base.chars
  · intro c hc
    rcases List.mem_append.1 hc with hc | hc
    · exact (h.lead.resolve_left unled).chars c hc
    · rcases List.mem_cons.1 hc with rfl | hc
      · decide
      · exact h.base.chars c hc

/-- A name begins as names do. -/
lemma IsProper.exists_cons (h : name.IsProper) : ∃ c t, name.text = c :: t ∧ isNameStart c = true := by
  have hpart : ∀ {part : Text}, IsPart part → ∃ c t, part = c :: t ∧ isNameStart c = true := by
    intro part hpart
    have hstart := hpart.start
    cases part with
    | nil => cases hstart
    | cons c t => exact ⟨c, t, rfl, hstart⟩
  unfold text
  split_ifs with unled
  · exact hpart h.base
  · obtain ⟨c, t, hlead, hstart⟩ := hpart (h.lead.resolve_left unled)
    exact ⟨c, t ++ ':' :: name.base, by rw [hlead, List.cons_append], hstart⟩

end QualifiedName

/-- A name is read up to where no character of names follows. -/
lemma qualifiedName?_text {name : QualifiedName} (proper : name.IsProper) {rest : Text}
    (stop : ∀ c ∈ rest.head?, isNameChar c = false) :
    Token.qualifiedName? (name.text ++ rest) = some (name, rest) := by
  obtain ⟨htake, hdrop⟩ := cut_append proper.chars stop
  unfold Token.qualifiedName?
  dsimp only
  rw [htake, hdrop, QualifiedName.text]
  obtain ⟨lead, base⟩ := name
  by_cases unled : lead = []
  · subst unled
    rw [if_pos rfl, Text.splitOn_of_not_mem proper.base.whole]
    dsimp only
    rw [if_pos proper.base.start]
  · have hlead := proper.lead.resolve_left unled
    rw [if_neg unled, Text.splitOn_append, Text.splitOn_of_not_mem hlead.whole,
      Text.splitOn_of_not_mem proper.base.whole, List.singleton_append]
    dsimp only
    rw [hlead.start, proper.base.start, Bool.or_true, Bool.and_self, if_pos rfl]

/-! ### Attributes -/

/-- The value of an attribute between its quotes. -/
structure IsQuotable (quote : Char) (value : Text) : Prop where
  allowed : ∀ c ∈ value, isAllowed c = true
  inside : quote ∉ value
  noTag : '<' ∉ value

/-- How an attribute is spelled. -/
inductive Attribute.Spells : Attribute → Text → Prop
  | intro {name : QualifiedName} {value before after : Text} {quote : Char} (proper : name.IsProper)
      (before_spaces : AreSpaces before) (after_spaces : AreSpaces after)
      (quotes : quote = '"' ∨ quote = '\'') (quotable : IsQuotable quote value) :
      Attribute.Spells ⟨name, value⟩ (name.text ++ before ++ '=' :: after ++ quote :: value ++ [quote])

lemma quoted?_append {quote : Char} {value : Text} (h : IsQuotable quote value) (rest : Text) :
    Token.quoted? quote (value ++ quote :: rest) = some (value, rest) := by
  obtain ⟨allowed, inside, noTag⟩ := h
  induction value with
  | nil => rw [List.nil_append, Token.quoted?, if_pos rfl]
  | cons c value ih =>
    rw [List.mem_cons, not_or] at inside noTag
    have hrest := ih (fun d hd => allowed d (List.mem_cons_of_mem _ hd)) inside.2 noTag.2
    have hc := allowed c List.mem_cons_self
    rw [List.cons_append, Token.quoted?, if_neg (Ne.symm inside.1), hrest]
    simp [Ne.symm noTag.1, hc]

/-- An attribute begins as its name does. -/
lemma Attribute.Spells.exists_cons {a : Attribute} {t : Text} (h : a.Spells t) :
    ∃ c rest, t = c :: rest ∧ isNameStart c = true := by
  cases h with
  | intro proper =>
    obtain ⟨c, rest, hname, hstart⟩ := proper.exists_cons
    exact ⟨c, _, by rw [hname]; rfl, hstart⟩

/-- An attribute is read, whatever follows. -/
lemma attribute?_append {a : Attribute} {t : Text} (h : a.Spells t) (rest : Text) :
    Token.attribute? (t ++ rest) = some (a, rest) := by
  cases h with
  | @intro name value before after quote proper before_spaces after_spaces quotes quotable =>
    have hstop : ∀ c ∈ (before ++ '=' :: (after ++ quote :: (value ++ quote :: rest))).head?,
        isNameChar c = false := by
      intro c hc
      rcases head?_append_cons before_spaces _ _ c hc with hspace | rfl
      · exact isNameChar_of_isSpace hspace
      · decide
    have hname := qualifiedName?_text proper hstop
    have hequals : Token.skipSpaces (before ++ '=' :: (after ++ quote :: (value ++ quote :: rest))) =
        '=' :: (after ++ quote :: (value ++ quote :: rest)) := by
      apply skipSpaces_append before_spaces
      rintro c ⟨⟩
      decide
    have hquote : Token.skipSpaces (after ++ quote :: (value ++ quote :: rest)) =
        quote :: (value ++ quote :: rest) := by
      apply skipSpaces_append after_spaces
      rintro c ⟨⟩
      rcases quotes with rfl | rfl <;> decide
    have hvalue := quoted?_append quotable rest
    have hassoc : name.text ++ before ++ '=' :: after ++ quote :: value ++ [quote] ++ rest =
        name.text ++ (before ++ '=' :: (after ++ quote :: (value ++ quote :: rest))) := by simp
    rw [hassoc, Token.attribute?, hname]
    simp only [Option.bind_eq_bind, Option.bind_some, hequals, Text.after?, if_true, hquote]
    rcases quotes with rfl | rfl <;> simp [hvalue]

/-- How the attributes of a tag are spelled: blanks stand before each of them. -/
inductive AttributesSpell : List Attribute → Text → Prop
  | nil : AttributesSpell [] []
  | cons {a : Attribute} {others : List Attribute} {gap t rest : Text} (spaces : AreSpaces gap)
      (apart : gap ≠ []) (first : a.Spells t) (more : AttributesSpell others rest) :
      AttributesSpell (a :: others) (gap ++ t ++ rest)

/-- The end of a tag. -/
def tagEnd (closed : Bool) : Text :=
  if closed then ['/', '>'] else ['>']

lemma isNameChar_of_isNameStart {c : Char} (h : isNameStart c = true) : isNameChar c = true := by
  simp [isNameChar, h]

lemma skipSpaces_tagEnd {gap : Text} (spaces : AreSpaces gap) (closed : Bool) (rest : Text) :
    Token.skipSpaces (gap ++ (tagEnd closed ++ rest)) = tagEnd closed ++ rest := by
  apply skipSpaces_append spaces
  cases closed <;> rintro c ⟨⟩ <;> decide

/-- An attribute with blanks before it is read, and then what follows. -/
lemma attributes?_cons {blank : Char} {blanks t : Text} {a : Attribute} (space : isSpace blank = true)
    (spaces : AreSpaces blanks) (first : a.Spells t) (more : Text) :
    Token.attributes? (blank :: (blanks ++ (t ++ more))) =
      (Token.attributes? more).map fun (others, closed, rest) => (a :: others, closed, rest) := by
  obtain ⟨c, u, ht, hstart⟩ := first.exists_cons
  have hchar := isNameChar_of_isNameStart hstart
  have hslash := ne_of_isNameChar hchar (d := '/') (by decide)
  have hangle := ne_of_isNameChar hchar (d := '>') (by decide)
  have hattribute := attribute?_append first more
  have hinner : Token.skipSpaces (blanks ++ (t ++ more)) = t ++ more := by
    apply skipSpaces_append spaces
    rw [ht]
    rintro d ⟨⟩
    exact isSpace_of_isNameChar hchar
  have hwhole : Token.skipSpaces (blank :: (blanks ++ (t ++ more))) = t ++ more :=
    (List.dropWhile_cons_of_pos space).trans hinner
  rw [Token.attributes?.eq_def, hwhole]
  split
  · next heq =>
    rw [ht] at heq
    exact absurd (List.cons.inj heq).1 hslash
  · next heq =>
    rw [ht] at heq
    exact absurd (List.cons.inj heq).1 hangle
  · dsimp only
    rw [space]
    split
    · next h => simp at h
    · split
      · next hnone =>
        rw [hinner, hattribute] at hnone
        cases hnone
      · next hsome =>
        rw [hinner, hattribute] at hsome
        obtain ⟨rfl, rfl⟩ := Prod.mk.inj (Option.some.inj hsome)
        rfl

/-- The attributes of a tag are read, with its end. -/
lemma attributes?_append {attributes : List Attribute} {t gap : Text} (h : AttributesSpell attributes t)
    (spaces : AreSpaces gap) (closed : Bool) (rest : Text) :
    Token.attributes? (t ++ (gap ++ (tagEnd closed ++ rest))) = some (attributes, closed, rest) := by
  induction h with
  | nil =>
    have hend := skipSpaces_tagEnd spaces closed rest
    rw [List.nil_append, Token.attributes?.eq_def, hend]
    cases closed <;> rfl
  | @cons a others blanks t more areSpaces apart first _ ih =>
    obtain ⟨blank, blanks, rfl⟩ := List.exists_cons_of_ne_nil apart
    obtain ⟨hblank, hblanks⟩ := List.forall_mem_cons.1 areSpaces
    have hassoc : blank :: blanks ++ t ++ more ++ (gap ++ (tagEnd closed ++ rest)) =
        blank :: (blanks ++ (t ++ (more ++ (gap ++ (tagEnd closed ++ rest))))) := by simp
    rw [hassoc, attributes?_cons hblank hblanks first, ih]
    rfl

/-! ### Marks -/

/-- A mark that follows a text is the first one: it begins nowhere before. -/
def EndsAt (mark t : Text) : Prop :=
  ∀ before after, t = before ++ after → after ≠ [] → ¬mark <+: after ++ mark

lemma after?_append (lead rest : Text) : Text.after? lead (lead ++ rest) = some rest :=
  Text.after?_eq_some_iff.2 rfl

lemma after?_eq_none {lead t : Text} (h : ¬lead <+: t) : Text.after? lead t = none := by
  rw [Option.eq_none_iff_forall_ne_some]
  intro rest hrest
  exact h ⟨rest, (Text.after?_eq_some_iff.1 hrest).symm⟩

/-- What stands before a mark is read up to it. -/
lemma upTo?_append {mark t : Text} (marked : mark ≠ []) (allowed : ∀ c ∈ t, isAllowed c = true)
    (ends : EndsAt mark t) (rest : Text) : Token.upTo? mark (t ++ (mark ++ rest)) = some (t, rest) := by
  induction t with
  | nil =>
    obtain ⟨c, more, rfl⟩ := List.exists_cons_of_ne_nil marked
    have hafter := after?_append (c :: more) rest
    rw [List.cons_append] at hafter
    rw [List.nil_append, List.cons_append, Token.upTo?, hafter]
  | cons c t ih =>
    have hrest := ih (fun d hd => allowed d (List.mem_cons_of_mem _ hd)) fun before after heq hne =>
      ends (c :: before) after (by rw [heq, List.cons_append]) hne
    have hnone : Text.after? mark (c :: (t ++ (mark ++ rest))) = none := by
      apply after?_eq_none
      intro hprefix
      apply ends [] (c :: t) rfl (List.cons_ne_nil _ _)
      have hwhole : c :: t ++ mark <+: c :: (t ++ (mark ++ rest)) := ⟨rest, by simp⟩
      exact List.prefix_of_prefix_length_le hprefix hwhole (by simp +arith)
    rw [List.cons_append, Token.upTo?, hnone, hrest]
    simp [allowed c List.mem_cons_self]

/-! ### Tokens -/

/-- How a token is spelled. -/
inductive Token.Spells : Token → Text → Prop
  | openTag {name : QualifiedName} {attributes : List Attribute} {closed : Bool} {t gap : Text}
      (proper : name.IsProper) (spelled : AttributesSpell attributes t) (spaces : AreSpaces gap) :
      Spells (.openTag name attributes closed) ('<' :: name.text ++ t ++ gap ++ tagEnd closed)
  | closeTag {name : QualifiedName} {gap : Text} (proper : name.IsProper) (spaces : AreSpaces gap) :
      Spells (.closeTag name) ('<' :: '/' :: name.text ++ gap ++ ['>'])
  | text {t : Text} (ne_nil : t ≠ []) (allowed : ∀ c ∈ t, isAllowed c = true) (noTag : '<' ∉ t)
      (noEnd : ¬Token.dataEnd <:+: t) : Spells (.text t) t
  | data {t : Text} (allowed : ∀ c ∈ t, isAllowed c = true) (ends : EndsAt Token.dataEnd t) :
      Spells (.characterData t) ("<![CDATA[" ++ t ++ Token.dataEnd)
  | comment {t : Text} (allowed : ∀ c ∈ t, isAllowed c = true) (ends : EndsAt ['-', '-'] t) :
      Spells .aside ("<!--" ++ t ++ "-->")
  /-- A processing instruction: its target, and after a blank anything else. -/
  | instruction {target body : Text} (start : Token.isNamePart target = true)
      (chars : ∀ c ∈ target, isNameChar c = true) (other : target ≠ "xml")
      (apart : ∀ c ∈ body.head?, isSpace c = true) (allowed : ∀ c ∈ body, isAllowed c = true)
      (ends : EndsAt ['?', '>'] body) : Spells .aside ("<?" ++ target ++ body ++ "?>")

lemma Token.Spells.ne_nil {token : Token} {t : Text} (h : token.Spells t) : t ≠ [] := by
  cases h with
  | text ne_nil => exact ne_nil
  | _ => nofun

lemma head?_attributes {attributes : List Attribute} {t gap : Text} (h : AttributesSpell attributes t)
    (spaces : AreSpaces gap) (closed : Bool) (rest : Text) :
    ∀ c ∈ (t ++ (gap ++ (tagEnd closed ++ rest))).head?, isNameChar c = false := by
  cases h with
  | nil =>
    intro c hc
    have hend : ∃ d more, tagEnd closed ++ rest = d :: more ∧ isNameChar d = false := by
      cases closed
      · exact ⟨'>', rest, rfl, by decide⟩
      · exact ⟨'/', _, rfl, by decide⟩
    obtain ⟨d, more, hmore, hd⟩ := hend
    rw [hmore] at hc
    rcases head?_append_cons spaces d more c hc with hspace | rfl
    · exact isNameChar_of_isSpace hspace
    · exact hd
  | cons areSpaces apart =>
    obtain ⟨blank, blanks, rfl⟩ := List.exists_cons_of_ne_nil apart
    rintro c ⟨⟩
    exact isNameChar_of_isSpace (areSpaces _ List.mem_cons_self)

lemma next?_openTag {name : QualifiedName} (proper : name.IsProper) (rest : Text) :
    Token.next? ('<' :: (name.text ++ rest)) = Token.openTag? (name.text ++ rest) := by
  obtain ⟨c, t, hname, hstart⟩ := proper.exists_cons
  have hchar := isNameChar_of_isNameStart hstart
  have hbang := ne_of_isNameChar hchar (d := '!') (by decide)
  have hquestion := ne_of_isNameChar hchar (d := '?') (by decide)
  have hslash := ne_of_isNameChar hchar (d := '/') (by decide)
  rw [hname, List.cons_append, Token.next?.eq_def]
  split
  · next heq => exact absurd (List.cons.inj (List.cons.inj heq).2).1 hbang
  · next heq => exact absurd (List.cons.inj (List.cons.inj heq).2).1 hbang
  · next heq => exact absurd (List.cons.inj (List.cons.inj heq).2).1 hquestion
  · next heq => exact absurd (List.cons.inj (List.cons.inj heq).2).1 hslash
  · next heq => rw [(List.cons.inj heq).2]
  · next hne heq => exact (hne (List.cons.inj heq).1.symm).elim
  · next heq => cases heq

/-- A processing instruction is no declaration, since its target is not that of one. -/
lemma beginsWith_instruction {target rest : Text} (chars : ∀ c ∈ target, isNameChar c = true)
    (other : target ≠ "xml") (apart : ∀ c ∈ rest.head?, isNameChar c = false) :
    Text.beginsWith Token.declarationStart ('<' :: '?' :: (target ++ rest)) = false := by
  by_contra h
  rw [Bool.not_eq_false, Text.beginsWith] at h
  obtain ⟨more, hmore⟩ := Option.isSome_iff_exists.1 h
  have hlist := Text.after?_eq_some_iff.1 hmore
  have hsame : target ++ rest = ("xml" : Text) ++ ' ' :: more :=
    (List.cons.inj (List.cons.inj hlist).2).2
  have hxml : ∀ c ∈ ("xml" : Text), isNameChar c = true := List.all_eq_true.1 (by decide)
  have hspace : ∀ c ∈ (' ' :: more).head?, isNameChar c = false := by
    rintro c ⟨⟩
    decide
  apply other
  rw [← (cut_append chars apart).1, hsame, (cut_append hxml hspace).1]

lemma next?_text {c : Char} (hc : c ≠ '<') (t : Text) : Token.next? (c :: t) =
    if Token.isText (c :: t.takeWhile (· ≠ '<')) then
      some (.text (c :: t.takeWhile (· ≠ '<')), (c :: t).dropWhile (· ≠ '<'))
    else none := by
  have hdrop : (c :: t).dropWhile (· ≠ '<') = t.dropWhile (· ≠ '<') :=
    List.dropWhile_cons_of_pos (decide_eq_true hc)
  rw [hdrop, Token.next?.eq_def]
  split
  · next heq => exact absurd (List.cons.inj heq).1 hc
  · next heq => exact absurd (List.cons.inj heq).1 hc
  · next heq => exact absurd (List.cons.inj heq).1 hc
  · next heq => exact absurd (List.cons.inj heq).1 hc
  · next heq => exact absurd (List.cons.inj heq).1 hc
  · next heq =>
    obtain ⟨rfl, rfl⟩ := List.cons.inj heq
    rfl
  · next heq => cases heq

lemma skipSpaces_instruction (body rest : Text) :
    Token.skipSpaces (body ++ '?' :: rest) = Token.skipSpaces body ++ '?' :: rest := by
  unfold Token.skipSpaces
  induction body with
  | nil => rfl
  | cons c body ih =>
    by_cases hc : isSpace c = true
    · rw [List.cons_append, List.dropWhile_cons_of_pos hc, List.dropWhile_cons_of_pos hc, ih]
    · rw [List.cons_append, List.dropWhile_cons_of_neg hc, List.dropWhile_cons_of_neg hc, List.cons_append]

lemma openTag?_append {name : QualifiedName} {attributes : List Attribute} {t gap : Text}
    (proper : name.IsProper) (spelled : AttributesSpell attributes t) (spaces : AreSpaces gap) (closed : Bool)
    (rest : Text) : Token.openTag? (name.text ++ (t ++ (gap ++ (tagEnd closed ++ rest)))) =
      some (.openTag name attributes closed, rest) := by
  have hname := qualifiedName?_text proper (head?_attributes spelled spaces closed rest)
  have hattributes := attributes?_append spelled spaces closed rest
  rw [Token.openTag?, hname]
  simp only [Option.bind_eq_bind, Option.bind_some, hattributes, Option.pure_def]

lemma closeTag?_append {name : QualifiedName} {gap : Text} (proper : name.IsProper) (spaces : AreSpaces gap)
    (rest : Text) : Token.closeTag? (name.text ++ (gap ++ '>' :: rest)) = some (.closeTag name, rest) := by
  have hname := qualifiedName?_text proper (head?_attributes .nil spaces false rest)
  have hend := skipSpaces_tagEnd spaces false rest
  have hafter : Text.after? ['>'] (tagEnd false ++ rest) = some rest := after?_append _ rest
  have htag : '>' :: rest = tagEnd false ++ rest := rfl
  rw [List.nil_append] at hname
  rw [htag, Token.closeTag?, hname]
  simp only [Option.bind_eq_bind, Option.bind_some, hend, hafter, Option.pure_def]

lemma isText_of_allowed {t : Text} (allowed : ∀ c ∈ t, isAllowed c = true) (noEnd : ¬Token.dataEnd <:+: t) :
    Token.isText t = true := by
  induction t with
  | nil => rfl
  | cons c t ih =>
    rw [List.infix_cons_iff, not_or] at noEnd
    have hrest := ih (fun d hd => allowed d (List.mem_cons_of_mem _ hd)) noEnd.2
    have hend : Text.beginsWith Token.dataEnd (c :: t) = false := by
      rw [Text.beginsWith, after?_eq_none noEnd.1]
      rfl
    rw [Token.isText, allowed c List.mem_cons_self, hend, hrest]
    rfl

/-- A stretch of text is read up to the next tag. -/
lemma next?_text_append {t rest : Text} (ne_nil : t ≠ []) (plain : Token.isText t = true) (noTag : '<' ∉ t)
    (bounded : ∀ c ∈ rest.head?, c = '<') : Token.next? (t ++ rest) = some (.text t, rest) := by
  obtain ⟨c, t, rfl⟩ := List.exists_cons_of_ne_nil ne_nil
  rw [List.mem_cons, not_or] at noTag
  have hinside : ∀ d ∈ t, decide (d ≠ '<') = true := by
    intro d hd
    apply decide_eq_true
    rintro rfl
    exact noTag.2 hd
  have hstop : ∀ d ∈ rest.head?, decide (d ≠ '<') = false := by
    intro d hd
    rw [bounded d hd]
    rfl
  obtain ⟨htake, hdrop⟩ := cut_append hinside hstop
  have hfirst : (c :: (t ++ rest)).dropWhile (· ≠ '<') = (t ++ rest).dropWhile (· ≠ '<') :=
    List.dropWhile_cons_of_pos (decide_eq_true (Ne.symm noTag.1))
  rw [List.cons_append, next?_text (Ne.symm noTag.1), htake, if_pos plain, hfirst, hdrop]

lemma data?_append {t : Text} (allowed : ∀ c ∈ t, isAllowed c = true) (ends : EndsAt Token.dataEnd t)
    (rest : Text) : Token.data? ("[CDATA[" ++ (t ++ (Token.dataEnd ++ rest))) =
      some (.characterData t, rest) := by
  have hdata := upTo?_append (by decide) allowed ends rest
  rw [Token.data?]
  simp only [Option.bind_eq_bind, after?_append, Option.bind_some, hdata, Option.pure_def]

lemma comment?_append {t : Text} (allowed : ∀ c ∈ t, isAllowed c = true) (ends : EndsAt ['-', '-'] t)
    (rest : Text) : Token.comment? (t ++ (['-', '-'] ++ '>' :: rest)) = some (.aside, rest) := by
  have hcomment := upTo?_append (by decide) allowed ends ('>' :: rest)
  have hafter : Text.after? ['>'] ('>' :: rest) = some rest := after?_append _ rest
  rw [Token.comment?, hcomment]
  simp only [Option.bind_eq_bind, Option.bind_some, hafter, Option.pure_def]

/-- A processing instruction is read, and not as a declaration. -/
lemma next?_instruction_append {target body : Text} (start : Token.isNamePart target = true)
    (chars : ∀ c ∈ target, isNameChar c = true) (other : target ≠ "xml")
    (apart : ∀ c ∈ body.head?, isSpace c = true) (allowed : ∀ c ∈ body, isAllowed c = true)
    (ends : EndsAt ['?', '>'] body) (rest : Text) :
    Token.next? ('<' :: '?' :: (target ++ (body ++ '?' :: '>' :: rest))) = some (.aside, rest) := by
  have hstop : ∀ c ∈ (body ++ '?' :: '>' :: rest).head?, isNameChar c = false := by
    rcases body with _ | ⟨c, body⟩
    · rintro c ⟨⟩
      decide
    · rintro d ⟨⟩
      exact isNameChar_of_isSpace (apart _ rfl)
  obtain ⟨htake, hdrop⟩ := cut_append chars hstop
  have hname : Token.name? (target ++ (body ++ '?' :: '>' :: rest)) =
      some (target, body ++ '?' :: '>' :: rest) := by
    have hstart : Token.isNamePart (target ++ (body ++ '?' :: '>' :: rest)) = true := by
      cases target with
      | nil => cases start
      | cons c target => exact start
    rw [Token.name?, if_pos hstart, htake, hdrop]
  -- blanks after the target are skipped, and none of what is left ends earlier
  have hsuffix : Token.skipSpaces body <:+ body := List.dropWhile_suffix _
  have hends : EndsAt ['?', '>'] (Token.skipSpaces body) := by
    obtain ⟨blanks, hblanks⟩ := hsuffix
    intro before after heq hne
    exact ends (blanks ++ before) after (by rw [← hblanks, heq, List.append_assoc]) hne
  have hbody : Token.upTo? ['?', '>'] (Token.skipSpaces body ++ '?' :: '>' :: rest) =
      some (Token.skipSpaces body, rest) :=
    upTo?_append (by decide) (fun c hc => allowed c (hsuffix.subset hc)) hends rest
  have hnext : Token.next? ('<' :: '?' :: (target ++ (body ++ '?' :: '>' :: rest))) =
      if Text.beginsWith Token.declarationStart ('<' :: '?' :: (target ++ (body ++ '?' :: '>' :: rest)))
      then none else Token.instruction? (target ++ (body ++ '?' :: '>' :: rest)) := rfl
  rw [hnext, beginsWith_instruction chars other hstop, if_neg Bool.false_ne_true, Token.instruction?, hname]
  simp only [Option.bind_eq_bind, Option.bind_some, skipSpaces_instruction, hbody, Option.pure_def]

/-- **A token that is spelled is read**, whatever follows; text reaches up to the next tag. -/
lemma next?_append {token : Token} {t : Text} (h : token.Spells t) {rest : Text}
    (bounded : ∀ written, token = .text written → ∀ c ∈ rest.head?, c = '<') :
    Token.next? (t ++ rest) = some (token, rest) := by
  cases h with
  | @openTag name attributes closed t gap proper spelled spaces =>
    have hassoc : '<' :: name.text ++ t ++ gap ++ tagEnd closed ++ rest =
        '<' :: (name.text ++ (t ++ (gap ++ (tagEnd closed ++ rest)))) := by simp
    rw [hassoc, next?_openTag proper, openTag?_append proper spelled spaces]
  | @closeTag name gap proper spaces =>
    have hassoc : '<' :: '/' :: name.text ++ gap ++ ['>'] ++ rest =
        '<' :: '/' :: (name.text ++ (gap ++ '>' :: rest)) := by simp
    have hnext : Token.next? ('<' :: '/' :: (name.text ++ (gap ++ '>' :: rest))) =
        Token.closeTag? (name.text ++ (gap ++ '>' :: rest)) := rfl
    rw [hassoc, hnext, closeTag?_append proper spaces]
  | text ne_nil allowed noTag noEnd =>
    exact next?_text_append ne_nil (isText_of_allowed allowed noEnd) noTag (bounded _ rfl)
  | @data t allowed ends =>
    have hassoc : "<![CDATA[" ++ t ++ Token.dataEnd ++ rest =
        '<' :: '!' :: ("[CDATA[" ++ (t ++ (Token.dataEnd ++ rest))) := by simp
    have hnext : Token.next? ('<' :: '!' :: ("[CDATA[" ++ (t ++ (Token.dataEnd ++ rest)))) =
        Token.data? ("[CDATA[" ++ (t ++ (Token.dataEnd ++ rest))) := rfl
    rw [hassoc, hnext, data?_append allowed ends]
  | @comment t allowed ends =>
    have hassoc : "<!--" ++ t ++ "-->" ++ rest =
        '<' :: '!' :: '-' :: '-' :: (t ++ (['-', '-'] ++ '>' :: rest)) := by simp
    have hnext : Token.next? ('<' :: '!' :: '-' :: '-' :: (t ++ (['-', '-'] ++ '>' :: rest))) =
        Token.comment? (t ++ (['-', '-'] ++ '>' :: rest)) := rfl
    rw [hassoc, hnext, comment?_append allowed ends]
  | @instruction target body start chars other apart allowed ends =>
    have hassoc : "<?" ++ target ++ body ++ "?>" ++ rest =
        '<' :: '?' :: (target ++ (body ++ '?' :: '>' :: rest)) := by simp
    rw [hassoc, next?_instruction_append start chars other apart allowed ends]

/-- How tokens are spelled one after the other. No other token follows a stretch of text but a tag, a section,
a comment or an instruction. -/
inductive TokensSpell : List Token → Text → Prop
  | nil : TokensSpell [] []
  | cons {token : Token} {tokens : List Token} {t rest : Text} (first : token.Spells t)
      (more : TokensSpell tokens rest)
      (bounded : ∀ written, token = .text written → ∀ c ∈ rest.head?, c = '<') :
      TokensSpell (token :: tokens) (t ++ rest)

/-- Tokens that are spelled are read. -/
lemma all?_eq {tokens : List Token} {t : Text} (h : TokensSpell tokens t) : Token.all? t = some tokens := by
  induction h with
  | nil => rw [Token.all?.eq_def]
  | @cons token tokens t rest first _ bounded ih =>
    have hnext := next?_append first bounded
    obtain ⟨c, t, rfl⟩ := List.exists_cons_of_ne_nil first.ne_nil
    rw [List.cons_append] at hnext ⊢
    rw [Token.all?.eq_def]
    dsimp only
    split
    · next hnone =>
      rw [hnext] at hnone
      cases hnone
    · next hsome =>
      rw [hnext] at hsome
      obtain ⟨rfl, rfl⟩ := Prod.mk.inj (Option.some.inj hsome)
      rw [ih]
      rfl

end Custodian.Xml
