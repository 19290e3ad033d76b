import Custodian.Proofs.Xml.Spelling

/-!
# How documents are spelled

A document may begin with the mark of the byte order and with a declaration, which says the version, the encoding
and whether the document stands alone. Neither says anything on what the document holds: what is left are its
tokens (`ofDocument?_eq`).
-/

namespace Custodian.Xml

/-! ### Declarations -/

/-- How a part of a declaration is spelled, with the blanks before it. -/
inductive PartSpells (name : Text) : Text → Prop
  | intro {gap value t : Text} (spaces : AreSpaces gap) (apart : gap ≠ [])
      (spelled : Attribute.Spells ⟨⟨[], name⟩, value⟩ t) : PartSpells name (gap ++ t)

/-- How the declaration of a document is spelled, after its first word: the version, and then the encoding and
whether the document stands alone, which may be left out. -/
inductive DeclarationSpells : Text → Prop
  | intro {version encoding standalone gap : Text} (hversion : PartSpells "version" version)
      (hencoding : encoding = [] ∨ PartSpells "encoding" encoding)
      (hstandalone : standalone = [] ∨ PartSpells "standalone" standalone) (spaces : AreSpaces gap) :
      DeclarationSpells (version ++ encoding ++ standalone ++ gap ++ "?>")

lemma declarationSpaces?_of_space {c : Char} (hc : isSpace c = true) (t : Text) :
    Token.declarationSpaces? (c :: t) = some (Token.skipSpaces (c :: t)) := by
  have hlength : (Token.skipSpaces (c :: t)).length < (c :: t).length := by
    have hskip : Token.skipSpaces (c :: t) = Token.skipSpaces t := List.dropWhile_cons_of_pos hc
    rw [hskip, List.length_cons]
    exact Nat.lt_succ_of_le (Token.length_skipSpaces_le t)
  unfold Token.declarationSpaces?
  dsimp only
  rw [decide_eq_true hlength, Bool.true_or, Bool.true_or, if_pos rfl]

/-- Blanks before the end of a declaration may be missing. -/
lemma declarationSpaces?_end {gap : Text} (spaces : AreSpaces gap) (t : Text) :
    Token.declarationSpaces? (gap ++ '?' :: '>' :: t) = some ('?' :: '>' :: t) := by
  rcases gap with _ | ⟨c, gap⟩
  · have hbegins : Text.beginsWith ['?', '>'] ('?' :: '>' :: t) = true := by
      rw [Text.beginsWith, show '?' :: '>' :: t = ['?', '>'] ++ t from rfl, after?_append]
      rfl
    unfold Token.declarationSpaces?
    dsimp only
    rw [List.nil_append, hbegins, Bool.or_true, if_pos rfl]
    rfl
  · have hstop : ∀ d ∈ ('?' :: '>' :: t).head?, isSpace d = false := by
      rintro d ⟨⟩
      decide
    have hskip := skipSpaces_append spaces hstop
    have hspaces := declarationSpaces?_of_space (spaces c List.mem_cons_self) (gap ++ '?' :: '>' :: t)
    rw [List.cons_append] at hskip ⊢
    rw [hspaces, hskip]

/-- A part of a declaration begins with its name. -/
lemma Attribute.Spells.exists_append {name value t : Text} (h : Attribute.Spells ⟨⟨[], name⟩, value⟩ t) :
    ∃ more, t = name ++ more := by
  cases h with
  | @intro _ _ before after quote =>
    exact ⟨before ++ '=' :: (after ++ quote :: (value ++ [quote])), by simp [QualifiedName.text]⟩

/-- A part of a declaration is read, with the blanks before it. -/
lemma declarationPart?_append {name t : Text} (h : PartSpells name t) (rest : Text) :
    ∃ more, Token.declarationSpaces? (t ++ rest) = some (name ++ more) ∧
      Token.declarationPart? name (name ++ more) = some (true, rest) := by
  cases h with
  | @intro gap value inner spaces apart spelled =>
    obtain ⟨c, u, hinner, hstart⟩ := spelled.exists_cons
    obtain ⟨more, hmore⟩ := spelled.exists_append
    obtain ⟨blank, gap, rfl⟩ := List.exists_cons_of_ne_nil apart
    have hstop : ∀ d ∈ (inner ++ rest).head?, isSpace d = false := by
      rw [hinner]
      rintro d ⟨⟩
      exact isSpace_of_isNameChar (isNameChar_of_isNameStart hstart)
    have hskip := skipSpaces_append spaces hstop
    have hspaces := declarationSpaces?_of_space (spaces blank List.mem_cons_self) (gap ++ (inner ++ rest))
    have hattribute := attribute?_append spelled rest
    have hbegins : Text.beginsWith name (name ++ (more ++ rest)) = true := by
      rw [Text.beginsWith, after?_append]
      rfl
    have hassoc : inner ++ rest = name ++ (more ++ rest) := by rw [hmore, List.append_assoc]
    refine ⟨more ++ rest, ?_, ?_⟩
    · rw [List.cons_append] at hskip ⊢
      rw [List.cons_append, List.append_assoc, hspaces, hskip, hassoc]
    · rw [Token.declarationPart?, if_pos hbegins, ← hassoc, hattribute]
      rfl

/-- A part of a declaration that begins otherwise is another one. -/
lemma declarationPart?_of_ne {c d : Char} (h : c ≠ d) (name t : Text) :
    Token.declarationPart? (c :: name) (d :: t) = some (false, d :: t) := by
  have hbegins : Text.beginsWith (c :: name) (d :: t) = false := by
    rw [Text.beginsWith, after?_eq_none fun hprefix => h (List.cons_prefix_cons.1 hprefix).1]
    rfl
  rw [Token.declarationPart?, hbegins, if_neg Bool.false_ne_true]

/-- The end of a declaration is read, after what it says on whether the document stands alone. -/
lemma declarationEnd {standalone gap : Text} (h : standalone = [] ∨ PartSpells "standalone" standalone)
    (spaces : AreSpaces gap) (rest : Text) :
    ∃ t, Token.declarationSpaces? (standalone ++ (gap ++ '?' :: '>' :: rest)) = some t ∧
      Token.declarationPart? "encoding" t = some (false, t) ∧
      ∃ found after, Token.declarationPart? "standalone" t = some (found, after) ∧
        Token.skipSpaces after = '?' :: '>' :: rest := by
  have hskip : Token.skipSpaces (gap ++ '?' :: '>' :: rest) = '?' :: '>' :: rest := by
    apply skipSpaces_append spaces
    rintro c ⟨⟩
    decide
  rcases h with rfl | part
  · exact ⟨_, declarationSpaces?_end spaces rest, declarationPart?_of_ne (by decide) _ _, false, _,
      declarationPart?_of_ne (by decide) _ _, rfl⟩
  · obtain ⟨more, hspaces, hpart⟩ := declarationPart?_append part (gap ++ '?' :: '>' :: rest)
    exact ⟨_, hspaces, declarationPart?_of_ne (by decide) _ _, true, _, hpart, hskip⟩

/-- A declaration is read, whatever follows. -/
lemma declaration?_append {t : Text} (h : DeclarationSpells t) (rest : Text) :
    Token.declaration? (t ++ rest) = some rest := by
  cases h with
  | @intro version encoding standalone gap hversion hencoding hstandalone spaces =>
    have hassoc : version ++ encoding ++ standalone ++ gap ++ "?>" ++ rest =
        version ++ (encoding ++ (standalone ++ (gap ++ '?' :: '>' :: rest))) := by simp
    obtain ⟨v, hvspaces, hvpart⟩ :=
      declarationPart?_append hversion (encoding ++ (standalone ++ (gap ++ '?' :: '>' :: rest)))
    obtain ⟨t, hspaces, hnone, found, after, hpart, hskip⟩ := declarationEnd hstandalone spaces rest
    have hend : Text.after? ['?', '>'] (Token.skipSpaces after) = some rest := by
      rw [hskip]
      exact after?_append ['?', '>'] rest
    rw [hassoc, Token.declaration?]
    rcases hencoding with rfl | hencoding
    · rw [List.nil_append] at hvspaces hvpart ⊢
      simp only [Option.bind_eq_bind, Option.bind_some, hvspaces, hvpart, Bool.not_true, Bool.false_eq_true,
        if_false, hspaces, hnone, hpart, hend]
    · obtain ⟨e, hespaces, hepart⟩ := declarationPart?_append hencoding (standalone ++ (gap ++ '?' :: '>' :: rest))
      simp only [Option.bind_eq_bind, Option.bind_some, hvspaces, hvpart, Bool.not_true, Bool.false_eq_true,
        if_false, hespaces, hepart, if_true, hspaces, hpart, hend]

/-! ### Documents -/

/-- How a document is spelled: the mark of the byte order may stand first, and then a declaration. -/
inductive DocumentSpells : List Token → Text → Prop
  | intro {mark declaration body : Text} {tokens : List Token}
      (marked : mark = [] ∨ mark = [Token.byteOrderMark])
      (declared : declaration = [] ∨
        ∃ t, declaration = Token.declarationStart ++ t ∧ DeclarationSpells (' ' :: t))
      (spelled : TokensSpell tokens body) (unmarked : ∀ c ∈ body.head?, c ≠ Token.byteOrderMark) :
      DocumentSpells tokens (mark ++ declaration ++ body)

/-- No token is spelled as a declaration begins. -/
lemma beginsWith_tokens {tokens : List Token} {t : Text} (h : TokensSpell tokens t) :
    Text.beginsWith Token.declarationStart t = false := by
  by_contra hbegins
  rw [Bool.not_eq_false, Text.beginsWith] at hbegins
  obtain ⟨rest, hrest⟩ := Option.isSome_iff_exists.1 hbegins
  have ht := Text.after?_eq_some_iff.1 hrest
  have hnone : Token.next? (Token.declarationStart ++ rest) = none := by
    have hsome : Text.beginsWith Token.declarationStart (Token.declarationStart ++ rest) = true := by
      rw [Text.beginsWith, after?_append]
      rfl
    have hnext : Token.next? (Token.declarationStart ++ rest) =
        if Text.beginsWith Token.declarationStart (Token.declarationStart ++ rest) then none
        else Token.instruction? ("xml" ++ ' ' :: rest) := rfl
    rw [hnext, if_pos hsome]
  cases h with
  | nil => cases ht
  | cons first _ bounded =>
    have hnext := next?_append first bounded
    rw [ht, hnone] at hnext
    cases hnext

/-- **The tokens of a document that is spelled are read.** -/
theorem ofDocument?_eq {tokens : List Token} {doc : Text} (h : DocumentSpells tokens doc) :
    Token.ofDocument? doc = some tokens := by
  cases h with
  | @intro mark declaration body _ marked declared spelled unmarked =>
    have hdocument : Token.ofDocument? (mark ++ declaration ++ body) =
        if Text.beginsWith Token.declarationStart (declaration ++ body) then
          (Token.declaration? ((declaration ++ body).drop 5)).bind Token.all?
        else Token.all? (declaration ++ body) := by
      have hfirst : (declaration ++ body).head? ≠ some Token.byteOrderMark := by
        rcases declared with rfl | ⟨t, rfl, -⟩
        · exact fun h => unmarked _ h rfl
        · intro h
          have hc : '<' = Token.byteOrderMark := Option.some.inj h
          exact absurd hc (by decide)
      rcases marked with rfl | rfl
      · rw [List.nil_append, Token.ofDocument?, if_neg hfirst]
        rfl
      · rfl
    rw [hdocument]
    rcases declared with rfl | ⟨t, rfl, declared⟩
    · rw [List.nil_append, beginsWith_tokens spelled, if_neg Bool.false_ne_true, all?_eq spelled]
    · have hbegins : Text.beginsWith Token.declarationStart (Token.declarationStart ++ t ++ body) = true := by
        rw [Text.beginsWith, List.append_assoc, after?_append]
        rfl
      have hdrop : (Token.declarationStart ++ t ++ body).drop 5 = ' ' :: t ++ body := rfl
      rw [if_pos hbegins, hdrop, declaration?_append declared, Option.bind_some, all?_eq spelled]

end Custodian.Xml
