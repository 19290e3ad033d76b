import Custodian.Xml.Characters

/-!
# XML tokens

A document is a declaration, if there is one, and then tags, stretches of text, sections of character
data, comments and processing instructions. Document type declarations are refused. Texts are kept
as they are written; what references and line ends in them mean is for `Xml.Content` to say.

A token that is read leaves less than there was (`length_of_next?`), so a document has an end.
-/

namespace Custodian.Xml

/-- A name as it is written: what stands before the colon, if there is one, and the rest. -/
structure QualifiedName where
  lead : Text
  base : Text
deriving DecidableEq

/-- An attribute as it is written. -/
structure Attribute where
  name : QualifiedName
  value : Text

/-- A token of a document. -/
inductive Token where
  | openTag (name : QualifiedName) (attributes : List Attribute) (closed : Bool)
  | closeTag (name : QualifiedName)
  | text (t : Text)
  | characterData (t : Text)
  /-- A comment or a processing instruction. -/
  | aside

namespace Token

/-- What follows the blanks at the beginning. -/
def skipSpaces (t : Text) : Text :=
  t.dropWhile isSpace

theorem length_skipSpaces_le (t : Text) : (skipSpaces t).length ≤ t.length :=
  (List.dropWhile_sublist _).length_le

/-- The text before the first `mark` and the text after it. All characters before it must be ones
that may stand in a document. -/
def upTo? (mark : Text) : Text → Option (Text × Text)
  | [] => none
  | c :: t =>
    match Text.after? mark (c :: t) with
    | some rest => some ([], rest)
    | none =>
      if isAllowed c then (upTo? mark t).map fun (before, rest) => (c :: before, rest) else none

theorem length_of_upTo? {mark t before rest : Text} (h : upTo? mark t = some (before, rest)) :
    rest.length ≤ t.length := by
  induction t generalizing before rest with
  | nil => simp [upTo?] at h
  | cons c t ih =>
    unfold upTo? at h
    split at h
    · next hr =>
      have := congrArg List.length (Text.after?_eq_some_iff.1 hr)
      simp only [List.length_append] at this
      simp_all
    · split at h
      · simp only [Option.map_eq_some_iff, Prod.mk.injEq, Prod.exists] at h
        obtain ⟨b, r, hr, _, rfl⟩ := h
        have := ih hr
        simp only [List.length_cons]; omega
      · simp at h

/-! ### Names -/

/-- Whether a text can be a part of a name: it begins as a name does. -/
def isNamePart (t : Text) : Bool :=
  match t with
  | [] => false
  | c :: _ => isNameStart c

/-- Reads a name with at most one colon. -/
def qualifiedName? (t : Text) : Option (QualifiedName × Text) :=
  let name := t.takeWhile isNameChar
  let rest := t.dropWhile isNameChar
  match Text.splitOn ':' name with
  | [base] => if isNamePart base then some (⟨[], base⟩, rest) else none
  | [lead, base] =>
    if (lead.isEmpty || isNamePart lead) && isNamePart base then some (⟨lead, base⟩, rest)
    else none
  | _ => none

/-- Reads a name in which colons are characters like others. -/
def name? (t : Text) : Option (Text × Text) :=
  if isNamePart t then some (t.takeWhile isNameChar, t.dropWhile isNameChar) else none

theorem length_of_qualifiedName? {t rest : Text} {name : QualifiedName}
    (h : qualifiedName? t = some (name, rest)) : rest.length ≤ t.length := by
  have : (t.dropWhile isNameChar).length ≤ t.length := (List.dropWhile_sublist _).length_le
  unfold qualifiedName? at h
  grind

theorem length_of_name? {t name rest : Text} (h : name? t = some (name, rest)) :
    rest.length ≤ t.length := by
  have : (t.dropWhile isNameChar).length ≤ t.length := (List.dropWhile_sublist _).length_le
  unfold name? at h
  grind

/-! ### Tags -/

/-- Reads the value of an attribute after its opening quote: all up to the same quote, without `<`. -/
def quoted? (quote : Char) : Text → Option (Text × Text)
  | [] => none
  | c :: t =>
    if c = quote then some ([], t)
    else if c = '<' || !isAllowed c then none
    else (quoted? quote t).map fun (value, rest) => (c :: value, rest)

theorem length_of_quoted? {quote : Char} {t value rest : Text}
    (h : quoted? quote t = some (value, rest)) : rest.length < t.length := by
  induction t generalizing value rest with
  | nil => simp [quoted?] at h
  | cons c t ih =>
    unfold quoted? at h
    split at h
    · simp_all
    · split at h
      · simp at h
      · simp only [Option.map_eq_some_iff, Prod.mk.injEq, Prod.exists] at h
        obtain ⟨v, r, hr, _, rfl⟩ := h
        have := ih hr
        simp only [List.length_cons]; omega

def attribute? (t : Text) : Option (Attribute × Text) := do
  let (name, t) ← qualifiedName? t
  let t ← Text.after? ['='] (skipSpaces t)
  match skipSpaces t with
  | '"' :: t => (quoted? '"' t).map fun (value, rest) => (⟨name, value⟩, rest)
  | '\'' :: t => (quoted? '\'' t).map fun (value, rest) => (⟨name, value⟩, rest)
  | _ => none

theorem length_of_attribute? {t rest : Text} {a : Attribute}
    (h : attribute? t = some (a, rest)) : rest.length < t.length := by
  simp only [attribute?, Option.bind_eq_bind, Option.bind_eq_some_iff, Prod.exists] at h
  obtain ⟨name, r, hr, r', he, h⟩ := h
  have h1 := length_of_qualifiedName? hr
  have h2 := length_skipSpaces_le r
  have h3 := congrArg List.length (Text.after?_eq_some_iff.1 he)
  have h4 := length_skipSpaces_le r'
  simp only [List.length_append, List.length_cons] at h3
  split at h
  case h_3 => simp at h
  all_goals
    next hs =>
    simp only [Option.map_eq_some_iff, Prod.mk.injEq, Prod.exists] at h
    obtain ⟨v, r'', hq, _, rfl⟩ := h
    have := length_of_quoted? hq
    simp only [hs, List.length_cons] at h4
    omega

/-- Reads the attributes of a tag and its end: whether the element is closed by it. Blanks must
stand before each attribute. -/
def attributes? (t : Text) : Option (List Attribute × Bool × Text) :=
  match skipSpaces t with
  | '/' :: '>' :: rest => some ([], true, rest)
  | '>' :: rest => some ([], false, rest)
  | _ =>
    match t with
    | [] => none
    | c :: t =>
      if !isSpace c then none
      else
        match _h : attribute? (skipSpaces t) with
        | none => none
        | some (first, rest) =>
          (attributes? rest).map fun (others, closed, rest) => (first :: others, closed, rest)
termination_by t.length
decreasing_by
  have := length_of_attribute? _h
  have := length_skipSpaces_le t
  simp only [List.length_cons]; omega

theorem length_of_attributes? {t rest : Text} {as : List Attribute} {closed : Bool}
    (h : attributes? t = some (as, closed, rest)) : rest.length < t.length := by
  fun_induction attributes? t generalizing as closed rest with
  | case1 t r hs =>
    have := length_skipSpaces_le t
    simp only [hs, List.length_cons] at this
    simp only [Option.some.injEq, Prod.mk.injEq] at h
    rw [← h.2.2]; omega
  | case2 t r hs =>
    have := length_skipSpaces_le t
    simp only [hs, List.length_cons] at this
    simp only [Option.some.injEq, Prod.mk.injEq] at h
    rw [← h.2.2]; omega
  | case3 => simp at h
  | case4 => simp at h
  | case5 => simp at h
  | case6 c t hc first r hr _ _ ih =>
    simp only [Option.map_eq_some_iff, Prod.mk.injEq, Prod.exists] at h
    obtain ⟨others, closed', r', hr', _, _, rfl⟩ := h
    have := ih hr'
    have := length_of_attribute? hr
    have := length_skipSpaces_le t
    simp only [List.length_cons]; omega

/-- Reads a tag that opens an element, after its `<`. -/
def openTag? (t : Text) : Option (Token × Text) := do
  let (name, t) ← qualifiedName? t
  let (attributes, closed, rest) ← attributes? t
  return (.openTag name attributes closed, rest)

theorem length_of_openTag? {t rest : Text} {token : Token} (h : openTag? t = some (token, rest)) :
    rest.length < t.length := by
  simp only [openTag?, Option.bind_eq_bind, Option.bind_eq_some_iff, Option.pure_def,
    Option.some.injEq, Prod.mk.injEq, Prod.exists] at h
  obtain ⟨name, r, hr, as, closed, r', ha, _, rfl⟩ := h
  have := length_of_qualifiedName? hr
  have := length_of_attributes? ha
  omega

/-- Reads a tag that closes an element, after its `</`. -/
def closeTag? (t : Text) : Option (Token × Text) := do
  let (name, t) ← qualifiedName? t
  let rest ← Text.after? ['>'] (skipSpaces t)
  return (.closeTag name, rest)

theorem length_of_closeTag? {t rest : Text} {token : Token} (h : closeTag? t = some (token, rest)) :
    rest.length < t.length := by
  simp only [closeTag?, Option.bind_eq_bind, Option.bind_eq_some_iff, Option.pure_def,
    Option.some.injEq, Prod.mk.injEq, Prod.exists] at h
  obtain ⟨name, r, hr, r', he, _, rfl⟩ := h
  have h1 := length_of_qualifiedName? hr
  have h2 := length_skipSpaces_le r
  have h3 := congrArg List.length (Text.after?_eq_some_iff.1 he)
  simp only [List.length_append, List.length_cons] at h3
  omega

/-! ### Other tokens -/

/-- Reads a comment after its `<!--`; two hyphens stand only at its end. -/
def comment? (t : Text) : Option (Token × Text) := do
  let (_, rest) ← upTo? ['-', '-'] t
  return (.aside, ← Text.after? ['>'] rest)

theorem length_of_comment? {t rest : Text} {token : Token} (h : comment? t = some (token, rest)) :
    rest.length ≤ t.length := by
  simp only [comment?, Option.bind_eq_bind, Option.bind_eq_some_iff, Option.pure_def,
    Option.some.injEq, Prod.mk.injEq, Prod.exists] at h
  obtain ⟨before, r, hr, r', he, _, rfl⟩ := h
  have h1 := length_of_upTo? hr
  have h2 := congrArg List.length (Text.after?_eq_some_iff.1 he)
  simp only [List.length_append] at h2
  omega

/-- Reads a processing instruction after its `<?`. -/
def instruction? (t : Text) : Option (Token × Text) := do
  let (_, t) ← name? t
  let (_, rest) ← upTo? ['?', '>'] (skipSpaces t)
  return (.aside, rest)

theorem length_of_instruction? {t rest : Text} {token : Token}
    (h : instruction? t = some (token, rest)) : rest.length ≤ t.length := by
  simp only [instruction?, Option.bind_eq_bind, Option.bind_eq_some_iff, Option.pure_def,
    Option.some.injEq, Prod.mk.injEq, Prod.exists] at h
  obtain ⟨name, r, hr, before, r', he, _, rfl⟩ := h
  have := length_of_name? hr
  have := length_skipSpaces_le r
  have := length_of_upTo? he
  omega

/-- The mark that ends character data, and may not stand in text. -/
def dataEnd : Text := [']', ']', '>']

/-- Reads a section of character data after its `<!`. -/
def data? (t : Text) : Option (Token × Text) := do
  let (data, rest) ← upTo? dataEnd (← Text.after? "[CDATA[" t)
  return (.characterData data, rest)

theorem length_of_data? {t rest : Text} {token : Token} (h : data? t = some (token, rest)) :
    rest.length ≤ t.length := by
  simp only [data?, Option.bind_eq_bind, Option.bind_eq_some_iff, Option.pure_def,
    Option.some.injEq, Prod.mk.injEq, Prod.exists] at h
  obtain ⟨r, hr, before, r', he, _, rfl⟩ := h
  have h1 := congrArg List.length (Text.after?_eq_some_iff.1 hr)
  have h2 := length_of_upTo? he
  simp only [List.length_append] at h1
  omega

/-- Whether a stretch of text has only characters that may stand in text. -/
def isText : Text → Bool
  | [] => true
  | c :: t => isAllowed c && !Text.beginsWith dataEnd (c :: t) && isText t

def declarationStart : Text := ['<', '?', 'x', 'm', 'l', ' ']

/-- Reads the token that a text begins with. -/
def next? (t : Text) : Option (Token × Text) :=
  match t with
  | '<' :: '!' :: '-' :: '-' :: rest => comment? rest
  | '<' :: '!' :: rest => data? rest
  | '<' :: '?' :: rest =>
    if Text.beginsWith declarationStart t then none else instruction? rest
  | '<' :: '/' :: rest => closeTag? rest
  | '<' :: rest => openTag? rest
  | c :: rest =>
    let content := c :: rest.takeWhile (· ≠ '<')
    if isText content then some (.text content, rest.dropWhile (· ≠ '<')) else none
  | [] => none

theorem length_of_next? {t rest : Text} {token : Token} (h : next? t = some (token, rest)) :
    rest.length < t.length := by
  unfold next? at h
  split at h
  · have := length_of_comment? h
    simp only [List.length_cons]; omega
  · have := length_of_data? h
    simp only [List.length_cons]; omega
  · split at h
    · simp at h
    · have := length_of_instruction? h
      simp only [List.length_cons]; omega
  · have := length_of_closeTag? h
    simp only [List.length_cons]; omega
  · have := length_of_openTag? h
    simp only [List.length_cons]; omega
  · next c t _ _ _ _ _ =>
    have : (t.dropWhile (· ≠ '<')).length ≤ t.length := (List.dropWhile_sublist _).length_le
    simp only [Option.ite_none_right_eq_some, Option.some.injEq, Prod.mk.injEq] at h
    rw [← h.2.2]
    simp only [List.length_cons]; omega
  · simp at h

def all? (t : Text) : Option (List Token) :=
  match t with
  | [] => some []
  | c :: t =>
    match _h : next? (c :: t) with
    | none => none
    | some (token, rest) => (all? rest).map (token :: ·)
termination_by t.length
decreasing_by exact length_of_next? _h

/-! ### Documents -/

/-- Skips blanks after a part of the declaration; they may be missing only at its end. -/
def declarationSpaces? (t : Text) : Option Text :=
  let rest := skipSpaces t
  if rest.length < t.length || t.isEmpty || Text.beginsWith ['?', '>'] t then some rest else none

/-- Skips an attribute of the declaration whose name begins as stated, if one comes next. -/
def declarationPart? (name : Text) (t : Text) : Option (Bool × Text) :=
  if Text.beginsWith name t then (attribute? t).map fun (_, rest) => (true, rest)
  else some (false, t)

/-- Skips a declaration after its first word: version, encoding and whether the document stands
alone. -/
def declaration? (t : Text) : Option Text := do
  let (found, t) ← declarationPart? "version" (← declarationSpaces? t)
  if !found then none
  else
    let t ← declarationSpaces? t
    let (found, t) ← declarationPart? "encoding" t
    let t ← if found then declarationSpaces? t else some t
    let (_, t) ← declarationPart? "standalone" t
    Text.after? ['?', '>'] (skipSpaces t)

/-- The mark of the byte order, which may stand in front of everything else. -/
def byteOrderMark : Char := '\uFEFF'

def ofDocument? (t : Text) : Option (List Token) := do
  let t := if t.head? = some byteOrderMark then t.drop 1 else t
  if Text.beginsWith declarationStart t then
    all? (← declaration? (t.drop 5))
  else all? t

end Token

end Custodian.Xml
