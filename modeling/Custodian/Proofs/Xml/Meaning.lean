import Custodian.Proofs.Xml.Spelling
import Custodian.Xml.Content

/-!
# Escaped texts

A text is escaped when its ampersands and angle brackets are written by their names; other characters may be, too.
However a text without carriage returns is escaped, this text is what it means (`spells_of_escapes`), and every
text of characters that may stand in a document can be escaped (`escapes_escape`).
-/

namespace Custodian.Xml

/-! ### What is written -/

namespace Chunk

/-- The character of a chunk. -/
def char : Chunk → Char
  | .written c => c
  | .referred c => c

/-- A reference is read up to its semicolon. -/
lemma scan?_name {name : Text} (whole : ';' ∉ name) (pending t : Text) :
    scan? (some pending) (name ++ ';' :: t) = (target? (pending.reverse ++ name)).bind fun target =>
      (scan? none t).map (.referred target :: ·) := by
  induction name generalizing pending with
  | nil =>
    rw [List.nil_append, List.append_nil, scan?, if_pos rfl]
    cases target? pending.reverse <;> cases scan? none t <;> rfl
  | cons c name ih =>
    rw [List.mem_cons, not_or] at whole
    rw [List.cons_append, scan?, if_neg (Ne.symm whole.1), ih whole.2, List.reverse_cons, List.append_assoc,
      List.singleton_append]

end Chunk

/-- Characters that are no carriage returns mean themselves. -/
lemma settle_eq {chunks : List Chunk} (plain : ∀ chunk ∈ chunks, chunk ≠ .written '\r') {done : Text}
    {verbatim : Bool} (settled : verbatim = false → done.head? ≠ some '\r') :
    settle done verbatim chunks = done.reverse ++ chunks.map Chunk.char := by
  induction chunks generalizing done verbatim with
  | nil => rw [settle, List.map_nil, List.append_nil]
  | cons chunk chunks ih =>
    have hrest := fun d hd => plain d (List.mem_cons_of_mem chunk hd)
    have happend : ∀ c : Char, (c :: done).reverse ++ chunks.map Chunk.char =
        done.reverse ++ c :: chunks.map Chunk.char := by simp
    cases chunk with
    | referred c =>
      have hverbatim : true = false → (c :: done).head? ≠ some '\r' := fun h => nomatch h
      rw [settle, ih hrest hverbatim, happend]
      rfl
    | written c =>
      have hc : c ≠ '\r' := by
        rintro rfl
        exact plain _ List.mem_cons_self rfl
      have hhead : false = false → (c :: done).head? ≠ some '\r' := fun _ h => hc (Option.some.inj h)
      cases verbatim with
      | true =>
        rw [settle, if_pos rfl, ih hrest hhead, happend]
        rfl
      | false =>
        have hadd : addWritten done c chunks.isEmpty = c :: done := by
          have hdone := settled rfl
          unfold addWritten
          split
          · exact absurd rfl hdone
          · rw [decide_eq_false hc, Bool.and_false, if_neg Bool.false_ne_true]
        rw [settle, if_neg Bool.false_ne_true, hadd, ih hrest hhead, happend]
        rfl

/-! ### Escaping -/

/-- How a text is escaped. -/
inductive Escapes : Text → Text → Prop
  | nil : Escapes [] []
  | written {c : Char} {t w : Text} (allowed : isAllowed c = true) (noReference : c ≠ '&') (noTag : c ≠ '<')
      (noReturn : c ≠ '\r') (more : Escapes t w) : Escapes (c :: t) (c :: w)
  | named {c : Char} {name t w : Text} (entity : Chunk.named? name = some c) (more : Escapes t w) :
      Escapes (c :: t) ('&' :: name ++ ';' :: w)

/-- The names of characters. -/
lemma mem_of_named? {name : Text} {c : Char} (h : Chunk.named? name = some c) :
    name ∈ [("quot" : Text), "amp", "apos", "lt", "gt"] := by
  unfold Chunk.named? at h
  split_ifs at h with hquot hamp hapos hlt hgt <;> simp [*]

lemma chars_of_named? {name : Text} {c : Char} (h : Chunk.named? name = some c) :
    ∀ d ∈ name, isAllowed d = true ∧ d ≠ '<' ∧ d ≠ ';' := by
  have hall : [("quot" : Text), "amp", "apos", "lt", "gt"].all fun name =>
      name.all fun d => isAllowed d && !decide (d = '<') && !decide (d = ';') := by decide
  have hname := List.all_eq_true.1 hall name (mem_of_named? h)
  intro d hd
  simpa [and_assoc] using List.all_eq_true.1 hname d hd

lemma target?_of_named? {name : Text} {c : Char} (h : Chunk.named? name = some c) :
    Chunk.target? name = some c := by
  have hname := mem_of_named? h
  simp only [List.mem_cons, List.not_mem_nil, or_false] at hname
  rcases hname with rfl | rfl | rfl | rfl | rfl <;> exact h

lemma ofText?_of_escapes {t w : Text} (h : Escapes t w) :
    ∃ chunks, Chunk.ofText? w = some chunks ∧ (∀ chunk ∈ chunks, chunk ≠ .written '\r') ∧
      chunks.map Chunk.char = t := by
  induction h with
  | nil => exact ⟨[], rfl, nofun, rfl⟩
  | @written c t w _ noReference _ noReturn _ ih =>
    obtain ⟨chunks, hchunks, plain, rfl⟩ := ih
    rw [Chunk.ofText?] at hchunks
    refine ⟨.written c :: chunks, ?_, ?_, rfl⟩
    · rw [Chunk.ofText?, Chunk.scan?, if_neg noReference, hchunks]
      rfl
    · rintro chunk hchunk rfl
      rcases List.mem_cons.1 hchunk with heq | hchunk
      · exact noReturn (Chunk.written.inj heq).symm
      · exact plain _ hchunk rfl
  | @named c name t w entity _ ih =>
    obtain ⟨chunks, hchunks, plain, rfl⟩ := ih
    have whole : ';' ∉ name := fun h => (chars_of_named? entity _ h).2.2 rfl
    rw [Chunk.ofText?] at hchunks
    refine ⟨.referred c :: chunks, ?_, ?_, rfl⟩
    · rw [List.cons_append, Chunk.ofText?, Chunk.scan?, if_pos rfl, Chunk.scan?_name whole, List.reverse_nil,
        List.nil_append, target?_of_named? entity, Option.bind_some, hchunks]
      rfl
    · rintro chunk hchunk rfl
      rcases List.mem_cons.1 hchunk with heq | hchunk
      · cases heq
      · exact plain _ hchunk rfl

/-- **An escaped text means this text.** -/
theorem content?_of_escapes {t w : Text} (h : Escapes t w) : content? w = some t := by
  obtain ⟨chunks, hchunks, plain, rfl⟩ := ofText?_of_escapes h
  have hempty : false = false → ([] : Text).head? ≠ some '\r' := by simp
  rw [content?, hchunks, Option.map_some, settle_eq plain hempty]
  rfl

/-- An escaped text may stand in a document, and has no tag in it. -/
lemma chars_of_escapes {t w : Text} (h : Escapes t w) : ∀ c ∈ w, isAllowed c = true ∧ c ≠ '<' := by
  induction h with
  | nil => nofun
  | written allowed _ noTag _ _ ih => exact List.forall_mem_cons.2 ⟨⟨allowed, noTag⟩, ih⟩
  | @named c name t w entity _ ih =>
    intro d hd
    rw [List.cons_append, List.mem_cons, List.mem_append, List.mem_cons] at hd
    rcases hd with rfl | hd | rfl | hd
    · decide
    · exact ⟨(chars_of_named? entity d hd).1, (chars_of_named? entity d hd).2.1⟩
    · decide
    · exact ih d hd

/-- **An escaped text is spelled as a stretch of text and means what is escaped.** -/
theorem spells_of_escapes {t w : Text} (ne_nil : t ≠ []) (h : Escapes t w) (noEnd : ¬Token.dataEnd <:+: w) :
    (Token.text w).Spells w ∧ content? w = some t := by
  have hchars := chars_of_escapes h
  have hne : w ≠ [] := by
    cases h with
    | nil => exact absurd rfl ne_nil
    | _ => nofun
  exact ⟨.text hne (fun c hc => (hchars c hc).1) (fun h => (hchars _ h).2 rfl) noEnd, content?_of_escapes h⟩

/-- A character as it is written where all characters that have names are written by them. -/
def escapeChar (c : Char) : Text :=
  if c = '&' then "&amp;"
  else if c = '<' then "&lt;"
  else if c = '>' then "&gt;"
  else if c = '"' then "&quot;"
  else if c = '\'' then "&apos;"
  else [c]

def escape (t : Text) : Text :=
  t.flatMap escapeChar

lemma escapes_cons {c : Char} {t w : Text} (allowed : isAllowed c = true) (noReturn : c ≠ '\r')
    (more : Escapes t w) : Escapes (c :: t) (escapeChar c ++ w) := by
  unfold escapeChar
  split_ifs with hamp hlt hgt hquot hapos
  · have hname : Chunk.named? "amp" = some c := by rw [hamp]; rfl
    exact .named hname more
  · have hname : Chunk.named? "lt" = some c := by rw [hlt]; rfl
    exact .named hname more
  · have hname : Chunk.named? "gt" = some c := by rw [hgt]; rfl
    exact .named hname more
  · have hname : Chunk.named? "quot" = some c := by rw [hquot]; rfl
    exact .named hname more
  · have hname : Chunk.named? "apos" = some c := by rw [hapos]; rfl
    exact .named hname more
  · exact .written allowed hamp hlt noReturn more

lemma not_mem_escapeChar (c : Char) : '>' ∉ escapeChar c := by
  unfold escapeChar
  split_ifs with hamp hlt hgt
  any_goals decide
  rw [List.mem_singleton]
  exact Ne.symm hgt

/-- Every text can be escaped, and so that no mark of the end of character data is in it. -/
theorem escapes_escape {t : Text} (allowed : ∀ c ∈ t, isAllowed c = true) (noReturn : '\r' ∉ t) :
    Escapes t (escape t) ∧ ¬Token.dataEnd <:+: escape t := by
  constructor
  · induction t with
    | nil => exact .nil
    | cons c t ih =>
      rw [List.mem_cons, not_or] at noReturn
      exact escapes_cons (allowed c List.mem_cons_self) (Ne.symm noReturn.1)
        (ih (fun d hd => allowed d (List.mem_cons_of_mem _ hd)) noReturn.2)
  · intro h
    have hend : '>' ∈ escape t := h.subset (by decide)
    obtain ⟨c, -, hc⟩ := List.mem_flatMap.1 hend
    exact not_mem_escapeChar c hc

end Custodian.Xml
