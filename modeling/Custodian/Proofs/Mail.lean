import Custodian.Mail
import Custodian.Proofs.Text.Mark

/-!
# Mails that are read back

A written mail has a header, which ends at the first empty line, and a body. The header is read line by line.
If neither the sender nor the subject nor a recipient contains the end of a line, then the header of a mail
says who sends it, to whom, and about what (`header?_render`, `field?_header`, `recipients?_header`). Whatever
they contain, the message has no influence on the header (`exists_header?_render`).
-/

namespace Custodian

namespace Mail

/-! ### Reading -/

/-- The end of a line and an empty line. -/
def emptyLine : Text := lineEnd ++ lineEnd

/-- The header of a written mail, up to its first empty line, and the body behind that. -/
def header? (written : Text) : Option (Text × Text) :=
  Text.cutAtMark? emptyLine written

def headerLines (header : Text) : List Text :=
  Text.splitAtMark lineEnd header

/-- What the first line of a name says in a header. -/
def field? (name header : Text) : Option Text :=
  (headerLines header).findSome? (Text.after? (name ++ [':', ' ']))

/-- The recipients that a header names. -/
def recipients? (header : Text) : Option (List Text) :=
  (field? "To" header).map fun list => if list = [] then [] else Text.splitAtMark [',', ' '] list

/-! ### Lines and addresses -/

/-- A text that contains no part of a line end. -/
structure IsLine (t : Text) : Prop where
  noReturn : '\r' ∉ t
  noFeed : '\n' ∉ t

/-- A text that can stand in a list of recipients. -/
structure IsAddress (t : Text) : Prop extends IsLine t where
  nonempty : t ≠ []
  whole : ¬([',', ' '] : Text) <:+: t

variable {sender t : Text} {mail : Mail}

/-- No separator begins in an address. -/
lemma IsAddress.apart (h : IsAddress t) : ¬([',', ' '] : Text) <:+: t ++ [','] := by
  intro hmark
  rcases List.infix_concat_iff.1 hmark with hends | hinside
  · obtain ⟨before, hbefore⟩ := hends
    have hlast := congrArg List.getLast? hbefore
    simp at hlast
  · exact h.whole hinside

lemma IsLine.append {u : Text} (h : IsLine t) (h' : IsLine u) : IsLine (t ++ u) where
  noReturn := by simp [h.noReturn, h'.noReturn]
  noFeed := by simp [h.noFeed, h'.noFeed]

lemma isLine_join {mark : Text} {pieces : List Text} (hmark : IsLine mark)
    (hpieces : ∀ piece ∈ pieces, IsLine piece) : IsLine (Text.join mark pieces) := by
  induction pieces with
  | nil => exact ⟨List.not_mem_nil, List.not_mem_nil⟩
  | cons piece pieces ih =>
    have hpiece := hpieces piece List.mem_cons_self
    rcases pieces with _ | ⟨next, pieces⟩
    · rw [Text.join, List.intercalate_singleton]
      exact hpiece
    · rw [Text.join, List.intercalate_cons_cons]
      exact (hpiece.append hmark).append (ih fun p hp => hpieces p (List.mem_cons_of_mem _ hp))

/-- A mail whose header fits its lines. -/
structure IsPlain (sender : Text) (mail : Mail) : Prop where
  sender : IsLine sender
  subject : IsLine mail.subject
  recipients : ∀ r ∈ mail.recipients, IsAddress r

lemma IsPlain.headers (h : IsPlain sender mail) :
    ∀ line ∈ mail.headers sender, IsLine line ∧ line ≠ [] := by
  have recipients : IsLine (Text.join [',', ' '] mail.recipients) :=
    isLine_join ⟨by decide, by decide⟩ fun r hr => (h.recipients r hr).toIsLine
  have labelled : ∀ label rest : Text, IsLine label → label ≠ [] → IsLine rest →
      IsLine (label ++ rest) ∧ label ++ rest ≠ [] :=
    fun label rest hlabel hne hrest => ⟨hlabel.append hrest, by simp [hne]⟩
  intro line hline
  simp only [Mail.headers, List.mem_cons, List.not_mem_nil, or_false] at hline
  rcases hline with rfl | rfl | rfl | rfl
  · exact labelled _ _ ⟨by decide, by decide⟩ (by decide) h.sender
  · exact labelled _ _ ⟨by decide, by decide⟩ (by decide) recipients
  · exact labelled _ _ ⟨by decide, by decide⟩ (by decide) h.subject
  · exact ⟨⟨by decide, by decide⟩, by decide⟩

/-! ### The header -/

/-- Lines that are ended one by one are those that are joined, and one more line end. -/
lemma flatMap_lineEnd {lines : List Text} (hne : lines ≠ []) :
    lines.flatMap (· ++ lineEnd) = Text.join lineEnd lines ++ lineEnd := by
  induction lines with
  | nil => exact absurd rfl hne
  | cons line lines ih =>
    rcases lines with _ | ⟨next, lines⟩
    · rw [List.flatMap_singleton, Text.join, List.intercalate_singleton]
    · rw [List.flatMap_cons, ih (List.cons_ne_nil _ _), Text.join, Text.join, List.intercalate_cons_cons,
        List.append_assoc (line ++ lineEnd)]

lemma headers_ne_nil (sender : Text) (mail : Mail) : mail.headers sender ≠ [] :=
  List.cons_ne_nil _ _

lemma render_eq (sender : Text) (mail : Mail) :
    mail.render sender =
      Text.join lineEnd (mail.headers sender) ++ emptyLine ++ (mail.message ++ lineEnd) := by
  rw [render, flatMap_lineEnd (headers_ne_nil sender mail), emptyLine]
  simp only [List.append_assoc]

/-- A mark that begins with a character occurs no earlier than this character. -/
lemma infix_of_append {c : Char} {mark u : Text} (ht : c ∉ t) (h : c :: mark <:+: t ++ u) :
    c :: mark <:+: u := by
  induction t with
  | nil => exact h
  | cons d t ih =>
    rw [List.mem_cons, not_or] at ht
    rcases List.infix_cons_iff.1 h with hbegin | hlater
    · exact absurd (List.cons_prefix_cons.1 hbegin).1 ht.1
    · exact ih ht.2 hlater

/-- Among lines that are not empty there is no empty line. -/
lemma not_emptyLine_infix {lines : List Text} (hlines : ∀ line ∈ lines, IsLine line ∧ line ≠ []) :
    ¬emptyLine <:+: lines.flatMap (· ++ lineEnd) ++ ['\r'] := by
  induction lines with
  | nil => exact fun h => absurd h.length_le (by decide)
  | cons line lines ih =>
    have hline := (hlines line List.mem_cons_self).1
    have hrest := fun l hl => hlines l (List.mem_cons_of_mem line hl)
    intro h
    rw [List.flatMap_cons, List.append_assoc, List.append_assoc] at h
    -- an occurrence that begins at the end of this line would need the next one to be empty
    rcases List.infix_cons_iff.1 (infix_of_append hline.noReturn h) with hbegin | hlater
    · have hnext : ['\r', '\n'] <+: lines.flatMap (· ++ lineEnd) ++ ['\r'] :=
        (List.cons_prefix_cons.1 (List.cons_prefix_cons.1 hbegin).2).2
      rcases lines with _ | ⟨next, lines⟩
      · exact absurd hnext.length_le (by decide)
      · obtain ⟨next_line, hne⟩ := hrest next List.mem_cons_self
        obtain ⟨c, next, rfl⟩ := List.exists_cons_of_ne_nil hne
        obtain ⟨rfl, -⟩ := List.cons_prefix_cons.1 hnext
        exact next_line.noReturn List.mem_cons_self
    · exact ih hrest (infix_of_append (t := ['\n']) (by decide) hlater)

/-- **The header of a mail** is made of its header lines, and the body of its message. -/
theorem header?_render (h : IsPlain sender mail) :
    header? (mail.render sender) =
      some (Text.join lineEnd (mail.headers sender), mail.message ++ lineEnd) := by
  rw [render_eq, header?]
  apply Text.cutAtMark?_of_not_infix
  have hfree := not_emptyLine_infix h.headers
  rw [flatMap_lineEnd (headers_ne_nil sender mail), List.append_assoc] at hfree
  exact hfree

/-- **The message has no influence on the header**, whatever the header contains. -/
theorem exists_header?_render (sender subject : Text) (recipients : List Text) :
    ∃ header rest, ∀ message,
      header? ((⟨subject, message, recipients⟩ : Mail).render sender) =
        some (header, rest ++ message ++ lineEnd) := by
  have hmark : emptyLine <:+:
      Text.join lineEnd ((⟨subject, [], recipients⟩ : Mail).headers sender) ++ emptyLine :=
    (List.suffix_append _ _).isInfix
  obtain ⟨header, rest, hcut⟩ := Text.exists_cutAtMark? hmark
  refine ⟨header, rest, ?_⟩
  intro message
  rw [render_eq, header?, List.append_assoc rest]
  exact Text.cutAtMark?_append hcut (message ++ lineEnd)

/-- The header lines are read one by one. -/
lemma headerLines_header (h : IsPlain sender mail) :
    headerLines (Text.join lineEnd (mail.headers sender)) = mail.headers sender := by
  apply Text.splitAtMark_join (by decide) (List.cons_ne_nil _ _)
  intro line hline hinside
  have hfeed : '\n' ∈ line ++ lineEnd.dropLast := hinside.subset (by decide)
  rcases List.mem_append.1 hfeed with hfeed | hfeed
  · exact (h.headers line hline).1.noFeed hfeed
  · exact absurd hfeed (by decide)

/-- **The sender and the subject** are read from the header. -/
theorem field?_header (h : IsPlain sender mail) :
    field? "From" (Text.join lineEnd (mail.headers sender)) = some sender ∧
      field? "To" (Text.join lineEnd (mail.headers sender)) =
        some (Text.join [',', ' '] mail.recipients) ∧
      field? "Subject" (Text.join lineEnd (mail.headers sender)) = some mail.subject := by
  unfold field?
  rw [headerLines_header h]
  exact ⟨rfl, rfl, rfl⟩

/-- **The recipients** are read from the header, in their order. -/
theorem recipients?_header (h : IsPlain sender mail) :
    recipients? (Text.join lineEnd (mail.headers sender)) = some mail.recipients := by
  rw [recipients?, (field?_header h).2.1, Option.map_some]
  rcases hlist : mail.recipients with _ | ⟨first, others⟩
  · rfl
  · rw [← hlist]
    have hne : Text.join [',', ' '] mail.recipients ≠ [] := by
      have hfirst : first ≠ [] := (h.recipients first (hlist ▸ List.mem_cons_self)).nonempty
      rcases others with _ | ⟨next, others⟩
      · rwa [hlist, Text.join, List.intercalate_singleton]
      · rw [hlist, Text.join, List.intercalate_cons_cons]
        simp [hfirst]
    rw [if_neg hne]
    have hrecipients : mail.recipients ≠ [] := by simp [hlist]
    exact congrArg some (Text.splitAtMark_join (by decide) hrecipients fun r hr => (h.recipients r hr).apart)

end Mail

end Custodian
