import Custodian.Proofs.Agent.Notified
import Custodian.Proofs.CommandLine.Records
import Custodian.Proofs.Mail
import Custodian.Proofs.Space.Copying

/-!
# What the mail program is given

Beside transfers, the agent runs nothing but the mail program, and hands it the mails that it sends
(`Posts.course`). The mails about packages that are not at hand differ in their messages only, so they all
have one header.

* `mail_reads_back`: the header of a mail says who sends it, to whom and about what; and what is said about a
  package, a file in it or its identifier at the appliance never reaches the header.
-/

namespace Custodian.CommandLine

open Agent

/-! ### Mails that are handed over -/

/-- Between two states of a machine, nothing was run but the mail program, and it was given some of the
mails. -/
def Posts (c : MailConfig) (mails : List Mail) (before after : Machine) : Prop :=
  ∃ new, after.runs = before.runs ++ new ∧
    ∀ r ∈ new, r.arguments = ["-t", "-i"] ∧ ∃ mail ∈ mails, r.input = mail.render c.fromEmail

section Posts

variable {c : Config} {mails mails' : List Mail} {m m' m'' : Machine}

lemma posts_of_runs (h : m'.runs = m.runs) : Posts c.mail mails m m' :=
  ⟨[], by rw [h, List.append_nil], by rintro r ⟨⟩⟩

lemma Posts.trans (h : Posts c.mail mails m m') (h' : Posts c.mail mails' m' m'') :
    Posts c.mail (mails ++ mails') m m'' := by
  obtain ⟨new, hruns, hnew⟩ := h
  obtain ⟨new', hruns', hnew'⟩ := h'
  refine ⟨new ++ new', by rw [hruns', hruns, List.append_assoc], ?_⟩
  intro r hr
  rcases List.mem_append.1 hr with hr | hr
  · obtain ⟨harguments, mail, hmail, hinput⟩ := hnew r hr
    exact ⟨harguments, mail, List.mem_append_left _ hmail, hinput⟩
  · obtain ⟨harguments, mail, hmail, hinput⟩ := hnew' r hr
    exact ⟨harguments, mail, List.mem_append_right _ hmail, hinput⟩

lemma posts_send (mail : Mail) (m : Machine) : Posts c.mail [mail] m (Mailer.send c.mail mail m).2 := by
  have hsend : (Mailer.send c.mail mail m).2 =
      (m.run c.mail.sendmailPath ["-t", "-i"] (mail.render c.mail.fromEmail) none).2 := by
    unfold Mailer.send
    rcases m.run c.mail.sendmailPath ["-t", "-i"] (mail.render c.mail.fromEmail) none with ⟨_ | _, _⟩ <;> rfl
  rw [hsend]
  rcases m.run_cases c.mail.sendmailPath ["-t", "-i"] (mail.render c.mail.fromEmail) none with
    hrun | ⟨program, -, hrun⟩ <;> rw [hrun]
  · exact posts_of_runs rfl
  · refine ⟨_, rfl, ?_⟩
    intro r hr
    rw [List.mem_singleton.1 hr]
    exact ⟨rfl, mail, List.mem_singleton_self mail, rfl⟩

variable {scope : Scope} {a b : Scene World Package}

/-- A step that transfers nothing runs nothing but the mail program, for the mail that it sends. -/
lemma Posts.step (step : Step (World.surroundings c) scope a b) (still : ¬scope.transfers) :
    Posts c.mail (Agent.mails (a.since b)) a.world.machine b.world.machine := by
  cases step with
  | requested => exact posts_of_runs rfl
  | refused => exact posts_of_runs rfl
  | registered => exact posts_of_runs rfl
  | marked => exact posts_of_runs rfl
  | told mail =>
    rw [Scene.since_after]
    exact posts_send mail a.world.machine
  | transferred allowed => exact absurd allowed still

/-- **A course that transfers nothing** runs nothing but the mail program, for the mails that it sends. -/
theorem Posts.course (course : Course (World.surroundings c) scope a b) (still : ¬scope.transfers) :
    Posts c.mail (Agent.mails (a.since b)) a.world.machine b.world.machine := by
  induction course with
  | refl => exact posts_of_runs rfl
  | tail course step ih =>
    rw [Course.since_tail course step, mails_append]
    exact ih.trans (Posts.step step still)

end Posts

/-! ### Notices -/

/-- The mails of a question whether a package is at hand are notices to the superusers. -/
lemma mem_mails_isFileLocal {σ : Type} {s : Surroundings σ} {path : Option Text} {tell : Bool}
    {scene : Scene σ Package} {mail : Mail}
    (h : mail ∈ mails (scene.since (isFileLocal s path tell scene).2)) :
    ∃ about id, mail = Notice.mail s.superusers scene.held about id := by
  rw [(isFileLocal_onlyNotified s path tell scene).mails, consult_mails, List.nil_append] at h
  rcases hr : (consult s path scene).1 with e | ⟨info, about⟩ <;> rw [hr, dueNotice?] at h
  · cases h
  · split at h
    · exact ⟨about, _, List.mem_singleton.1 h⟩
    · cases h

/-- **A mail is read back, and its message never reaches its header.** If neither the sender nor the subject
nor a recipient contains the end of a line, and recipients are addresses, then a written mail has a header of
four lines up to its first empty line, whatever its message is. The sender, the recipients and the subject are
read from this header, and what follows it is the message.

Under one configuration there is one header for all mails about packages that are not at hand, whichever
package, file and identifier they name; and these are all that the mail program is given while it is asked
whether a package is at hand. -/
theorem mail_reads_back :
    (∀ (sender : Text) (mail : Mail), mail.IsPlain sender → ∃ header,
      Mail.header? (mail.render sender) = some (header, mail.message ++ Mail.lineEnd) ∧
      Mail.headerLines header =
        ["From: " ++ sender, "To: " ++ Text.join [',', ' '] mail.recipients, "Subject: " ++ mail.subject,
          "Content-Type: text/plain; charset=utf-8"] ∧
      Mail.field? "From" header = some sender ∧
      Mail.recipients? header = some mail.recipients ∧
      Mail.field? "Subject" header = some mail.subject) ∧
    ∀ c : Config, ∃ header,
      (∀ p path id, ∃ body,
        Mail.header? ((Notice.mail c.mail.activeSuperusers p path id).render c.mail.fromEmail) =
          some (header, body)) ∧
      (∀ path tell (scene : Scene World Package), ∃ new,
        (isFileLocal (World.surroundings c) path tell scene).2.world.machine.runs =
            scene.world.machine.runs ++ new ∧
          ∀ r ∈ new, r.arguments = ["-t", "-i"] ∧ ∃ body, Mail.header? r.input = some (header, body)) ∧
      (Mail.IsLine c.mail.fromEmail → (∀ r ∈ c.mail.activeSuperusers, Mail.IsAddress r) →
        Mail.recipients? header = some c.mail.activeSuperusers) := by
  refine ⟨?_, ?_⟩
  · intro sender mail plain
    obtain ⟨from_read, -, subject_read⟩ := Mail.field?_header plain
    exact ⟨_, Mail.header?_render plain, Mail.headerLines_header plain, from_read,
      Mail.recipients?_header plain, subject_read⟩
  · intro c
    obtain ⟨header, rest, hheader⟩ :=
      Mail.exists_header?_render c.mail.fromEmail Notice.subject c.mail.activeSuperusers
    refine ⟨header, fun p path id => ⟨_, hheader (Notice.message p path id)⟩, ?_, ?_⟩
    · intro path tell scene
      have course : Course (World.surroundings c) .none scene
          (isFileLocal (World.surroundings c) path tell scene).2 := isFileLocal_course path tell
      obtain ⟨new, hruns, hnew⟩ := Posts.course course id
      refine ⟨new, hruns, ?_⟩
      intro r hr
      obtain ⟨harguments, mail, hmail, hinput⟩ := hnew r hr
      obtain ⟨about, id, rfl⟩ := mem_mails_isFileLocal hmail
      exact ⟨harguments, _, hinput ▸ hheader (Notice.message scene.held about id)⟩
    · intro sender superusers
      have subject : Mail.IsLine Notice.subject := ⟨by decide, by decide⟩
      have plain : Mail.IsPlain c.mail.fromEmail ⟨Notice.subject, [], c.mail.activeSuperusers⟩ :=
        ⟨sender, subject, superusers⟩
      have hplain := (hheader []).symm.trans (Mail.header?_render plain)
      obtain ⟨rfl, -⟩ := Prod.mk.inj (Option.some.inj hplain)
      exact Mail.recipients?_header plain

/-- Two superusers. -/
def mailingSuperusers : List Text := ["admin@example.com", "ops@example.com"]

/-- A mail whose message looks like another header. -/
def deceptiveMail : Mail where
  subject := "To: nobody"
  message := "\r\n\r\nTo: thief@example.com\r\n\r\n"
  recipients := mailingSuperusers

/-- A configuration with these superusers and the mail program. -/
def mailingConfig : Config where
  storePath := "/records"
  spacePath := "/space"
  appliance := ⟨"appliance", Config.defaultScheme, none, none, false⟩
  mail := ⟨"storage@example.com", "/usr/sbin/sendmail",
    [⟨"admin@example.com", true, true⟩, ⟨"retired@example.com", true, false⟩, ⟨"ops@example.com", true, true⟩]⟩

/-- The message stays behind the header; and so does the path of a package. -/
theorem mail_reads_back_deceptive :
    (Mail.IsPlain "storage@example.com" deceptiveMail ∧ ∃ header,
      Mail.header? (deceptiveMail.render "storage@example.com") =
        some (header, deceptiveMail.message ++ ['\r', '\n']) ∧
      Mail.recipients? header = some mailingSuperusers) ∧
    Mail.IsLine mailingConfig.mail.fromEmail ∧
    (∀ r ∈ mailingConfig.mail.activeSuperusers, Mail.IsAddress r) ∧ ∃ header body,
      Mail.header? ((Notice.mail mailingConfig.mail.activeSuperusers
        ⟨"u1", "bag\r\n\r\nTo: thief@example.com", "aips", .uncompressed, .uploaded, []⟩ none none).render
          mailingConfig.mail.fromEmail) = some (header, body) ∧
      Mail.recipients? header = some mailingSuperusers := by
  have addresses : ∀ r ∈ mailingSuperusers, Mail.IsAddress r := by
    intro r hr
    simp only [mailingSuperusers, List.mem_cons, List.not_mem_nil, or_false] at hr
    rcases hr with rfl | rfl
    · exact ⟨⟨by decide, by decide⟩, by decide, by decide⟩
    · exact ⟨⟨by decide, by decide⟩, by decide, by decide⟩
  have sender : Mail.IsLine "storage@example.com" := ⟨by decide, by decide⟩
  have plain : Mail.IsPlain "storage@example.com" deceptiveMail :=
    ⟨sender, ⟨by decide, by decide⟩, addresses⟩
  obtain ⟨header, hheader, -, -, hrecipients, -⟩ := mail_reads_back.1 _ _ plain
  obtain ⟨noticeHeader, notices, -, superusers⟩ := mail_reads_back.2 mailingConfig
  have active : mailingConfig.mail.activeSuperusers = mailingSuperusers := by decide
  rw [active] at superusers notices ⊢
  obtain ⟨body, hbody⟩ := notices
    ⟨"u1", "bag\r\n\r\nTo: thief@example.com", "aips", .uncompressed, .uploaded, []⟩ none none
  exact ⟨⟨plain, header, hheader, hrecipients⟩, sender, addresses, noticeHeader, body, hbody,
    superusers sender addresses⟩

end Custodian.CommandLine
