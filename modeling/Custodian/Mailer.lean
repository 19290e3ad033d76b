import Custodian.Machine
import Custodian.Mail

/-!
# Sending mail

Mail is handed to a program, which takes the recipients from the header lines.
-/

namespace Custodian.Mailer

/-- Why a mail was not sent. -/
inductive Error where
  | notStarted (path : Text)
  | failed (ending : Ending)
deriving DecidableEq

def Error.message : Error → Text
  | .notStarted path => "Failed to run " ++ path
  | .failed ending => ending.describe .sendmail

def send (config : MailConfig) (mail : Mail) (m : Machine) : Except Error Unit × Machine :=
  match m.run config.sendmailPath ["-t", "-i"] (mail.render config.fromEmail) none with
  | (none, m) => (.error (.notStarted config.sendmailPath), m)
  | (some ending, m) => (if ending.isSuccess then .ok () else .error (.failed ending), m)

end Custodian.Mailer
