import Custodian.Config

/-!
# Mail

A mail has a subject, a message and recipients. It is sent as the text of four header lines, an empty
line and the message, each line with a carriage return and a line feed at its end.
-/

namespace Custodian

/-- A mail. -/
structure Mail where
  subject : Text
  message : Text
  recipients : List Text
deriving DecidableEq

namespace Mail

/-- The end of a line in a mail. -/
def lineEnd : Text := ['\r', '\n']

def headers (sender : Text) (m : Mail) : List Text :=
  ["From: " ++ sender,
    "To: " ++ Text.join [',', ' '] m.recipients,
    "Subject: " ++ m.subject,
    "Content-Type: text/plain; charset=utf-8"]

def render (sender : Text) (m : Mail) : Text :=
  (m.headers sender).flatMap (· ++ lineEnd) ++ lineEnd ++ m.message ++ lineEnd

end Mail

def distinct : List Text → List Text
  | [] => []
  | t :: ts => t :: (distinct ts).filter (· ≠ t)

/-- The addresses of the active superusers, each once, in order of their first entries. -/
def MailConfig.activeSuperusers (c : MailConfig) : List Text :=
  distinct ((c.users.filter fun u => u.isSuperuser && u.isActive).map (·.email))

end Custodian
