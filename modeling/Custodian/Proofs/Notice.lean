import Custodian.Appliance.Payload
import Custodian.Notice
import Mathlib.Tactic.Common

/-!
# What a notice says

A notice is about a file in a package, or about the package, and gives an identifier. What its message says is
written out here (`Says`), so that each of them is named in it (`Says.names`). A mail that is made
for a file, or for a package, tells about it (`mail_tells`).
-/

namespace Custodian.Notice

open Json (Value)

variable {p : Package} {about : Option Text}

/-- The text that an identifier is given as: a text as it is, if it is not empty, and another value as it is
written. An identifier that is missing or says nothing is unknown. -/
inductive Shows : Option Value → Text → Prop
  | missing : Shows none "unknown"
  | null : Shows (some .null) "unknown"
  | empty : Shows (some (.string [])) "unknown"
  | text {t : Text} (ne : t ≠ []) : Shows (some (.string t)) t
  | other {v : Value} (notNull : v ≠ .null) (notText : ∀ t, v ≠ .string t) : Shows (some v) v.compact

/-- The message is about a file in a package, or about the package, which has an identifier. -/
def Says (p : Package) (about : Option Text) (id message : Text) : Prop :=
  message = (match about with
    | some path => "File " ++ path ++ " in package "
    | none => "Package ") ++ p.uuid ++ ": " ++ p.currentPath ++ " with Arkivum ID of " ++ id ++
    " has been requested but is not available in the Arkivum cache."

/-- What the message is about, the package and the identifier are named in it. -/
structure Names (p : Package) (about : Option Text) (id message : Text) : Prop where
  file : ∀ path, about = some path → path <:+: message
  package : (p.uuid ++ ": " ++ p.currentPath : Text) <:+: message
  identifier : id <:+: message

/-- The mail tells recipients about a file in a package, or about the package. -/
structure Tells (recipients : List Text) (p : Package) (about : Option Text) (id : Text) (mail : Mail) :
    Prop where
  subject : mail.subject = "Arkivum file not locally available"
  recipients : mail.recipients = recipients
  message : Says p about id mail.message
  names : Names p about id mail.message

lemma shows_idText? (v : Option Value) : Shows v ((v.bind Appliance.idText?).getD "unknown") := by
  rcases v with _ | _ | _ | _ | (_ | ⟨c, t⟩) | _ | _
  · exact .missing
  · exact .null
  · exact .other nofun nofun
  · exact .other nofun nofun
  · exact .empty
  · exact .text (List.cons_ne_nil c t)
  · exact .other nofun nofun
  · exact .other nofun nofun

lemma says_message (p : Package) (about id : Option Text) :
    Says p about (id.getD "unknown") (message p about id) := by
  have hdisplay : p.display = p.uuid ++ ": " ++ p.currentPath := by simp [Package.display]
  unfold Says message item
  rcases about with _ | path
  all_goals
    dsimp only
    simp only [hdisplay, List.append_assoc]

/-- **A message names** the file it is about, the package and the identifier. -/
theorem Says.names {id message : Text} (h : Says p about id message) : Names p about id message := by
  subst h
  constructor
  · rintro path rfl
    refine ⟨("File " : Text), (" in package " : Text) ++ p.uuid ++ ": " ++ p.currentPath ++
      " with Arkivum ID of " ++ id ++ " has been requested but is not available in the Arkivum cache.", ?_⟩
    simp only [List.append_assoc]
  · generalize (match about with
      | some path => "File " ++ path ++ " in package "
      | none => "Package " : Text) = lead
    refine ⟨lead, (" with Arkivum ID of " : Text) ++ id ++
      " has been requested but is not available in the Arkivum cache.", ?_⟩
    simp only [List.append_assoc]
  · exact ⟨_, _, rfl⟩

/-- **A mail tells** about the file that it is made for, or about the package. -/
theorem mail_tells (recipients : List Text) (p : Package) (about id : Option Text) :
    Tells recipients p about (id.getD "unknown") (mail recipients p about id) :=
  ⟨rfl, rfl, says_message p about id, (says_message p about id).names⟩

end Custodian.Notice
