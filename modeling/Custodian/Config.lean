import Custodian.Path.Basic
import Custodian.Space.Remote
import Custodian.Text.Utf8
import Custodian.Toml.Reader

/-!
# The configuration

The configuration names the directory of package records, the root of the space, the appliance and
how mail is sent. It is read from a TOML document whose tables are records, and then checked; a
configuration that is not accepted is not used.
-/

namespace Custodian

open Toml (Item)

/-- Someone who may be told by mail. -/
structure User where
  email : Text
  isSuperuser : Bool
  isActive : Bool
deriving DecidableEq

/-- How mail is sent. -/
structure MailConfig where
  /-- The sender. -/
  fromEmail : Text
  /-- The program that sends mail. -/
  sendmailPath : Text
  users : List User
deriving DecidableEq

/-- Where the appliance is. -/
structure ApplianceConfig where
  host : Text
  scheme : Text
  /-- The user on the remote machine. -/
  remoteUser : Option Text
  /-- The remote machine. -/
  remoteName : Option Text
  insecureSkipVerify : Bool
deriving DecidableEq

/-- The configuration of the agent. -/
structure Config where
  /-- The directory of the package records. -/
  storePath : Text
  /-- The root of the space. -/
  spacePath : Text
  appliance : ApplianceConfig
  mail : MailConfig
deriving DecidableEq

namespace ApplianceConfig

/-- The remote machine, if both its user and its name are given and not empty. -/
def remote? (c : ApplianceConfig) : Option Remote :=
  match c.remoteUser, c.remoteName with
  | some user, some host => if user.isEmpty || host.isEmpty then none else some ⟨user, host⟩
  | _, _ => none

/-- The URL under which the appliance answers. -/
def baseUrl (c : ApplianceConfig) : Text :=
  c.scheme ++ "://" ++ Text.trimEnd (· == '/') c.host

end ApplianceConfig

/-! ### Reading -/

namespace Config

/-- A field that must be there. -/
def required? {α : Type} (read : Item → Option α) (field : Option Item) : Option α :=
  field.bind read

/-- A field that may be missing. -/
def withDefault? {α : Type} (read : Item → Option α) (default : α) : Option Item → Option α
  | none => some default
  | some item => read item

/-- A text that may be missing. -/
def optionalText? : Option Item → Option (Option Text)
  | none => some none
  | some item => item.text?.map some

def defaultScheme : Text := "https"

def applianceOfItem? (item : Item) : Option ApplianceConfig := do
  match ← item.fields? ["host", "scheme", "remote_user", "remote_name", "insecure_skip_verify"] with
  | [host, scheme, remoteUser, remoteName, insecure] =>
    return {
      host := ← required? Item.text? host
      scheme := ← withDefault? Item.text? defaultScheme scheme
      remoteUser := ← optionalText? remoteUser
      remoteName := ← optionalText? remoteName
      insecureSkipVerify := ← withDefault? Item.bool? false insecure }
  | _ => none

def userOfItem? (item : Item) : Option User := do
  match ← item.fields? ["email", "is_superuser", "is_active"] with
  | [email, isSuperuser, isActive] =>
    return {
      email := ← required? Item.text? email
      isSuperuser := ← withDefault? Item.bool? false isSuperuser
      isActive := ← withDefault? Item.bool? true isActive }
  | _ => none

def usersOfItem? (item : Item) : Option (List User) := do
  (← item.items?).mapM userOfItem?

/-- How mail is sent unless stated otherwise. -/
def defaultMail : MailConfig where
  fromEmail := "webmaster@localhost"
  sendmailPath := "/usr/sbin/sendmail"
  users := []

def mailOfItem? (item : Item) : Option MailConfig := do
  match ← item.fields? ["from_email", "sendmail_path", "users"] with
  | [fromEmail, sendmailPath, users] =>
    return {
      fromEmail := ← withDefault? Item.text? defaultMail.fromEmail fromEmail
      sendmailPath := ← withDefault? Item.text? defaultMail.sendmailPath sendmailPath
      users := ← withDefault? usersOfItem? defaultMail.users users }
  | _ => none

def spaceOfItem? (item : Item) : Option Text := do
  match ← item.fields? ["path"] with
  | [path] => required? Item.text? path
  | _ => none

def ofItem? (item : Item) : Option Config := do
  match ← item.fields? ["store_path", "space", "arkivum", "mail"] with
  | [storePath, space, appliance, mail] =>
    return {
      storePath := ← required? Item.text? storePath
      spacePath := ← required? spaceOfItem? space
      appliance := ← required? applianceOfItem? appliance
      mail := ← withDefault? mailOfItem? defaultMail mail }
  | _ => none

/-! ### Checking -/

/-- What a configuration is rejected for. -/
inductive Flaw where
  | emptyHost
  | unknownScheme (scheme : Text)
  | halfRemote
  | relativeSpace (path : Text)
  | emptyStore
  | badEmail (email : Text)
deriving DecidableEq

def Flaw.message : Flaw → Text
  | .emptyHost => "arkivum.host must not be empty"
  | .unknownScheme scheme => "arkivum.scheme must be https or http: " ++ scheme
  | .halfRemote => "arkivum.remote_user and arkivum.remote_name must be set together"
  | .relativeSpace path => "space.path must be absolute: " ++ path
  | .emptyStore => "store_path must not be empty"
  | .badEmail email => "mail.users entry has an invalid email: " ++ email

/-- The first flaw of a configuration. -/
def flaw? (c : Config) : Option Flaw :=
  if c.appliance.host.isEmpty then some .emptyHost
  else if c.appliance.scheme ≠ "https" ∧ c.appliance.scheme ≠ "http" then
    some (.unknownScheme c.appliance.scheme)
  else if c.appliance.remoteUser.isSome != c.appliance.remoteName.isSome then some .halfRemote
  else if !Path.isAbsolute c.spacePath then some (.relativeSpace c.spacePath)
  else if c.storePath.isEmpty then some .emptyStore
  else (c.mail.users.find? fun user => !user.email.contains '@').map fun user =>
    .badEmail user.email

/-! ### Loading -/

/-- Why there is no configuration. -/
inductive Error where
  | unreadable (path : Text)
  | malformed (path : Text)
  | rejected (flaw : Flaw)
deriving DecidableEq

def Error.message : Error → Text
  | .unreadable path => "Failed to read " ++ path
  | .malformed path => "Failed to parse " ++ path
  | .rejected flaw => flaw.message

/-- The configuration that a document writes. -/
def read? (t : Text) : Option Config :=
  (Toml.read? t).bind ofItem?

/-- The accepted configuration in a file with the given content, if there is one. -/
def load (path : Text) (content : Option Bytes) : Except Error Config :=
  match content.bind Utf8.decode? with
  | none => .error (.unreadable path)
  | some text =>
    match read? text with
    | none => .error (.malformed path)
    | some config =>
      match config.flaw? with
      | some flaw => .error (.rejected flaw)
      | none => .ok config

end Config

end Custodian
