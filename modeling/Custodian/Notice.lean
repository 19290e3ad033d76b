import Custodian.Mail
import Custodian.Package.Basic

/-!
# Notices

The superusers are told by mail when a file that was asked for is not at hand.
-/

namespace Custodian.Notice

def subject : Text := "Arkivum file not locally available"

/-- What is not at hand: a package, or a file in it. -/
def item (p : Package) : Option Text → Text
  | some path => "File " ++ path ++ " in package " ++ p.display
  | none => "Package " ++ p.display

/-- The message about a package, or about a file in it. -/
def message (p : Package) (path id : Option Text) : Text :=
  item p path ++ " with Arkivum ID of " ++ id.getD "unknown" ++
    " has been requested but is not available in the Arkivum cache."

def mail (recipients : List Text) (p : Package) (path id : Option Text) : Mail :=
  ⟨subject, message p path id, recipients⟩

end Custodian.Notice
