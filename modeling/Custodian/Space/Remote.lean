import Custodian.Text.Basic

/-!
# Remote machines

A path on a remote machine is named by the user, the machine and the path.
-/

namespace Custodian

/-- An account on a machine. -/
structure Remote where
  user : Text
  host : Text
deriving DecidableEq

/-- The name of a path on a remote machine. -/
def Remote.target (r : Remote) (path : Text) : Text :=
  r.user ++ '@' :: r.host ++ ':' :: path

end Custodian
