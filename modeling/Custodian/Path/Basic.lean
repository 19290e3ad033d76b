import Custodian.Text.Basic

/-!
# Paths

A path is a text; what it names depends only on its components. The components are the parts
between slashes, of which empty ones and single dots say nothing. A leading slash is the root, and
a single dot in front of everything else is a component of its own.

Functions that shorten a path keep the spelling of what is left, without the parts that say
nothing at its new ends.
-/

namespace Custodian.Path

/-- A component of a path. -/
inductive Component where
  | root
  | here
  | above
  | name (n : Text)
deriving DecidableEq

/-- Whether a part between slashes says nothing. -/
def isIdle (part : Text) : Bool :=
  part = [] || part = ['.']

/-- The component that a part stands for. -/
def Component.ofPart (part : Text) : Component :=
  if part = ['.', '.'] then .above else .name part

/-- How a path begins. -/
inductive Lead where
  | root
  | here
  | none
deriving DecidableEq

/-- How a path begins, and the parts of what follows. -/
def split : Text → Lead × List Text
  | '/' :: rest => (.root, Text.splitOn '/' rest)
  | ['.'] => (.here, [])
  | '.' :: '/' :: rest => (.here, [] :: Text.splitOn '/' rest)
  | path => (.none, Text.splitOn '/' path)

def Lead.text : Lead → Text
  | .root => ['/']
  | .here => ['.']
  | .none => []

def Lead.components : Lead → List Component
  | .root => [.root]
  | .here => [.here]
  | .none => []

def components (path : Text) : List Component :=
  let (lead, parts) := split path
  lead.components ++ (parts.filter (!isIdle ·)).map .ofPart

/-- Whether a path begins at the root. -/
def isAbsolute (path : Text) : Bool :=
  path.head? = some '/'

/-- The parts without those at the end that say nothing. -/
def dropIdleEnd (parts : List Text) : List Text :=
  (parts.reverse.dropWhile isIdle).reverse

def joinParts (parts : List Text) : Text :=
  Text.join ['/'] parts

/-! ### Joining -/

/-- The path `path` as seen from the directory `base`. -/
def join (base path : Text) : Text :=
  if isAbsolute path then path
  else if base = [] || base.getLast? = some '/' then base ++ path
  else base ++ '/' :: path

/-! ### The last component -/

/-- The path without its last component; the root and the empty path have no parent. -/
def parent? (path : Text) : Option Text :=
  let (lead, parts) := split path
  match dropIdleEnd parts with
  | [] => if lead = .here then some [] else none
  | parts => some (lead.text ++ joinParts (dropIdleEnd parts.dropLast))

/-- The last component, if it is a name. -/
def fileName? (path : Text) : Option Text :=
  match (components path).getLast? with
  | some (.name n) => some n
  | _ => none

/-- What follows the last dot of the last component, if that dot is not its first character. -/
def extension? (path : Text) : Option Text :=
  match (fileName? path).bind (Text.cutLast? '.') with
  | some ([], _) | none => none
  | some (_, extension) => some extension

/-- A name without its last dot and what follows it, if that dot is not its first character. -/
def stem (name : Text) : Text :=
  match Text.cutLast? '.' name with
  | some ([], _) | none => name
  | some (stem, _) => stem

/-- The path with another extension of its last component, if that is a name. -/
def withExtension (path extension : Text) : Text :=
  let (lead, parts) := split path
  let named := dropIdleEnd parts
  match named.getLast? with
  | none => path
  | some name =>
    if name = ['.', '.'] then path
    else
      let ending := if extension = [] then [] else '.' :: extension
      lead.text ++ joinParts (named.dropLast ++ [stem name ++ ending])

/-! ### Paths inside a directory -/

/-- What `rest` has after the components of `base`, if it begins with them. -/
def afterComponents? : (base rest : List Component) → Option (List Component)
  | [], rest => some rest
  | _ :: _, [] => none
  | a :: base, b :: rest => if a = b then afterComponents? base rest else none

/-- The parts after the first `count` that say something. -/
def dropParts : (count : Nat) → List Text → List Text
  | _, [] => []
  | 0, part :: parts => if isIdle part then dropParts 0 parts else part :: parts
  | count + 1, part :: parts =>
    if isIdle part then dropParts (count + 1) parts else dropParts count parts

/-- The path inside `base`, spelled as in `path`; `none` if `path` is not inside `base`. -/
def inside? (base path : Text) : Option Text :=
  let (lead, parts) := split path
  let count := (components base).length
  (afterComponents? (components base) (components path)).map fun _ =>
    if count = 0 then lead.text ++ joinParts (dropIdleEnd parts)
    else joinParts (dropIdleEnd (dropParts (count - lead.components.length) parts))

/-- The path relative to a root. A path that is not inside the root counts from the top, without its
leading slashes. -/
def relative (root path : Text) : Text :=
  (inside? root path).getD (Text.trimStart (· == '/') path)

end Custodian.Path
