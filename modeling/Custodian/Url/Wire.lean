import Custodian.Url.Quote

/-!
# URLs on the wire

What is sent for a URL is not its text. Outer control characters and spaces and all tabs and line ends
are dropped, a backslash counts as a slash, a fragment is left out, segments of dots are
resolved, and characters that may not be sent are written as percent signs and hexadecimal digits. A
percent sign that is there already stays. Scheme and host are written small, and the usual port is left
out.

Only URLs of the two web schemes with a plain host can be sent.
-/

namespace Custodian.Url

/-- A URL as it is sent. -/
structure Wire where
  scheme : Text
  host : Text
  /-- The port, unless it is the usual one of the scheme. -/
  port : Option Nat
  /-- The parts of the path, as they are sent. -/
  segments : List Text
  query : Option Text
deriving DecidableEq

namespace Wire

/-- The path as it is sent. -/
def path (w : Wire) : Text :=
  '/' :: Text.join ['/'] w.segments

/-- The path and the query: what a request names. -/
def target (w : Wire) : Text :=
  w.path ++ match w.query with
    | some q => '?' :: q
    | none => []

def text (w : Wire) : Text :=
  let port : Text := match w.port with
    | some n => ':' :: Text.ofNat n
    | none => []
  w.scheme ++ "://" ++ w.host ++ port ++ w.target

end Wire

/-! ### Cleaning and escaping -/

/-- Whether a character is a space or a control character below it. -/
def isOuter (c : Char) : Bool :=
  c.toNat ≤ 0x20

/-- Whether a character is dropped wherever it stands. -/
def isDropped (c : Char) : Bool :=
  c = '\t' || c = '\n' || c = '\r'

/-- A URL without the characters that are dropped. -/
def clean (url : Text) : Text :=
  (Text.trim isOuter url).filter (!isDropped ·)

/-- Whether a character is escaped everywhere: control characters, spaces and all beyond ASCII. -/
def isUnsafe (c : Char) : Bool :=
  c.toNat ≤ 0x20 || 0x7F ≤ c.toNat || c = '"' || c = '<' || c = '>'

/-- Whether a character is escaped in a path. -/
def isUnsafeInPath (c : Char) : Bool :=
  isUnsafe c || c = '#' || c = '?' || c = '\x60' || c = '\x7b' || c = '\x7d'

/-- Whether a character is escaped in a query. -/
def isUnsafeInQuery (c : Char) : Bool :=
  isUnsafe c || c = '#' || c = '\''

/-- Writes the bytes of the characters of a class with percent signs. -/
def escape (unsafeClass : Char → Bool) (t : Text) : Text :=
  t.flatMap fun c => if unsafeClass c then (Utf8.encodeChar c).flatMap escapeByte else [c]

/-! ### Paths -/

/-- A segment with its percent signs for dots written out, and small letters. -/
def dotForm (segment : Text) : Text :=
  match segment with
  | '%' :: '2' :: 'e' :: rest => '.' :: dotForm rest
  | '%' :: '2' :: 'E' :: rest => '.' :: dotForm rest
  | c :: rest => c :: dotForm rest
  | [] => []

/-- Whether a segment stands for the place it is at. -/
def isSingleDot (segment : Text) : Bool :=
  dotForm segment = ['.']

/-- Whether a segment stands for the place above. -/
def isDoubleDot (segment : Text) : Bool :=
  dotForm segment = ['.', '.']

/-- Resolves segments after those already resolved; nothing is above the root. A path that ends in dots
ends in a slash. -/
def resolve (done : List Text) : List Text → List Text
  | [] => done
  | [segment] =>
    if isDoubleDot segment then done.dropLast ++ [[]]
    else if isSingleDot segment then done ++ [[]]
    else done ++ [escape isUnsafeInPath segment]
  | segment :: segments =>
    if isDoubleDot segment then resolve done.dropLast segments
    else if isSingleDot segment then resolve done segments
    else resolve (done ++ [escape isUnsafeInPath segment]) segments

def isSlash (c : Char) : Bool :=
  c = '/' || c = '\\'

/-- The segments of what follows the host, up to a query or fragment. -/
def segments (path : Text) : List Text :=
  let slashed := path.map fun c => if c = '\\' then '/' else c
  resolve [] (Text.splitOn '/' (slashed.drop 1))

/-! ### Hosts -/

/-- Whether a character may stand in a plain host. -/
def isHostChar (c : Char) : Bool :=
  c.isAlphanum || c = '-' || c = '.' || c = '_' || c = '~'

/-- Whether a character may stand in a host in brackets. -/
def isAddressChar (c : Char) : Bool :=
  c.isDigit || ('a' ≤ c && c ≤ 'f') || ('A' ≤ c && c ≤ 'F') || c = ':' || c = '.'

/-- Reads a host, written small, and what follows it. -/
def host? (t : Text) : Option (Text × Text) :=
  match t with
  | '[' :: rest =>
    match rest.dropWhile isAddressChar with
    | ']' :: after =>
      some ('[' :: Text.toLower (rest.takeWhile isAddressChar) ++ [']'], after)
    | _ => none
  | t =>
    let name := t.takeWhile isHostChar
    if name.isEmpty then none else some (Text.toLower name, t.dropWhile isHostChar)

/-- Reads a port; an empty one is none. -/
def port? (t : Text) : Option (Option Nat) :=
  match t with
  | [] => some none
  | [':'] => some none
  | ':' :: digits => ((Text.toNat? 10 digits).filter (· < Nat.pow 2 16)).map some
  | _ => none

/-- The schemes that can be sent, with their usual ports. -/
def schemes : List (Text × Nat) :=
  [("http", 80), ("https", 443)]

/-! ### Reading -/

/-- The part of an authority after a name and password. -/
def withoutUser (authority : Text) : Text :=
  (Text.splitOn '@' authority).getLastD []

/-- A URL as it is sent, if it can be. -/
def wire? (url : Text) : Option Wire := do
  let url := clean url
  let scheme := Text.toLower (url.takeWhile (· ≠ ':'))
  let rest ← Text.after? [':'] (url.dropWhile (· ≠ ':'))
  let (_, usual) ← schemes.find? fun entry => entry.1 = scheme
  let rest := rest.dropWhile isSlash
  let ends := fun c => isSlash c || c = '?' || c = '#'
  let (host, after) ← host? (withoutUser (rest.takeWhile (!ends ·)))
  let port ← port? after
  let rest := (rest.dropWhile (!ends ·)).takeWhile (· ≠ '#')
  let query := (Text.after? ['?'] (rest.dropWhile (· ≠ '?'))).map (escape isUnsafeInQuery)
  return ⟨scheme, host, if port = some usual then none else port,
    segments (rest.takeWhile (· ≠ '?')), query⟩

end Custodian.Url
