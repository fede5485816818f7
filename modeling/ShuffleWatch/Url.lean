import ShuffleWatch.Url.Host

/-!
# URLs

Where a node is reached. A URL begins with a scheme and a colon. What follows
them has to name a host when the scheme is one of the well-known ones, may name
one after two slashes when it is not, and ends in a path, of which every text
is one.
-/

namespace ShuffleWatch

/-- A place in the network, as far as it is told here. -/
structure Url where
  scheme : String
  /-- The host as it is written, if there is one. -/
  host : Option String
  port : Option Nat
  deriving DecidableEq

namespace Url

/-- How the part after a scheme is to be read. -/
inductive SchemeKind
  /-- There is a host, whatever the number of slashes before it. -/
  | hosted
  /-- There is a file, and perhaps a host. -/
  | file
  /-- There is a host after two slashes. -/
  | other
  deriving DecidableEq

/-- How the part after this scheme is to be read. -/
def schemeKind (scheme : String) : SchemeKind :=
  if ["http", "https", "ws", "wss", "ftp"].contains scheme then .hosted
  else if scheme = "file" then .file
  else .other

/-- A character that is dropped at both ends of a URL. -/
def isOuter (c : Char) : Bool := c.toNat ≤ 0x20

/-- A character that is dropped wherever it stands in a URL. -/
def isIgnored (c : Char) : Bool := c == '\t' || c == '\n' || c == '\r'

/-- The text without the characters that a URL may hold but does not use. -/
def clean (cs : List Char) : List Char :=
  ((cs.dropWhile isOuter).reverse.dropWhile isOuter).reverse.filter (!isIgnored ·)

/-- A character of a scheme, after its first letter. -/
def isSchemeChar (c : Char) : Bool := c.isAlphanum || c == '+' || c == '-' || c == '.'

/-- The scheme at the front, in lowercase, and the text after its colon. -/
def scheme? (cs : List Char) : Option (String × List Char) :=
  match cs.takeWhile isSchemeChar, cs.dropWhile isSchemeChar with
  | c :: name, ':' :: rest =>
    if c.isAlpha then some (String.ofList ((c :: name).map Char.toLower), rest) else none
  | _, _ => none

/-- A slash of either kind. -/
def isSlash (c : Char) : Bool := c == '/' || c == '\\'

/-- A character that ends the host and all that goes with it. -/
def endsHost (kind : SchemeKind) (c : Char) : Bool :=
  c == '/' || c == '?' || c == '#' || (kind != .other && c == '\\')

/-- The host and the text after it. Inside square brackets a colon does not
    begin a port. -/
def splitPort (isInside : Bool) : List Char → List Char × List Char
  | [] => ([], [])
  | c :: cs =>
    if c = ':' ∧ ¬ isInside then ([], c :: cs)
    else
      let isInside := c == '[' || (isInside && c != ']')
      let (host, rest) := splitPort isInside cs
      (c :: host, rest)

/-- The port after a colon, up to a slash; no digit at all gives none. -/
def port? (cs : List Char) : Except Defect (Option Nat) :=
  match cs.takeWhile (!isSlash ·) with
  | [] => .ok none
  | ds =>
    match Text.Decimal.naturalBelow? UInt16.size ds with
    | some n => .ok (some n)
    | none => .error .badPort

/-- The text before the last `@`, if there is one, and the text after it. -/
def splitUser (cs : List Char) : Option (List Char) × List Char :=
  match cs.reverse.dropWhile (· != '@') with
  | [] => (none, cs)
  | _ :: user => (some user.reverse, (cs.reverse.takeWhile (· != '@')).reverse)

/-- The host and the port in the text before the path, and whether they are
    well-formed. -/
def authority (kind : SchemeKind) (cs : List Char) : Except Defect (List Char × Option Nat) := do
  let (user, rest) := splitUser (cs.takeWhile (!endsHost kind ·))
  -- A lone `@` before the path is a user of no host.
  if user = some [] ∧ rest = [] ∧ cs.any (endsHost kind) then throw .emptyHost
  let (host, after) := splitPort false rest
  if host = [] ∧ kind = .hosted then throw .emptyHost
  if kind = .hosted then checkName host else checkOpaque host
  if host = [] ∧ after ≠ [] then throw .emptyHost
  let port ← port? (after.drop 1)
  if host = [] ∧ user.any (fun u => u ≠ [] ∧ u ≠ [':']) then throw .emptyHost
  return (host, port)

/-- The text is the letter of a disk, and no host. -/
def isDisk : List Char → Bool
  | [c, d] => c.isAlpha && (d == ':' || d == '|')
  | _ => false

/-- The host at the front of the text after a file scheme and two slashes. -/
def fileHost (cs : List Char) : Except Defect (List Char) := do
  let host := cs.takeWhile (!endsHost .file ·)
  if host = [] ∨ isDisk host then return []
  checkName host
  return host

/-- The host and the port after the scheme, where there may be none. -/
def location (kind : SchemeKind) (cs : List Char) : Except Defect (List Char × Option Nat) :=
  match kind, cs with
  | .hosted, cs => authority .hosted (cs.dropWhile isSlash)
  | .file, a :: b :: cs =>
    if isSlash a && isSlash b then (fileHost cs).map (·, none) else .ok ([], none)
  | .other, '/' :: '/' :: cs => authority .other cs
  | _, _ => .ok ([], none)

/-- The URL that a text writes. -/
def parse (text : String) : Except Defect Url := do
  match scheme? (clean text.toList) with
  | none => throw .noScheme
  | some (scheme, rest) =>
    let (host, port) ← location (schemeKind scheme) rest
    return ⟨scheme, if host = [] then none else some (String.ofList host), port⟩

end Url

end ShuffleWatch
