import ShuffleWatch.Domain
import ShuffleWatch.Text.Decimal
import ShuffleWatch.Text.Hex
import ShuffleWatch.Text.Lines

/-!
# Hosts

The host that a URL names: a domain name, or the number of a machine, written
with dots in four bytes or fewer, or with colons in eight groups inside square
brackets. Nothing is looked up: what is checked here is the form alone.
-/

namespace ShuffleWatch.Url

open Text

/-- Why a text is no URL. -/
inductive Defect
  /-- It does not begin with a scheme. -/
  | noScheme
  /-- It names no host where one is needed. -/
  | emptyHost
  /-- Its port is no number of 16 bits. -/
  | badPort
  /-- A host that ends like a number is none. -/
  | badDottedAddress
  /-- What stands in square brackets is no address. -/
  | badBracketedAddress
  /-- The domain name holds a character that no name may hold. -/
  | badName
  /-- The host holds a character that no host may hold. -/
  | badCharacter
  deriving DecidableEq

/-- The defect in words. -/
def Defect.message : Defect → String
  | noScheme => "relative URL without a base"
  | emptyHost => "empty host"
  | badPort => "invalid port number"
  | badDottedAddress => "invalid IPv4 address"
  | badBracketedAddress => "invalid IPv6 address"
  | badName => "invalid international domain name"
  | badCharacter => "invalid domain character"

/-- The parts of a text between the separators. -/
def parts (separator : Char) (cs : List Char) : List (List Char) :=
  cs.splitOnP (· == separator)

/-! ## Dotted addresses -/

/-- One number of a dotted address: in base sixteen after `0x`, in base eight
    after a zero, else in base ten. -/
def dottedNumber? : List Char → Option Nat
  | [] => none
  | '0' :: 'x' :: cs => Hex.inBase? 16 cs
  | '0' :: 'X' :: cs => Hex.inBase? 16 cs
  | '0' :: cs => Hex.inBase? 8 cs
  | cs => Hex.inBase? 10 cs

/-- The parts of a dotted name. One dot at its end counts for nothing. -/
def dottedParts (cs : List Char) : List (List Char) :=
  match (parts '.' cs).reverse with
  | [] :: rest => rest.reverse
  | ps => ps.reverse

/-- The name has to be read as a dotted address, because its last part is a
    number. -/
def endsInNumber (cs : List Char) : Bool :=
  match (dottedParts cs).getLast? with
  | some last => last ≠ [] && (last.all Char.isDigit || (dottedNumber? last).isSome)
  | none => false

/-- The text is a dotted address: at most four numbers, all of one byte but the
    last, which has the bytes that are left. -/
def isDottedAddress (cs : List Char) : Bool :=
  match (dottedParts cs).mapM dottedNumber? with
  | none => false
  | some ns =>
    match ns.reverse with
    | [] => false
    | last :: firsts =>
      firsts.length < 4 && firsts.all (· < 256) && last < 1 <<< (8 * (4 - firsts.length))

/-! ## Bracketed addresses -/

/-- The text is a decimal number of one byte, without leading zeros. -/
def isByte (cs : List Char) : Bool :=
  match Decimal.natural? cs with
  | some n => n < 256 && Decimal.digits n == cs
  | none => false

/-- The groups of sixteen bits that a part of a bracketed address stands for.
    Only the last part may be a dotted address. -/
def groups? (isLast : Bool) (cs : List Char) : Option Nat :=
  if cs.length ≤ 4 ∧ cs ≠ [] ∧ cs.all Hex.isDigit then some 1
  else if isLast ∧ (parts '.' cs).length = 4 ∧ (parts '.' cs).all isByte then some 2
  else none

/-- The groups that the parts stand for, where one empty part may stand for a
    gap; and the number of gaps. -/
def countGroups? : List (List Char) → Option (Nat × Nat)
  | [] => some (0, 0)
  | [] :: rest => (countGroups? rest).map fun p => (p.1, p.2 + 1)
  | cs :: rest => do
    let n ← groups? rest.isEmpty cs
    let (groups, gaps) ← countGroups? rest
    return (n + groups, gaps)

/-- The parts with a gap at the front written once; `none` if a single colon is
    there. -/
def mergeFront? : List (List Char) → Option (List (List Char))
  | [] :: [] :: rest => some ([] :: rest)
  | [] :: _ => none
  | ps => some ps

/-- The text between square brackets is an address: eight groups, or fewer
    around one gap. -/
def isBracketedAddress (cs : List Char) : Bool :=
  let ps := do
    let ps ← mergeFront? (parts ':' cs)
    let ps ← mergeFront? ps.reverse
    return ps.reverse
  match ps.bind countGroups? with
  | some (groups, 0) => groups == 8
  | some (groups, 1) => groups < 8
  | _ => false

/-! ## Names -/

/-- The bytes, where a percent sign and two digits stand for one. -/
def unescape : List UInt8 → List UInt8
  | [] => []
  | [b] => [b]
  | [b, c] => [b, c]
  | b :: hi :: lo :: rest =>
    match b.toNat == '%'.toNat, Hex.bytes? [Char.ofNat hi.toNat, Char.ofNat lo.toNat] with
    | true, some bs => bs ++ unescape rest
    | _, _ => b :: unescape (hi :: lo :: rest)

/-- A character that no domain name may hold. -/
def isForbiddenInName (c : Char) : Bool :=
  c.toNat ≤ 0x20 || c.toNat == 0x7F || "%#/:<>?@[\\]^|".toList.contains c

/-- A character that no host may hold. -/
def isForbidden (c : Char) : Bool :=
  "\x00\t\n\r #/:<>?@[\\]^|".toList.contains c

/-- What stands between square brackets, if the host begins with one. -/
def bracketed? : List Char → Option (Except Defect (List Char))
  | '[' :: cs =>
    match cs.reverse with
    | ']' :: inner => some (.ok inner.reverse)
    | _ => some (.error .badBracketedAddress)
  | _ => none

/-- Checks a host that is not a name. -/
def checkBracketed (inner : Except Defect (List Char)) : Except Defect Unit := do
  if isBracketedAddress (← inner) then .ok () else .error .badBracketedAddress

/-- Checks a host of a scheme whose hosts are domain names. -/
def checkName (host : List Char) : Except Defect Unit :=
  match bracketed? host with
  | some inner => checkBracketed inner
  | none =>
    let written := decode? (unescape (String.ofList host).toUTF8.toList)
    match written.bind fun name => Domain.normalize? name.toList with
    | none => .error .badName
    | some cs =>
      if cs.any isForbiddenInName then .error .badName
      else if cs = [] then .error .emptyHost
      else if endsInNumber cs ∧ ¬ isDottedAddress cs then .error .badDottedAddress
      else .ok ()

/-- Checks a host of any other scheme. -/
def checkOpaque (host : List Char) : Except Defect Unit :=
  match bracketed? host with
  | some inner => checkBracketed inner
  | none => if host.any isForbidden then .error .badCharacter else .ok ()

end ShuffleWatch.Url
