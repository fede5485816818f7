import ShuffleWatch.Domain.Mapping
import ShuffleWatch.Domain.Punycode
import ShuffleWatch.Text.Direction
import ShuffleWatch.Text.Joining

/-!
# The labels of domain names

The parts of a domain name between its dots. A label begins with no mark, holds
the two characters that join letters or keep them apart only where they make a
difference, and, if anything in the name is written from right to left, is
written in one direction. A label beyond ASCII may also be given in ASCII, after
four characters that say so.
-/

namespace ShuffleWatch.Domain

open Text

/-! ## Joiners -/

/-- A character that keeps letters apart. -/
def nonJoiner : Char := '\u200c'

/-- A character that joins letters. -/
def joiner : Char := '\u200d'

/-- A joiner or non-joiner makes a difference here, after a text whose last
    character comes first, and before another one. Both do after a virama, and
    a non-joiner also between letters that would join. -/
def makesDifference (c : Char) (before after : List Char) : Bool :=
  before.head?.any isVirama || (c == nonJoiner && joinsAfter before && joinsBefore after)

/-- All joiners and non-joiners of a text make a difference, where some of it
    comes before, the last character first. -/
def usesJoiners (before : List Char) : List Char → Bool
  | [] => true
  | c :: cs =>
    ((c != joiner && c != nonJoiner) || makesDifference c before cs) && usesJoiners (c :: before) cs

/-! ## Directions -/

/-- The character makes its name one that is written in two directions. -/
def isFromRight (c : Char) : Bool :=
  Direction.ofChar c == .rightToLeft || Direction.ofChar c == .arabicDigit

/-- A label from left to right holds nothing that is not, and ends in a letter or
    a digit. -/
def isLeftToRight (ds : List Direction) : Bool :=
  ds.all (fun d => d != .rightToLeft && d != .arabicDigit) &&
    ds.getLast?.all fun d => d == .leftToRight || d == .digit

/-- A label from right to left holds nothing that is not, apart from digits of
    one kind, and ends in a letter or a digit. -/
def isRightToLeft (ds : List Direction) : Bool :=
  !ds.contains .leftToRight && !(ds.contains .digit && ds.contains .arabicDigit) &&
    ds.getLast?.all fun d => d == .rightToLeft || d == .digit || d == .arabicDigit

/-- A label is written in one direction, that of the letter it begins with. Marks
    at its end do not count. -/
def hasOneDirection (cs : List Char) : Bool :=
  match cs.map Direction.ofChar with
  | [] => true
  | d :: ds =>
    let ds := (ds.reverse.dropWhile (· == .mark)).reverse
    match d with
    | .leftToRight => isLeftToRight ds
    | .rightToLeft => isRightToLeft ds
    | _ => false

/-! ## Labels -/

/-- The most characters of a label beyond ASCII. -/
def maxLength : Nat := 1000

/-- The most characters of an encoded label, after its first four. -/
def maxEncodedLength : Nat := 2000

/-- The characters of a label may follow each other in this way. -/
def isWellFormed (label : List Char) : Bool :=
  !label.head?.any isMark && usesJoiners [] label &&
    (label.all (·.toNat < 0x80) || label.length ≤ maxLength)

/-- The label that is given in ASCII, or the given one. What is encoded has to be
    plain. -/
def decodeLabel? : List Char → Option (List Char)
  | 'x' :: 'n' :: '-' :: '-' :: cs =>
    if cs = [] ∨ cs.getLast? = some '-' ∨ maxEncodedLength < cs.length then none
    else (Punycode.decode? cs).filter fun label => plain? label == some label
  | cs => some cs

end ShuffleWatch.Domain
