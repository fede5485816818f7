/-!
# Lines of a file

The bytes of a text file, line by line. A line ends at a line feed, and a
carriage return at its end is not part of it. What follows the last line feed
is a line too, unless it is empty.
-/

namespace ShuffleWatch.Text

/-- The byte that ends a line. -/
def lineFeed : UInt8 := 10

/-- The byte that may come before the end of a line. -/
def carriageReturn : UInt8 := 13

/-- The bytes between the line feeds. -/
def splitLines : List UInt8 → List (List UInt8)
  | [] => []
  | b :: bs =>
    if b = lineFeed then [] :: splitLines bs
    else
      match splitLines bs with
      | [] => [[b]]
      | line :: rest => (b :: line) :: rest

/-- The line without a carriage return at its end. -/
def dropReturn (line : List UInt8) : List UInt8 :=
  if line.getLast? = some carriageReturn then line.dropLast else line

/-- The lines of a file. -/
def lines (bytes : List UInt8) : List (List UInt8) := (splitLines bytes).map dropReturn

/-- The text that the bytes encode in UTF-8. -/
def decode? (bytes : List UInt8) : Option String := String.fromUTF8? ⟨bytes.toArray⟩

/-- The texts of the lines, where `number` is the number of the first one; or
    the number of the first line that is not UTF-8. -/
def decodeLines (number : Nat) : List (List UInt8) → Except Nat (List String)
  | [] => .ok []
  | line :: rest =>
    match decode? line with
    | some s => (decodeLines (number + 1) rest).map (s :: ·)
    | none => .error number

end ShuffleWatch.Text
